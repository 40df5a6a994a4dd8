import DeviceEnrollment.Registry.Bulk
import DeviceEnrollment.Registry.Query

/-!
The calls of the registry. Arguments are looked at before anything is sent, and what is sent is
sent once.
-/
namespace DeviceEnrollment.Registry

/-! ### Arguments -/

/-- The segments that no path holds as they are. -/
def isUnaddressable (segment : String) : Bool := segment == "" || segment == "." || segment == ".."

/-- The place of one enrollment. -/
def enrollmentPath (registrationId : String) : Except InvalidArgument (List String) :=
  if registrationId.isEmpty then .error .emptyRegistrationId
  else if isUnaddressable registrationId then .error (.unaddressableId registrationId)
  else .ok [enrollmentCollection, registrationId]

/-- The headers that make a write depend on a version. -/
def matchHeaders (etag : Option ETag) : Except InvalidArgument Http.HeaderMap :=
  match etag.filter (!·.isEmpty) with
  | none => .ok .empty
  | some etag =>
    match Http.HeaderValue.ofText? etag.text with
    | some value => .ok (Http.HeaderMap.empty.insert .ifMatch value)
    | none => .error .etagNotHeader

/-! ### Calls -/

/-- A response whose body is an enrollment. -/
def enrollmentOf (response : Http.Response) : Settled (Outcome Enrollment) :=
  ⟨[], readEnrollment response.body⟩

/-- Creates an enrollment or replaces it. With a version, only that version is replaced. -/
def createOrUpdate (enrollment : Enrollment) : Plan (Outcome Enrollment) :=
  .withArgument (enrollmentPath enrollment.registrationId) fun segments =>
    .withArgument (matchHeaders enrollment.conditionalETag?) fun headers =>
      .send .createOrUpdate ⟨.put, segments, headers, enrollment.print⟩ enrollmentOf

def get (registrationId : String) : Plan (Outcome Enrollment) :=
  .withArgument (enrollmentPath registrationId) fun segments =>
    .send .get ⟨.get, segments, .empty, []⟩ enrollmentOf

/-- Deletes an enrollment. With a version, only that version is deleted. -/
def deleteById (registrationId : String) (etag : Option ETag) : Plan (Outcome Unit) :=
  .withArgument (enrollmentPath registrationId) fun segments =>
    .withArgument (matchHeaders etag) fun headers =>
      .send .delete ⟨.delete, segments, headers, []⟩ fun _ => ⟨[], .ok ()⟩

def delete (enrollment : Enrollment) : Plan (Outcome Unit) :=
  deleteById enrollment.registrationId enrollment.etag

/-- The result of a bulk operation, as a response reports it. -/
def bulkResultOf (mode : BulkMode) (batch : List Enrollment) (response : Http.Response) :
    Settled (Outcome BulkResult) :=
  match readBulkReport response.body with
  | .error error => ⟨[], .error error⟩
  | .ok (isSuccessful, errors) =>
    let (table, dropped) := collectErrors (batch.map Enrollment.registrationId) .empty errors
    let result : BulkResult := ⟨isSuccessful, alignErrors table batch⟩
    ⟨dropped.map .errorDropped ++
        [.bulkCompleted mode batch.length result.failures.length isSuccessful],
      .ok result⟩

/-- Does one thing to every enrollment of a batch. -/
def bulkOperation (mode : BulkMode) (batch : List Enrollment) : Plan (Outcome BulkResult) :=
  .withArgument (checkBatch batch) fun _ =>
    .send .bulk ⟨.post, [enrollmentCollection], .empty, mode.printRequest batch⟩
      (bulkResultOf mode batch)

/-- A cursor over the enrollments that a query describes. Nothing is sent. -/
def createQuery (specification : QuerySpecification) (pageSize : Int) : Outcome Cursor :=
  match Cursor.create specification pageSize with
  | .ok cursor => .ok cursor
  | .error fault => .error (.validation fault)

end DeviceEnrollment.Registry
