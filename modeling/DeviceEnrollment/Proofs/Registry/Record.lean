import DeviceEnrollment.Proofs.Http.Header
import DeviceEnrollment.Proofs.Json.Members
import DeviceEnrollment.Proofs.Registry.Body
import DeviceEnrollment.Proofs.Registry.Plan
import DeviceEnrollment.Registry.Client

/-!
Calls about one record: the place they name, the version that a write insists on, and what is read
from the responses.
-/
namespace DeviceEnrollment.Registry

/-! ### Requests -/

theorem enrollmentPath_eq_ok_iff {id : String} {segments : List String} :
    enrollmentPath id = .ok segments ↔
      isUnaddressable id = false ∧ segments = [enrollmentCollection, id] := by
  unfold enrollmentPath
  cases empty : id.isEmpty with
  | true =>
    have nothing : id = "" := String.isEmpty_iff.1 empty
    simp [nothing, isUnaddressable]
  | false =>
    cases bad : isUnaddressable id with
    | true => simp
    | false =>
      simp only [Bool.false_eq_true, if_false, true_and, Except.ok.injEq]
      exact eq_comm

/-- The requests of the calls that read, write or delete the record of an id. -/
inductive RecordRequest (id : String) : Request → Prop
  | read {request : Request} : (get id).request? = some request → RecordRequest id request
  | write {enrollment : Enrollment} {request : Request} : enrollment.registrationId = id →
      (createOrUpdate enrollment).request? = some request → RecordRequest id request
  | delete {etag : Option ETag} {request : Request} :
      (deleteById id etag).request? = some request → RecordRequest id request

theorem enrollmentPath_of_recordRequest {id : String} {request : Request}
    (record : RecordRequest id request) : enrollmentPath id = .ok request.segments := by
  cases record with
  | read made =>
    obtain ⟨segments, addressable, sent⟩ := Plan.exists_of_request?_withArgument made
    cases sent
    exact addressable
  | write same made =>
    subst same
    obtain ⟨segments, addressable, made⟩ := Plan.exists_of_request?_withArgument made
    obtain ⟨headers, _, sent⟩ := Plan.exists_of_request?_withArgument made
    cases sent
    exact addressable
  | delete made =>
    obtain ⟨segments, addressable, made⟩ := Plan.exists_of_request?_withArgument made
    obtain ⟨headers, _, sent⟩ := Plan.exists_of_request?_withArgument made
    cases sent
    exact addressable

/-! ### Writes of a version -/

/-- Whether a version can be insisted on: it is there, and a header can hold it. -/
structure IsVersion (etag : ETag) : Prop where
  nonempty : etag.isEmpty = false
  legal : (Bytes.ofText etag.text).all Http.isHeaderByte = true

/-- The ways to write a record. -/
inductive Write where
  | put
  | delete
deriving DecidableEq, Repr

namespace Write

def method : Write → Http.Method
  | put => .put
  | delete => .delete

theorem method_eq (kind : Write) : kind.method = .put ∨ kind.method = .delete := by
  cases kind with
  | put => exact .inl rfl
  | delete => exact .inr rfl

/-- The call that writes an enrollment. A delete gives none back. -/
def plan : Write → Enrollment → Plan (Outcome (Option Enrollment))
  | put, enrollment => (createOrUpdate enrollment).map (·.map some)
  | delete, enrollment => (Registry.delete enrollment).map (·.map fun _ => none)

end Write

theorem exists_matchHeaders {etag : ETag} (version : IsVersion etag) :
    ∃ headers value, matchHeaders (some etag) = .ok headers ∧
      headers.values .ifMatch = [value] ∧ value.bytes = Bytes.ofText etag.text := by
  obtain ⟨value, written, bytes⟩ := Http.HeaderValue.exists_ofText? version.legal
  refine ⟨Http.HeaderMap.empty.insert .ifMatch value, value, ?_,
    Http.HeaderMap.values_insert _ _ _, bytes⟩
  simp [matchHeaders, Option.filter, version.nonempty, written]

/-- A write of an enrollment with a version always makes a request, which insists on this version.
A response of failure is what the service reports. -/
theorem Write.exists_request (kind : Write) {enrollment : Enrollment} {etag : ETag}
    (addressable : isUnaddressable enrollment.registrationId = false)
    (held : enrollment.etag = some etag) (version : IsVersion etag) :
    ∃ request value, (kind.plan enrollment).request? = some request ∧
      request.method = kind.method ∧
      request.segments = [enrollmentCollection, enrollment.registrationId] ∧
      request.headers.values .ifMatch = [value] ∧ value.bytes = Bytes.ofText etag.text ∧
      ∀ response : Http.Response, response.status.isSuccess = false →
        (kind.plan enrollment).settledBy (fun _ => .ok response) =
          .error (.service (.ofResponse response)) := by
  have place := enrollmentPath_eq_ok_iff.2 ⟨addressable, rfl⟩
  obtain ⟨headers, value, matched, values, bytes⟩ := exists_matchHeaders version
  cases kind with
  | put =>
    let request : Request := ⟨.put, [enrollmentCollection, enrollment.registrationId], headers,
      enrollment.print⟩
    have conditional : enrollment.conditionalETag? = some etag := by
      simp [Enrollment.conditionalETag?, held, Option.filter, version.nonempty]
    have whole : createOrUpdate enrollment = .send .createOrUpdate request enrollmentOf := by
      rw [createOrUpdate, place, conditional, matched]
      rfl
    refine ⟨request, value, ?_, rfl, rfl, values, bytes, fun response failure => ?_⟩
    · rw [plan, whole]
      rfl
    · rw [plan, Plan.settledBy_map, whole, Plan.settledBy_send]
      simp [failure, Except.map]
  | delete =>
    let request : Request := ⟨.delete, [enrollmentCollection, enrollment.registrationId], headers,
      []⟩
    have whole : Registry.delete enrollment =
        .send .delete request fun _ => ⟨[], .ok ()⟩ := by
      rw [Registry.delete, deleteById, place, held, matched]
      rfl
    refine ⟨request, value, ?_, rfl, rfl, values, bytes, fun response failure => ?_⟩
    · rw [plan, whole]
      rfl
    · rw [plan, Plan.settledBy_map, whole, Plan.settledBy_send]
      simp [failure, Except.map]

theorem Write.enrollmentPath_of_request? {kind : Write} {enrollment : Enrollment}
    {request : Request} (asked : (kind.plan enrollment).request? = some request) :
    enrollmentPath enrollment.registrationId = .ok request.segments := by
  cases kind with
  | put =>
    rw [Write.plan, Plan.request?_map] at asked
    exact enrollmentPath_of_recordRequest (.write rfl asked)
  | delete =>
    rw [Write.plan, Plan.request?_map] at asked
    exact enrollmentPath_of_recordRequest (.delete asked)

/-! ### Responses -/

/-- A record that is read has the id and the version that the body states. -/
theorem of_readEnrollment {body : Bytes} {enrollment : Enrollment} {id : String} {etag : ETag}
    (read : readEnrollment body = .ok enrollment)
    (key : (Json.Document.ofBytes body).HoldsText "registrationId" id)
    (version : (Json.Document.ofBytes body).HoldsText "etag" etag.text) :
    enrollment.registrationId = id ∧ enrollment.etag = some etag := by
  have stated := (ofBytes_of_readEnrollment read).1
  exact ⟨Enrollment.registrationId_of_ofBytes stated key,
    Enrollment.etag_of_ofBytes stated version⟩

/-- An enrollment that a write gives back was read from the response to a put. -/
theorem Write.of_result {kind : Write} {enrollment copy : Enrollment} {request : Request}
    {response : Http.Response} (asked : (kind.plan enrollment).request? = some request)
    (got : (kind.plan enrollment).settledBy (fun _ => .ok response) = .ok (some copy)) :
    request.method = .put ∧ response.status.isSuccess = true ∧
      readEnrollment response.body = .ok copy := by
  cases kind with
  | put =>
    rw [Write.plan, Plan.request?_map] at asked
    rw [Write.plan, Plan.settledBy_map] at got
    obtain ⟨read, settled, same⟩ := exists_of_map_ok got
    cases Option.some.inj same
    obtain ⟨segments, accepted, made⟩ := Plan.exists_of_request?_withArgument asked
    obtain ⟨headers, matched, sent⟩ := Plan.exists_of_request?_withArgument made
    rw [createOrUpdate, accepted, Plan.withArgument, matched, Plan.withArgument] at settled
    cases sent
    exact ⟨rfl, Plan.of_settledBy_send settled⟩
  | delete =>
    rw [Write.plan, Plan.settledBy_map] at got
    obtain ⟨read, _, same⟩ := exists_of_map_ok got
    cases same

/-! ### Failed preconditions -/

/-- Whether an error is a conflict and nothing else that a caller asks for. -/
structure RegistryError.IsOnlyConflict (error : RegistryError) : Prop where
  conflict : error.isConflict = true
  found : error.isNotFound = false
  valid : error.isValidation = false
  final : error.isRetryable = false

theorem isSuccess_of_code_eq {status : Http.Status} (code : status.code = 412) :
    status.isSuccess = false := by
  rw [Http.Status.isSuccess, code]
  rfl

theorem isOnlyConflict_of_code_eq {response : Http.Response} (code : response.status.code = 412) :
    (RegistryError.service (.ofResponse response)).IsOnlyConflict := by
  have kind : (ServiceError.ofResponse response).kind = .conflict := by
    show ServiceErrorKind.ofCode response.status.code = .conflict
    rw [code]
    rfl
  constructor
  · simp [RegistryError.isConflict, RegistryError.hasKind, kind]
  · simp [RegistryError.isNotFound, RegistryError.hasKind, kind]
  · rfl
  · simp [RegistryError.isRetryable, ServiceError.isRetryable, kind]

end DeviceEnrollment.Registry
