import DeviceEnrollment.Proofs.Enrollment.Copying
import DeviceEnrollment.Proofs.Registry.PlainText
import DeviceEnrollment.Proofs.Registry.Record
import DeviceEnrollment.Proofs.Registry.Retrying

/-!
Writes that depend on a version. Every write insists on the version that it is given and on nothing
else, a version that no header holds is never dropped, and no other call insists on anything
(`conditional_writes_exact`).
-/
namespace DeviceEnrollment.Registry

variable {σ α β : Type}

/-! ### What an action asks for -/

/-- Whether requests of a kind never take a transport out of certain states. -/
def Transport.Keeps (transport : Transport σ) (holds : Request → Prop) (kept : σ → Prop) : Prop :=
  ∀ state request, kept state → holds request → kept (transport.send state request).state

/-- Whether an action makes no requests but those of a kind, so that it keeps what they keep. -/
def Action.Asks (holds : Request → Prop) (act : Action α) : Prop :=
  ∀ (σ : Type) (transport : Transport σ) (kept : σ → Prop), transport.Keeps holds kept →
    ∀ state, kept state → kept (act σ transport state).state

namespace Action

variable {holds : Request → Prop}

theorem asks_done (result : α) : (done result).Asks holds := fun _ _ _ _ _ start => start

theorem Asks.map {act : Action β} (asks : act.Asks holds) (f : β → α) : (act.map f).Asks holds :=
  asks

/-- The exchanges of an action have requests of its kind only. -/
theorem Asks.of_makes {act : Action α} (asks : act.Asks holds) {transport : Transport σ} {state : σ}
    {exchanges : List Exchanged} (makes : act.Makes transport state exchanges) :
    ∀ exchanged ∈ exchanges, holds exchanged.request := by
  have logged := (makes.repeated transport.logging (makes.made.logging []).alike).2
  have kept := asks _ transport.logging
    (fun state => ∀ exchanged ∈ state.2, holds exchanged.request)
    (fun state request start held => by
      refine List.forall_mem_append.2 ⟨start, ?_⟩
      simpa [Transport.logging] using held)
    (state, []) (by simp)
  rwa [logged] at kept

end Action

theorem Plan.asks {holds : Request → Prop} {plan : Plan α}
    (made : ∀ request, plan.request? = some request → holds request) :
    plan.action.Asks holds := by
  intro σ transport kept keeps state start
  cases plan with
  | settled result => exact start
  | exchange request conclude => exact keeps state request start (made request rfl)

/-! ### Versions in headers -/

/-- What a write that is given this version insists on: its bytes, unless it is empty. -/
def matchValues : Option ETag → List Bytes
  | none => []
  | some etag => if etag.text = "" then [] else [Bytes.ofText etag.text]

/-- Whether these are the values that a request insists on. -/
def Request.InsistsOn (values : List Bytes) (request : Request) : Prop :=
  (request.headers.values .ifMatch).map Http.HeaderValue.bytes = values

/-- Whether a header can hold each of these values. -/
def AreLegal (values : List Bytes) : Prop := ∀ bytes ∈ values, bytes.all Http.isHeaderByte = true

theorem matchValues_filter (etag : Option ETag) :
    matchValues (etag.filter fun held => !held.isEmpty) = matchValues etag := by
  cases etag with
  | none => rfl
  | some etag =>
    by_cases empty : etag.text = ""
    · simp [Option.filter, ETag.isEmpty, matchValues, empty]
    · simp [Option.filter, ETag.isEmpty, empty]

/-- A write has the header of its version, or fails if no header can hold this version. -/
theorem matchHeaders_cases (etag : Option ETag) :
    (AreLegal (matchValues etag) ∧ ∃ headers, matchHeaders etag = .ok headers ∧
      (headers.values .ifMatch).map Http.HeaderValue.bytes = matchValues etag) ∨
    ¬AreLegal (matchValues etag) ∧ matchHeaders etag = .error .etagNotHeader := by
  cases etag with
  | none => exact .inl ⟨by simp [AreLegal, matchValues], .empty, rfl, rfl⟩
  | some etag =>
    by_cases empty : etag.text = ""
    · refine .inl ⟨by simp [AreLegal, matchValues, empty], .empty, ?_, ?_⟩
      · simp [matchHeaders, Option.filter, ETag.isEmpty, empty]
      · simp [matchValues, empty]
        rfl
    · by_cases legal : (Bytes.ofText etag.text).all Http.isHeaderByte = true
      · have version : IsVersion etag := ⟨by simpa [ETag.isEmpty] using empty, legal⟩
        obtain ⟨headers, value, matched, values, bytes⟩ := exists_matchHeaders version
        refine .inl ⟨?_, headers, matched, ?_⟩
        · simpa [AreLegal, matchValues, empty] using legal
        · rw [matchValues, if_neg empty, values, List.map_singleton, bytes]
      · refine .inr ⟨?_, ?_⟩
        · rw [matchValues, if_neg empty]
          exact fun all => legal (all _ List.mem_cons_self)
        · simp [matchHeaders, Option.filter, ETag.isEmpty, empty, Http.HeaderValue.ofText?,
            Http.HeaderValue.ofBytes?, legal]

/-! ### Calls that write -/

/-- The id and the version that a write is given. -/
def Call.write? : Call → Option (String × Option ETag)
  | createOrUpdate enrollment | delete enrollment =>
    some (enrollment.registrationId, enrollment.etag)
  | deleteById id etag => some (id, etag)
  | _ => none

/-- What the requests of a call insist on: the version of a write, and nothing for other calls. -/
def Call.matchValues (call : Call) : List Bytes :=
  match call.write? with
  | some (_, etag) => Registry.matchValues etag
  | none => []

/-- Whether the arguments of a write make a request: its id is one in a path and its version one in
a header. -/
def IsWritable (id : String) (etag : Option ETag) : Prop :=
  isUnaddressable id = false ∧ AreLegal (matchValues etag)

/-- A write of one record fails at once, or makes the one request that its arguments make. -/
theorem withArguments_cases (id : String) (etag : Option ETag)
    (next : List String → Http.HeaderMap → Plan (Outcome α)) :
    let plan := Plan.withArgument (enrollmentPath id) fun segments =>
      .withArgument (matchHeaders etag) (next segments)
    (IsWritable id etag ∧ ∃ headers : Http.HeaderMap,
      (headers.values .ifMatch).map Http.HeaderValue.bytes = matchValues etag ∧
        plan = next [enrollmentCollection, id] headers) ∨
    ¬IsWritable id etag ∧ ∃ fault, plan = .settled (.error (.validation fault)) := by
  intro plan
  cases place : enrollmentPath id with
  | error fault =>
    refine .inr ⟨fun writable => ?_, fault, by simp only [plan, place]; rfl⟩
    rw [enrollmentPath_eq_ok_iff.2 ⟨writable.1, rfl⟩] at place
    cases place
  | ok segments =>
    obtain ⟨addressable, rfl⟩ := enrollmentPath_eq_ok_iff.1 place
    rcases matchHeaders_cases etag with ⟨legal, headers, matched, values⟩ | ⟨illegal, refused⟩
    · refine .inl ⟨⟨addressable, legal⟩, headers, values, ?_⟩
      simp only [plan, place, matched]
      rfl
    · refine .inr ⟨fun writable => illegal writable.2, .etagNotHeader, ?_⟩
      simp only [plan, place, refused]
      rfl

theorem createOrUpdate_cases (enrollment : Enrollment) :
    (IsWritable enrollment.registrationId enrollment.etag ∧ ∃ headers : Http.HeaderMap,
      (headers.values .ifMatch).map Http.HeaderValue.bytes = matchValues enrollment.etag ∧
        createOrUpdate enrollment = .send .createOrUpdate ⟨.put,
          [enrollmentCollection, enrollment.registrationId], headers, enrollment.print⟩
          enrollmentOf) ∨
    ¬IsWritable enrollment.registrationId enrollment.etag ∧
      ∃ fault, createOrUpdate enrollment = .settled (.error (.validation fault)) := by
  have same : matchValues enrollment.conditionalETag? = matchValues enrollment.etag :=
    matchValues_filter enrollment.etag
  have cases := withArguments_cases enrollment.registrationId enrollment.conditionalETag?
    fun segments headers => .send .createOrUpdate ⟨.put, segments, headers, enrollment.print⟩
      enrollmentOf
  rwa [IsWritable, same] at cases

theorem deleteById_cases (id : String) (etag : Option ETag) :
    (IsWritable id etag ∧ ∃ headers : Http.HeaderMap,
      (headers.values .ifMatch).map Http.HeaderValue.bytes = matchValues etag ∧
        deleteById id etag = .send .delete ⟨.delete, [enrollmentCollection, id], headers, []⟩
          fun _ => ⟨[], .ok ()⟩) ∨
    ¬IsWritable id etag ∧ ∃ fault, deleteById id etag = .settled (.error (.validation fault)) :=
  withArguments_cases id etag fun segments headers =>
    .send .delete ⟨.delete, segments, headers, []⟩ fun _ => ⟨[], .ok ()⟩

theorem Plan.action_map (plan : Plan β) (f : β → α) :
    plan.action.map f = (plan.map f).action := by
  funext σ transport state
  exact (Plan.run_map transport state f plan).symm

/-- Whether a plan is that of a write: the one request that its arguments make, which insists on its
version, or a failure that names a bad argument. -/
inductive IsWrite (id : String) (etag : Option ETag) (plan : Plan Effect) : Prop
  | sent (writable : IsWritable id etag) (request : Request)
      (asked : plan.request? = some request) (insists : request.InsistsOn (matchValues etag))
      (place : request.segments = [enrollmentCollection, id])
  | refused (unwritable : ¬IsWritable id etag) (fault : InvalidArgument) (effect : Effect)
      (settled : plan = .settled effect) (fails : effect.result.EndsIn (.validation fault))

theorem isWrite_createOrUpdate (enrollment : Enrollment) :
    IsWrite enrollment.registrationId enrollment.etag
      ((createOrUpdate enrollment).map fun result => .plain (.enrollment result)) := by
  rcases createOrUpdate_cases enrollment with
    ⟨writable, headers, values, is⟩ | ⟨unwritable, fault, is⟩
  · rw [is]
    exact .sent writable _ rfl values rfl
  · rw [is]
    exact .refused unwritable fault _ rfl rfl

theorem isWrite_deleteById (id : String) (etag : Option ETag) :
    IsWrite id etag ((deleteById id etag).map fun result => .plain (.deleted result)) := by
  rcases deleteById_cases id etag with
    ⟨writable, headers, values, is⟩ | ⟨unwritable, fault, is⟩
  · rw [is]
    exact .sent writable _ rfl values rfl
  · rw [is]
    exact .refused unwritable fault _ rfl rfl

theorem Call.exists_isWrite {call : Call} {id : String} {etag : Option ETag}
    (writes : call.write? = some (id, etag)) (cursor : Option Cursor)
    (stream : Option EnrollmentStream) :
    ∃ plan : Plan Effect, call.action cursor stream = plan.action ∧ IsWrite id etag plan := by
  cases call with
  | createOrUpdate enrollment =>
    cases writes
    rw [action, Plan.action_map]
    exact ⟨_, rfl, isWrite_createOrUpdate enrollment⟩
  | delete enrollment =>
    cases writes
    rw [action, Plan.action_map]
    exact ⟨_, rfl, isWrite_deleteById enrollment.registrationId enrollment.etag⟩
  | deleteById id etag =>
    cases writes
    rw [action, Plan.action_map]
    exact ⟨_, rfl, isWrite_deleteById id etag⟩
  | _ => cases writes

/-! ### Calls that do not write -/

theorem insistsOn_get {id : String} {request : Request}
    (made : (get id).request? = some request) : request.InsistsOn [] := by
  obtain ⟨segments, _, sent⟩ := Plan.exists_of_request?_withArgument made
  cases sent
  rfl

theorem insistsOn_bulkOperation {mode : BulkMode} {batch : List Enrollment} {request : Request}
    (made : (bulkOperation mode batch).request? = some request) : request.InsistsOn [] := by
  obtain ⟨_, _, sent⟩ := Plan.exists_of_request?_withArgument made
  cases sent
  rfl

namespace Cursor

theorem values_ifMatch_sizeHeaders (cursor : Cursor) : cursor.sizeHeaders.values .ifMatch = [] := by
  unfold sizeHeaders
  split
  · rfl
  · rw [Http.HeaderMap.values_insert_of_ne _ (by decide)]
    rfl

theorem insistsOn_fetch {cursor : Cursor} {request : Request}
    (made : cursor.fetch.request? = some request) : request.InsistsOn [] := by
  unfold fetch at made
  split at made
  · cases made
  · split at made
    · cases made
    · next headers prepared =>
      cases made
      have none : headers.values .ifMatch = [] := by
        unfold headers? at prepared
        split at prepared
        · cases prepared
          exact cursor.values_ifMatch_sizeHeaders
        · obtain ⟨value, _, rfl⟩ := Option.map_eq_some_iff.1 prepared
          rw [Http.HeaderMap.values_insert_of_ne _ (by decide), values_ifMatch_sizeHeaders]
      rw [Request.InsistsOn, request, none]
      rfl

end Cursor

namespace EnrollmentStream

variable {transport : Transport σ} {kept : σ → Prop}

theorem keeps_fetch (keeps : transport.Keeps (Request.InsistsOn []) kept) {state : σ}
    (cursor : Cursor) (start : kept state) : kept (cursor.fetch.run transport state).state :=
  Plan.asks (fun _ => Cursor.insistsOn_fetch) σ transport kept keeps state start

theorem keeps_pull (keeps : transport.Keeps (Request.InsistsOn []) kept) (state : σ)
    (cursor : Cursor) (items : List Enrollment) (start : kept state) :
    kept (pull transport state ⟨cursor, items⟩).state := by
  induction state, cursor using Cursor.page_induction transport generalizing items with
  | last state cursor last =>
    cases items with
    | cons item rest => rwa [pull_cons]
    | nil => rwa [pull_of_last _ _ last]
  | failed state cursor error more got =>
    cases items with
    | cons item rest => rwa [pull_cons]
    | nil =>
      rw [pull_of_error more got]
      exact keeps_fetch keeps cursor start
  | page state cursor page more got ih =>
    cases items with
    | cons item rest => rwa [pull_cons]
    | nil =>
      rw [pull_of_page more got]
      exact ih page.items (keeps_fetch keeps cursor start)

theorem keeps_drainPending (keeps : transport.Keeps (Request.InsistsOn []) kept) (state : σ)
    (cursor : Cursor) (items : List Enrollment) (start : kept state) :
    kept (drainPending transport state ⟨cursor, items⟩).state := by
  induction state, cursor using Cursor.page_induction transport generalizing items with
  | last state cursor last =>
    rw [drainPending]
    simpa [last] using start
  | failed state cursor error more got =>
    rw [drainPending_of_error more got]
    exact keeps_fetch keeps cursor start
  | page state cursor page more got ih =>
    rw [drainPending_of_page more got]
    exact ih page.items (keeps_fetch keeps cursor start)

theorem asks_nextAction (stream : EnrollmentStream) :
    stream.nextAction.Asks (Request.InsistsOn []) := by
  intro σ transport kept keeps state start
  obtain ⟨pending⟩ := stream
  cases pending with
  | none => exact start
  | some pending => exact keeps_pull keeps state pending.cursor pending.items start

theorem asks_drainAction (stream : EnrollmentStream) :
    stream.drainAction.Asks (Request.InsistsOn []) := by
  intro σ transport kept keeps state start
  obtain ⟨pending⟩ := stream
  cases pending with
  | none => exact start
  | some pending => exact keeps_drainPending keeps state pending.cursor pending.items start

end EnrollmentStream

/-! ### Every call -/

theorem IsWrite.asks {id : String} {etag : Option ETag} {plan : Plan Effect}
    (writes : IsWrite id etag plan) : plan.action.Asks (Request.InsistsOn (matchValues etag)) := by
  refine Plan.asks fun request made => ?_
  cases writes with
  | sent _ other asked insists =>
    cases asked.symm.trans made
    exact insists
  | refused _ fault effect settled =>
    rw [settled] at made
    cases made

/-- Whatever a call asks for insists on the version that it is given, or on nothing. -/
theorem Call.asks_action (call : Call) (cursor : Option Cursor) (stream : Option EnrollmentStream) :
    (call.action cursor stream).Asks (Request.InsistsOn call.matchValues) := by
  have written {id : String} {etag : Option ETag} (writes : call.write? = some (id, etag)) :
      (call.action cursor stream).Asks (Request.InsistsOn call.matchValues) := by
    obtain ⟨plan, is, isWrite⟩ := call.exists_isWrite writes cursor stream
    have values : call.matchValues = Registry.matchValues etag := by rw [matchValues, writes]
    rw [is, values]
    exact isWrite.asks
  cases call with
  | createOrUpdate enrollment => exact written rfl
  | delete enrollment => exact written rfl
  | deleteById id etag => exact written rfl
  | get id => exact (Plan.asks fun _ => insistsOn_get).map _
  | bulk mode batch => exact (Plan.asks fun _ => insistsOn_bulkOperation).map _
  | createQuery slot specification pageSize =>
    simp only [action]
    split <;> exact Action.asks_done _
  | nextPage slot =>
    cases cursor with
    | none => exact Action.asks_done _
    | some cursor =>
      refine (Plan.asks fun request made => ?_).map _
      rw [Cursor.nextPage, Plan.request?_map] at made
      exact Cursor.insistsOn_fetch made
  | showQuery slot =>
    simp only [action]
    split <;> exact Action.asks_done _
  | intoStream slot =>
    simp only [action]
    split <;> exact Action.asks_done _
  | streamNext slot =>
    cases stream with
    | none => exact Action.asks_done _
    | some stream => exact stream.asks_nextAction.map _
  | streamAll slot =>
    cases stream with
    | none => exact Action.asks_done _
    | some stream => exact stream.asks_drainAction.map _

/-- What came of a write: a failure that names a bad argument and no request, or one request. -/
structure Seen.IsWritten (id : String) (etag : Option ETag) (seen : Seen) : Prop where
  sent : IsWritable id etag → ∃ exchanged, seen.exchanges = [exchanged] ∧
    exchanged.request.segments = [enrollmentCollection, id]
  refused : ¬IsWritable id etag → seen.exchanges = [] ∧
    ∃ fault, seen.result.EndsIn (.validation fault)

/-- A plan makes the exchange of its request, if it has one. -/
theorem Plan.exchanges_of_makes {plan : Plan α} {transport : Transport σ} {state : σ}
    {exchanges : List Exchanged} (makes : plan.action.Makes transport state exchanges) :
    exchanges.map Exchanged.request = plan.request?.toList := by
  have logged := (makes.repeated transport.logging (makes.made.logging []).alike).2
  have noted := (plan.run_logging transport state).1
  rw [Plan.action] at logged
  rwa [logged] at noted

theorem IsWrite.isWritten {id : String} {etag : Option ETag} {plan : Plan Effect} {seen : Seen}
    {transport : Transport σ} {state : σ} (writes : IsWrite id etag plan)
    (makes : plan.action.Makes transport state seen.exchanges)
    (result : seen.result = (plan.action σ transport state).result.result) :
    seen.IsWritten id etag := by
  have exchanges := Plan.exchanges_of_makes makes
  cases writes with
  | sent writable request asked _ place =>
    refine ⟨fun _ => ?_, fun unwritable => absurd writable unwritable⟩
    rw [asked, Option.toList_some] at exchanges
    obtain ⟨exchanged, is, same⟩ := List.map_eq_singleton_iff.1 exchanges
    exact ⟨exchanged, is, same ▸ place⟩
  | refused unwritable fault effect settled fails =>
    refine ⟨fun writable => absurd writable unwritable, fun _ => ?_⟩
    rw [settled] at exchanges result
    exact ⟨List.map_eq_nil_iff.1 exchanges, fault, result ▸ fails⟩

/-! ### Bodies -/

/-- Whether a body is one whole document that is read as this enrollment, by every reader that
allows its nesting. The reader of responses is one of them if it does. -/
structure IsReadAs (body : Bytes) (nesting : Nat) (copy : Enrollment) : Prop where
  whole : (Json.Document.ofBytes body).trailing = false
  decoded : ∀ depth > nesting,
    Enrollment.shape.decode depth (Json.Document.ofBytes body).value = .ok copy
  read : nesting < Json.nestingLimit → readEnrollment body = .ok copy

/-- The body of a write is read as its enrollment but for the opaque values. -/
theorem exists_isReadAs_print {enrollment : Enrollment}
    (representable : enrollment.IsRepresentable) (named : enrollment.registrationId ≠ "") :
    ∃ copy : Enrollment, copy = { enrollment with
        attestation := copy.attestation, initialTwin := copy.initialTwin } ∧
      IsReadAs enrollment.print enrollment.toValue.nesting copy := by
  obtain ⟨copy, same, decoded⟩ := Enrollment.exists_copy representable
  have readable := representable.hasReadableNumbers
  have document := Json.Value.document_print readable
  rw [enrollment.print_toValue] at document
  refine ⟨copy, same, by rw [document], fun depth allowed => ?_, fun allowed => ?_⟩
  · rw [document]
    exact decoded allowed
  · have whole : Enrollment.ofBytes enrollment.print = .ok copy := by
      rw [Enrollment.ofBytes, ← enrollment.print_toValue, Json.decodeDocument_print readable]
      exact decoded allowed
    refine readEnrollment_of_ofBytes (isMissing_printObject _) whole ?_
    rw [same]
    simpa using named

/-- A write of an enrollment has it as its body. -/
theorem body_of_createOrUpdate {enrollment : Enrollment} {request : Request}
    (made : (createOrUpdate enrollment).request? = some request) :
    isUnaddressable enrollment.registrationId = false ∧ request.body = enrollment.print ∧
      request.segments = [enrollmentCollection, enrollment.registrationId] := by
  rcases createOrUpdate_cases enrollment with ⟨writable, headers, _, is⟩ | ⟨_, fault, is⟩
  · rw [is] at made
    cases made
    exact ⟨writable.1, rfl, rfl⟩
  · rw [is] at made
    cases made

/-- In every session, whatever a call asks for insists on the version that the call is given, byte
for byte, and on nothing if the version is empty or there is none or the call is no write. A write
makes one request if its id can stand in a path and its version in a header, and fails without any
if not. The body of a write is read as an enrollment with the id of its path and that version. -/
theorem conditional_writes_exact (transport : Transport σ) (session : Session σ)
    (calls : List Call) :
    ∀ seen ∈ (session.watch transport calls).1,
      (∀ exchanged ∈ seen.exchanges, exchanged.request.InsistsOn seen.call.matchValues) ∧
      (∀ id etag, seen.call.write? = some (id, etag) → seen.IsWritten id etag) ∧
      ∀ enrollment, seen.call = .createOrUpdate enrollment → enrollment.IsRepresentable →
        ∀ exchanged ∈ seen.exchanges, ∃ copy : Enrollment,
          exchanged.request.segments = [enrollmentCollection, copy.registrationId] ∧
          copy.etag = enrollment.etag ∧
          copy = { enrollment with
            attestation := copy.attestation, initialTwin := copy.initialTwin } ∧
          IsReadAs exchanged.request.body enrollment.toValue.nesting copy := by
  intro seen member
  obtain ⟨cursor, stream, state, makes, result⟩ := Session.exists_makes_of_mem member
  refine ⟨(seen.call.asks_action cursor stream).of_makes makes, fun id etag writes => ?_, ?_⟩
  · obtain ⟨plan, is, isWrite⟩ := seen.call.exists_isWrite writes cursor stream
    rw [is] at makes result
    exact isWrite.isWritten makes result
  · intro enrollment is representable exchanged among
    rw [is, Call.action, Plan.action_map] at makes
    have exchanges := Plan.exchanges_of_makes makes
    rw [Plan.request?_map] at exchanges
    have made := Option.mem_toList.1 (exchanges ▸ List.mem_map_of_mem among)
    obtain ⟨addressable, body, place⟩ := body_of_createOrUpdate made
    have named : enrollment.registrationId ≠ "" := by
      rintro empty
      rw [empty] at addressable
      cases addressable
    obtain ⟨copy, same, reads⟩ := exists_isReadAs_print representable named
    refine ⟨copy, ?_, ?_, same, body ▸ reads⟩
    · rw [place, same]
    · rw [same]

/-- An enrollment with a version that is no ASCII, and a tenth in its attestation. -/
def weighted : Enrollment :=
  { Enrollment.ofId "dev-1" with
    attestation :=
      some (.object [("weight", .number (.double (.finite false 7205759403792794 (-56))))])
    etag := some ⟨"\"ü\""⟩ }

theorem isRepresentable_weighted : weighted.IsRepresentable := by
  refine ⟨?_, by rintro _ ⟨⟩, by rintro _ ⟨⟩⟩
  rintro value ⟨⟩ held among
  simp only [Json.Value.inside, Json.Value.insideMembers, List.mem_cons, List.mem_append,
    List.not_mem_nil, or_false, reduceCtorEq, false_or, Json.Value.number.injEq] at among
  subst among
  show _ ∧ _
  decide

/-- The write is sent with its version, the delete of a version in two lines is refused, and the
page is asked for without any. -/
theorem conditional_writes_exact_weighted :
    let calls := [.createOrUpdate weighted, .deleteById "dev-1" (some ⟨"1\n2"⟩),
      .createQuery "q" ⟨"SELECT *"⟩ 10, .nextPage "q"]
    let watched := ((Session.ofTransport (.ofAnswers [])).watch Script.transport calls).1
    ∃ put refused page exchanged fetched copy, watched[0]? = some put ∧
      watched[1]? = some refused ∧ watched[3]? = some page ∧
      put.exchanges = [exchanged] ∧ exchanged.request.InsistsOn [Bytes.ofText "\"ü\""] ∧
      readEnrollment exchanged.request.body = .ok copy ∧ copy.etag = some ⟨"\"ü\""⟩ ∧
      refused.exchanges = [] ∧ (∃ fault, refused.result.EndsIn (.validation fault)) ∧
      page.exchanges = [fetched] ∧ fetched.request.InsistsOn [] := by
  intro calls watched
  have every := conditional_writes_exact Script.transport (.ofTransport (.ofAnswers [])) calls
  obtain ⟨insists, writes, bodies⟩ := every watched[0] (List.getElem_mem _)
  obtain ⟨_, deletes, _⟩ := every watched[1] (List.getElem_mem _)
  obtain ⟨plain, _, _⟩ := every watched[3] (List.getElem_mem _)
  have values : matchValues (some ⟨"\"ü\""⟩) = [Bytes.ofText "\"ü\""] := by simp [matchValues]
  have writable : IsWritable "dev-1" (some ⟨"\"ü\""⟩) := by
    refine ⟨rfl, ?_⟩
    rw [values]
    unfold AreLegal
    decide +kernel
  have unwritable : ¬IsWritable "dev-1" (some ⟨"1\n2"⟩) := by
    unfold IsWritable AreLegal
    decide +kernel
  obtain ⟨exchanged, alone, _⟩ := (writes "dev-1" (some ⟨"\"ü\""⟩) rfl).sent writable
  have sent : exchanged ∈ watched[0].exchanges := alone ▸ List.mem_singleton_self exchanged
  obtain ⟨copy, _, etag, _, reads⟩ := bodies weighted rfl isRepresentable_weighted exchanged sent
  obtain ⟨silent, fails⟩ := (deletes "dev-1" (some ⟨"1\n2"⟩) rfl).refused unwritable
  obtain ⟨fetched, one⟩ : ∃ fetched, watched[3].exchanges = [fetched] := ⟨_, rfl⟩
  exact ⟨watched[0], watched[1], watched[3], exchanged, fetched, copy, rfl, rfl, rfl, alone,
    values ▸ insists exchanged sent, reads.read (by decide), etag, silent, fails, one,
    plain fetched (one ▸ List.mem_singleton_self fetched)⟩

end DeviceEnrollment.Registry
