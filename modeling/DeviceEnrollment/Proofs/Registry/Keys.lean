import DeviceEnrollment.Proofs.Registry.Body
import DeviceEnrollment.Proofs.Registry.Independence
import DeviceEnrollment.Proofs.Registry.LastPage

/-!
Where enrollments without a key come from. A call that reads one enrollment refuses it if its key is
empty. A page is handed on as it is listed, so an enrollment without a key reaches the caller if and
only if a page lists it (`keys_exact`).
-/
namespace DeviceEnrollment.Registry

/-- The enrollments that a caller gets in a result. -/
def CallResult.enrollments : CallResult → List Enrollment
  | .enrollment (.ok read) => [read]
  | .page (.ok arrived) => arrived.items
  | .pulled (.item item) => [item]
  | .drained items => items.filterMap Except.toOption
  | _ => []

/-- Whether an exchange asked for a page and got one that lists an enrollment. -/
structure Exchanged.Lists (exchanged : Exchanged) (enrollment : Enrollment) : Prop where
  method : exchanged.request.method = .post
  place : exchanged.request.segments = Cursor.segments
  listed : ∃ response items, exchanged.answer = .ok response ∧ response.status.isSuccess = true ∧
    readPage response.body = .ok items ∧ enrollment ∈ items

variable {σ : Type}

/-! ### Single enrollments -/

/-- The calls whose response is one enrollment. -/
inductive ReadsRecord : Plan (Outcome Enrollment) → Prop
  | createOrUpdate (enrollment : Enrollment) : ReadsRecord (createOrUpdate enrollment)
  | get (id : String) : ReadsRecord (get id)

namespace ReadsRecord

variable {plan : Plan (Outcome Enrollment)}

theorem eq_send (reads : ReadsRecord plan) :
    (∃ fault, plan = .settled (.error (.validation fault))) ∨
      ∃ operation request, plan = .send operation request enrollmentOf := by
  cases reads with
  | createOrUpdate enrollment =>
    unfold Registry.createOrUpdate
    cases enrollmentPath enrollment.registrationId with
    | error fault => exact .inl ⟨fault, rfl⟩
    | ok segments =>
      cases matchHeaders enrollment.conditionalETag? with
      | error fault => exact .inl ⟨fault, rfl⟩
      | ok headers => exact .inr ⟨_, _, rfl⟩
  | get id =>
    unfold Registry.get
    cases enrollmentPath id with
    | error fault => exact .inl ⟨fault, rfl⟩
    | ok segments => exact .inr ⟨_, _, rfl⟩

theorem registrationId_ne_nil (reads : ReadsRecord plan) {respond : Request → Answer}
    {enrollment : Enrollment} (got : plan.settledBy respond = .ok enrollment) :
    enrollment.registrationId ≠ "" := by
  rcases reads.eq_send with ⟨fault, rfl⟩ | ⟨operation, request, rfl⟩
  · cases got
  · rw [Plan.settledBy_send] at got
    cases answer : respond request with
    | error failure => simp [answer] at got
    | ok response =>
      cases success : response.status.isSuccess with
      | false => simp [answer, success] at got
      | true =>
        simp only [answer, success, if_true] at got
        have named := (ofBytes_of_readEnrollment got).2
        intro nothing
        rw [nothing] at named
        cases named

theorem keyed_of_run (reads : ReadsRecord plan) {transport : Transport σ} {state : σ}
    {enrollment : Enrollment} (got : (plan.run transport state).result = .ok enrollment) :
    enrollment.registrationId ≠ "" :=
  reads.registrationId_ne_nil (Plan.result_run transport state plan ▸ got)

theorem refuses (reads : ReadsRecord plan) (asks : plan.request? ≠ none)
    {response : Http.Response} {keyless : Enrollment} (success : response.status.isSuccess = true)
    (read : readBody .enrollment Enrollment.ofBytes response.body = .ok keyless)
    (nothing : keyless.registrationId = "") :
    plan.settledBy (fun _ => .ok response) = .error (.protocol .emptyRegistrationId) := by
  rcases reads.eq_send with ⟨fault, rfl⟩ | ⟨operation, request, rfl⟩
  · exact absurd rfl asks
  · have refused : readEnrollment response.body = .error (.protocol .emptyRegistrationId) := by
      rw [readEnrollment, read, ok_bind, if_pos (by rw [nothing]; rfl)]
    rw [Plan.settledBy_send]
    simp [success, enrollmentOf, refused]

end ReadsRecord

/-! ### Pages -/

/-- Whether all that the pages of a transport list is admitted. -/
def Transport.ListsOnly (transport : Transport σ) (admitted : Enrollment → Prop) : Prop :=
  ∀ state request enrollment,
    (Exchanged.mk request (transport.send state request).answer).Lists enrollment →
      admitted enrollment

def EnrollmentStream.Holds (admitted : Enrollment → Prop) (stream : EnrollmentStream) : Prop :=
  ∀ pending, stream.pending = some pending → ∀ item ∈ pending.items, admitted item

section Admitted

variable {transport : Transport σ} {admitted : Enrollment → Prop}

theorem Cursor.admitted_of_fetch (lists : transport.ListsOnly admitted) {state : σ}
    {cursor : Cursor} {page : Page}
    (got : (cursor.fetch.run transport state).result = .ok page) :
    ∀ item ∈ page.items, admitted item := by
  intro item member
  rw [Plan.result_run] at got
  obtain ⟨headers, response, _, _, answer, success, read⟩ := exists_response_of_fetch got
  exact lists state (cursor.request headers) item
    ⟨rfl, rfl, response, page.items, answer, success, (of_readPageOf read).1, member⟩

namespace EnrollmentStream

theorem holds_ended : ended.Holds admitted := by
  intro pending held
  cases held

theorem holds_some {cursor : Cursor} {items : List Enrollment}
    (held : ∀ item ∈ items, admitted item) :
    (EnrollmentStream.mk (some ⟨cursor, items⟩)).Holds admitted := by
  intro pending same
  cases same
  exact held

/-- Whether an item that was pulled is admitted, and all that is still to come. -/
def Admits (admitted : Enrollment → Prop) (pulled : Pulled × EnrollmentStream) : Prop :=
  (∀ item, pulled.1 = .item item → admitted item) ∧ pulled.2.Holds admitted

theorem Admits.enrollments {pulled : Pulled × EnrollmentStream} (admits : Admits admitted pulled) :
    ∀ item ∈ (CallResult.pulled pulled.1).enrollments, admitted item := by
  obtain ⟨result, left⟩ := pulled
  cases result with
  | item item => exact fun _ member => List.mem_singleton.1 member ▸ admits.1 item rfl
  | failed error => simp [CallResult.enrollments]
  | finished => simp [CallResult.enrollments]

theorem admits_pull_cons {cursor : Cursor} {item : Enrollment} {rest : List Enrollment}
    (held : ∀ other ∈ item :: rest, admitted other) (state : σ) :
    Admits admitted (pull transport state ⟨cursor, item :: rest⟩).result := by
  obtain ⟨first, later⟩ := List.forall_mem_cons.1 held
  rw [pull_cons]
  exact ⟨fun _ same => Pulled.item.inj same ▸ first, holds_some later⟩

theorem admits_pull (lists : transport.ListsOnly admitted) (state : σ) (cursor : Cursor)
    {items : List Enrollment} (held : ∀ item ∈ items, admitted item) :
    Admits admitted (pull transport state ⟨cursor, items⟩).result := by
  induction state, cursor using Cursor.page_induction transport generalizing items with
  | last state cursor last =>
    cases items with
    | cons item rest => exact admits_pull_cons held state
    | nil =>
      rw [pull_of_last transport state last]
      exact ⟨fun item same => (by cases same), holds_ended⟩
  | failed state cursor error more got =>
    cases items with
    | cons item rest => exact admits_pull_cons held state
    | nil =>
      rw [pull_of_error more got]
      exact ⟨fun item same => (by cases same), holds_ended⟩
  | page state cursor page more got ih =>
    cases items with
    | cons item rest => exact admits_pull_cons held state
    | nil =>
      rw [pull_of_page more got]
      exact ih (Cursor.admitted_of_fetch lists got)

theorem filterMap_toOption_ok (items : List Enrollment) :
    (items.map Except.ok : List (Outcome Enrollment)).filterMap Except.toOption = items := by
  rw [List.filterMap_map]
  exact List.filterMap_some

theorem admitted_of_drainPending (lists : transport.ListsOnly admitted) (state : σ)
    (cursor : Cursor) {items : List Enrollment} (held : ∀ item ∈ items, admitted item) :
    ∀ item ∈ (drainPending transport state ⟨cursor, items⟩).result.filterMap Except.toOption,
      admitted item := by
  induction state, cursor using Cursor.page_induction transport generalizing items with
  | last state cursor last =>
    rw [drainPending]
    simp only [last, Bool.false_eq_true, if_false, filterMap_toOption_ok]
    exact held
  | failed state cursor error more got =>
    rw [drainPending_of_error more got]
    simp only [List.filterMap_append, filterMap_toOption_ok]
    show ∀ item ∈ items ++ [], admitted item
    rw [List.append_nil]
    exact held
  | page state cursor page more got ih =>
    rw [drainPending_of_page more got]
    simp only [List.filterMap_append, List.forall_mem_append, filterMap_toOption_ok]
    exact ⟨held, ih (Cursor.admitted_of_fetch lists got)⟩

theorem admits_next (lists : transport.ListsOnly admitted) {stream : EnrollmentStream}
    (held : stream.Holds admitted) (state : σ) :
    Admits admitted (stream.next transport state).result := by
  obtain ⟨pending⟩ := stream
  cases pending with
  | none => exact ⟨fun item same => (by cases same), holds_ended⟩
  | some pending => exact admits_pull lists state pending.cursor (held pending rfl)

theorem admitted_of_drain (lists : transport.ListsOnly admitted) {stream : EnrollmentStream}
    (held : stream.Holds admitted) (state : σ) :
    ∀ item ∈ (CallResult.drained (stream.drain transport state).result).enrollments,
      admitted item := by
  obtain ⟨pending⟩ := stream
  cases pending with
  | none => simp [drain, CallResult.enrollments]
  | some pending => exact admitted_of_drainPending lists state pending.cursor (held pending rfl)

end EnrollmentStream

/-! ### Calls -/

theorem ReadsRecord.admitted_of_run
    (keyed : ∀ item : Enrollment, item.registrationId ≠ "" → admitted item)
    {plan : Plan (Outcome Enrollment)} (reads : ReadsRecord plan) (state : σ) :
    ∀ item ∈ (CallResult.enrollment (plan.run transport state).result).enrollments,
      admitted item := by
  cases got : (plan.run transport state).result with
  | error error => simp [CallResult.enrollments]
  | ok enrollment =>
    intro item member
    cases List.mem_singleton.1 member
    exact keyed enrollment (reads.keyed_of_run got)

theorem Cursor.admitted_of_nextPage (lists : transport.ListsOnly admitted) (state : σ)
    (cursor : Cursor) :
    ∀ item ∈ (CallResult.page (cursor.nextPage.run transport state).result.1).enrollments,
      admitted item := by
  have fetched : (cursor.nextPage.run transport state).result.1 =
      (cursor.fetch.run transport state).result := by
    rw [Plan.result_run, settledBy_nextPage, Plan.result_run]
  rw [fetched]
  cases got : (cursor.fetch.run transport state).result with
  | error error => simp [CallResult.enrollments]
  | ok page => exact admitted_of_fetch lists got

/-- Whether all that an effect gives to the caller or to a stream is admitted. -/
structure Effect.Admits (admitted : Enrollment → Prop) (effect : Effect) : Prop where
  given : ∀ item ∈ effect.result.enrollments, admitted item
  kept : ∀ left, effect.stream = .set left → left.Holds admitted

theorem Effect.admits_keep {result : CallResult} (cursor : Slots.Change Cursor)
    (given : ∀ item ∈ result.enrollments, admitted item) :
    Effect.Admits admitted ⟨result, cursor, .keep⟩ := by
  refine ⟨given, fun left same => ?_⟩
  cases same

theorem Effect.admits_empty {result : CallResult} (cursor : Slots.Change Cursor)
    (empty : result.enrollments = []) : Effect.Admits admitted ⟨result, cursor, .keep⟩ :=
  admits_keep cursor (by simp [empty])

/-- A call gives enrollments with a key, and those that its stream held or that stand on a page. -/
theorem Call.admits_action
    (keyed : ∀ item : Enrollment, item.registrationId ≠ "" → admitted item)
    (lists : transport.ListsOnly admitted) (call : Call) (cursor : Option Cursor)
    {stream : Option EnrollmentStream} (held : ∀ held, stream = some held → held.Holds admitted)
    (state : σ) :
    (call.action cursor stream σ transport state).result.Admits admitted := by
  cases call with
  | createOrUpdate enrollment =>
    exact Effect.admits_keep _ ((ReadsRecord.createOrUpdate enrollment).admitted_of_run keyed state)
  | get id => exact Effect.admits_keep _ ((ReadsRecord.get id).admitted_of_run keyed state)
  | createQuery slot specification pageSize =>
    cases made : Registry.createQuery specification pageSize with
    | error error =>
      simp only [action, made]
      exact Effect.admits_empty _ rfl
    | ok cursor =>
      simp only [action, made]
      exact Effect.admits_empty _ rfl
  | nextPage slot =>
    cases cursor with
    | none => exact Effect.admits_empty _ rfl
    | some cursor => exact Effect.admits_keep _ (cursor.admitted_of_nextPage lists state)
  | showQuery slot =>
    cases cursor with
    | none => exact Effect.admits_empty _ rfl
    | some cursor => exact Effect.admits_empty _ rfl
  | intoStream slot =>
    cases cursor with
    | none => exact Effect.admits_empty _ rfl
    | some cursor =>
      refine ⟨by simp [action, Action.done, CallResult.enrollments], fun left same => ?_⟩
      cases same
      exact EnrollmentStream.holds_some (by simp)
  | streamNext slot =>
    cases stream with
    | none => exact Effect.admits_empty _ rfl
    | some stream =>
      have admits := EnrollmentStream.admits_next lists (held stream rfl) state
      refine ⟨admits.enrollments, fun left same => ?_⟩
      cases same
      exact admits.2
  | streamAll slot =>
    cases stream with
    | none => exact Effect.admits_empty _ rfl
    | some stream =>
      refine ⟨EnrollmentStream.admitted_of_drain lists (held stream rfl) state, fun left same => ?_⟩
      cases same
  | _ => exact Effect.admits_empty _ rfl

theorem Session.admitted_of_run
    (keyed : ∀ item : Enrollment, item.registrationId ≠ "" → admitted item)
    (lists : transport.ListsOnly admitted) {session : Session σ}
    (held : ∀ name stream, session.streams.get? name = some stream → stream.Holds admitted)
    (calls : List Call) :
    ∀ step ∈ session.run transport calls, ∀ item ∈ step.result.enrollments, admitted item := by
  induction calls generalizing session with
  | nil => simp [run]
  | cons call rest ih =>
    have own : ∀ stream, call.slot? >>= session.streams.get? = some stream →
        stream.Holds admitted := by
      intro stream found
      obtain ⟨name, _, found⟩ := Option.bind_eq_some_iff.1 found
      exact held name stream found
    obtain ⟨given, kept⟩ := call.admits_action keyed lists
      (call.slot? >>= session.cursors.get?) own session.transport
    rw [run, List.forall_mem_cons, step_eq]
    refine ⟨given, ih fun name stream found => ?_⟩
    rcases Slots.get?_or_eq_set_of_get?_apply found with before | changed
    · exact held name stream before
    · exact kept stream changed

end Admitted

/-! ### Where an enrollment without a key comes from -/

open Classical in
/-- A transport that keeps back the pages that list anything that is not admitted. -/
noncomputable def Transport.guarded (transport : Transport σ) (admitted : Enrollment → Prop) :
    Transport σ where
  send state request :=
    let sent := transport.send state request
    let answer := if ∀ item, (Exchanged.mk request sent.answer).Lists item → admitted item then
      sent.answer else .error (.ofText "")
    ⟨sent.events, answer, sent.state⟩
  responsesLeft := transport.responsesLeft
  responsesLeft_lt state request response got := by
    simp only at got
    split at got
    · exact transport.responsesLeft_lt state request response got
    · cases got

theorem Transport.listsOnly_guarded (transport : Transport σ) (admitted : Enrollment → Prop) :
    (transport.guarded admitted).ListsOnly admitted := by
  intro state request item lists
  simp only [guarded] at lists
  split at lists
  · next fine => exact fine item lists
  · obtain ⟨_, _, answer, _⟩ := lists.listed
    cases answer

theorem Transport.Gives.guarded {transport : Transport σ} {exchanges : List Exchanged}
    {state final : σ} (gives : transport.Gives Eq exchanges state final)
    {admitted : Enrollment → Prop}
    (lists : ∀ exchanged ∈ exchanges, ∀ item, exchanged.Lists item → admitted item) :
    (transport.guarded admitted).Gives Eq exchanges state final := by
  induction gives with
  | nil state => exact .nil state
  | @cons exchanged rest state final answered _ ih =>
    obtain ⟨first, later⟩ := List.forall_mem_cons.1 lists
    have whole : exchanged =
        ⟨exchanged.request, (transport.send state exchanged.request).answer⟩ := by rw [← answered]
    rw [whole] at first
    exact .cons (answered.trans (if_pos first).symm) (ih later)

/-- What a session gives has a key, or stands on a page that the session asked for. -/
theorem Session.keyed_or_listed (transport : Transport σ) (state : σ) (calls : List Call) :
    let watched := (Session.ofTransport state).watch transport calls
    ∀ seen ∈ watched.1, ∀ item ∈ seen.result.enrollments, item.registrationId ≠ "" ∨
      ∃ exchanged ∈ watched.1.flatMap Seen.exchanges, exchanged.Lists item := by
  intro watched seen member item given
  let exchanges := watched.1.flatMap Seen.exchanges
  let admitted (item : Enrollment) : Prop :=
    item.registrationId ≠ "" ∨ ∃ exchanged ∈ exchanges, exchanged.Lists item
  have gives : (transport.guarded admitted).Gives Eq exchanges state watched.2.transport :=
    ((Session.ofTransport state).gives_watch transport calls).guarded
      fun exchanged among item lists => .inr ⟨exchanged, among, lists⟩
  have keyed : ∀ item : Enrollment, item.registrationId ≠ "" → admitted item := fun _ => .inl
  -- Nothing was kept back in this run, so it is a run of the guarded transport as well.
  have same : ((Session.ofTransport state).run (transport.guarded admitted) calls).map Step.result =
      watched.1.map Seen.result :=
    (run_of_gives (fun _ => ⟨rfl, rfl⟩) gives.alike).trans (result_watch transport _ calls).symm
  have among : seen.result ∈ watched.1.map Seen.result := List.mem_map_of_mem member
  rw [← same] at among
  obtain ⟨step, made, result⟩ := List.mem_map.1 among
  refine admitted_of_run keyed (transport.listsOnly_guarded admitted) ?_ calls step made item
    (result ▸ given)
  intro name stream found
  cases found

theorem Call.keyed_of_enrollment {call : Call} {cursor : Option Cursor}
    {stream : Option EnrollmentStream} {transport : Transport σ} {state : σ} {item : Enrollment}
    (result :
      (call.action cursor stream σ transport state).result.result = .enrollment (.ok item)) :
    item.registrationId ≠ "" := by
  cases call with
  | createOrUpdate enrollment =>
    exact (ReadsRecord.createOrUpdate enrollment).keyed_of_run (CallResult.enrollment.inj result)
  | get id => exact (ReadsRecord.get id).keyed_of_run (CallResult.enrollment.inj result)
  | createQuery slot specification pageSize =>
    cases made : Registry.createQuery specification pageSize <;>
      simp only [action, made] at result <;> cases result
  | nextPage slot => cases cursor <;> cases result
  | showQuery slot => cases cursor <;> cases result
  | intoStream slot => cases cursor <;> cases result
  | streamNext slot => cases stream <;> cases result
  | streamAll slot => cases stream <;> cases result
  | _ => cases result

/-- Where enrollments without a key come from: in any run the caller gets one only if a page that
was asked for lists it, and never as the record that a call is about. A body that is such a record
is refused, but a page of them is handed on as it is. -/
theorem keys_exact (transport : Transport σ) (state : σ) (calls : List Call) :
    let watched := (Session.ofTransport state).watch transport calls
    (∀ seen ∈ watched.1, ∀ item ∈ seen.result.enrollments, item.registrationId = "" →
        seen.result ≠ .enrollment (.ok item) ∧
          ∃ exchanged ∈ watched.1.flatMap Seen.exchanges, exchanged.Lists item) ∧
      (∀ plan, ReadsRecord plan → plan.request? ≠ none → ∀ response keyless,
        response.status.isSuccess = true →
        readBody .enrollment Enrollment.ofBytes response.body = .ok keyless →
        keyless.registrationId = "" →
          plan.settledBy (fun _ => .ok response) = .error (.protocol .emptyRegistrationId)) ∧
      ∀ cursor : Cursor, cursor.Reachable → cursor.state = .ready → ∀ response items,
        response.status.isSuccess = true → readPage response.body = .ok items →
          (cursor.nextPage.settledBy fun _ => .ok response).1.map Page.items = .ok items := by
  intro watched
  refine ⟨?_, fun plan reads asks response keyless success read nothing =>
    reads.refuses asks success read nothing, ?_⟩
  · intro seen member item given nothing
    refine ⟨fun result => ?_, ?_⟩
    · obtain ⟨cursor, stream, state, _, same⟩ := Session.exists_makes_of_mem member
      exact Call.keyed_of_enrollment (same ▸ result) nothing
    · exact (Session.keyed_or_listed transport state calls seen member item given).resolve_left
        fun keyed => keyed nothing
  · intro cursor reached ready response items success listed
    rw [(Cursor.sound_of_reachable reached).nextPage_of_page ready success listed]
    rfl

/-- A page of an enrollment without a key. -/
def keylessPage : Http.Response :=
  ⟨.ok, .empty, Bytes.ofText "[\x7b\"registrationId\":\"\"\x7d]"⟩

/-- A record without a key is refused, and in a session the page alone can be where one is from. -/
theorem keys_exact_script :
    let calls : List Call := [.createQuery "q" ⟨"SELECT *"⟩ 10, .nextPage "q"]
    let watched := (Session.ofTransport (.ofAnswers [.ok keylessPage])).watch Script.transport calls
    (get "dev-1").settledBy (fun _ => .ok ⟨.ok, .empty,
        Bytes.ofText "\x7b\"registrationId\":\"\"\x7d"⟩) = .error (.protocol .emptyRegistrationId) ∧
      ∃ exchanged ∈ watched.1.flatMap Seen.exchanges, exchanged.Lists (.ofId "") := by
  intro calls watched
  obtain ⟨listed, refuses, _⟩ := keys_exact Script.transport (.ofAnswers [.ok keylessPage]) calls
  have made : watched.1[1]? = some watched.1[1] := rfl
  exact ⟨refuses _ (.get "dev-1") (Option.some_ne_none _) _ (.ofId "") rfl rfl rfl,
    (listed _ (List.mem_of_getElem? made) (.ofId "") (List.mem_singleton.2 rfl) rfl).2⟩

/-- A page hands out an enrollment without a key, and the cursor moves behind it. -/
theorem keyless_delivered :
    resumedCursor.Reachable ∧ keylessPage.status.isSuccess = true ∧
      readPage keylessPage.body = .ok [.ofId ""] ∧
      ∃ page, resumedCursor.nextPage.settledBy (fun _ => .ok keylessPage) =
          (.ok page, { resumedCursor with continuation := none, state := .exhausted }) ∧
        ∃ item ∈ page.items, item.registrationId = "" := by
  refine ⟨reachable_resumedCursor, rfl, rfl, _, rfl, .ofId "", ?_, rfl⟩
  exact List.mem_singleton.2 rfl

end DeviceEnrollment.Registry
