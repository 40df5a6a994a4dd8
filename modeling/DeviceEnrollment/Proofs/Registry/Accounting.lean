import DeviceEnrollment.Proofs.Registry.Cursor

/-!
What calls ask of the service and what they make of its answer. A call is settled by its
arguments alone, or it makes one request and is settled by the answer to it
(`call_accounting`).
-/
namespace DeviceEnrollment.Registry

/-! ### Calls -/

/-- The calls of a client. -/
inductive ClientCall where
  | createOrUpdate (enrollment : Enrollment)
  | get (id : String)
  | delete (enrollment : Enrollment)
  | deleteById (id : String) (etag : Option ETag)
  | bulk (mode : BulkMode) (batch : List Enrollment)
  | createQuery (specification : QuerySpecification) (pageSize : Int)
  | nextPage (cursor : Cursor)

/-- What calls give back. -/
inductive Reply where
  | enrollment (enrollment : Enrollment)
  | deleted
  | bulk (result : BulkResult)
  | cursor (cursor : Cursor)
  | page (page : Page)

namespace ClientCall

def plan : ClientCall → Plan (Outcome Reply)
  | createOrUpdate enrollment => (Registry.createOrUpdate enrollment).map (·.map .enrollment)
  | get id => (Registry.get id).map (·.map .enrollment)
  | delete enrollment => (Registry.delete enrollment).map (·.map fun _ => .deleted)
  | deleteById id etag => (Registry.deleteById id etag).map (·.map fun _ => .deleted)
  | bulk mode batch => (bulkOperation mode batch).map (·.map .bulk)
  | createQuery specification pageSize =>
    .settled ((Registry.createQuery specification pageSize).map .cursor)
  | nextPage cursor => cursor.nextPage.map (·.1.map .page)

/-- Whether the call has a cursor that a client gave out, if it has one. -/
def IsPossible : ClientCall → Prop
  | nextPage cursor => cursor.Reachable
  | _ => True

def isDelete : ClientCall → Bool
  | delete _ | deleteById _ _ => true
  | _ => false

def isCreateQuery : ClientCall → Bool
  | createQuery _ _ => true
  | _ => false

end ClientCall

/-! ### Answers -/

/-- Whether a result says that nothing was asked of the service. -/
def IsRefusal {α : Type} (result : Outcome α) : Prop :=
  (∃ argument, result = .error (.validation argument)) ∨ result = .error .exhausted

/-- What an answer allows as the result of a call: a failure of the transport is passed on, a
status of failure is reported with a message, and a response of success is taken or found to break
the protocol. -/
def Concludes {α : Type} (answer : Answer) (result : Outcome α) : Prop :=
  match answer with
  | .error failure => result = .error (.transport failure)
  | .ok response =>
    if response.status.isSuccess then
      (∃ value, result = .ok value) ∨ ∃ fault, result = .error (.protocol fault)
    else
      ∃ error, result = .error (.service error) ∧ error.status = response.status ∧
        error.kind = .ofCode response.status.code ∧ error.message ≠ ""

/-- A plan that is settled by a refusal, or makes a request and lets the answer conclude. -/
def Plan.IsAccountable {α : Type} : Plan (Outcome α) → Prop
  | .settled result => IsRefusal result
  | .exchange _ conclude => ∀ answer, Concludes answer (conclude answer).result

theorem Http.Status.line_ne_empty (status : Http.Status) : status.line ≠ "" := by
  intro nothing
  have lengths := congrArg String.length nothing
  simp [Http.Status.line, toString] at lengths

/-- A failure that the service reports has a message, be it that of its status. -/
theorem ServiceError.message_ofResponse_ne_empty (response : Http.Response) :
    (ofResponse response).message ≠ "" := by
  unfold ofResponse
  cases said : (ErrorReport.ofBytes response.body).message? with
  | none => simpa [said] using Http.Status.line_ne_empty response.status
  | some message =>
    obtain ⟨_, filled⟩ := Option.filter_eq_some_iff.1 said
    simpa [said] using filled

namespace Plan

variable {α β : Type}

theorem isAccountable_withArgument {argument : Except InvalidArgument α}
    {next : α → Plan (Outcome β)} (rest : ∀ value, (next value).IsAccountable) :
    (withArgument argument next).IsAccountable := by
  cases argument with
  | error fault => exact .inl ⟨fault, rfl⟩
  | ok value => exact rest value

/-- A request is accounted for if reading a response of success finds no fault but in the
protocol. -/
theorem isAccountable_send {operation : Operation} {request : Request}
    {read : Http.Response → Settled (Outcome α)}
    (reads : ∀ response error, (read response).result = .error error →
      ∃ fault, error = .protocol fault) : (send operation request read).IsAccountable := by
  intro answer
  cases answer with
  | error failure => rfl
  | ok response =>
    simp only [Concludes]
    cases success : response.status.isSuccess with
    | false =>
      exact ⟨.ofResponse response, rfl, rfl, rfl,
        ServiceError.message_ofResponse_ne_empty response⟩
    | true =>
      simp only [if_true]
      cases got : (read response).result with
      | ok value => exact .inl ⟨value, rfl⟩
      | error error =>
        obtain ⟨fault, rfl⟩ := reads response error got
        exact .inr ⟨fault, rfl⟩

theorem IsRefusal.map (f : α → β) {result : Outcome α} (refusal : IsRefusal result) :
    IsRefusal (result.map f) := by
  rcases refusal with ⟨argument, rfl⟩ | rfl
  · exact .inl ⟨argument, rfl⟩
  · exact .inr rfl

theorem Concludes.map (f : α → β) {answer : Answer} {result : Outcome α}
    (concludes : Concludes answer result) : Concludes answer (result.map f) := by
  cases answer with
  | error failure => exact congrArg (·.map f) concludes
  | ok response =>
    simp only [Concludes] at concludes ⊢
    split
    · next success =>
      rw [if_pos success] at concludes
      rcases concludes with ⟨value, rfl⟩ | ⟨fault, rfl⟩
      · exact .inl ⟨f value, rfl⟩
      · exact .inr ⟨fault, rfl⟩
    · next failure =>
      rw [if_neg failure] at concludes
      obtain ⟨error, rfl, reported⟩ := concludes
      exact ⟨error, rfl, reported⟩

theorem IsAccountable.map (f : α → β) {plan : Plan (Outcome α)} (accountable : plan.IsAccountable) :
    (plan.map (·.map f)).IsAccountable := by
  cases plan with
  | settled result => exact IsRefusal.map f accountable
  | exchange request conclude => exact fun answer => Concludes.map f (accountable answer)

theorem Concludes.not_isRefusal {answer : Answer} {result : Outcome α}
    (concludes : Concludes answer result) : ¬IsRefusal result := by
  intro refusal
  cases answer with
  | error failure =>
    have failed : result = .error (.transport failure) := concludes
    rcases refusal with ⟨argument, same⟩ | same <;> simp [failed] at same
  | ok response =>
    simp only [Concludes] at concludes
    split at concludes
    · rcases concludes with ⟨value, rfl⟩ | ⟨fault, rfl⟩ <;>
        rcases refusal with ⟨argument, same⟩ | same <;> cases same
    · obtain ⟨error, rfl, _⟩ := concludes
      rcases refusal with ⟨argument, same⟩ | same <;> cases same

/-- An accountable plan makes a request exactly if it does not end in a refusal. -/
theorem IsAccountable.request {plan : Plan (Outcome α)} (accountable : plan.IsAccountable)
    (respond : Request → Answer) :
    (IsRefusal (plan.settledBy respond) → plan.request? = none) ∧
      (¬IsRefusal (plan.settledBy respond) → ∃ request, plan.request? = some request ∧
        Concludes (respond request) (plan.settledBy respond)) := by
  cases plan with
  | settled result => exact ⟨fun _ => rfl, fun made => absurd accountable made⟩
  | exchange request conclude =>
    have concludes := accountable (respond request)
    exact ⟨fun refusal => absurd refusal (Concludes.not_isRefusal concludes),
      fun _ => ⟨request, rfl, concludes⟩⟩

/-- A run of an accountable plan that ends in a refusal made no request, and any other run made one.
With the same answer to it the plan comes to the same under every transport. -/
theorem IsAccountable.run_recording {plan : Plan (Outcome α)} (accountable : plan.IsAccountable)
    {σ : Type} (transport : Transport σ) (state : σ) :
    let ran := plan.run transport.recording (state, [])
    (IsRefusal ran.result → ran.state.2 = []) ∧
      (¬IsRefusal ran.result → ∃ request, ran.state.2 = [request] ∧
        Concludes (transport.send state request).answer ran.result ∧
        ∀ (τ : Type) (other : Transport τ) (elsewhere : τ),
          (other.send elsewhere request).answer = (transport.send state request).answer →
          (plan.run other elsewhere).result = ran.result) := by
  intro ran
  obtain ⟨recorded, result⟩ := Plan.run_recording transport state plan
  obtain ⟨refused, asked⟩ := accountable.request fun request =>
    (transport.send state request).answer
  rw [result, recorded]
  constructor
  · intro refusal
    rw [refused refusal]
    rfl
  · intro taken
    obtain ⟨request, made, concludes⟩ := asked taken
    refine ⟨request, by rw [made]; rfl, concludes, ?_⟩
    intro τ other elsewhere same
    rw [Plan.result_run]
    apply Plan.settledBy_congr
    intro sent asked
    rw [Option.some.inj (asked.symm.trans made)]
    exact same

end Plan

/-! ### Every call -/

/-- A body that cannot be read is missing or malformed. -/
theorem eq_of_readBody_error {α : Type} {kind : BodyKind} {decode : Bytes → Json.Decoded α}
    {body : Bytes} {error : RegistryError} (failed : readBody kind decode body = .error error) :
    error = .protocol (.missingBody kind) ∨
      ∃ reason, error = .protocol (.malformed kind reason) := by
  unfold readBody at failed
  split at failed
  · exact .inl (Except.error.inj failed).symm
  · split at failed
    · cases failed
    · exact .inr ⟨_, (Except.error.inj failed).symm⟩

theorem protocol_of_readBody {α : Type} {kind : BodyKind} {decode : Bytes → Json.Decoded α}
    {body : Bytes} {error : RegistryError} (failed : readBody kind decode body = .error error) :
    ∃ fault, error = .protocol fault := by
  rcases eq_of_readBody_error failed with missing | ⟨reason, malformed⟩
  · exact ⟨_, missing⟩
  · exact ⟨_, malformed⟩

theorem protocol_of_readEnrollment {body : Bytes} {error : RegistryError}
    (failed : readEnrollment body = .error error) : ∃ fault, error = .protocol fault := by
  unfold readEnrollment at failed
  cases read : readBody .enrollment Enrollment.ofBytes body with
  | error found =>
    rw [read] at failed
    exact Except.error.inj failed ▸ protocol_of_readBody read
  | ok enrollment =>
    rw [read] at failed
    simp only [bind, Except.bind] at failed
    split at failed
    · exact ⟨_, (Except.error.inj failed).symm⟩
    · cases failed

theorem protocol_of_readPageOf {response : Http.Response} {error : RegistryError}
    (failed : (Cursor.readPageOf response).result = .error error) :
    ∃ fault, error = .protocol fault := by
  unfold Cursor.readPageOf at failed
  split at failed
  · next found read => exact Except.error.inj failed ▸ protocol_of_readBody read
  · cases failed

theorem protocol_of_readBulkReport {body : Bytes} {error : RegistryError}
    (failed : readBulkReport body = .error error) : ∃ fault, error = .protocol fault := by
  unfold readBulkReport at failed
  cases read : readBody .bulkResult BulkReport.ofBytes body with
  | error found =>
    rw [read] at failed
    exact Except.error.inj failed ▸ protocol_of_readBody read
  | ok report =>
    rw [read] at failed
    simp only [bind, Except.bind] at failed
    split at failed
    · cases failed
    · exact ⟨_, (Except.error.inj failed).symm⟩

theorem protocol_of_bulkResultOf {mode : BulkMode} {batch : List Enrollment}
    {response : Http.Response} {error : RegistryError}
    (failed : (bulkResultOf mode batch response).result = .error error) :
    ∃ fault, error = .protocol fault := by
  unfold bulkResultOf at failed
  split at failed
  · next found read => exact Except.error.inj failed ▸ protocol_of_readBulkReport read
  · cases failed

theorem isAccountable_deleteById (id : String) (etag : Option ETag) :
    (deleteById id etag).IsAccountable := by
  refine Plan.isAccountable_withArgument fun segments =>
    Plan.isAccountable_withArgument fun headers => Plan.isAccountable_send ?_
  intro response error failed
  cases failed

/-- A cursor that a client gave out never finds its own token at fault. -/
theorem isAccountable_fetch {cursor : Cursor} (sound : cursor.Sound) :
    cursor.fetch.IsAccountable := by
  unfold Cursor.fetch
  split
  · exact .inr rfl
  · obtain ⟨headers, sent⟩ := Cursor.exists_headers?_of_sound sound
    rw [sent]
    exact Plan.isAccountable_send fun response error => protocol_of_readPageOf

theorem isAccountable_plan {call : ClientCall} (possible : call.IsPossible)
    (asks : call.isCreateQuery = false) : call.plan.IsAccountable := by
  cases call with
  | createOrUpdate enrollment =>
    refine Plan.IsAccountable.map _ (Plan.isAccountable_withArgument fun segments =>
      Plan.isAccountable_withArgument fun headers => Plan.isAccountable_send ?_)
    exact fun response error => protocol_of_readEnrollment
  | get id =>
    refine Plan.IsAccountable.map _ (Plan.isAccountable_withArgument fun segments =>
      Plan.isAccountable_send ?_)
    exact fun response error => protocol_of_readEnrollment
  | delete enrollment => exact Plan.IsAccountable.map _ (isAccountable_deleteById _ _)
  | deleteById id etag => exact Plan.IsAccountable.map _ (isAccountable_deleteById id etag)
  | bulk mode batch =>
    refine Plan.IsAccountable.map _ (Plan.isAccountable_withArgument fun _ =>
      Plan.isAccountable_send ?_)
    exact fun response error => protocol_of_bulkResultOf
  | createQuery specification pageSize => cases asks
  | nextPage cursor =>
    have fetched := isAccountable_fetch (Cursor.sound_of_reachable possible)
    have shown : (ClientCall.nextPage cursor).plan = cursor.fetch.map (·.map .page) := by
      cases fetch : cursor.fetch <;>
        simp [ClientCall.plan, Cursor.nextPage, fetch, Plan.map]
    rw [shown]
    exact fetched.map _

/-- A delete reads nothing of the response, so it finds no fault in it. -/
theorem settledBy_delete_ne_protocol {call : ClientCall} (deletes : call.isDelete = true)
    (respond : Request → Answer) (fault : ProtocolFault) :
    call.plan.settledBy respond ≠ .error (.protocol fault) := by
  have settled (id : String) (etag : Option ETag) :
      (deleteById id etag).settledBy respond ≠ .error (.protocol fault) := by
    unfold deleteById Plan.withArgument
    split
    · simp [Plan.settledBy]
    · split
      · simp [Plan.settledBy]
      · rw [Plan.settledBy_send]
        split
        · simp
        · split <;> simp
  have mapped {result : Outcome Unit} (fine : result ≠ .error (.protocol fault)) :
      result.map (fun _ => Reply.deleted) ≠ .error (.protocol fault) := by
    cases result with
    | error error => exact fun same => fine (by rw [Except.error.inj same])
    | ok value => exact fun same => by cases same
  cases call with
  | delete enrollment =>
    rw [ClientCall.plan, Plan.settledBy_map]
    exact mapped (settled enrollment.registrationId enrollment.etag)
  | deleteById id etag =>
    rw [ClientCall.plan, Plan.settledBy_map]
    exact mapped (settled id etag)
  | _ => cases deletes

/-- A call that ends in a refusal, or makes a cursor, made no request. Every other call made one,
and the answer to it alone decides how the call ends. A delete never ends in a fault of the
protocol. -/
theorem call_accounting {σ : Type} (transport : Transport σ) (state : σ) (call : ClientCall)
    (possible : call.IsPossible) :
    let ran := call.plan.run transport.recording (state, [])
    (IsRefusal ran.result ∨ call.isCreateQuery = true → ran.state.2 = []) ∧
      (¬(IsRefusal ran.result ∨ call.isCreateQuery = true) →
        ∃ request, ran.state.2 = [request] ∧
          Concludes (transport.send state request).answer ran.result ∧
          ∀ (τ : Type) (other : Transport τ) (elsewhere : τ),
            (other.send elsewhere request).answer = (transport.send state request).answer →
            (call.plan.run other elsewhere).result = ran.result) ∧
      (call.isDelete = true → ∀ fault, ran.result ≠ .error (.protocol fault)) := by
  intro ran
  obtain ⟨recorded, result⟩ := Plan.run_recording transport state call.plan
  have sound : call.isDelete = true → ∀ fault, ran.result ≠ .error (.protocol fault) := by
    intro deletes fault
    rw [result]
    exact settledBy_delete_ne_protocol deletes _ fault
  cases creates : call.isCreateQuery with
  | true =>
    refine ⟨fun _ => ?_, fun asks => absurd (.inr rfl) asks, sound⟩
    cases call with
    | createQuery specification pageSize => exact recorded
    | _ => cases creates
  | false =>
    obtain ⟨refused, asked⟩ := (isAccountable_plan possible creates).run_recording transport state
    refine ⟨?_, fun asks => asked fun refusal => asks (.inl refusal), sound⟩
    rintro (refusal | same)
    · exact refused refusal
    · cases same

/-- A cursor that holds a token, behind an empty first page. -/
def resumedCursor : Cursor := ⟨⟨"SELECT *"⟩, 10, some ⟨"t1"⟩, .ready⟩

theorem reachable_resumedCursor : resumedCursor.Reachable := by
  have created : (⟨⟨"SELECT *"⟩, 10, none, .ready⟩ : Cursor).Reachable :=
    .created (by rfl : createQuery ⟨"SELECT *"⟩ 10 = .ok _)
  exact created.moved fun _ => .ok
    ⟨.ok, Http.HeaderMap.empty.insert .continuation (.ofVisible "t1"), Bytes.ofText "[]"⟩

/-- An answer that turns a request away, with a body that is no text. -/
def throttled : Http.Response := ⟨⟨429, by decide⟩, .empty, [0xFF]⟩

/-- A page that is turned away took one request, and the caller hears of it. -/
theorem call_accounting_throttled :
    (ClientCall.nextPage resumedCursor).IsPossible ∧ ∃ request error,
      let ran := (ClientCall.nextPage resumedCursor).plan.run Script.transport.recording
        (.ofAnswers [.ok throttled], [])
      ran.state.2 = [request] ∧ ran.result = .error (.service error) ∧
        error.status.code = 429 ∧ error.message ≠ "" := by
  refine ⟨reachable_resumedCursor, ?_⟩
  obtain ⟨_, asked, _⟩ := call_accounting Script.transport (.ofAnswers [.ok throttled])
    (.nextPage resumedCursor) reachable_resumedCursor
  have served : ¬(IsRefusal ((ClientCall.nextPage resumedCursor).plan.run
      Script.transport.recording (.ofAnswers [.ok throttled], [])).result ∨
        (ClientCall.nextPage resumedCursor).isCreateQuery = true) := by
    rintro ((⟨argument, same⟩ | same) | creates)
    · cases same
    · cases same
    · cases creates
  obtain ⟨request, requests, concludes, _⟩ := asked served
  obtain ⟨error, result, status, _, message⟩ := concludes
  exact ⟨request, error, requests, result, congrArg Http.Status.code status, message⟩

end DeviceEnrollment.Registry
