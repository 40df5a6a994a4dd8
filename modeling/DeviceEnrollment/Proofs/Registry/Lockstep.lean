import DeviceEnrollment.Proofs.Registry.Independence

/-!
Two transports in lockstep. If two transports do the same with every request, whatever else they
remember, then calls log the same and come to the same with both (`Session.map_run_eq`).
-/
namespace DeviceEnrollment.Registry

variable {σ τ α β : Type} {related : σ → τ → Prop} {first : Transport σ} {second : Transport τ}
  {state : σ} {other : τ}

/-- Two transports log the same and answer the same in related states, and are left in such. -/
structure Transport.Lockstep (related : σ → τ → Prop) (first : Transport σ)
    (second : Transport τ) : Prop where
  events : ∀ {state other}, related state other → ∀ request,
    (first.send state request).events = (second.send other request).events
  answer : ∀ {state other}, related state other → ∀ request,
    (first.send state request).answer = (second.send other request).answer
  state : ∀ {state other}, related state other → ∀ request,
    related (first.send state request).state (second.send other request).state

/-! ### Actions -/

/-- Two runs that log the same and come to the same. -/
structure Ran.Matches (related : σ → τ → Prop) (first : Ran σ α) (second : Ran τ α) : Prop where
  events : first.events = second.events
  result : first.result = second.result
  state : related first.state second.state

/-- An action that goes the same way with two transports. -/
def Action.InStep (act : Action α) (related : σ → τ → Prop) (first : Transport σ)
    (second : Transport τ) (state : σ) (other : τ) : Prop :=
  Ran.Matches related (act σ first state) (act τ second other)

namespace Action

theorem inStep_done (result : α) (alike : related state other) :
    (done result).InStep related first second state other :=
  ⟨rfl, rfl, alike⟩

theorem InStep.map {act : Action β} (f : β → α)
    (same : act.InStep related first second state other) :
    (act.map f).InStep related first second state other :=
  ⟨same.events, congrArg f same.result, same.state⟩

theorem InStep.bind {act : Action β} {next : β → Action α}
    (same : act.InStep related first second state other)
    (later : (next (act σ first state).result).InStep related first second
      (act σ first state).state (act τ second other).state) :
    (act.bind next).InStep related first second state other := by
  have continued : (act.bind next) τ second other =
      ⟨(act τ second other).events ++
          (next (act σ first state).result τ second (act τ second other).state).events,
        (next (act σ first state).result τ second (act τ second other).state).result,
        (next (act σ first state).result τ second (act τ second other).state).state⟩ := by
    rw [Action.bind, same.result]
  rw [InStep, continued]
  refine ⟨?_, later.result, later.state⟩
  rw [← same.events, ← later.events]
  rfl

end Action

theorem Plan.inStep_action (lockstep : first.Lockstep related second)
    (alike : related state other) (plan : Plan α) :
    plan.action.InStep related first second state other := by
  cases plan with
  | settled result => exact Action.inStep_done result alike
  | exchange request conclude =>
    have answer := lockstep.answer alike request
    refine ⟨?_, ?_, lockstep.state alike request⟩
    · simp only [Plan.action, Plan.run, answer, lockstep.events alike request]
    · simp only [Plan.action, Plan.run, answer]

/-! ### Streams -/

namespace EnrollmentStream

theorem inStep_pullAction (lockstep : first.Lockstep related second) (alike : related state other)
    (pending : Pending) : (pullAction pending).InStep related first second state other := by
  obtain ⟨cursor, items⟩ := pending
  -- The pages of one transport lead the induction, those of the other one keep up with them.
  induction state, cursor using Cursor.page_induction first generalizing items other with
  | last state cursor last =>
    cases items with
    | cons item rest => exact pullAction_cons cursor item rest ▸ Action.inStep_done _ alike
    | nil => exact pullAction_of_last last ▸ Action.inStep_done _ alike
  | failed state cursor error more got =>
    cases items with
    | cons item rest => exact pullAction_cons cursor item rest ▸ Action.inStep_done _ alike
    | nil =>
      have fetched := cursor.fetch.inStep_action lockstep alike
      rw [pullAction_of_more more]
      refine fetched.bind ?_
      simp only [Plan.action, got]
      exact Action.inStep_done _ fetched.state
  | page state cursor page more got ih =>
    cases items with
    | cons item rest => exact pullAction_cons cursor item rest ▸ Action.inStep_done _ alike
    | nil =>
      have fetched := cursor.fetch.inStep_action lockstep alike
      rw [pullAction_of_more more]
      refine fetched.bind ?_
      simp only [Plan.action, got]
      exact ih fetched.state page.items

theorem inStep_drainPendingAction (lockstep : first.Lockstep related second)
    (alike : related state other) (pending : Pending) :
    (drainPendingAction pending).InStep related first second state other := by
  obtain ⟨cursor, items⟩ := pending
  induction state, cursor using Cursor.page_induction first generalizing items other with
  | last state cursor last =>
    exact drainPendingAction_of_last last items ▸ Action.inStep_done _ alike
  | failed state cursor error more got =>
    have fetched := cursor.fetch.inStep_action lockstep alike
    rw [drainPendingAction_of_more more]
    refine fetched.bind ?_
    simp only [Plan.action, got]
    exact Action.inStep_done _ fetched.state
  | page state cursor page more got ih =>
    have fetched := cursor.fetch.inStep_action lockstep alike
    rw [drainPendingAction_of_more more]
    refine fetched.bind ?_
    simp only [Plan.action, got]
    have later := ih fetched.state page.items
    exact later.bind (Action.inStep_done _ later.state)

theorem inStep_nextAction (lockstep : first.Lockstep related second) (alike : related state other)
    (stream : EnrollmentStream) : stream.nextAction.InStep related first second state other := by
  obtain ⟨pending⟩ := stream
  cases pending with
  | none => exact Action.inStep_done _ alike
  | some pending => exact inStep_pullAction lockstep alike pending

theorem inStep_drainAction (lockstep : first.Lockstep related second) (alike : related state other)
    (stream : EnrollmentStream) : stream.drainAction.InStep related first second state other := by
  obtain ⟨pending⟩ := stream
  cases pending with
  | none => exact Action.inStep_done _ alike
  | some pending => exact inStep_drainPendingAction lockstep alike pending

end EnrollmentStream

/-! ### Calls -/

theorem Call.inStep_action (lockstep : first.Lockstep related second) (alike : related state other)
    (call : Call) (cursor : Option Cursor) (stream : Option EnrollmentStream) :
    (call.action cursor stream).InStep related first second state other := by
  have planned {α : Type} (plan : Plan α) (f : α → Effect) :
      (plan.action.map f).InStep related first second state other :=
    (plan.inStep_action lockstep alike).map f
  have idle (effect : Effect) : (Action.done effect).InStep related first second state other :=
    Action.inStep_done effect alike
  cases call with
  | createQuery slot specification pageSize =>
    simp only [action]
    split <;> exact idle _
  | nextPage slot =>
    cases cursor with
    | none => exact idle (.plain .noSuchQuery)
    | some cursor =>
      simp only [action]
      exact planned _ _
  | showQuery slot =>
    simp only [action]
    split <;> exact idle _
  | intoStream slot =>
    simp only [action]
    split <;> exact idle _
  | streamNext slot =>
    cases stream with
    | none => exact idle (.plain .noSuchQuery)
    | some stream =>
      simp only [action]
      exact (stream.inStep_nextAction lockstep alike).map _
  | streamAll slot =>
    cases stream with
    | none => exact idle (.plain .noSuchQuery)
    | some stream =>
      simp only [action]
      exact (stream.inStep_drainAction lockstep alike).map _
  | _ =>
    rw [action]
    exact planned _ _

namespace Session

/-- Two sessions that hold the same, over transports in related states. -/
structure Matches (related : σ → τ → Prop) (first : Session σ) (second : Session τ) : Prop where
  transport : related first.transport second.transport
  cursors : first.cursors = second.cursors
  streams : first.streams = second.streams

structure Step.Matches (related : σ → τ → Prop) (first : Step σ) (second : Step τ) : Prop where
  events : first.events = second.events
  result : first.result = second.result
  session : first.session.Matches related second.session

/-- One call takes two sessions to sessions that hold the same again. -/
theorem Matches.step (lockstep : first.Lockstep related second) {session : Session σ}
    {another : Session τ} (same : session.Matches related another) (call : Call) :
    Step.Matches related (session.step first call) (another.step second call) := by
  have action : session.action call = another.action call := by
    simp only [Session.action, same.cursors, same.streams]
  have ran := call.inStep_action lockstep same.transport
    (call.slot? >>= another.cursors.get?) (call.slot? >>= another.streams.get?)
  rw [step_eq, step_eq, action]
  refine ⟨ran.events, congrArg Effect.result ran.result, ran.state, ?_, ?_⟩
  · simp only [Session.action, affected, ran.result, same.cursors]
  · simp only [Session.action, affected, ran.result, same.streams]

/-- What steps show of transports in lockstep, they show in every run. -/
theorem map_run_eq {ν : Type} {showFirst : Step σ → ν} {showSecond : Step τ → ν}
    (lockstep : first.Lockstep related second)
    (shown : ∀ {step another}, Step.Matches related step another →
      showFirst step = showSecond another)
    {session : Session σ} {another : Session τ} (same : session.Matches related another)
    (calls : List Call) :
    (session.run first calls).map showFirst = (another.run second calls).map showSecond := by
  induction calls generalizing session another with
  | nil => rfl
  | cons call rest ih =>
    have stepped := same.step lockstep call
    simp only [run, List.map_cons]
    rw [shown stepped, ih stepped.session]

end Session

end DeviceEnrollment.Registry
