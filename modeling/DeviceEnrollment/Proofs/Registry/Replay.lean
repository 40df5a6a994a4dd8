import DeviceEnrollment.Proofs.Registry.Likeness
import DeviceEnrollment.Proofs.Registry.Streaming

/-!
Exchanges of one transport that another one repeats. Plans, streams and their ends depend on the
answers alone, so they go the same way with every transport that gives answers like these.
-/
namespace DeviceEnrollment.Registry

variable {σ τ α : Type}

/-- A request and the answer to it. -/
structure Exchanged where
  request : Request
  answer : Answer

/-- Whether a transport that is asked these requests in order gives answers like these, and what it
is left with. -/
inductive Transport.Gives (like : Answer → Answer → Prop) (transport : Transport σ) :
    List Exchanged → σ → σ → Prop
  | nil (state : σ) : Gives like transport [] state state
  | cons {exchanged : Exchanged} {rest : List Exchanged} {state final : σ}
      (answered : like exchanged.answer (transport.send state exchanged.request).answer)
      (later : Gives like transport rest (transport.send state exchanged.request).state final) :
      Gives like transport (exchanged :: rest) state final

namespace Transport.Gives

variable {like : Answer → Answer → Prop} {transport : Transport σ}
  {exchanges later : List Exchanged} {state middle final : σ}

theorem append (first : transport.Gives like exchanges state middle)
    (second : transport.Gives like later middle final) :
    transport.Gives like (exchanges ++ later) state final := by
  induction first with
  | nil state => exact second
  | cons answered _ ih => exact .cons answered (ih second)

theorem exists_of_append (gives : transport.Gives like (exchanges ++ later) state final) :
    ∃ middle, transport.Gives like exchanges state middle ∧
      transport.Gives like later middle final := by
  induction exchanges generalizing state with
  | nil => exact ⟨state, .nil state, gives⟩
  | cons exchanged rest ih =>
    cases gives with
    | cons answered follows =>
      obtain ⟨middle, first, second⟩ := ih follows
      exact ⟨middle, .cons answered first, second⟩

theorem alike (gives : transport.Gives Eq exchanges state final) :
    transport.Gives Alike exchanges state final := by
  induction gives with
  | nil state => exact .nil state
  | cons answered _ ih => exact .cons (answered ▸ Alike.refl _) ih

end Transport.Gives

/-- A transport beside a list of the exchanges that went through it. -/
def Transport.logging (transport : Transport σ) : Transport (σ × List Exchanged) where
  send state request :=
    let sent := transport.send state.1 request
    ⟨sent.events, sent.answer, (sent.state, state.2 ++ [⟨request, sent.answer⟩])⟩
  responsesLeft state := transport.responsesLeft state.1
  responsesLeft_lt state request response got :=
    transport.responsesLeft_lt state.1 request response got

theorem Transport.Gives.logging {transport : Transport σ} {exchanges : List Exchanged}
    {state final : σ} (gives : transport.Gives Eq exchanges state final)
    (earlier : List Exchanged) :
    transport.logging.Gives Eq exchanges (state, earlier) (final, earlier ++ exchanges) := by
  induction gives generalizing earlier with
  | nil state =>
    rw [List.append_nil]
    exact .nil _
  | @cons exchanged rest state final answered _ ih =>
    have logged := ih (earlier ++ [exchanged])
    rw [List.append_assoc] at logged
    refine .cons answered ?_
    show transport.logging.Gives Eq rest (_, earlier ++ [⟨exchanged.request, _⟩]) _
    rw [← answered]
    exact logged

theorem Script.gives_answers (exchanges : List Exchanged) (requests : List Request) :
    transport.Gives Eq exchanges ⟨exchanges.map Exchanged.answer, requests⟩
      ⟨[], requests ++ exchanges.map Exchanged.request⟩ := by
  induction exchanges generalizing requests with
  | nil =>
    rw [List.map_nil, List.map_nil, List.append_nil]
    exact .nil _
  | cons exchanged rest ih =>
    have later := ih (requests ++ [exchanged.request])
    rw [List.append_assoc] at later
    exact .cons rfl later

/-! ### What depends on the answers alone -/

/-- Something that is done with a transport, whichever it is. -/
abbrev Action (α : Type) := ∀ σ : Type, Transport σ → σ → Ran σ α

/-- Whether an action makes these exchanges, and comes to the same with every transport that gives
answers like these. -/
structure Action.Makes (act : Action α) (transport : Transport σ) (state : σ)
    (exchanges : List Exchanged) : Prop where
  made : transport.Gives Eq exchanges state (act σ transport state).state
  repeated : ∀ {τ : Type} (other : Transport τ) {start final : τ},
    other.Gives Alike exchanges start final →
      (act τ other start).result = (act σ transport state).result ∧
        (act τ other start).state = final

namespace Action

variable {β : Type}

def done (result : α) : Action α := fun _ _ state => ⟨[], result, state⟩

def map (f : β → α) (act : Action β) : Action α := fun σ transport state =>
  let ran := act σ transport state
  ⟨ran.events, f ran.result, ran.state⟩

/-- One action, and behind it another one that knows its result. -/
def bind (first : Action β) (next : β → Action α) : Action α := fun σ transport state =>
  let ran := first σ transport state
  let later := next ran.result σ transport ran.state
  ⟨ran.events ++ later.events, later.result, later.state⟩

theorem makes_done (result : α) (transport : Transport σ) (state : σ) :
    (done result).Makes transport state [] := by
  refine ⟨.nil state, ?_⟩
  intro τ other start final gives
  cases gives
  exact ⟨rfl, rfl⟩

theorem Makes.map {act : Action β} {transport : Transport σ} {state : σ}
    {exchanges : List Exchanged} (makes : act.Makes transport state exchanges) (f : β → α) :
    (act.map f).Makes transport state exchanges := by
  refine ⟨makes.made, ?_⟩
  intro τ other start final gives
  obtain ⟨same, reached⟩ := makes.repeated other gives
  exact ⟨congrArg f same, reached⟩

theorem Makes.bind {first : Action β} {next : β → Action α} {transport : Transport σ} {state : σ}
    {exchanges later : List Exchanged} (makes : first.Makes transport state exchanges)
    (further : (next (first σ transport state).result).Makes transport
      (first σ transport state).state later) :
    (first.bind next).Makes transport state (exchanges ++ later) := by
  refine ⟨makes.made.append further.made, ?_⟩
  intro τ other start final gives
  obtain ⟨middle, front, back⟩ := gives.exists_of_append
  obtain ⟨same, reached⟩ := makes.repeated other front
  rw [← reached] at back
  simp only [Action.bind, same]
  exact further.repeated other back

end Action

def Plan.action (plan : Plan α) : Action α := fun _ transport state => plan.run transport state

theorem Plan.ReadsAlike.exists_makes {plan : Plan α} (reads : plan.ReadsAlike)
    (transport : Transport σ) (state : σ) :
    ∃ exchanges, plan.action.Makes transport state exchanges := by
  cases plan with
  | settled result => exact ⟨[], Action.makes_done result transport state⟩
  | exchange request conclude =>
    refine ⟨[⟨request, (transport.send state request).answer⟩], .cons rfl (.nil _), ?_⟩
    intro τ other start final gives
    cases gives with
    | cons answered later =>
      cases later
      exact ⟨(reads _ _ answered).symm, rfl⟩

/-! ### Streams -/

/-- Page after page, until a cursor is behind its last page or a fetch fails. -/
theorem Cursor.page_induction (transport : Transport σ) {motive : σ → Cursor → Prop}
    (last : ∀ state cursor, cursor.hasNext = false → motive state cursor)
    (failed : ∀ state cursor error, cursor.hasNext = true →
      (cursor.fetch.run transport state).result = .error error → motive state cursor)
    (page : ∀ state cursor page, cursor.hasNext = true →
      (cursor.fetch.run transport state).result = .ok page →
      motive (cursor.fetch.run transport state).state (cursor.moveBehind page) →
        motive state cursor)
    (state : σ) (cursor : Cursor) : motive state cursor := by
  -- Every page uses up an answer, an empty one too.
  induction left : transport.responsesLeft state using Nat.strongRecOn
    generalizing state cursor with
  | _ count ih =>
    cases more : cursor.hasNext with
    | false => exact last state cursor more
    | true =>
      cases got : (cursor.fetch.run transport state).result with
      | error error => exact failed state cursor error more got
      | ok arrived =>
        have later := ih _ (left ▸ responsesLeft_fetch_lt got) _ (cursor.moveBehind arrived) rfl
        exact page state cursor arrived more got later

namespace EnrollmentStream

def pullAction (pending : Pending) : Action (Pulled × EnrollmentStream) :=
  fun _ transport state => pull transport state pending

def drainPendingAction (pending : Pending) : Action (List (Outcome Enrollment)) :=
  fun _ transport state => drainPending transport state pending

def nextAction (stream : EnrollmentStream) : Action (Pulled × EnrollmentStream) :=
  fun _ transport state => stream.next transport state

def drainAction (stream : EnrollmentStream) : Action (List (Outcome Enrollment)) :=
  fun _ transport state => stream.drain transport state

theorem pullAction_cons (cursor : Cursor) (item : Enrollment) (rest : List Enrollment) :
    pullAction ⟨cursor, item :: rest⟩ = .done (.item item, ⟨some ⟨cursor, rest⟩⟩) := by
  funext σ transport state
  exact pull_cons transport state cursor item rest

theorem pullAction_of_last {cursor : Cursor} (last : cursor.hasNext = false) :
    pullAction ⟨cursor, []⟩ = .done (.finished, ended) := by
  funext σ transport state
  exact pull_of_last transport state last

/-- Without an item at hand a pull fetches a page and goes on with it. -/
theorem pullAction_of_more {cursor : Cursor} (more : cursor.hasNext = true) :
    pullAction ⟨cursor, []⟩ = cursor.fetch.action.bind fun
      | .error error => .done (.failed error, ended)
      | .ok page => pullAction ⟨cursor.moveBehind page, page.items⟩ := by
  funext σ transport state
  cases got : (cursor.fetch.run transport state).result with
  | error error =>
    simp [pullAction, pull_of_error more got, Action.bind, Plan.action, got, Action.done]
  | ok page => simp [pullAction, pull_of_page more got, Action.bind, Plan.action, got]

theorem drainPendingAction_of_last {cursor : Cursor} (last : cursor.hasNext = false)
    (items : List Enrollment) : drainPendingAction ⟨cursor, items⟩ = .done (items.map .ok) := by
  funext σ transport state
  show drainPending transport state ⟨cursor, items⟩ = _
  rw [drainPending]
  simp [last, Action.done]

theorem drainPendingAction_of_more {cursor : Cursor} {items : List Enrollment}
    (more : cursor.hasNext = true) :
    drainPendingAction ⟨cursor, items⟩ = cursor.fetch.action.bind fun
      | .error error => .done (items.map .ok ++ [.error error])
      | .ok page => (drainPendingAction ⟨cursor.moveBehind page, page.items⟩).bind fun later =>
          .done (items.map .ok ++ later) := by
  funext σ transport state
  cases got : (cursor.fetch.run transport state).result with
  | error error =>
    simp [drainPendingAction, drainPending_of_error more got, Action.bind, Plan.action, got,
      Action.done]
  | ok page =>
    simp [drainPendingAction, drainPending_of_page more got, Action.bind, Plan.action, got,
      Action.done]

theorem exists_makes_pullAction (pending : Pending) (transport : Transport σ) (state : σ) :
    ∃ exchanges, (pullAction pending).Makes transport state exchanges := by
  have idle (result : Pulled × EnrollmentStream) (state : σ) :
      ∃ exchanges, (Action.done result).Makes transport state exchanges :=
    ⟨[], Action.makes_done result transport state⟩
  obtain ⟨cursor, items⟩ := pending
  induction state, cursor using Cursor.page_induction transport generalizing items with
  | last state cursor last =>
    cases items with
    | cons item rest => exact pullAction_cons cursor item rest ▸ idle _ state
    | nil => exact pullAction_of_last last ▸ idle _ state
  | failed state cursor error more got =>
    cases items with
    | cons item rest => exact pullAction_cons cursor item rest ▸ idle _ state
    | nil =>
      obtain ⟨exchanges, makes⟩ := cursor.readsAlike_fetch.exists_makes transport state
      rw [pullAction_of_more more]
      refine ⟨exchanges ++ [], makes.bind ?_⟩
      simp only [Plan.action, got]
      exact Action.makes_done _ transport _
  | page state cursor page more got ih =>
    cases items with
    | cons item rest => exact pullAction_cons cursor item rest ▸ idle _ state
    | nil =>
      obtain ⟨exchanges, makes⟩ := cursor.readsAlike_fetch.exists_makes transport state
      obtain ⟨further, later⟩ := ih page.items
      rw [pullAction_of_more more]
      refine ⟨exchanges ++ further, makes.bind ?_⟩
      simp only [Plan.action, got]
      exact later

theorem exists_makes_drainPendingAction (pending : Pending) (transport : Transport σ) (state : σ) :
    ∃ exchanges, (drainPendingAction pending).Makes transport state exchanges := by
  obtain ⟨cursor, items⟩ := pending
  induction state, cursor using Cursor.page_induction transport generalizing items with
  | last state cursor last =>
    rw [drainPendingAction_of_last last]
    exact ⟨[], Action.makes_done _ transport state⟩
  | failed state cursor error more got =>
    obtain ⟨exchanges, makes⟩ := cursor.readsAlike_fetch.exists_makes transport state
    rw [drainPendingAction_of_more more]
    refine ⟨exchanges ++ [], makes.bind ?_⟩
    simp only [Plan.action, got]
    exact Action.makes_done _ transport _
  | page state cursor page more got ih =>
    obtain ⟨exchanges, makes⟩ := cursor.readsAlike_fetch.exists_makes transport state
    obtain ⟨further, later⟩ := ih page.items
    rw [drainPendingAction_of_more more]
    refine ⟨exchanges ++ (further ++ []), makes.bind ?_⟩
    simp only [Plan.action, got]
    exact later.bind (Action.makes_done _ transport _)

theorem exists_makes_nextAction (stream : EnrollmentStream) (transport : Transport σ) (state : σ) :
    ∃ exchanges, stream.nextAction.Makes transport state exchanges := by
  obtain ⟨pending⟩ := stream
  cases pending with
  | none => exact ⟨[], Action.makes_done _ transport state⟩
  | some pending => exact exists_makes_pullAction pending transport state

theorem exists_makes_drainAction (stream : EnrollmentStream) (transport : Transport σ) (state : σ) :
    ∃ exchanges, stream.drainAction.Makes transport state exchanges := by
  obtain ⟨pending⟩ := stream
  cases pending with
  | none => exact ⟨[], Action.makes_done _ transport state⟩
  | some pending => exact exists_makes_drainPendingAction pending transport state

end EnrollmentStream

end DeviceEnrollment.Registry
