import DeviceEnrollment.Proofs.Registry.Exhaustion
import DeviceEnrollment.Registry.Stream

/-!
Streams beside cursors. Pulling the items of a stream one by one shows the calls of its cursor, one
after the other: each request, then the items of the page that answers it, and the end behind the
last page or the first failure (`stream_refines_cursor`).
-/
namespace DeviceEnrollment.Registry

variable {σ : Type}

/-! ### Page after page -/

/-- A call of a cursor: what it asked, and what came of it. -/
structure Fetched where
  requests : List Request
  outcome : Outcome Page

namespace Cursor

/-- One call, beside the requests that it makes. -/
def recorded (transport : Transport σ) (state : σ) (cursor : Cursor) :
    Ran (σ × List Request) (Outcome Page × Cursor) :=
  cursor.nextPage.run transport.recording (state, [])

theorem recorded_eq (transport : Transport σ) (state : σ) (cursor : Cursor) :
    cursor.recorded transport state =
      let ran := cursor.fetch.run transport.recording (state, [])
      ⟨ran.events, (ran.result, cursor.after ran.result), ran.state⟩ := by
  unfold recorded nextPage
  cases cursor.fetch <;> rfl

theorem responsesLeft_recorded_lt {transport : Transport σ} {state : σ} {cursor : Cursor}
    {page : Page} (got : (cursor.recorded transport state).result.1 = .ok page) :
    transport.responsesLeft (cursor.recorded transport state).state.1 <
      transport.responsesLeft state := by
  rw [recorded_eq] at got ⊢
  exact responsesLeft_fetch_lt got

/-- A call fails for want of a next page exactly if the cursor says that there is none, whatever the
answer to a request would be. -/
theorem settledBy_nextPage_eq_exhausted_iff (cursor : Cursor) (respond : Request → Answer) :
    (cursor.nextPage.settledBy respond).1 = .error .exhausted ↔ cursor.hasNext = false := by
  constructor
  · intro refused
    rw [settledBy_nextPage] at refused
    cases state : cursor.state with
    | exhausted => simp [hasNext, state]
    | ready =>
      cases prepared : cursor.headers? with
      | none =>
        simp only [fetch, state, prepared] at refused
        cases refused
      | some headers =>
        -- What a request comes to is never a refusal.
        have accountable : (Plan.send .query (cursor.request headers) readPageOf).IsAccountable :=
          Plan.isAccountable_send fun _ _ => protocol_of_readPageOf
        obtain ⟨unasked, _⟩ := accountable.request respond
        rw [settledBy_fetch state prepared] at refused
        cases unasked (.inr refused)
  · intro last
    cases state : cursor.state with
    | ready => simp [hasNext, state] at last
    | exhausted =>
      rw [nextPage_of_exhausted state]
      rfl

theorem recorded_eq_exhausted_iff (transport : Transport σ) (state : σ) (cursor : Cursor) :
    (cursor.recorded transport state).result.1 = .error .exhausted ↔ cursor.hasNext = false := by
  rw [recorded, (Plan.run_recording transport state cursor.nextPage).2]
  exact cursor.settledBy_nextPage_eq_exhausted_iff _

/-- The calls of a cursor until it has no next page or one of them fails, and the state in which
they leave the transport. -/
def readOut (transport : Transport σ) (state : σ) (cursor : Cursor) : List Fetched × σ :=
  if cursor.hasNext then
    let ran := cursor.recorded transport state
    match _ : ran.result.1 with
    | .error error => ([⟨ran.state.2, .error error⟩], ran.state.1)
    | .ok page =>
      let later := readOut transport ran.state.1 ran.result.2
      (⟨ran.state.2, .ok page⟩ :: later.1, later.2)
  else ([], state)
termination_by transport.responsesLeft state
decreasing_by exact responsesLeft_recorded_lt ‹_›

end Cursor

/-! ### Item after item -/

/-- What is seen of a stream from both sides: what it asks of the service, and what it gives. -/
inductive Observed where
  | asked (request : Request)
  | gave (pulled : Pulled)

/-- A call as a stream shows it. -/
def Fetched.observed (fetched : Fetched) : List Observed :=
  fetched.requests.map .asked ++
    match fetched.outcome with
    | .ok page => page.items.map fun item => .gave (.item item)
    | .error error => [.gave (.failed error)]

/-- What a caller gets of a call. -/
def Fetched.items (fetched : Fetched) : List (Outcome Enrollment) :=
  match fetched.outcome with
  | .ok page => page.items.map .ok
  | .error error => [.error error]

namespace EnrollmentStream

/-- What is seen of a number of pulls, and what they leave. -/
def watch (transport : Transport σ) (state : σ) (stream : EnrollmentStream) :
    Nat → List Observed × EnrollmentStream × σ
  | 0 => ([], stream, state)
  | pulls + 1 =>
    let ran := stream.next transport.recording (state, [])
    let later := watch transport ran.state.1 ran.result.2 pulls
    (ran.state.2.map .asked ++ .gave ran.result.1 :: later.1, later.2)

end EnrollmentStream

theorem Plan.run_recording_append {α : Type} (transport : Transport σ) (state : σ)
    (before after : List Request) (plan : Plan α) :
    plan.run transport.recording (state, before ++ after) =
      let ran := plan.run transport.recording (state, after)
      ⟨ran.events, ran.result, (ran.state.1, before ++ ran.state.2)⟩ := by
  cases plan with
  | settled result => rfl
  | exchange request conclude => simp [Plan.run, Transport.recording, List.append_assoc]

namespace EnrollmentStream

theorem pull_cons (transport : Transport σ) (state : σ) (cursor : Cursor) (item : Enrollment)
    (rest : List Enrollment) :
    pull transport state ⟨cursor, item :: rest⟩ =
      ⟨[], (.item item, ⟨some ⟨cursor, rest⟩⟩), state⟩ := by
  rw [pull]

theorem pull_of_last (transport : Transport σ) (state : σ) {cursor : Cursor}
    (last : cursor.hasNext = false) :
    pull transport state ⟨cursor, []⟩ = ⟨[], (.finished, ended), state⟩ := by
  rw [pull]
  simp [last]

theorem pull_of_error {transport : Transport σ} {state : σ} {cursor : Cursor}
    {error : RegistryError} (more : cursor.hasNext = true)
    (failed : (cursor.fetch.run transport state).result = .error error) :
    pull transport state ⟨cursor, []⟩ =
      ⟨(cursor.fetch.run transport state).events, (.failed error, ended),
        (cursor.fetch.run transport state).state⟩ := by
  rw [pull]
  simp only [more, if_true]
  split
  · next found same =>
    cases Except.error.inj (failed.symm.trans same)
    rfl
  · next page same =>
    cases failed.symm.trans same

theorem pull_of_page {transport : Transport σ} {state : σ} {cursor : Cursor} {page : Page}
    (more : cursor.hasNext = true)
    (got : (cursor.fetch.run transport state).result = .ok page) :
    pull transport state ⟨cursor, []⟩ =
      let ran := cursor.fetch.run transport state
      let pulled := pull transport ran.state ⟨cursor.moveBehind page, page.items⟩
      ⟨ran.events ++ pulled.events, pulled.result, pulled.state⟩ := by
  rw [pull]
  simp only [more, if_true]
  split
  · next found same => cases got.symm.trans same
  · next found same =>
    cases Except.ok.inj (got.symm.trans same)
    rfl

/-- Requests that were recorded before a pull stay in front. -/
theorem pull_recording_append (transport : Transport σ) (state : σ)
    (before after : List Request) (pending : Pending) :
    pull transport.recording (state, before ++ after) pending =
      let ran := pull transport.recording (state, after) pending
      ⟨ran.events, ran.result, (ran.state.1, before ++ ran.state.2)⟩ := by
  obtain ⟨cursor, items⟩ := pending
  induction left : transport.responsesLeft state using Nat.strongRecOn
    generalizing state after cursor items with
  | _ count ih =>
    cases items with
    | cons item rest => rw [pull_cons, pull_cons]
    | nil =>
      have appended := Plan.run_recording_append transport state before after cursor.fetch
      cases more : cursor.hasNext with
      | false => rw [pull_of_last _ _ more, pull_of_last _ _ more]
      | true =>
        cases got : (cursor.fetch.run transport.recording (state, after)).result with
        | error error =>
          have failed : (cursor.fetch.run transport.recording
              (state, before ++ after)).result = .error error := by
            rw [appended]
            exact got
          rw [pull_of_error more failed, pull_of_error more got, appended]
        | ok page =>
          have same : (cursor.fetch.run transport.recording
              (state, before ++ after)).result = .ok page := by
            rw [appended]
            exact got
          have fewer := Cursor.responsesLeft_fetch_lt got
          rw [pull_of_page more same, pull_of_page more got, appended]
          simp only
          rw [ih _ (left ▸ fewer) _ _ _ _ rfl]

end EnrollmentStream

/-! ### The stream of a cursor -/

namespace Cursor

variable {transport : Transport σ} {state : σ} {cursor : Cursor}

theorem recorded_of_run (transport : Transport σ) (state : σ) (cursor : Cursor) :
    (cursor.recorded transport state).result.1 = (cursor.fetch.run transport state).result ∧
      (cursor.recorded transport state).state.1 = (cursor.fetch.run transport state).state := by
  rw [recorded_eq]
  cases cursor.fetch <;> exact ⟨rfl, rfl⟩

theorem recorded_moved {page : Page} (got : (cursor.recorded transport state).result.1 = .ok page) :
    (cursor.recorded transport state).result.2 = cursor.moveBehind page := by
  rw [recorded_eq] at got ⊢
  exact congrArg cursor.after got

theorem readOut_of_last (last : cursor.hasNext = false) :
    cursor.readOut transport state = ([], state) := by
  rw [readOut]
  simp [last]

theorem readOut_of_error {error : RegistryError} (more : cursor.hasNext = true)
    (failed : (cursor.recorded transport state).result.1 = .error error) :
    cursor.readOut transport state =
      ([⟨(cursor.recorded transport state).state.2, .error error⟩],
        (cursor.recorded transport state).state.1) := by
  rw [readOut]
  simp only [more, if_true]
  split
  · next found same =>
    cases Except.error.inj (failed.symm.trans same)
    rfl
  · next page same => cases failed.symm.trans same

theorem readOut_of_page {page : Page} (more : cursor.hasNext = true)
    (got : (cursor.recorded transport state).result.1 = .ok page) :
    cursor.readOut transport state =
      let ran := cursor.recorded transport state
      let later := ran.result.2.readOut transport ran.state.1
      (⟨ran.state.2, .ok page⟩ :: later.1, later.2) := by
  rw [readOut]
  simp only [more, if_true]
  split
  · next found same => cases got.symm.trans same
  · next found same =>
    cases Except.ok.inj (got.symm.trans same)
    rfl

/-- The calls of a cursor are made until one of them fails. If it fails as exhausted there was
nothing left to ask. -/
theorem readOut_eq (transport : Transport σ) (state : σ) (cursor : Cursor) :
    cursor.readOut transport state =
      let ran := cursor.recorded transport state
      match ran.result.1 with
      | .ok page =>
        let later := ran.result.2.readOut transport ran.state.1
        (⟨ran.state.2, .ok page⟩ :: later.1, later.2)
      | .error .exhausted => ([], state)
      | .error error => ([⟨ran.state.2, .error error⟩], ran.state.1) := by
  have exhausted := recorded_eq_exhausted_iff transport state cursor
  dsimp only
  cases more : cursor.hasNext with
  | false => rw [readOut_of_last more, exhausted.2 more]
  | true =>
    split
    · next page got => exact readOut_of_page more got
    · next refused => simp [exhausted.1 refused] at more
    · next error _ failed => exact readOut_of_error more failed

end Cursor

namespace EnrollmentStream

theorem next_pending (transport : Transport σ) (state : σ) (pending : Pending) :
    next transport state ⟨some pending⟩ = pull transport state pending := rfl

theorem watch_ended (transport : Transport σ) (state : σ) (pulls : Nat) :
    ended.watch transport state pulls =
      (List.replicate pulls (.gave .finished), ended, state) := by
  induction pulls with
  | zero => rfl
  | succ pulls ih =>
    rw [watch]
    simp only [next, ended] at ih ⊢
    rw [ih]
    rfl

/-- A pull that behaves like another one behind some requests shows these requests first. -/
theorem watch_of_next {transport : Transport σ} {state : σ} {stream : EnrollmentStream}
    (later : σ) (other : EnrollmentStream) (requests : List Request)
    (result : (stream.next transport.recording (state, [])).result =
      (other.next transport.recording (later, [])).result)
    (ran : (stream.next transport.recording (state, [])).state =
      ((other.next transport.recording (later, [])).state.1,
        requests ++ (other.next transport.recording (later, [])).state.2)) (pulls : Nat) :
    stream.watch transport state (pulls + 1) =
      let watched := other.watch transport later (pulls + 1)
      (requests.map .asked ++ watched.1, watched.2) := by
  rw [watch, watch, result, ran]
  simp

/-- Pulling shows the items that are still there and then the calls of the cursor. -/
theorem exists_watch (transport : Transport σ) (state : σ) (cursor : Cursor)
    (items : List Enrollment) :
    ∃ pulls, watch transport state ⟨some ⟨cursor, items⟩⟩ (pulls + 1) =
      (items.map (fun item => .gave (.item item)) ++
          (cursor.readOut transport state).1.flatMap Fetched.observed ++ [.gave .finished],
        ended, (cursor.readOut transport state).2) := by
  induction left : transport.responsesLeft state using Nat.strongRecOn
    generalizing state cursor items with
  | _ count ih =>
    induction items with
    | cons item rest inner =>
      obtain ⟨pulls, watched⟩ := inner
      refine ⟨pulls + 1, ?_⟩
      rw [watch, next_pending, pull_cons, watched]
      rfl
    | nil =>
      cases more : cursor.hasNext with
      | false =>
        refine ⟨0, ?_⟩
        rw [watch, next_pending, pull_of_last _ _ more, Cursor.readOut_of_last more]
        rfl
      | true =>
        have recorded := Cursor.recorded_eq transport state cursor
        cases got : (cursor.fetch.run transport.recording (state, [])).result with
        | error error =>
          have failed : (cursor.recorded transport state).result.1 = .error error := by
            rw [recorded]
            exact got
          refine ⟨1, ?_⟩
          rw [watch, next_pending, pull_of_error more got,
            Cursor.readOut_of_error more failed, recorded, watch_ended]
          simp [Fetched.observed]
        | ok page =>
          have same : (cursor.recorded transport state).result.1 = .ok page := by
            rw [recorded]
            exact got
          have fewer := Cursor.responsesLeft_recorded_lt same
          obtain ⟨pulls, watched⟩ := ih _ (left ▸ fewer) _ (cursor.moveBehind page) page.items rfl
          have pulled := pull_of_page more got
          have behind := pull_recording_append transport
            (cursor.fetch.run transport.recording (state, [])).state.1
            (cursor.fetch.run transport.recording (state, [])).state.2 []
            ⟨cursor.moveBehind page, page.items⟩
          rw [List.append_nil] at behind
          refine ⟨pulls, ?_⟩
          rw [watch_of_next (cursor.recorded transport state).state.1
            ⟨some ⟨cursor.moveBehind page, page.items⟩⟩
            (cursor.recorded transport state).state.2, watched, Cursor.readOut_of_page more same]
          · simp [Cursor.recorded_moved same, Fetched.observed]
          · rw [next_pending, next_pending, recorded, pulled]
            dsimp only
            rw [behind]
          · rw [next_pending, next_pending, recorded, pulled]
            dsimp only
            rw [behind]

theorem drainPending_of_error {transport : Transport σ} {state : σ} {cursor : Cursor}
    {items : List Enrollment} {error : RegistryError} (more : cursor.hasNext = true)
    (failed : (cursor.fetch.run transport state).result = .error error) :
    drainPending transport state ⟨cursor, items⟩ =
      ⟨(cursor.fetch.run transport state).events, items.map .ok ++ [.error error],
        (cursor.fetch.run transport state).state⟩ := by
  rw [drainPending]
  simp only [more, if_true]
  split
  · next found same =>
    cases Except.error.inj (failed.symm.trans same)
    rfl
  · next page same => cases failed.symm.trans same

theorem drainPending_of_page {transport : Transport σ} {state : σ} {cursor : Cursor}
    {items : List Enrollment} {page : Page} (more : cursor.hasNext = true)
    (got : (cursor.fetch.run transport state).result = .ok page) :
    drainPending transport state ⟨cursor, items⟩ =
      let ran := cursor.fetch.run transport state
      let drained := drainPending transport ran.state ⟨cursor.moveBehind page, page.items⟩
      ⟨ran.events ++ drained.events, items.map .ok ++ drained.result, drained.state⟩ := by
  rw [drainPending]
  simp only [more, if_true]
  split
  · next found same => cases got.symm.trans same
  · next found same =>
    cases Except.ok.inj (got.symm.trans same)
    rfl

/-- Draining gives the items that are still there and then those of the calls of the cursor. -/
theorem drainPending_eq (transport : Transport σ) (state : σ) (cursor : Cursor)
    (items : List Enrollment) :
    (drainPending transport state ⟨cursor, items⟩).result =
        items.map .ok ++ (cursor.readOut transport state).1.flatMap Fetched.items ∧
      (drainPending transport state ⟨cursor, items⟩).state =
        (cursor.readOut transport state).2 := by
  -- Every page uses up an answer, an empty one too.
  induction left : transport.responsesLeft state using Nat.strongRecOn
    generalizing state cursor items with
  | _ count ih =>
    cases more : cursor.hasNext with
    | false =>
      rw [drainPending, Cursor.readOut_of_last more]
      simp [more]
    | true =>
      obtain ⟨result, after⟩ := Cursor.recorded_of_run transport state cursor
      cases got : (cursor.fetch.run transport state).result with
      | error error =>
        rw [drainPending_of_error more got, Cursor.readOut_of_error more (result.trans got), after]
        simp [Fetched.items]
      | ok page =>
        have same := result.trans got
        have moved := Cursor.recorded_moved same
        obtain ⟨later, ends⟩ := ih _ (left ▸ Cursor.responsesLeft_fetch_lt got) _
          (cursor.moveBehind page) page.items rfl
        rw [drainPending_of_page more got, Cursor.readOut_of_page more same]
        dsimp only
        rw [after, moved, later, ends]
        exact ⟨by simp [Fetched.items], rfl⟩

end EnrollmentStream

/-- A stream shows what its cursor would: each call asks what `nextPage` asks, gives the items of
its page before the next call is made, and the last thing behind them is the end. After the last
page or the first failure nothing is asked any more. Whoever takes all of it at once gets the same
items and the same failure. -/
theorem stream_refines_cursor (transport : Transport σ) (state : σ) (cursor : Cursor) :
    let read := cursor.readOut transport state
    let stream := EnrollmentStream.ofCursor cursor
    (∃ pulls, stream.watch transport state pulls =
      (read.1.flatMap Fetched.observed ++ [.gave .finished], .ended, read.2)) ∧
      (∀ pulls, EnrollmentStream.ended.watch transport read.2 pulls =
        (List.replicate pulls (.gave .finished), .ended, read.2)) ∧
      (stream.drain transport state).result = read.1.flatMap Fetched.items ∧
      (stream.drain transport state).state = read.2 := by
  intro read stream
  obtain ⟨pulls, watched⟩ := EnrollmentStream.exists_watch transport state cursor []
  exact ⟨⟨pulls + 1, watched⟩, EnrollmentStream.watch_ended transport read.2,
    EnrollmentStream.drainPending_eq transport state cursor []⟩

/-- A listing of two records with an empty page between theirs. -/
def emptyBetween : Script :=
  .ofAnswers [
    .ok ⟨.ok, Http.HeaderMap.empty.insert .continuation (.ofVisible "t1"),
      Bytes.ofText "[\x7b\"registrationId\":\"dev-1\"\x7d]"⟩,
    .ok ⟨.ok, Http.HeaderMap.empty.insert .continuation (.ofVisible "t2"), Bytes.ofText "[]"⟩,
    .ok ⟨.ok, .empty, Bytes.ofText "[\x7b\"registrationId\":\"dev-2\"\x7d]"⟩]

-- The second pull makes two requests, since the page of the first of them has no item.
example :
    let stream := EnrollmentStream.ofCursor ⟨⟨"SELECT *"⟩, 10, none, .ready⟩
    (stream.watch Script.transport emptyBetween 3).1.map (fun
      | .asked request => Sum.inl (request.headers.text? .continuation)
      | .gave pulled => Sum.inr pulled) =
      [.inl none, .inr (.item (.ofId "dev-1")), .inl (some "t1"), .inl (some "t2"),
        .inr (.item (.ofId "dev-2")), .inr .finished] := by
  cbv

end DeviceEnrollment.Registry
