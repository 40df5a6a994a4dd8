import DeviceEnrollment.Proofs.Registry.Replay
import DeviceEnrollment.Registry.Session

/-!
Sessions in which calls take turns. A call knows nothing of a session but what stands under its own
name, so each cursor goes the way that its own calls and their answers lead it
(`calls_independent`).
-/
namespace DeviceEnrollment.Registry

/-! ### Slots -/

namespace Slots

variable {α : Type}

theorem get?_remove (slots : Slots α) (name other : String) :
    (slots.remove name).get? other = if other = name then none else slots.get? other := by
  unfold remove get?
  induction slots with
  | nil => simp
  | cons slot rest ih =>
    obtain ⟨key, value⟩ := slot
    by_cases kept : key = name
    · subst kept
      by_cases same : other = key
      · simpa [same] using ih
      · simpa [same, List.lookup_cons, beq_eq_false_iff_ne.2 same] using ih
    · by_cases found : other = key
      · subst found
        simp [kept]
      · simp [kept, List.lookup_cons, beq_eq_false_iff_ne.2 found, ih]

theorem get?_set (slots : Slots α) (name other : String) (value : α) :
    (slots.set name value).get? other = if other = name then some value else slots.get? other := by
  have removed := get?_remove slots name other
  unfold get? at removed ⊢
  by_cases same : other = name
  · simp [set, same]
  · rw [if_neg same] at removed ⊢
    simp [set, List.lookup_cons, beq_eq_false_iff_ne.2 same, removed]

/-- The slots with nothing left but what stands under one name. -/
def only (slots : Slots α) (name : String) : Slots α := slots.filter fun slot => slot.1 = name

theorem get?_only (slots : Slots α) (name : String) :
    (slots.only name).get? name = slots.get? name := by
  unfold only get?
  induction slots with
  | nil => rfl
  | cons slot rest ih =>
    obtain ⟨key, value⟩ := slot
    by_cases same : key = name
    · simp [same]
    · simp [same, List.lookup_cons, beq_eq_false_iff_ne.2 (Ne.symm same), ih]

inductive Change (α : Type) where
  | keep
  | set (value : α)
  | remove

/-- Changes the slot of a name, if there is a name. -/
def apply (name : Option String) (change : Change α) (slots : Slots α) : Slots α :=
  match name, change with
  | some name, .set value => slots.set name value
  | some name, .remove => slots.remove name
  | _, _ => slots

theorem get?_apply_congr {first second : Slots α} {other : String}
    (same : first.get? other = second.get? other) (name : Option String) (change : Change α) :
    (first.apply name change).get? other = (second.apply name change).get? other := by
  cases name with
  | none => exact same
  | some name =>
    cases change with
    | keep => exact same
    | set value => rw [apply, apply, get?_set, get?_set, same]
    | remove => rw [apply, apply, get?_remove, get?_remove, same]

theorem get?_apply_of_ne {name : Option String} {other : String} (differs : name ≠ some other)
    (change : Change α) (slots : Slots α) :
    (slots.apply name change).get? other = slots.get? other := by
  cases name with
  | none => rfl
  | some name =>
    have apart : other ≠ name := fun same => differs (congrArg some same.symm)
    cases change with
    | keep => rfl
    | set value => rw [apply, get?_set, if_neg apart]
    | remove => rw [apply, get?_remove, if_neg apart]

theorem get?_or_eq_set_of_get?_apply {name : Option String} {other : String} {change : Change α}
    {slots : Slots α} {value : α} (found : (slots.apply name change).get? other = some value) :
    slots.get? other = some value ∨ change = .set value := by
  cases name with
  | none => exact .inl found
  | some name =>
    cases change with
    | keep => exact .inl found
    | set held =>
      rw [apply, get?_set] at found
      split at found
      · exact .inr (congrArg Change.set (Option.some.inj found))
      · exact .inl found
    | remove =>
      rw [apply, get?_remove] at found
      split at found
      · cases found
      · exact .inl found

end Slots

/-! ### Calls under a name -/

/-- The name that a call is about, if it is about one. -/
def Call.slot? : Call → Option String
  | createQuery slot _ _ | nextPage slot | showQuery slot | intoStream slot | streamNext slot
  | streamAll slot => some slot
  | _ => none

def Call.isAbout (name : String) (call : Call) : Bool := call.slot? = some name

/-- Whether a call goes on with what stands under its name. -/
def Call.isResumption : Call → Bool
  | nextPage _ | showQuery _ | intoStream _ | streamNext _ | streamAll _ => true
  | _ => false

/-- What a call comes to, and what becomes of the cursor and the stream under its name. -/
structure Effect where
  result : CallResult
  cursor : Slots.Change Cursor
  stream : Slots.Change EnrollmentStream

def Effect.plain (result : CallResult) : Effect := ⟨result, .keep, .keep⟩

/-- What a call does if this cursor and this stream stand under its name. -/
def Call.action (cursor : Option Cursor) (stream : Option EnrollmentStream) :
    Call → Action Effect
  | createOrUpdate enrollment =>
    (Registry.createOrUpdate enrollment).action.map fun result => .plain (.enrollment result)
  | get id => (Registry.get id).action.map fun result => .plain (.enrollment result)
  | delete enrollment =>
    (Registry.delete enrollment).action.map fun result => .plain (.deleted result)
  | deleteById id etag =>
    (Registry.deleteById id etag).action.map fun result => .plain (.deleted result)
  | bulk mode batch => (bulkOperation mode batch).action.map fun result => .plain (.bulk result)
  | createQuery _ specification pageSize =>
    match Registry.createQuery specification pageSize with
    | .error error => .done (.plain (.created (.error error)))
    | .ok cursor => .done ⟨.created (.ok ()), .set cursor, .keep⟩
  | nextPage _ =>
    match cursor with
    | none => .done (.plain .noSuchQuery)
    | some cursor => cursor.nextPage.action.map fun result => ⟨.page result.1, .set result.2, .keep⟩
  | showQuery _ =>
    match cursor with
    | none => .done (.plain .noSuchQuery)
    | some cursor => .done (.plain (.shown cursor.text))
  | intoStream _ =>
    match cursor with
    | none => .done (.plain .noSuchQuery)
    | some cursor => .done ⟨.streaming, .remove, .set (.ofCursor cursor)⟩
  | streamNext _ =>
    match stream with
    | none => .done (.plain .noSuchQuery)
    | some stream => stream.nextAction.map fun result => ⟨.pulled result.1, .keep, .set result.2⟩
  | streamAll _ =>
    match stream with
    | none => .done (.plain .noSuchQuery)
    | some stream => stream.drainAction.map fun result => ⟨.drained result, .keep, .remove⟩

/-- A call that goes on with nothing does not depend on what stands under its name. -/
theorem Call.action_of_fresh {call : Call} (fresh : call.isResumption = false)
    (cursor other : Option Cursor) (stream another : Option EnrollmentStream) :
    call.action cursor stream = call.action other another := by
  cases call <;> first | rfl | cases fresh

variable {σ τ α β : Type}

theorem Call.exists_makes (call : Call) (cursor : Option Cursor) (stream : Option EnrollmentStream)
    (transport : Transport σ) (state : σ) :
    ∃ exchanges, (call.action cursor stream).Makes transport state exchanges := by
  have planned {α : Type} {plan : Plan α} (reads : plan.ReadsAlike) (f : α → Effect) :
      ∃ exchanges, (plan.action.map f).Makes transport state exchanges := by
    obtain ⟨exchanges, makes⟩ := reads.exists_makes transport state
    exact ⟨exchanges, makes.map f⟩
  have idle (effect : Effect) : ∃ exchanges, (Action.done effect).Makes transport state exchanges :=
    ⟨[], Action.makes_done effect transport state⟩
  cases call with
  | createOrUpdate enrollment =>
    rw [action]
    exact planned (readsAlike_createOrUpdate enrollment) _
  | get id =>
    rw [action]
    exact planned (readsAlike_get id) _
  | delete enrollment =>
    rw [action]
    exact planned (readsAlike_deleteById enrollment.registrationId enrollment.etag) _
  | deleteById id etag =>
    rw [action]
    exact planned (readsAlike_deleteById id etag) _
  | bulk mode batch =>
    rw [action]
    exact planned (readsAlike_bulkOperation mode batch) _
  | createQuery slot specification pageSize =>
    simp only [action]
    split <;> exact idle _
  | nextPage slot =>
    cases cursor with
    | none => exact idle (.plain .noSuchQuery)
    | some cursor =>
      simp only [action]
      exact planned cursor.readsAlike_nextPage _
  | showQuery slot =>
    simp only [action]
    split <;> exact idle _
  | intoStream slot =>
    simp only [action]
    split <;> exact idle _
  | streamNext slot =>
    cases stream with
    | none => exact idle (.plain .noSuchQuery)
    | some stream =>
      obtain ⟨exchanges, makes⟩ := stream.exists_makes_nextAction transport state
      simp only [action]
      exact ⟨exchanges, makes.map _⟩
  | streamAll slot =>
    cases stream with
    | none => exact idle (.plain .noSuchQuery)
    | some stream =>
      obtain ⟨exchanges, makes⟩ := stream.exists_makes_drainAction transport state
      simp only [action]
      exact ⟨exchanges, makes.map _⟩

namespace Session

def action (session : Session σ) (call : Call) : Action Effect :=
  call.action (call.slot? >>= session.cursors.get?) (call.slot? >>= session.streams.get?)

def affected (session : Session σ) (call : Call) (effect : Effect) (state : τ) : Session τ :=
  ⟨state, session.cursors.apply call.slot? effect.cursor,
    session.streams.apply call.slot? effect.stream⟩

/-- A call takes from a session what stands under its name, and changes nothing else. -/
theorem step_eq (transport : Transport σ) (session : Session σ) (call : Call) :
    session.step transport call =
      let ran := session.action call σ transport session.transport
      ⟨ran.events, ran.result.result, session.affected call ran.result ran.state⟩ := by
  cases call with
  | createQuery slot specification pageSize =>
    cases made : Registry.createQuery specification pageSize <;>
      simp only [step, createQuery, action, Call.action, made] <;> rfl
  | nextPage slot =>
    cases held : session.cursors.get? slot <;>
      simp only [step, nextPage, action, Call.action, Call.slot?, bind, Option.bind, held] <;> rfl
  | showQuery slot =>
    cases held : session.cursors.get? slot <;>
      simp only [step, showQuery, action, Call.action, Call.slot?, bind, Option.bind, held] <;> rfl
  | intoStream slot =>
    cases held : session.cursors.get? slot <;>
      simp only [step, intoStream, action, Call.action, Call.slot?, bind, Option.bind, held] <;> rfl
  | streamNext slot =>
    cases held : session.streams.get? slot <;>
      simp only [step, streamNext, action, Call.action, Call.slot?, bind, Option.bind, held] <;> rfl
  | streamAll slot =>
    cases held : session.streams.get? slot <;>
      simp only [step, streamAll, action, Call.action, Call.slot?, bind, Option.bind, held] <;> rfl
  | _ => rfl

/-- Whether two sessions hold the same under a name. -/
structure AgreesOn (name : String) (first : Session σ) (second : Session τ) : Prop where
  cursor : first.cursors.get? name = second.cursors.get? name
  stream : first.streams.get? name = second.streams.get? name

theorem action_eq {first : Session σ} {second : Session τ} {call : Call}
    (agrees : ∀ name, call.slot? = some name → first.AgreesOn name second) :
    first.action call = second.action call := by
  unfold action
  cases about : call.slot? with
  | none => rfl
  | some name =>
    obtain ⟨cursor, stream⟩ := agrees name about
    simp only [bind, Option.bind, cursor, stream]

namespace AgreesOn

variable {name : String} {first : Session σ} {second : Session τ}

theorem affected (agrees : first.AgreesOn name second) (call : Call) (effect : Effect)
    (state : α) (other : β) :
    (first.affected call effect state).AgreesOn name (second.affected call effect other) := by
  constructor
  · exact Slots.get?_apply_congr agrees.cursor call.slot? effect.cursor
  · exact Slots.get?_apply_congr agrees.stream call.slot? effect.stream

end AgreesOn

/-- Calls about other names leave what stands under a name as it is. -/
theorem agreesOn_affected {call : Call} {name : String} (differs : call.slot? ≠ some name)
    (session : Session σ) (effect : Effect) (state : τ) :
    (session.affected call effect state).AgreesOn name session :=
  ⟨Slots.get?_apply_of_ne differs effect.cursor session.cursors,
    Slots.get?_apply_of_ne differs effect.stream session.streams⟩

end Session

/-! ### Calls as they are seen -/

/-- A call, what came of it, and the exchanges that it took. -/
structure Seen where
  call : Call
  result : CallResult
  exchanges : List Exchanged

def Seen.answers (seen : Seen) : List Answer := seen.exchanges.map Exchanged.answer

namespace Session

/-- Makes calls in order and notes the exchanges of each. -/
def watch (transport : Transport σ) (session : Session σ) : List Call → List Seen × Session σ
  | [] => ([], session)
  | call :: rest =>
    let logged : Session (σ × List Exchanged) :=
      ⟨(session.transport, []), session.cursors, session.streams⟩
    let step := logged.step transport.logging call
    let next : Session σ := ⟨step.session.transport.1, step.session.cursors, step.session.streams⟩
    let later := watch transport next rest
    (⟨call, step.result, step.session.transport.2⟩ :: later.1, later.2)

/-- A call that makes some exchanges goes the same way with every transport that gives the same
answers. -/
theorem watch_of_makes {transport : Transport σ} {state : σ} {other : Transport τ}
    {session : Session τ} {call : Call} {exchanges : List Exchanged} {final : τ}
    (makes : (session.action call).Makes transport state exchanges)
    (gives : other.Gives Eq exchanges session.transport final) (rest : List Call) :
    session.watch other (call :: rest) =
      let effect := (session.action call σ transport state).result
      let later := (session.affected call effect final).watch other rest
      (⟨call, effect.result, exchanges⟩ :: later.1, later.2) := by
  obtain ⟨same, reached⟩ := makes.repeated other.logging (gives.logging []).alike
  rw [watch, step_eq]
  simp only [affected, action] at same reached ⊢
  rw [same, reached]
  rfl

theorem exists_watch_cons (transport : Transport σ) (session : Session σ) (call : Call)
    (rest : List Call) :
    ∃ exchanges, (session.action call).Makes transport session.transport exchanges ∧
      session.watch transport (call :: rest) =
        let step := session.step transport call
        let later := step.session.watch transport rest
        (⟨call, step.result, exchanges⟩ :: later.1, later.2) := by
  obtain ⟨exchanges, makes⟩ := call.exists_makes _ _ transport session.transport
  refine ⟨exchanges, makes, ?_⟩
  rw [watch_of_makes makes makes.made, step_eq]
  rfl

theorem result_watch (transport : Transport σ) (session : Session σ) (calls : List Call) :
    (session.watch transport calls).1.map Seen.result =
      (session.run transport calls).map Step.result := by
  induction calls generalizing session with
  | nil => rfl
  | cons call rest ih =>
    obtain ⟨exchanges, _, watched⟩ := session.exists_watch_cons transport call rest
    rw [watched, run]
    simp [ih]

theorem gives_watch (transport : Transport σ) (session : Session σ) (calls : List Call) :
    transport.Gives Eq ((session.watch transport calls).1.flatMap Seen.exchanges)
      session.transport (session.watch transport calls).2.transport := by
  induction calls generalizing session with
  | nil => exact .nil session.transport
  | cons call rest ih =>
    obtain ⟨exchanges, makes, watched⟩ := session.exists_watch_cons transport call rest
    have later := ih (session.step transport call).session
    rw [watched, List.flatMap_cons]
    rw [step_eq] at later ⊢
    exact makes.made.append later

/-- A session goes the same way with every transport that gives answers like these. -/
theorem run_of_gives {transport : Transport σ} {session : Session σ} {other : Transport τ}
    {again : Session τ} {final : τ} {calls : List Call}
    (agrees : ∀ name, again.AgreesOn name session)
    (gives : other.Gives Alike ((session.watch transport calls).1.flatMap Seen.exchanges)
      again.transport final) :
    (again.run other calls).map Step.result = (session.run transport calls).map Step.result := by
  induction calls generalizing session again with
  | nil => rfl
  | cons call rest ih =>
    obtain ⟨exchanges, makes, watched⟩ := session.exists_watch_cons transport call rest
    rw [watched, List.flatMap_cons] at gives
    obtain ⟨middle, own, later⟩ := gives.exists_of_append
    have same : again.action call = session.action call := action_eq fun name _ => agrees name
    obtain ⟨result, reached⟩ := makes.repeated other own
    rw [run, run, step_eq other, step_eq transport] at *
    simp only [List.map_cons, same, result, reached] at later ⊢
    rw [ih (fun name => (agrees name).affected call _ middle _) later]

/-- The calls about one name go the same way without the others. -/
theorem watch_isAbout {name : String} {transport : Transport σ} {session : Session σ}
    {other : Transport τ} {alone : Session τ} {final : τ} {calls : List Call}
    (agrees : alone.AgreesOn name session)
    (gives : other.Gives Eq (((session.watch transport calls).1.filter
      fun seen => seen.call.isAbout name).flatMap Seen.exchanges) alone.transport final) :
    (alone.watch other (calls.filter (Call.isAbout name))).1 =
        (session.watch transport calls).1.filter (fun seen => seen.call.isAbout name) ∧
      (alone.watch other (calls.filter (Call.isAbout name))).2.AgreesOn name
        (session.watch transport calls).2 := by
  induction calls generalizing session alone with
  | nil => exact ⟨rfl, agrees⟩
  | cons call rest ih =>
    obtain ⟨exchanges, makes, watched⟩ := session.exists_watch_cons transport call rest
    rw [watched] at gives ⊢
    rw [step_eq] at gives ⊢
    by_cases about : call.slot? = some name
    -- The call finds the same under its name, and the same answers come to its requests.
    · simp only [List.filter_cons, Call.isAbout, about, decide_true, if_true,
        List.flatMap_cons] at gives ⊢
      obtain ⟨middle, own, later⟩ := gives.exists_of_append
      have same : alone.action call = session.action call := by
        refine action_eq fun other also => ?_
        cases Option.some.inj (about.symm.trans also)
        exact agrees
      rw [watch_of_makes (same ▸ makes) own]
      obtain ⟨equal, left⟩ := ih (agrees.affected call _ middle _) later
      rw [same]
      exact ⟨congrArg _ equal, left⟩
    -- Another call leaves what stands under the name, and its requests are left out.
    · simp only [List.filter_cons, Call.isAbout, about, decide_false, Bool.false_eq_true,
        if_false] at gives ⊢
      have kept := agreesOn_affected about session
        (session.action call σ transport session.transport).result
        (session.action call σ transport session.transport).state
      exact ih ⟨agrees.cursor.trans kept.cursor.symm, agrees.stream.trans kept.stream.symm⟩ gives

theorem exists_makes_of_mem {transport : Transport σ} {session : Session σ} {calls : List Call}
    {seen : Seen} (member : seen ∈ (session.watch transport calls).1) :
    ∃ cursor stream state, (seen.call.action cursor stream).Makes transport state seen.exchanges ∧
      seen.result = (seen.call.action cursor stream σ transport state).result.result := by
  induction calls generalizing session with
  | nil => cases member
  | cons call rest ih =>
    obtain ⟨exchanges, makes, watched⟩ := session.exists_watch_cons transport call rest
    rw [watched] at member
    rcases List.mem_cons.1 member with same | later
    · subst same
      exact ⟨_, _, _, makes, by rw [step_eq]; rfl⟩
    · exact ih later

end Session

/-- In a session whose calls take turns, the calls about one name, with their results, their
requests and what they leave under the name, are those of a session with nothing but these calls,
which gets the answers to their requests from a script. Any other call, and any call that makes a
cursor, is the only call of such a session: its own arguments and the answers to its own requests
settle it. -/
theorem calls_independent (transport : Transport σ) (session : Session σ) (calls : List Call) :
    let watched := session.watch transport calls
    watched.1.map Seen.result = (session.run transport calls).map Session.Step.result ∧
      (∀ name,
        let own := watched.1.filter fun seen => seen.call.isAbout name
        let alone : Session Script := ⟨.ofAnswers (own.flatMap Seen.answers),
          session.cursors.only name, session.streams.only name⟩
        let replayed := alone.watch Script.transport (calls.filter (Call.isAbout name))
        replayed.1 = own ∧
          replayed.2.cursors.get? name = watched.2.cursors.get? name ∧
          replayed.2.streams.get? name = watched.2.streams.get? name) ∧
      ∀ seen ∈ watched.1, seen.call.isResumption = false →
        ((Session.ofTransport (.ofAnswers seen.answers)).watch Script.transport [seen.call]).1 =
          [seen] := by
  intro watched
  refine ⟨session.result_watch transport calls, fun name => ?_, fun seen member fresh => ?_⟩
  · intro own alone replayed
    have gives := Script.gives_answers (own.flatMap Seen.exchanges) []
    rw [List.map_flatMap] at gives
    have agrees : alone.AgreesOn name session :=
      ⟨Slots.get?_only session.cursors name, Slots.get?_only session.streams name⟩
    obtain ⟨same, left⟩ := Session.watch_isAbout agrees gives
    exact ⟨same, left.cursor, left.stream⟩
  · obtain ⟨cursor, stream, state, makes, result⟩ := Session.exists_makes_of_mem member
    have idle : (Session.ofTransport (Script.ofAnswers seen.answers)).action seen.call =
        seen.call.action cursor stream := Call.action_of_fresh fresh _ _ _ _
    rw [Session.watch_of_makes (idle ▸ makes) (Script.gives_answers seen.exchanges []), idle]
    show [Seen.mk seen.call _ seen.exchanges] = [seen]
    rw [← result]

/-- A page without items that names a token. -/
def emptyPage (token : String) : Answer :=
  .ok ⟨.ok, Http.HeaderMap.empty.insert .continuation (.ofVisible token), Bytes.ofText "[]"⟩

/-- Two cursors of one specification take turns, with a call of another kind in between. -/
def takingTurns : List Call :=
  [.createQuery "a" ⟨"SELECT *"⟩ 10, .createQuery "b" ⟨"SELECT *"⟩ 10, .nextPage "a",
    .get "dev-1", .nextPage "b", .nextPage "a"]

/-- Each cursor holds the token of its own last page, the first one asks for its second page as if
it were alone, and the call in between fails as its own answer says. -/
theorem calls_independent_turns :
    let answers := [emptyPage "a1", .error (.ofText "connection reset"), emptyPage "b1",
      emptyPage "a2"]
    let watched := (Session.ofTransport (.ofAnswers answers)).watch Script.transport takingTurns
    let alone := (Session.ofTransport (.ofAnswers [emptyPage "a1", emptyPage "a2"])).watch
      Script.transport (takingTurns.filter (Call.isAbout "a"))
    alone.1 = watched.1.filter (fun seen => seen.call.isAbout "a") ∧
      watched.2.cursors.get? "a" = some ⟨⟨"SELECT *"⟩, 10, some ⟨"a2"⟩, .ready⟩ ∧
      watched.2.cursors.get? "b" = some ⟨⟨"SELECT *"⟩, 10, some ⟨"b1"⟩, .ready⟩ ∧
      alone.2.cursors.get? "a" = watched.2.cursors.get? "a" ∧
      ∃ seen, watched.1[3]? = some seen ∧ seen.call.isResumption = false ∧
        ((Session.ofTransport (.ofAnswers [.error (.ofText "connection reset")])).watch
          Script.transport [seen.call]).1 = [seen] := by
  intro answers watched alone
  obtain ⟨_, own, others⟩ := calls_independent Script.transport
    (Session.ofTransport (.ofAnswers answers)) takingTurns
  obtain ⟨same, left, _⟩ := own "a"
  have made : watched.1[3]? = some watched.1[3] := rfl
  exact ⟨same, rfl, rfl, left, _, made, rfl, others _ (List.mem_of_getElem? made) rfl⟩

end DeviceEnrollment.Registry
