import DeviceEnrollment.Proofs.Steps
import DeviceEnrollment.Registry.Client
import Mathlib.Data.List.Nodup

/-!
Which batches are accepted. Every item of a batch has to have an id, and an id of its own; the first
item that has not decides what is wrong with the batch, and nothing is sent (`batch_check_exact`).
-/
namespace DeviceEnrollment.Registry

/-! ### Ids -/

/-- Whether every id stands for one item. -/
structure AreKeys (ids : List String) : Prop where
  filled : ∀ id ∈ ids, id ≠ ""
  distinct : ids.Nodup

/-- What is wrong with the id at a place. -/
inductive Offends (ids : List String) (place : Nat) : InvalidArgument → Prop
  | empty (here : ids[place]? = some "") : Offends ids place (.emptyIdAt place)
  | repeated {id : String} (here : ids[place]? = some id) {earlier : Nat}
    (before : earlier < place) (there : ids[earlier]? = some id) :
    Offends ids place (.repeatedId id)

variable {ids front back seen : List String} {id : String} {place index : Nat}
  {fault : InvalidArgument}

theorem areKeys_nil : AreKeys [] := ⟨by simp, List.nodup_nil⟩

theorem AreKeys.concat (keys : AreKeys front) (filled : id ≠ "") (fresh : id ∉ front) :
    AreKeys (front ++ [id]) where
  filled other member := by
    rcases List.mem_append.1 member with before | last
    · exact keys.filled other before
    · exact List.mem_singleton.1 last ▸ filled
  distinct := by
    rw [← List.concat_eq_append]
    exact keys.distinct.concat fresh

/-- Among ids that are no keys there is a first one behind which they are not. -/
theorem exists_offence (ambiguous : ¬AreKeys ids) :
    ∃ front id back, ids = front ++ id :: back ∧ AreKeys front ∧ (id = "" ∨ id ∈ front) := by
  obtain ⟨front, id, back, split, keys, lost⟩ := exists_first_failure AreKeys areKeys_nil ambiguous
  refine ⟨front, id, back, split, keys, ?_⟩
  by_contra sound
  rw [not_or] at sound
  exact lost (keys.concat sound.1 sound.2)

/-- Ids that are keys are passed over, and from then on they are among those that were seen. -/
theorem checkIds_append (keys : AreKeys front) (fresh : ∀ id ∈ front, id ∉ seen) :
    checkIds seen index (front ++ back) =
      checkIds (front.reverse ++ seen) (index + front.length) back := by
  -- Each step moves one id to those that were seen, so the claim is about any that were seen before.
  induction front generalizing seen index with
  | nil => rfl
  | cons first rest ih =>
    obtain ⟨apart, distinct⟩ := List.nodup_cons.1 keys.distinct
    have filled : first.isEmpty = false := by simpa using keys.filled first List.mem_cons_self
    have unseen : seen.contains first = false := by simpa using fresh first List.mem_cons_self
    have later : AreKeys rest := ⟨fun id member => keys.filled id (.tail _ member), distinct⟩
    rw [List.cons_append, checkIds, filled, unseen]
    simp only [Bool.false_eq_true, if_false]
    rw [ih later, List.reverse_cons, List.append_assoc, List.length_cons, Nat.add_right_comm]
    · rfl
    · intro id member held
      rcases List.mem_cons.1 held with rfl | before
      · exact apart member
      · exact fresh id (.tail _ member) before

theorem checkIds_of_areKeys (keys : AreKeys ids) : checkIds [] 0 ids = .ok () := by
  have unseen : ∀ id ∈ ids, id ∉ ([] : List String) := by simp
  have passed : checkIds [] 0 (ids ++ []) = checkIds (ids.reverse ++ []) (0 + ids.length) [] :=
    checkIds_append keys unseen
  rwa [List.append_nil] at passed

/-- The first id that is no key any more is reported. -/
theorem checkIds_of_offence (keys : AreKeys front) (offence : id = "" ∨ id ∈ front) :
    checkIds [] 0 (front ++ id :: back) =
      .error (if id = "" then .emptyIdAt front.length else .repeatedId id) := by
  rw [checkIds_append keys (by simp), checkIds, Nat.zero_add, List.append_nil]
  by_cases empty : id = ""
  · simp [empty]
  · simp [empty, offence.resolve_left empty]

theorem checkIds_eq_ok_iff : checkIds [] 0 ids = .ok () ↔ AreKeys ids := by
  refine ⟨fun accepted => ?_, checkIds_of_areKeys⟩
  by_contra ambiguous
  obtain ⟨front, id, back, rfl, keys, offence⟩ := exists_offence ambiguous
  cases accepted.symm.trans (checkIds_of_offence keys offence)

/-! ### Places -/

theorem offends_take_iff :
    Offends (ids.take index) place fault ↔ place < index ∧ Offends ids place fault := by
  constructor
  · rintro (here | ⟨here, before, there⟩)
    · obtain ⟨inside, here⟩ := Option.ite_none_right_eq_some.1 (List.getElem?_take ▸ here)
      exact ⟨inside, .empty here⟩
    · obtain ⟨inside, here⟩ := Option.ite_none_right_eq_some.1 (List.getElem?_take ▸ here)
      obtain ⟨_, there⟩ := Option.ite_none_right_eq_some.1 (List.getElem?_take ▸ there)
      exact ⟨inside, .repeated here before there⟩
  · rintro ⟨inside, here | ⟨here, before, there⟩⟩
    · exact .empty (by rw [List.getElem?_take, if_pos inside, here])
    · exact .repeated (by rw [List.getElem?_take, if_pos inside, here]) before
        (by rw [List.getElem?_take, if_pos (Nat.lt_trans before inside), there])

theorem areKeys_iff_forall_not_offends : AreKeys ids ↔ ∀ place fault, ¬Offends ids place fault := by
  constructor
  · rintro keys place fault (here | ⟨here, before, there⟩)
    · exact keys.filled "" (List.mem_of_getElem? here) rfl
    · obtain ⟨inside, _⟩ := List.getElem?_eq_some_iff.1 here
      exact List.nodup_iff_getElem?_ne_getElem?.1 keys.distinct _ _ before inside
        (there.trans here.symm)
  · intro sound
    constructor
    case filled =>
      rintro id member rfl
      obtain ⟨place, here⟩ := List.mem_iff_getElem?.1 member
      exact sound place _ (.empty here)
    case distinct =>
      rw [List.nodup_iff_getElem?_ne_getElem?]
      intro earlier place before inside same
      have here := List.getElem?_eq_getElem inside
      exact sound place _ (.repeated here before (same.trans here))

/-- The first place at which an id offends decides. -/
theorem checkIds_eq_error_iff : checkIds [] 0 ids = .error fault ↔
    ∃ place, Offends ids place fault ∧ ∀ earlier < place, ∀ other, ¬Offends ids earlier other := by
  constructor
  · intro refused
    have ambiguous : ¬AreKeys ids := fun keys => by
      cases refused.symm.trans (checkIds_of_areKeys keys)
    obtain ⟨front, id, back, rfl, keys, offence⟩ := exists_offence ambiguous
    have here : (front ++ id :: back)[front.length]? = some id := by simp
    refine ⟨front.length, ?_, fun earlier before other offends => ?_⟩
    · rw [← Except.error.inj ((checkIds_of_offence keys offence).symm.trans refused)]
      split
      · next empty => exact .empty (empty ▸ here)
      · next filled =>
        obtain ⟨earlier, there⟩ := List.mem_iff_getElem?.1 (offence.resolve_left filled)
        obtain ⟨before, _⟩ := List.getElem?_eq_some_iff.1 there
        exact .repeated here before (by rw [List.getElem?_append_left before, there])
    · have within := offends_take_iff.2 ⟨before, offends⟩
      rw [List.take_left] at within
      exact areKeys_iff_forall_not_offends.1 keys earlier other within
  · rintro ⟨place, offends, least⟩
    -- In front of the least place nothing offends, so the loop comes to it.
    have keys : AreKeys (ids.take place) := by
      refine areKeys_iff_forall_not_offends.2 fun earlier other within => ?_
      obtain ⟨before, within⟩ := offends_take_iff.1 within
      exact least earlier before other within
    have split {id : String} (here : ids[place]? = some id) :
        ids = ids.take place ++ id :: ids.drop (place + 1) ∧ (ids.take place).length = place := by
      obtain ⟨inside, rfl⟩ := List.getElem?_eq_some_iff.1 here
      rw [List.getElem_cons_drop, List.take_append_drop]
      exact ⟨rfl, List.length_take_of_le (Nat.le_of_lt inside)⟩
    cases offends with
    | empty here =>
      obtain ⟨whole, length⟩ := split here
      rw [whole, checkIds_of_offence keys (.inl rfl), if_pos rfl, length]
    | @repeated id here earlier before there =>
      obtain ⟨whole, _⟩ := split here
      have held : id ∈ ids.take place :=
        List.mem_of_getElem? (by rw [List.getElem?_take, if_pos before, there])
      rw [whole, checkIds_of_offence keys (.inr held), if_neg (keys.filled id held)]

/-! ### Batches -/

theorem checkBatch_eq_ok_iff {batch : List Enrollment} :
    checkBatch batch = .ok () ↔ batch ≠ [] ∧ AreKeys (batch.map Enrollment.registrationId) := by
  rw [← checkIds_eq_ok_iff, checkBatch]
  cases batch with
  | nil => simp
  | cons item rest => simp

theorem checkBatch_eq_error_iff {batch : List Enrollment} :
    checkBatch batch = .error fault ↔ batch = [] ∧ fault = .emptyBatch ∨
      ∃ place, Offends (batch.map Enrollment.registrationId) place fault ∧
        ∀ earlier < place, ∀ other,
          ¬Offends (batch.map Enrollment.registrationId) earlier other := by
  rw [← checkIds_eq_error_iff, checkBatch]
  cases batch with
  | nil => simp [checkIds, eq_comm]
  | cons item rest => simp

/-- A batch is accepted exactly if it has items and their ids are filled and distinct. Otherwise it
is refused for having none, or for the least place whose id is empty or stands at an earlier place:
an empty id is reported with its place, and a repeated one by itself. A refused batch makes no
request and changes nothing, and an accepted one is sent. -/
theorem batch_check_exact (batch : List Enrollment) :
    (checkBatch batch = .ok () ↔ batch ≠ [] ∧
      (∀ item ∈ batch, item.registrationId ≠ "") ∧
      (batch.map Enrollment.registrationId).Nodup) ∧
    (∀ fault, checkBatch batch = .error fault ↔ batch = [] ∧ fault = .emptyBatch ∨
      ∃ place, Offends (batch.map Enrollment.registrationId) place fault ∧
        ∀ earlier < place, ∀ other,
          ¬Offends (batch.map Enrollment.registrationId) earlier other) ∧
    (∀ fault, checkBatch batch = .error fault → ∀ mode,
      (bulkOperation mode batch).request? = none ∧
        ∀ {σ : Type} (transport : Transport σ) (state : σ),
          (bulkOperation mode batch).run transport state =
            ⟨[], .error (.validation fault), state⟩) ∧
    (checkBatch batch = .ok () → ∀ mode, ∃ request,
      (bulkOperation mode batch).request? = some request) := by
  refine ⟨?_, fun _ => checkBatch_eq_error_iff, ?_, ?_⟩
  · rw [checkBatch_eq_ok_iff]
    refine and_congr_right fun _ => ⟨fun keys => ⟨?_, keys.distinct⟩, fun sound => ⟨?_, sound.2⟩⟩
    · exact fun item member => keys.filled _ (List.mem_map_of_mem member)
    · intro id member
      obtain ⟨item, among, rfl⟩ := List.mem_map.1 member
      exact sound.1 item among
  · intro fault refused mode
    rw [bulkOperation, refused]
    exact ⟨rfl, fun _ _ => rfl⟩
  · intro accepted mode
    rw [bulkOperation, accepted]
    exact ⟨_, rfl⟩

/-- Of two faults the one at the earlier place is reported. -/
theorem batch_check_exact_earlier :
    let batch : List Enrollment := [.ofId "a", .ofId "b", .ofId "a", .ofId ""]
    checkBatch batch = .error (.repeatedId "a") ∧
      (bulkOperation .create batch).request? = none := by
  intro batch
  obtain ⟨_, refused, unsent, _⟩ := batch_check_exact batch
  have repeated : checkBatch batch = .error (.repeatedId "a") := by
    refine (refused _).2 (.inr ⟨2, .repeated rfl (by decide : 0 < 2) rfl, ?_⟩)
    intro earlier before other offends
    have sound : AreKeys ["a", "b"] := ⟨by decide, by decide⟩
    have within : Offends (["a", "b", "a", ""].take 2) earlier other :=
      offends_take_iff.2 ⟨before, offends⟩
    exact areKeys_iff_forall_not_offends.1 sound earlier other within
  exact ⟨repeated, (unsent _ repeated .create).1⟩

end DeviceEnrollment.Registry
