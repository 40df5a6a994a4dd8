import DeviceEnrollment.Proofs.Json.Printing
import DeviceEnrollment.Proofs.Steps
import Mathlib.Data.String.Basic

/-!
Values that come from documents. They are sorted and nested no deeper than the reader allows
(`Reading.fitsIn_of_value`), and such a value is read again from what is printed of it
(`Value.value_reading`). Any other value is read as well (`Value.exists_value_reading`).
-/
namespace DeviceEnrollment.Json

namespace Value

/-- Whether the members of an object stand in the order of their keys, each key once. -/
def IsOrdered : Value → Prop
  | object members => members.Pairwise fun first second => first.1 < second.1
  | _ => True

/-- Whether every object inside a value is ordered. -/
def IsSorted (value : Value) : Prop := ∀ part ∈ value.inside, part.IsOrdered

mutual

/-- How many lists and objects stand inside one another. -/
def nesting : Value → Nat
  | list elements => elementNesting elements + 1
  | object members => memberNesting members + 1
  | _ => 0

def elementNesting : List Value → Nat
  | [] => 0
  | element :: rest => max (nesting element) (elementNesting rest)

def memberNesting : List (String × Value) → Nat
  | [] => 0
  | (_, value) :: rest => max (nesting value) (memberNesting rest)

end

/-- Whether a value can come from a reader that allows this depth. -/
structure FitsIn (depth : Nat) (value : Value) : Prop where
  sorted : value.IsSorted
  nesting_lt : value.nesting < depth

theorem fitsIn_plain {value : Value} {depth : Nat} (positive : 0 < depth)
    (alone : value.inside = [value]) (ordered : value.IsOrdered) (flat : value.nesting = 0) :
    FitsIn depth value :=
  ⟨by simpa [IsSorted, alone] using ordered, flat ▸ positive⟩

theorem elementNesting_lt {depth : Nat} {elements : List Value} (positive : 0 < depth)
    (all : ∀ element ∈ elements, element.nesting < depth) : elementNesting elements < depth := by
  induction elements with
  | nil => exact positive
  | cons element rest ih =>
    obtain ⟨first, later⟩ := List.forall_mem_cons.1 all
    exact max_lt first (ih later)

theorem memberNesting_lt {depth : Nat} {members : List (String × Value)} (positive : 0 < depth)
    (all : ∀ member ∈ members, member.2.nesting < depth) : memberNesting members < depth := by
  induction members with
  | nil => exact positive
  | cons member rest ih =>
    obtain ⟨first, later⟩ := List.forall_mem_cons.1 all
    exact max_lt first (ih later)

theorem fitsIn_list {depth : Nat} {elements : List Value} (positive : 0 < depth)
    (all : ∀ element ∈ elements, FitsIn depth element) : FitsIn (depth + 1) (list elements) where
  sorted := List.forall_mem_cons.2
    ⟨trivial, forall_mem_insideElements.2 fun element member => (all element member).sorted⟩
  nesting_lt := Nat.succ_lt_succ
    (elementNesting_lt positive fun element member => (all element member).nesting_lt)

theorem fitsIn_object {depth : Nat} {members : List (String × Value)} (positive : 0 < depth)
    (ordered : (object members).IsOrdered) (all : ∀ member ∈ members, FitsIn depth member.2) :
    FitsIn (depth + 1) (object members) where
  sorted := List.forall_mem_cons.2
    ⟨ordered, forall_mem_insideMembers.2 fun member held => (all member held).sorted⟩
  nesting_lt := Nat.succ_lt_succ
    (memberNesting_lt positive fun member held => (all member held).nesting_lt)

end Value

/-! ### Members in order -/

section

variable {key : String} {value : Value} {members : List (String × Value)}

theorem mem_insertMember {member : String × Value}
    (held : member ∈ insertMember key value members) :
    member = (key, value) ∨ member ∈ members := by
  induction members with
  | nil => exact .inl (List.mem_singleton.1 held)
  | cons other rest ih =>
    rw [insertMember] at held
    split at held
    · exact List.mem_cons.1 held
    · split at held
      · exact (List.mem_cons.1 held).imp_right (List.mem_cons_of_mem _)
      · rcases List.mem_cons.1 held with rfl | later
        · exact .inr List.mem_cons_self
        · exact (ih later).imp_right (List.mem_cons_of_mem _)

theorem isOrdered_insertMember (ordered : (Value.object members).IsOrdered) :
    (Value.object (insertMember key value members)).IsOrdered := by
  simp only [Value.IsOrdered] at ordered ⊢
  induction members with
  | nil => simp [insertMember]
  | cons other rest ih =>
    obtain ⟨least, later⟩ := List.pairwise_cons.1 ordered
    rw [insertMember]
    split
    · next before =>
      refine List.pairwise_cons.2 ⟨?_, ordered⟩
      intro member held
      rcases List.mem_cons.1 held with rfl | behind
      · exact before
      · exact lt_trans before (least member behind)
    · next notBefore =>
      split
      · next same =>
        exact List.pairwise_cons.2 ⟨fun member held => same ▸ least member held, later⟩
      · next different =>
        refine List.pairwise_cons.2 ⟨?_, ih later⟩
        intro member held
        rcases mem_insertMember held with rfl | behind
        · exact lt_of_le_of_ne (not_lt.1 notBefore) (Ne.symm different)
        · exact least member behind

theorem insertMember_last (last : ∀ member ∈ members, member.1 < key) :
    insertMember key value members = members ++ [(key, value)] := by
  induction members with
  | nil => rfl
  | cons other rest ih =>
    have before := last other List.mem_cons_self
    rw [insertMember, if_neg (not_lt_of_gt before), if_neg (ne_of_gt before),
      ih fun member held => last member (List.mem_cons_of_mem _ held), List.cons_append]

end

/-! ### What is read fits -/

namespace Reading

mutual

/-- A value that is read is sorted and nested less deep than allowed. -/
theorem fitsIn_of_value : ∀ (reading : Reading) {depth : Nat} {found : Value}, 0 < depth →
    reading.value depth = .ok found → found.FitsIn depth
  | .null, depth, found, positive, read =>
    Except.ok.inj read ▸ Value.fitsIn_plain positive rfl trivial rfl
  | .bool held, depth, found, positive, read =>
    Except.ok.inj read ▸ Value.fitsIn_plain positive rfl trivial rfl
  | .number written, depth, found, positive, read => by
    obtain ⟨number, _, same⟩ := exists_of_bind_ok read
    exact Except.ok.inj same ▸ Value.fitsIn_plain positive rfl trivial rfl
  | .text written, depth, found, positive, read => by
    obtain ⟨text, _, same⟩ := exists_of_bind_ok read
    exact Except.ok.inj same ▸ Value.fitsIn_plain positive rfl trivial rfl
  | .list elements broken, depth, found, positive, read => by
    rw [value] at read
    split at read
    · cases read
    · next deep =>
      obtain ⟨values, each, ends⟩ := exists_of_bind_ok read
      obtain ⟨depth, rfl⟩ := Nat.exists_eq_add_of_le' (show 1 ≤ depth by omega)
      have inner : 0 < depth := by omega
      have fit := fitsIn_of_elementValues elements inner each
      cases broken with
      | none => exact Except.ok.inj ends ▸ Value.fitsIn_list inner fit
      | some fault => cases ends
  | .object members finish, depth, found, positive, read => by
    rw [value] at read
    split at read
    · cases read
    · next deep =>
      obtain ⟨values, each, ends⟩ := exists_of_bind_ok read
      obtain ⟨depth, rfl⟩ := Nat.exists_eq_add_of_le' (show 1 ≤ depth by omega)
      have inner : 0 < depth := by omega
      have fit := fitsIn_of_memberValues members inner each List.Pairwise.nil (by simp)
      cases finish with
      | closed => exact Except.ok.inj ends ▸ Value.fitsIn_object inner fit.1 fit.2
      | broken fault => cases ends
      | key written fault =>
        obtain ⟨_, _, fails⟩ := exists_of_bind_ok ends
        cases fails
      | notKey other => cases ends
  | .brokenNull fault, depth, found, positive, read => by cases read
  | .cutOff fault, depth, found, positive, read => by cases read

theorem fitsIn_of_elementValues : ∀ (elements : List Reading) {depth : Nat} {values : List Value},
    0 < depth → elementValues depth elements = .ok values → ∀ value ∈ values, value.FitsIn depth
  | [], depth, values, positive, read => Except.ok.inj read ▸ by simp
  | element :: rest, depth, values, positive, read => by
    obtain ⟨first, one, later⟩ := exists_of_bind_ok read
    obtain ⟨others, each, same⟩ := exists_of_bind_ok later
    cases Except.ok.inj same
    exact List.forall_mem_cons.2 ⟨fitsIn_of_value element positive one,
      fitsIn_of_elementValues rest positive each⟩

theorem fitsIn_of_memberValues : ∀ (members : List (WrittenText × Reading)) {depth : Nat}
    {held values : List (String × Value)}, 0 < depth →
    memberValues depth held members = .ok values → (Value.object held).IsOrdered →
    (∀ member ∈ held, member.2.FitsIn depth) →
    (Value.object values).IsOrdered ∧ ∀ member ∈ values, member.2.FitsIn depth
  | [], depth, held, values, positive, read, ordered, fit => Except.ok.inj read ▸ ⟨ordered, fit⟩
  | (written, element) :: rest, depth, held, values, positive, read, ordered, fit => by
    obtain ⟨key, _, later⟩ := exists_of_bind_ok read
    obtain ⟨found, one, others⟩ := exists_of_bind_ok later
    refine fitsIn_of_memberValues rest positive others (isOrdered_insertMember ordered) ?_
    intro member inserted
    rcases mem_insertMember inserted with rfl | before
    · exact fitsIn_of_value element positive one
    · exact fit member before

end

theorem eq_null_of_value {reading : Reading} {depth : Nat}
    (read : reading.value depth = .ok .null) : reading = .null := by
  cases reading with
  | null => rfl
  | bool held => cases read
  | number written =>
    obtain ⟨number, _, same⟩ := exists_of_bind_ok read
    cases same
  | text written =>
    obtain ⟨text, _, same⟩ := exists_of_bind_ok read
    cases same
  | list elements broken =>
    rw [value] at read
    split at read
    · cases read
    · obtain ⟨values, _, ends⟩ := exists_of_bind_ok read
      cases broken <;> cases ends
  | object members finish =>
    rw [value] at read
    split at read
    · cases read
    · obtain ⟨values, _, ends⟩ := exists_of_bind_ok read
      cases finish with
      | key written fault =>
        obtain ⟨_, _, fails⟩ := exists_of_bind_ok ends
        cases fails
      | _ => cases ends
  | brokenNull fault => cases read
  | cutOff fault => cases read

end Reading

/-! ### What is printed is read -/

namespace Value

mutual

/-- A value is read, if not as itself, by every reader that allows its nesting. -/
theorem exists_value_reading : ∀ (value : Value), value.HasReadableNumbers →
    ∃ found, ∀ {depth : Nat}, value.nesting < depth → value.reading.value depth = .ok found
  | .null, _ => ⟨.null, fun _ => rfl⟩
  | .bool held, _ => ⟨.bool held, fun _ => rfl⟩
  | .number held, readable => by
    obtain ⟨written, reads, _, _, found, read⟩ := exists_reading_number readable
    refine ⟨.number found, fun _ => ?_⟩
    rw [reads, Reading.value, read]
    rfl
  | .text held, _ => by
    refine ⟨.text held, fun _ => ?_⟩
    rw [reading, Reading.value, WrittenText.read_ofText]
    rfl
  | .list elements, readable => by
    obtain ⟨values, each⟩ := exists_value_elementReadings elements
      (List.forall_mem_cons.1 readable).2
    refine ⟨.list values, fun fits => ?_⟩
    rw [nesting] at fits
    rw [reading, Reading.value, if_neg (by omega), each (by omega)]
    rfl
  | .object members, readable => by
    obtain ⟨values, each⟩ := exists_value_memberReadings members []
      (List.forall_mem_cons.1 readable).2
    refine ⟨.object values, fun fits => ?_⟩
    rw [nesting] at fits
    rw [reading, Reading.value, if_neg (by omega), each (by omega)]
    rfl

theorem exists_value_elementReadings : ∀ (elements : List Value),
    (∀ part ∈ insideElements elements, part.IsReadable) →
    ∃ values, ∀ {depth : Nat}, elementNesting elements < depth →
      Reading.elementValues depth (elementReadings elements) = .ok values
  | [], _ => ⟨[], fun _ => rfl⟩
  | element :: rest, readable => by
    obtain ⟨firstReadable, laterReadable⟩ := List.forall_mem_append.1 readable
    obtain ⟨first, one⟩ := exists_value_reading element firstReadable
    obtain ⟨others, each⟩ := exists_value_elementReadings rest laterReadable
    refine ⟨first :: others, fun fits => ?_⟩
    obtain ⟨firstFits, laterFit⟩ := max_lt_iff.1 fits
    rw [elementReadings, Reading.elementValues, one firstFits]
    simp only [bind, Except.bind]
    rw [each laterFit]
    rfl

theorem exists_value_memberReadings : ∀ (members held : List (String × Value)),
    (∀ part ∈ insideMembers members, part.IsReadable) →
    ∃ values, ∀ {depth : Nat}, memberNesting members < depth →
      Reading.memberValues depth held (memberReadings members) = .ok values
  | [], held, _ => ⟨held, fun _ => rfl⟩
  | (key, value) :: rest, held, readable => by
    obtain ⟨firstReadable, laterReadable⟩ := List.forall_mem_append.1 readable
    obtain ⟨first, one⟩ := exists_value_reading value firstReadable
    obtain ⟨values, each⟩ := exists_value_memberReadings rest (insertMember key first held)
      laterReadable
    refine ⟨values, fun fits => ?_⟩
    obtain ⟨firstFits, laterFit⟩ := max_lt_iff.1 fits
    rw [memberReadings, Reading.memberValues, WrittenText.read_ofText]
    simp only [bind, Except.bind]
    rw [one firstFits]
    exact each laterFit

end

mutual

/-- A value of integers that fits is read again from what it is scanned as. -/
theorem value_reading : ∀ (value : Value) {depth : Nat}, value.HasOnlyIntegers →
    value.IsSorted → value.nesting < depth → value.reading.value depth = .ok value
  | .null, depth, _, _, _ => rfl
  | .bool held, depth, _, _, _ => rfl
  | .number (.integer held), depth, integral, _, _ => by
    obtain ⟨least, greatest⟩ := integral _ (mem_inside _)
    rw [reading_integer, Reading.value, WrittenNumber.read_ofInteger least greatest]
    rfl
  | .number (.double held), depth, integral, _, _ =>
    absurd (integral _ (mem_inside _)) (by simp [IsIntegral])
  | .text held, depth, _, _, _ => by
    rw [reading, Reading.value, WrittenText.read_ofText]
    rfl
  | .list elements, depth, integral, sorted, fits => by
    rw [nesting] at fits
    have each := value_elementReadings elements (List.forall_mem_cons.1 integral).2
      (List.forall_mem_cons.1 sorted).2 (show elementNesting elements < depth - 1 by omega)
    rw [reading, Reading.value, if_neg (by omega), each]
    rfl
  | .object members, depth, integral, sorted, fits => by
    rw [nesting] at fits
    have each := value_memberReadings members [] (List.forall_mem_cons.1 integral).2
      (List.forall_mem_cons.1 sorted).2 (show memberNesting members < depth - 1 by omega)
      (List.forall_mem_cons.1 sorted).1
    rw [reading, Reading.value, if_neg (by omega), each]
    rfl

theorem value_elementReadings : ∀ (elements : List Value) {depth : Nat},
    (∀ part ∈ insideElements elements, part.IsIntegral) →
    (∀ part ∈ insideElements elements, part.IsOrdered) → elementNesting elements < depth →
    Reading.elementValues depth (elementReadings elements) = .ok elements
  | [], depth, _, _, _ => rfl
  | element :: rest, depth, integral, sorted, fits => by
    obtain ⟨firstFits, laterFit⟩ := max_lt_iff.1 fits
    obtain ⟨firstIntegral, laterIntegral⟩ := List.forall_mem_append.1 integral
    obtain ⟨firstSorted, laterSorted⟩ := List.forall_mem_append.1 sorted
    rw [elementReadings, Reading.elementValues,
      value_reading element firstIntegral firstSorted firstFits]
    simp only [bind, Except.bind]
    rw [value_elementReadings rest laterIntegral laterSorted laterFit]
    rfl

theorem value_memberReadings : ∀ (members held : List (String × Value)) {depth : Nat},
    (∀ part ∈ insideMembers members, part.IsIntegral) →
    (∀ part ∈ insideMembers members, part.IsOrdered) → memberNesting members < depth →
    (object (held ++ members)).IsOrdered →
    Reading.memberValues depth held (memberReadings members) = .ok (held ++ members)
  | [], held, depth, _, _, _, _ => by
    rw [List.append_nil]
    rfl
  | (key, value) :: rest, held, depth, integral, sorted, fits, ordered => by
    obtain ⟨firstFits, laterFit⟩ := max_lt_iff.1 fits
    obtain ⟨firstIntegral, laterIntegral⟩ := List.forall_mem_append.1 integral
    obtain ⟨firstSorted, laterSorted⟩ := List.forall_mem_append.1 sorted
    -- What is held stands before all that follows, so this member is added at the end.
    have last : ∀ member ∈ held, member.1 < key := fun member before =>
      (List.pairwise_append.1 ordered).2.2 member before _ List.mem_cons_self
    have regrouped : held ++ (key, value) :: rest = (held ++ [(key, value)]) ++ rest := by simp
    rw [memberReadings, Reading.memberValues, WrittenText.read_ofText]
    simp only [bind, Except.bind]
    rw [value_reading value firstIntegral firstSorted firstFits]
    simp only
    rw [insertMember_last last, regrouped]
    exact value_memberReadings rest _ laterIntegral laterSorted laterFit (regrouped ▸ ordered)

end

end Value

end DeviceEnrollment.Json
