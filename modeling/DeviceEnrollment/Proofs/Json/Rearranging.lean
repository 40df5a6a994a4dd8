import DeviceEnrollment.Proofs.Json.Members
import Mathlib.Data.List.Find
import Mathlib.Data.List.Nodup
import Mathlib.Data.List.Pairwise
import Mathlib.Data.List.Perm.Basic

/-!
Objects whose members are rearranged. A record is the same whatever the order of its members is,
whatever stands under keys that it does not know, and whether an option is left out or `null`
(`RecordShape.decode_rearranged`). No object is a record that has one of its keys twice
(`RecordShape.isUnrepeated_of_decode`).
-/
namespace DeviceEnrollment.Json

def Reading.isNull : Reading → Bool
  | .null => true
  | _ => false

theorem Reading.eq_null_of_isNull {reading : Reading} (null : reading.isNull = true) :
    reading = .null := by
  cases reading <;> first | rfl | cases null

/-- Whether two ways to read a member into a draft can change places. -/
def Commute {draft : Type} (first second : Nat → Reading → draft → Decoded draft) : Prop :=
  ∀ depth value other current,
    ((first depth value current).toOption >>= fun next => (second depth other next).toOption) =
      ((second depth other current).toOption >>= fun next => (first depth value next).toOption)

theorem Commute.symm {draft : Type} {first second : Nat → Reading → draft → Decoded draft}
    (commute : Commute first second) : Commute second first :=
  fun depth value other current => (commute depth other value current).symm

/-- What is set in two places of a draft can be set in either order. -/
theorem commute_of_set {draft α β : Type} {read : Nat → Reading → Decoded α}
    {set : draft → α → draft} {readOther : Nat → Reading → Decoded β} {setOther : draft → β → draft}
    (apart : ∀ current value other,
      setOther (set current value) other = set (setOther current other) value) :
    Commute (fun depth reading current => do return set current (← read depth reading))
      fun depth reading current => do return setOther current (← readOther depth reading) := by
  intro depth value other current
  dsimp only
  cases read depth value with
  | error fault => cases readOther depth other <;> rfl
  | ok found =>
    cases readOther depth other with
    | error fault => rfl
    | ok another => exact congrArg some (apart current found another)

namespace RecordShape

variable {draft : Type} (shape : RecordShape draft)

/-- The field that a member is, if it has a known key. -/
def fieldOf? (member : WrittenText × Reading) : Option (Field draft) :=
  member.1.read.toOption >>= shape.field?

/-- The names of the fields that members are. -/
def namesOf (members : List (WrittenText × Reading)) : List String :=
  members.filterMap fun member => (shape.fieldOf? member).map Field.name

/-- Whether no known key comes twice. All keys of a field count as one. -/
def IsUnrepeated (members : List (WrittenText × Reading)) : Prop := (shape.namesOf members).Nodup

instance (members : List (WrittenText × Reading)) : Decidable (shape.IsUnrepeated members) :=
  inferInstanceAs (Decidable (shape.namesOf members).Nodup)

/-- Whether objects have the same members but for their order, for members with unknown keys, and
for optional ones that are `null`. Under a known key there may stand a value that counts as `alike`,
and the key may be written in another way. -/
inductive Rearranged (alike : String → Reading → Reading → Prop) :
    List (WrittenText × Reading) → List (WrittenText × Reading) → Prop
  | permuted {first second : List (WrittenText × Reading)} (order : first.Perm second) :
    Rearranged alike first second
  | unknown {written : WrittenText} {key : String} {value : Reading}
    (rest : List (WrittenText × Reading)) (read : written.read = .ok key)
    (unknown : shape.field? key = none) (whole : value.fault? = none) :
    Rearranged alike rest ((written, value) :: rest)
  | null {written : WrittenText} {key : String} {field : Field draft}
    (rest : List (WrittenText × Reading)) (read : written.read = .ok key)
    (known : shape.field? key = some field) (optional : field.absence ≠ .refused) :
    Rearranged alike rest ((written, .null) :: rest)
  | inside {written rewritten : WrittenText} {key : String} {field : Field draft}
    {value other : Reading} (rest : List (WrittenText × Reading)) (read : written.read = .ok key)
    (again : rewritten.read = .ok key) (known : shape.field? key = some field)
    (like : alike field.name value other) :
    Rearranged alike ((written, value) :: rest) ((rewritten, other) :: rest)
  | symm {first second : List (WrittenText × Reading)} (other : Rearranged alike second first) :
    Rearranged alike first second
  | trans {first second third : List (WrittenText × Reading)}
    (before : Rearranged alike first second) (behind : Rearranged alike second third) :
    Rearranged alike first third

/-- Whether fields keep out of each other's way, and `null` leaves an option as it is at first. -/
structure IsIndependent : Prop where
  distinct : (shape.fields.map Field.name).Nodup
  commute : shape.fields.Pairwise fun first second => Commute first.decode second.decode
  null : ∀ field ∈ shape.fields, field.absence ≠ .refused →
    ∀ depth, field.decode depth .null shape.empty = .ok shape.empty

/-- Whether alike values are read alike. -/
def Respects (alike : String → Reading → Reading → Prop) : Prop :=
  ∀ field ∈ shape.fields, ∀ value other, alike field.name value other →
    value.isNull = other.isNull ∧ ∀ depth current,
      (field.decode depth value current).toOption = (field.decode depth other current).toOption

/-! ### What members contribute -/

/-- What a member makes of a draft. -/
def contribute (depth : Nat) (member : WrittenText × Reading) (current : draft) : Option draft :=
  match member.1.read with
  | .error _ => none
  | .ok key =>
    match shape.field? key with
    | none => if member.2.fault?.isNone then some current else none
    | some field => (field.decode depth member.2 current).toOption

/-- What members make of a draft one after another. -/
def gather (depth : Nat) (members : List (WrittenText × Reading)) (start : Option draft) :
    Option draft :=
  members.foldl (fun current member => current >>= shape.contribute depth member) start

/-- Whether a member contributes nothing. -/
def isIdle (member : WrittenText × Reading) : Bool :=
  match member.1.read with
  | .error _ => false
  | .ok key =>
    match shape.field? key with
    | none => member.2.fault?.isNone
    | some field => field.absence != .refused && member.2.isNull

/-- The names and the contributions of the members that are not idle. -/
def gist (depth : Nat) (members : List (WrittenText × Reading)) :
    List (Option String × (draft → Option draft)) :=
  (members.filter fun member => !shape.isIdle member).map fun member =>
    ((shape.fieldOf? member).map Field.name, shape.contribute depth member)

variable {shape} {depth : Nat} {members : List (WrittenText × Reading)}

theorem gather_none : shape.gather depth members none = none := by
  induction members with
  | nil => rfl
  | cons member rest ih => exact ih

theorem mem_fields_of_fieldOf? {member : WrittenText × Reading} {field : Field draft}
    (is : shape.fieldOf? member = some field) : field ∈ shape.fields := by
  obtain ⟨key, _, found⟩ := Option.bind_eq_some_iff.1 is
  exact List.mem_of_find?_eq_some found

theorem fieldOf?_eq {written : WrittenText} {key : String} (read : written.read = .ok key)
    (value : Reading) : shape.fieldOf? (written, value) = shape.field? key := by
  simp only [fieldOf?, read]
  rfl

theorem namesOf_cons_of_unknown {member : WrittenText × Reading}
    (unknown : shape.fieldOf? member = none) (rest : List (WrittenText × Reading)) :
    shape.namesOf (member :: rest) = shape.namesOf rest := by
  simp only [namesOf, List.filterMap_cons, unknown, Option.map_none]

theorem namesOf_cons_of_field {member : WrittenText × Reading} {field : Field draft}
    (is : shape.fieldOf? member = some field) (rest : List (WrittenText × Reading)) :
    shape.namesOf (member :: rest) = field.name :: shape.namesOf rest := by
  simp only [namesOf, List.filterMap_cons, is, Option.map_some]

theorem gather_cons (member : WrittenText × Reading) (rest : List (WrittenText × Reading))
    (current : draft) :
    shape.gather depth (member :: rest) (some current) =
      shape.contribute depth member current >>= fun next =>
        shape.gather depth rest (some next) := by
  show shape.gather depth rest (shape.contribute depth member current) = _
  cases shape.contribute depth member current with
  | none => exact gather_none
  | some next => rfl

section Step

variable {written : WrittenText} {key : String} {value : Reading} {current : draft}
  {seen : List String}

theorem toOption_takeMember_of_unknown (read : written.read = .ok key)
    (unknown : shape.field? key = none) :
    (shape.takeMember depth (current, seen) key value).toOption =
      (shape.contribute depth (written, value) current).map fun next => (next, seen) := by
  simp only [takeMember, contribute, read, unknown, Reading.skip]
  cases value.fault? <;> rfl

/-- A field is taken in as what it contributes, unless it was there before. -/
theorem toOption_takeMember_of_field {field : Field draft} (read : written.read = .ok key)
    (known : shape.field? key = some field) (unseen : field.name ∉ seen) :
    (shape.takeMember depth (current, seen) key value).toOption =
      (shape.contribute depth (written, value) current).map fun next =>
        (next, field.name :: seen) := by
  have fresh : seen.contains field.name = false := by simpa using unseen
  simp only [takeMember, contribute, read, known, fresh, Bool.false_eq_true, if_false]
  cases field.decode depth value current <;> rfl

theorem toOption_takeMembers_cons (read : written.read = .ok key)
    (rest : List (WrittenText × Reading)) :
    (shape.takeMembers depth (current, seen) ((written, value) :: rest)).toOption =
      (shape.takeMember depth (current, seen) key value).toOption >>= fun next =>
        (shape.takeMembers depth next rest).toOption := by
  simp only [takeMembers, read, faulty, ok_bind]
  cases shape.takeMember depth (current, seen) key value <;> rfl

end Step

/-- Members are taken in one after another, unless one is a field that was there before. -/
theorem toOption_takeMembers {current : draft} {seen : List String}
    (unrepeated : shape.IsUnrepeated members)
    (fresh : ∀ name ∈ shape.namesOf members, name ∉ seen) :
    (shape.takeMembers depth (current, seen) members).toOption =
      (shape.gather depth members (some current)).map fun last =>
        (last, (shape.namesOf members).reverse ++ seen) := by
  induction members generalizing current seen with
  | nil => rfl
  | cons member rest ih =>
    obtain ⟨written, value⟩ := member
    rw [gather_cons]
    cases read : written.read with
    | error fault =>
      have spoilt : shape.contribute depth (written, value) current = none := by
        simp only [contribute, read]
      rw [spoilt]
      simp only [takeMembers, read, faulty]
      rfl
    | ok key =>
      have is : shape.fieldOf? (written, value) = shape.field? key := fieldOf?_eq read value
      rw [toOption_takeMembers_cons read]
      cases known : shape.field? key with
      | none =>
        have names := namesOf_cons_of_unknown (is.trans known) rest
        rw [IsUnrepeated, names] at unrepeated
        rw [names] at fresh ⊢
        rw [toOption_takeMember_of_unknown read known]
        cases shape.contribute depth (written, value) current with
        | none => rfl
        | some next => exact ih unrepeated fresh
      | some field =>
        have names := namesOf_cons_of_field (is.trans known) rest
        rw [IsUnrepeated, names] at unrepeated
        rw [names] at fresh ⊢
        obtain ⟨own, others⟩ := List.nodup_cons.1 unrepeated
        obtain ⟨unseen, later⟩ := List.forall_mem_cons.1 fresh
        rw [toOption_takeMember_of_field read known unseen]
        cases shape.contribute depth (written, value) current with
        | none => rfl
        | some next =>
          have freshBehind : ∀ name ∈ shape.namesOf rest, name ∉ field.name :: seen := by
            intro name member held
            rcases List.mem_cons.1 held with rfl | before
            · exact own member
            · exact later name member before
          rw [List.reverse_cons, List.append_assoc, List.singleton_append]
          exact ih others freshBehind

/-- What is missing depends on which of the needed names were seen, not on their order. -/
theorem missing?_congr {seen other : List String}
    (same : ∀ field ∈ shape.fields, field.absence = .refused →
      (field.name ∈ seen ↔ field.name ∈ other)) :
    shape.missing? seen = shape.missing? other := by
  refine congrArg (Option.map Field.name) (List.find?_congr fun field member => ?_)
  by_cases needed : field.absence = .refused
  · simp [needed, same field member needed]
  · rw [beq_eq_false_iff_ne.2 needed, Bool.false_and, Bool.false_and]

/-- An object without repeated keys is read as what its members make of the empty draft, provided
that no field is missing. -/
theorem toOption_decode (unrepeated : shape.IsUnrepeated members) :
    (shape.decode (depth + 1) (.object members .closed)).toOption =
      if depth = 0 ∨ (shape.missing? (shape.namesOf members)).isSome then none
      else shape.gather depth members (some shape.empty) := by
  by_cases shallow : depth = 0
  · subst shallow
    rfl
  · have taken : (shape.takeMembers depth (shape.empty, []) members).toOption =
        (shape.gather depth members (some shape.empty)).map fun last =>
          (last, (shape.namesOf members).reverse ++ []) :=
      toOption_takeMembers unrepeated (by simp)
    rw [List.append_nil] at taken
    have names : shape.missing? (shape.namesOf members).reverse =
        shape.missing? (shape.namesOf members) := missing?_congr fun _ _ _ => List.mem_reverse
    rw [decode, if_neg (by omega), Nat.add_sub_cancel]
    cases all : shape.takeMembers depth (shape.empty, []) members with
    | error fault =>
      rw [all] at taken
      have lost : shape.gather depth members (some shape.empty) = none := by
        simpa [Except.toOption] using taken.symm
      rw [lost, ite_self]
      rfl
    | ok last =>
      rw [all] at taken
      obtain ⟨record, gathered, whole⟩ := Option.map_eq_some_iff.1 taken.symm
      subst whole
      simp only [ok_bind, finishMembers, names, gathered, shallow, false_or]
      cases shape.missing? (shape.namesOf members) <;> rfl

/-! ### Members that can change places -/

/-- A member spoils the record, contributes nothing, or is a field. -/
theorem cases_of_contribute (shape : RecordShape draft) (depth : Nat)
    (member : WrittenText × Reading) :
    shape.contribute depth member = (fun _ => none) ∨ shape.contribute depth member = some ∨
      ∃ field, shape.fieldOf? member = some field ∧ shape.contribute depth member =
        fun current => (field.decode depth member.2 current).toOption := by
  obtain ⟨written, value⟩ := member
  cases read : written.read with
  | error fault =>
    refine .inl (funext fun current => ?_)
    simp only [contribute, read]
  | ok key =>
    cases known : shape.field? key with
    | none =>
      cases broken : value.fault? with
      | none =>
        refine .inr (.inl (funext fun current => ?_))
        simp [contribute, read, known, broken]
      | some fault =>
        refine .inl (funext fun current => ?_)
        simp [contribute, read, known, broken]
    | some field =>
      refine .inr (.inr ⟨field, (fieldOf?_eq read value).trans known, funext fun current => ?_⟩)
      simp only [contribute, read, known]

/-- Whether two members can change places. -/
def CanSwap (shape : RecordShape draft) (depth : Nat) (first second : WrittenText × Reading) :
    Prop :=
  ∀ current, (shape.contribute depth first current >>= shape.contribute depth second) =
    (shape.contribute depth second current >>= shape.contribute depth first)

/-- Members that are not the same field can change places. -/
theorem canSwap_of_ne (independent : shape.IsIndependent) {first second : WrittenText × Reading}
    (apart : ∀ field, shape.fieldOf? first = some field → ∀ other,
      shape.fieldOf? second = some other → field.name ≠ other.name) :
    shape.CanSwap depth first second := by
  intro current
  rcases cases_of_contribute shape depth first with spoils | idle | ⟨field, is, reads⟩
  · simp [spoils]
  · simp [idle]
  · rcases cases_of_contribute shape depth second with spoils | idle | ⟨other, isOther, readsOther⟩
    · simp [spoils]
    · simp [idle]
    · have differ : field ≠ other := fun same => apart field is other isOther (same ▸ rfl)
      have : Std.Symm fun first second : Field draft => Commute first.decode second.decode :=
        ⟨fun _ _ commute => commute.symm⟩
      have commute := independent.commute.forall (mem_fields_of_fieldOf? is)
        (mem_fields_of_fieldOf? isOther) differ
      rw [reads, readsOther]
      exact commute depth first.2 second.2 current

theorem gather_append (first second : List (WrittenText × Reading)) (start : Option draft) :
    shape.gather depth (first ++ second) start =
      shape.gather depth second (shape.gather depth first start) :=
  List.foldl_append

/-- If no key comes twice, any two members can change places. -/
theorem canSwap_of_mem (independent : shape.IsIndependent) (unrepeated : shape.IsUnrepeated members)
    {member other : WrittenText × Reading} (held : member ∈ members) (heldOther : other ∈ members) :
    shape.CanSwap depth member other := by
  have : Std.Symm (shape.CanSwap depth) := ⟨fun _ _ swap current => (swap current).symm⟩
  have distinct : members.Pairwise (shape.CanSwap depth) := by
    refine (List.pairwise_filterMap.1 unrepeated).imp fun {first second} apart => ?_
    refine canSwap_of_ne independent fun field is another isOther => ?_
    exact apart field.name (by rw [is]; rfl) another.name (by rw [isOther]; rfl)
  exact distinct.forall_of_forall (fun _ _ _ => rfl) held heldOther

theorem gather_perm (independent : shape.IsIndependent)
    {first second : List (WrittenText × Reading)} (unrepeated : shape.IsUnrepeated first)
    (order : first.Perm second) (start : Option draft) :
    shape.gather depth first start = shape.gather depth second start := by
  refine order.foldl_eq' (fun member held other heldOther current => ?_) start
  cases current with
  | none => rfl
  | some current => exact canSwap_of_mem independent unrepeated held heldOther current

theorem contribute_of_isIdle (independent : shape.IsIndependent) {member : WrittenText × Reading}
    (idle : shape.isIdle member = true) :
    shape.contribute depth member shape.empty = some shape.empty := by
  obtain ⟨written, value⟩ := member
  unfold isIdle at idle
  unfold contribute
  cases read : written.read with
  | error fault => simp [read] at idle
  | ok key =>
    cases known : shape.field? key with
    | none => simpa [read, known] using idle
    | some field =>
      have optional : field.absence ≠ .refused ∧ value.isNull = true := by
        simpa [read, known] using idle
      have null := independent.null field (List.mem_of_find?_eq_some known) optional.1 depth
      simp only [Reading.eq_null_of_isNull optional.2, known, null]
      rfl

/-- The gist of members is all there is to them. -/
theorem gather_eq_foldl_gist (independent : shape.IsIndependent)
    (unrepeated : shape.IsUnrepeated members) :
    shape.gather depth members (some shape.empty) =
      (shape.gist depth members).foldl (fun current part => current >>= part.2)
        (some shape.empty) := by
  have idle : ∀ idlers : List (WrittenText × Reading),
      (∀ member ∈ idlers, shape.isIdle member = true) →
      shape.gather depth idlers (some shape.empty) = some shape.empty := by
    intro idlers all
    induction idlers with
    | nil => rfl
    | cons member rest ih =>
      obtain ⟨first, later⟩ := List.forall_mem_cons.1 all
      rw [gather_cons, contribute_of_isIdle independent first]
      exact ih later
  rw [gather_perm independent unrepeated (List.filter_append_perm shape.isIdle members).symm,
    gather_append, idle _ fun member held => (List.mem_filter.1 held).2, gist, List.foldl_map]
  rfl

/-! ### Rearranged members have the same gist -/

theorem gist_cons_of_isIdle {member : WrittenText × Reading} (idle : shape.isIdle member = true)
    (rest : List (WrittenText × Reading)) :
    shape.gist depth (member :: rest) = shape.gist depth rest := by
  simp [gist, idle]

theorem gist_perm {alike : String → Reading → Reading → Prop} (respects : shape.Respects alike)
    {first second : List (WrittenText × Reading)}
    (rearranged : shape.Rearranged alike first second) :
    (shape.gist depth first).Perm (shape.gist depth second) := by
  induction rearranged with
  | permuted order => exact (order.filter _).map _
  | unknown rest read unknown whole =>
    rw [gist_cons_of_isIdle (by simp [isIdle, read, unknown, whole])]
  | null rest read known optional =>
    rw [gist_cons_of_isIdle (by simp [isIdle, read, known, optional, Reading.isNull])]
  | @inside written rewritten key field value other rest read again known like =>
    obtain ⟨null, decode⟩ := respects field (List.mem_of_find?_eq_some known) value other like
    have idle : shape.isIdle (written, value) = shape.isIdle (rewritten, other) := by
      simp only [isIdle, read, again, known, null]
    have contributes : shape.contribute depth (written, value) =
        shape.contribute depth (rewritten, other) := by
      funext current
      simp only [contribute, read, again, known, decode]
    simp only [gist, List.filter_cons, idle]
    cases shape.isIdle (rewritten, other) with
    | true => exact .refl _
    | false =>
      simp only [Bool.not_false, if_true, List.map_cons, fieldOf?_eq read, fieldOf?_eq again,
        contributes]
      exact .refl _
  | symm _ ih => exact ih.symm
  | trans _ _ before behind => exact before.trans behind

/-- A name that may not be left out is in the gist of the members that have it. -/
theorem mem_gist_iff (depth : Nat) (independent : shape.IsIndependent) {field : Field draft}
    (among : field ∈ shape.fields) (needed : field.absence = .refused) :
    field.name ∈ shape.namesOf members ↔
      some field.name ∈ (shape.gist depth members).map Prod.fst := by
  have parts : (shape.gist depth members).map Prod.fst =
      (members.filter fun member => !shape.isIdle member).map fun member =>
        (shape.fieldOf? member).map Field.name := by
    rw [gist, List.map_map]
    rfl
  rw [parts, namesOf, List.mem_filterMap, List.mem_map]
  constructor
  · rintro ⟨member, held, is⟩
    refine ⟨member, List.mem_filter.2 ⟨held, ?_⟩, is⟩
    obtain ⟨found, isFound, named⟩ := Option.map_eq_some_iff.1 is
    have same : found = field := List.inj_on_of_nodup_map independent.distinct
      (mem_fields_of_fieldOf? isFound) among named
    obtain ⟨written, value⟩ := member
    obtain ⟨key, read, known⟩ := Option.bind_eq_some_iff.1 isFound
    have keyRead : written.read = .ok key := by
      cases result : written.read with
      | error fault => simp [result, Except.toOption] at read
      | ok other => simpa [result, Except.toOption] using read
    simp [isIdle, keyRead, known, same, needed]
  · rintro ⟨member, held, is⟩
    exact ⟨member, (List.mem_filter.1 held).1, is⟩

/-- An object without repeated keys is the same record however its members are rearranged. -/
theorem decode_rearranged (independent : shape.IsIndependent)
    {alike : String → Reading → Reading → Prop} (respects : shape.Respects alike)
    {first second : List (WrittenText × Reading)} (unrepeated : shape.IsUnrepeated first)
    (unrepeatedOther : shape.IsUnrepeated second) (rearranged : shape.Rearranged alike first second)
    (depth : Nat) :
    (shape.decode depth (.object first .closed)).toOption =
      (shape.decode depth (.object second .closed)).toOption := by
  cases depth with
  | zero => rfl
  | succ depth =>
    have gists : (shape.gist depth first).Perm (shape.gist depth second) :=
      gist_perm respects rearranged
    have missing :
        shape.missing? (shape.namesOf first) = shape.missing? (shape.namesOf second) := by
      refine missing?_congr fun field among needed => ?_
      rw [mem_gist_iff depth independent among needed, mem_gist_iff depth independent among needed]
      exact (gists.map Prod.fst).mem_iff
    have gathered : shape.gather depth first (some shape.empty) =
        shape.gather depth second (some shape.empty) := by
      rw [gather_eq_foldl_gist independent unrepeated,
        gather_eq_foldl_gist independent unrepeatedOther]
      refine gists.foldl_eq' (fun part held other heldOther current => ?_) _
      obtain ⟨member, among, rfl⟩ := List.mem_map.1 held
      obtain ⟨another, amongOther, rfl⟩ := List.mem_map.1 heldOther
      cases current with
      | none => rfl
      | some current =>
        exact canSwap_of_mem independent unrepeated (List.mem_filter.1 among).1
          (List.mem_filter.1 amongOther).1 current
    rw [toOption_decode unrepeated, toOption_decode unrepeatedOther, missing, gathered]

/-! ### Repeated keys -/

/-- Members that were taken in have no known key twice, and none that was seen before. -/
theorem nodup_of_takeMembers {state last : draft × List String}
    (taken : shape.takeMembers depth state members = .ok last) :
    (shape.namesOf members).Nodup ∧ ∀ name ∈ shape.namesOf members, name ∉ state.2 := by
  induction members generalizing state with
  | nil => exact ⟨List.nodup_nil, by simp [namesOf]⟩
  | cons member rest ih =>
    obtain ⟨key, keyRead, later⟩ := exists_of_bind_ok taken
    obtain ⟨next, one, others⟩ := exists_of_bind_ok later
    obtain ⟨distinct, fresh⟩ := ih others
    have is : shape.fieldOf? member = shape.field? key :=
      fieldOf?_eq (eq_of_faulty_ok keyRead) member.2
    rcases exists_field_of_takeMember one with ⟨unknown, rfl⟩ | ⟨field, known, unseen, _, seen⟩
    · rw [namesOf_cons_of_unknown (is.trans unknown)]
      exact ⟨distinct, fresh⟩
    · rw [seen] at fresh
      rw [namesOf_cons_of_field (is.trans known)]
      refine ⟨List.nodup_cons.2 ⟨fun twice => fresh _ twice List.mem_cons_self, distinct⟩, ?_⟩
      refine List.forall_mem_cons.2 ⟨unseen, fun name held before => ?_⟩
      exact fresh name held (List.mem_cons_of_mem _ before)

/-- An object that is a record has no known key twice. -/
theorem isUnrepeated_of_decode {finish : ObjectEnd} {record : draft}
    (decoded : shape.decode depth (.object members finish) = .ok record) :
    shape.IsUnrepeated members := by
  obtain ⟨seen, taken⟩ := exists_takeMembers_of_decode decoded
  exact (nodup_of_takeMembers taken).1

/-- Every member of a record that is a field can be read as it. -/
theorem exists_decode_of_takeMembers {state last : draft × List String}
    (taken : shape.takeMembers depth state members = .ok last) {written : WrittenText}
    {key : String} {value : Reading} {field : Field draft} (held : (written, value) ∈ members)
    (read : written.read = .ok key) (known : shape.field? key = some field) :
    ∃ current next, field.decode depth value current = .ok next := by
  induction members generalizing state with
  | nil => cases held
  | cons member rest ih =>
    obtain ⟨found, keyRead, later⟩ := exists_of_bind_ok taken
    obtain ⟨next, one, others⟩ := exists_of_bind_ok later
    rcases List.mem_cons.1 held with rfl | behind
    · cases Except.ok.inj (read.symm.trans (eq_of_faulty_ok keyRead))
      rcases exists_field_of_takeMember one with ⟨unknown, _⟩ | ⟨other, named, _, decoded, _⟩
      · cases known.symm.trans unknown
      · cases Option.some.inj (known.symm.trans named)
        exact ⟨_, _, decoded⟩
    · exact ih others behind

/-- Whether an object has a known key twice, or under a known key a value that does so. -/
inductive Repeats (shape : RecordShape draft) (inner : String → Reading → Prop) : Reading → Prop
  | own {members : List (WrittenText × Reading)} {finish : ObjectEnd}
    (repeated : ¬ shape.IsUnrepeated members) : Repeats shape inner (.object members finish)
  | inside {members : List (WrittenText × Reading)} {finish : ObjectEnd} {written : WrittenText}
    {key : String} {value : Reading} {field : Field draft} (held : (written, value) ∈ members)
    (read : written.read = .ok key) (known : shape.field? key = some field)
    (repeats : inner field.name value) : Repeats shape inner (.object members finish)

/-- Whether a field is never read from values that have keys twice. -/
def Refuses (inner : String → Reading → Prop) : Prop :=
  ∀ field ∈ shape.fields, ∀ value, inner field.name value →
    ∀ depth current next, field.decode depth value current ≠ .ok next

theorem ne_ok_of_repeats {inner : String → Reading → Prop} (refuses : shape.Refuses inner)
    {value : Reading} (repeats : shape.Repeats inner value) (record : draft) :
    shape.decode depth value ≠ .ok record := by
  intro decoded
  cases repeats with
  | own repeated => exact repeated (isUnrepeated_of_decode decoded)
  | inside held read known repeats =>
    obtain ⟨seen, taken⟩ := exists_takeMembers_of_decode decoded
    obtain ⟨current, next, one⟩ := exists_decode_of_takeMembers taken held read known
    exact refuses _ (List.mem_of_find?_eq_some known) _ repeats _ _ _ one

/-! ### Values with rearranged objects inside -/

/-- Whether values are the same, but for an object whose members are rearranged. -/
inductive Like (shape : RecordShape draft) (alike : String → Reading → Reading → Prop) :
    Reading → Reading → Prop
  | same (value : Reading) : Like shape alike value value
  | rearranged {first second : List (WrittenText × Reading)}
    (unrepeated : shape.IsUnrepeated first) (unrepeatedOther : shape.IsUnrepeated second)
    (rearranged : shape.Rearranged alike first second) :
    Like shape alike (.object first .closed) (.object second .closed)

theorem respects_eq (shape : RecordShape draft) : shape.Respects fun _ => Eq := by
  rintro field _ value _ rfl
  exact ⟨rfl, fun _ _ => rfl⟩

/-- Values of one field count as alike in their own way, all others if they are the same. -/
def Within (name : String) (inner : Reading → Reading → Prop) (key : String) :
    Reading → Reading → Prop :=
  if key = name then inner else Eq

theorem respects_within {name : String} {inner : Reading → Reading → Prop}
    (own : ∀ field ∈ shape.fields, field.name = name → ∀ value other, inner value other →
      value.isNull = other.isNull ∧ ∀ depth current,
        (field.decode depth value current).toOption =
          (field.decode depth other current).toOption) : shape.Respects (Within name inner) := by
  intro field among value other like
  by_cases named : field.name = name
  · rw [Within, if_pos named] at like
    exact own field among named value other like
  · rw [Within, if_neg named] at like
    subst like
    exact ⟨rfl, fun _ _ => rfl⟩

theorem Like.toOption_decode {alike : String → Reading → Reading → Prop} {value other : Reading}
    (like : shape.Like alike value other) (independent : shape.IsIndependent)
    (respects : shape.Respects alike) (depth : Nat) :
    (shape.decode depth value).toOption = (shape.decode depth other).toOption := by
  cases like with
  | same value => rfl
  | rearranged unrepeated unrepeatedOther rearranged =>
    exact decode_rearranged independent respects unrepeated unrepeatedOther rearranged depth

end RecordShape

/-- Whether values are the same, but for a list whose elements are alike. -/
inductive ListLike (alike : Reading → Reading → Prop) : Reading → Reading → Prop
  | same (value : Reading) : ListLike alike value value
  | elements {first second : List Reading} (each : List.Forall₂ alike first second) :
    ListLike alike (.list first none) (.list second none)

theorem toOption_mapM {α : Type} (decode : Reading → Decoded α) (elements : List Reading) :
    (elements.mapM decode).toOption = elements.mapM fun element => (decode element).toOption := by
  induction elements with
  | nil => rfl
  | cons element rest ih =>
    rw [List.mapM_cons, List.mapM_cons, ← ih]
    cases decode element with
    | error fault => rfl
    | ok value => cases rest.mapM decode <;> rfl

theorem ListLike.toOption_decodeList {α : Type} {alike : Reading → Reading → Prop}
    {decode : Nat → Reading → Decoded α} {value other : Reading} (like : ListLike alike value other)
    (same : ∀ value other, alike value other →
      ∀ depth, (decode depth value).toOption = (decode depth other).toOption) (depth : Nat) :
    (value.decodeList decode depth).toOption = (other.decodeList decode depth).toOption := by
  cases like with
  | same value => rfl
  | @elements first second each =>
    have all : (first.mapM (decode (depth - 1))).toOption =
        (second.mapM (decode (depth - 1))).toOption := by
      rw [toOption_mapM, toOption_mapM]
      induction each with
      | nil => rfl
      | cons like _ ih => rw [List.mapM_cons, List.mapM_cons, same _ _ like, ih]
    have whole (values : Decoded (List α)) : (values >>= Except.ok) = values := bind_pure values
    unfold Reading.decodeList
    by_cases shallow : depth ≤ 1
    · simp only [shallow, if_true]
    · simp only [shallow, if_false, whole]
      exact all

/-- Whether a value is a list with an element of a kind. -/
inductive ListHas (holds : Reading → Prop) : Reading → Prop
  | element {elements : List Reading} {broken : Option Fault} {element : Reading}
    (held : element ∈ elements) (is : holds element) : ListHas holds (.list elements broken)

theorem ne_ok_of_mapM {α : Type} {decode : Reading → Decoded α} {elements : List Reading}
    {element : Reading} (held : element ∈ elements) (fails : ∀ value, decode element ≠ .ok value)
    (values : List α) : elements.mapM decode ≠ .ok values := by
  induction elements generalizing values with
  | nil => cases held
  | cons first rest ih =>
    intro read
    rw [List.mapM_cons] at read
    obtain ⟨value, one, later⟩ := exists_of_bind_ok read
    obtain ⟨others, behind, _⟩ := exists_of_bind_ok later
    rcases List.mem_cons.1 held with rfl | elsewhere
    · exact fails value one
    · exact ih elsewhere others behind

theorem ListHas.ne_ok {α : Type} {holds : Reading → Prop} {decode : Nat → Reading → Decoded α}
    {value : Reading} (has : ListHas holds value)
    (fails : ∀ element, holds element → ∀ depth found, decode depth element ≠ .ok found)
    (depth : Nat) (values : List α) : value.decodeList decode depth ≠ .ok values := by
  cases has with
  | element held is =>
    intro read
    unfold Reading.decodeList at read
    simp only at read
    split at read
    · cases read
    · obtain ⟨found, all, _⟩ := exists_of_bind_ok read
      exact ne_ok_of_mapM held (fails _ is _) found all

/-! ### Documents -/

namespace Document

/-- Whether two texts are whole documents of values that are alike. -/
structure Alike (alike : Reading → Reading → Prop) (first second : Bytes) : Prop where
  whole : (ofBytes first).trailing = false
  wholeOther : (ofBytes second).trailing = false
  like : alike (ofBytes first).value (ofBytes second).value

variable {α : Type} {decode : Nat → Reading → Decoded α}

theorem Alike.toOption_decodeDocument {alike : Reading → Reading → Prop} {first second : Bytes}
    (documents : Alike alike first second)
    (same : ∀ value other, alike value other →
      ∀ depth, (decode depth value).toOption = (decode depth other).toOption) :
    (decodeDocument decode first).toOption = (decodeDocument decode second).toOption := by
  have whole (found : Decoded α) : (found >>= fun value => pure value) = found := bind_pure found
  simp only [decodeDocument, documents.whole, documents.wholeOther, Bool.false_eq_true, if_false,
    whole]
  exact same _ _ documents.like nestingLimit

theorem ne_ok_of_value {bytes : Bytes}
    (fails : ∀ depth found, decode depth (ofBytes bytes).value ≠ .ok found) (value : α) :
    decodeDocument decode bytes ≠ .ok value := by
  intro read
  obtain ⟨found, decoded, _⟩ := exists_of_bind_ok read
  exact fails _ _ decoded

end Document

end DeviceEnrollment.Json
