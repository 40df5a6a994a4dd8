import DeviceEnrollment.Proofs.Json.Members
import DeviceEnrollment.Proofs.Json.Values
import DeviceEnrollment.Proofs.Time.Instant

/-!
Records that are printed as objects. Reading the printed members one after another fills the draft
of the record again (`RecordShape.decode_stated`).
-/
namespace DeviceEnrollment.Json

/-! ### Printed values -/

namespace Value

theorem nesting_lt_of_mem {key : String} {value : Value} {members : List (String × Value)}
    (member : (key, value) ∈ members) : value.nesting < (object members).nesting := by
  refine Nat.lt_succ_of_le ?_
  induction members with
  | nil => cases member
  | cons first rest ih =>
    rcases List.mem_cons.1 member with rfl | later
    · exact Nat.le_max_left _ _
    · exact Nat.le_trans (ih later) (Nat.le_max_right _ _)

theorem printMembers_eq_map (members : List (String × Value)) :
    printMembers members = members.map fun member => (member.1, member.2.print) := by
  induction members with
  | nil => rfl
  | cons member rest ih => rw [printMembers, ih, List.map_cons]

theorem elementReadings_eq_map (elements : List Value) :
    elementReadings elements = elements.map reading := by
  induction elements with
  | nil => rfl
  | cons element rest ih => rw [elementReadings, ih, List.map_cons]

theorem printElements_eq_map (elements : List Value) :
    printElements elements = elements.map print := by
  induction elements with
  | nil => rfl
  | cons element rest ih => rw [printElements, ih, List.map_cons]

end Value

/-! ### Single fields -/

section

variable {α : Type} {depth : Nat}

theorem decodeText_reading (depth : Nat) (text : String) :
    decodeTextAt depth (Value.text text).reading = .ok text := by
  rw [decodeTextAt, Value.reading, Reading.decodeText, WrittenText.read_ofText]
  rfl

theorem decodeValue_reading {value : Value} (integral : value.HasOnlyIntegers)
    (fits : value.FitsIn depth) : decodeValue depth value.reading = .ok value := by
  rw [decodeValue, value.value_reading integral fits.sorted fits.nesting_lt]
  rfl

theorem decodeInstant_reading (depth : Nat) (instant : Time.Instant) :
    decodeInstant depth (Value.text instant.text).reading = .ok instant := by
  rw [Value.reading, decodeInstant, WrittenText.read_ofText]
  simp only [faulty, ok_bind, Time.Instant.parse_text]

theorem isIntegral_of_fitsInt64 {value : Int} (fits : Reading.fitsInt64 value = true) :
    (Value.number (.integer value)).IsIntegral := by
  have bounds : -(Number.twoTo63 : Int) ≤ value ∧ value < Number.twoTo63 := by
    simpa [Reading.fitsInt64] using fits
  exact ⟨bounds.1, lt_of_lt_of_le bounds.2 (by decide)⟩

theorem hasReadableNumbers_integer {value : Int} (fits : Reading.fitsInt64 value = true) :
    (Value.number (.integer value)).HasReadableNumbers := by
  simpa [Value.HasReadableNumbers, Value.inside] using (isIntegral_of_fitsInt64 fits).isReadable

theorem decodeInt_reading {value : Int} (fits : Reading.fitsInt64 value = true) :
    (Value.number (.integer value)).reading.decodeInt = .ok value := by
  obtain ⟨least, greatest⟩ := isIntegral_of_fitsInt64 fits
  rw [Value.reading_integer, Reading.decodeInt, WrittenNumber.read_ofInteger least greatest]
  simp only [faulty, ok_bind, fits, if_true]

theorem decodeVariant_reading {variants : List (String × α)} {other : Option α} {name : String}
    {value : α} (known : variants.lookup name = some value) :
    (Value.text name).reading.decodeVariant variants other depth = .ok value := by
  rw [Value.reading, Reading.decodeVariant, WrittenText.read_ofText]
  simp only [faulty, ok_bind, Reading.variantOf, known]

theorem reading_ne_null {value : Value} (readable : value.HasReadableNumbers)
    (stated : value ≠ .null) : value.reading ≠ .null := by
  cases value with
  | null => exact absurd rfl stated
  | number held =>
    obtain ⟨written, reads, _⟩ := Value.exists_reading_number readable
    rw [reads]
    simp
  | _ => simp [Value.reading]

/-- What is not `null` is not taken for an absent value. -/
theorem decodeOption_reading {decode : Reading → Decoded α} {value : Value} {found : α}
    (readable : value.HasReadableNumbers) (stated : value ≠ .null)
    (read : decode value.reading = .ok found) :
    value.reading.decodeOption decode = .ok (some found) := by
  have whole := Value.fault?_reading readable
  unfold Reading.decodeOption
  split
  · next null => exact absurd null (reading_ne_null readable stated)
  · next fault broken =>
    rw [broken] at whole
    cases whole
  · rw [read]
    rfl

theorem Reading.fitsIn_of_decodeValue {reading : Reading} {value : Value} (positive : 0 < depth)
    (read : reading.decodeOption (decodeValue depth) = .ok (some value)) :
    value ≠ .null ∧ value.FitsIn depth := by
  obtain ⟨notNull, decoded⟩ := Reading.ne_null_of_decodeOption read
  have found := eq_of_faulty_ok decoded
  refine ⟨?_, Reading.fitsIn_of_value reading positive found⟩
  rintro rfl
  exact notNull (Reading.eq_null_of_value found)

theorem decodeOption_text {decode : Reading → Decoded α} {text : String} {found : α}
    (read : decode (Value.text text).reading = .ok found) :
    (Value.text text).reading.decodeOption decode = .ok (some found) :=
  decodeOption_reading (Value.hasReadableNumbers_text text) (by simp) read

theorem decodeList_reading {decode : Nat → Reading → Decoded α} {toValue : α → Value}
    {items : List α} (positive : 0 < depth)
    (read : ∀ item ∈ items, decode depth (toValue item).reading = .ok item) :
    (Value.list (items.map toValue)).reading.decodeList decode (depth + 1) = .ok items := by
  have each : ((items.map toValue).map Value.reading).mapM (decode depth) = .ok items := by
    induction items with
    | nil => rfl
    | cons item rest ih =>
      rw [List.map_cons, List.map_cons, List.mapM_cons, read item List.mem_cons_self,
        ih fun other member => read other (List.mem_cons_of_mem _ member)]
      rfl
  rw [Value.reading, Value.elementReadings_eq_map, Reading.decodeList, if_neg (by omega),
    Nat.add_sub_cancel, each]
  rfl

end

/-! ### Whole records -/

variable {draft : Type}

/-- The members that state what entries there are for fields. -/
def stated (fields : List (Field draft)) (entries : List (Option Value)) : List (String × Value) :=
  (fields.zip entries).filterMap fun pair => pair.2.map fun value => (pair.1.name, value)

theorem print_stated (fields : List (Field draft)) (entries : List (Option Value)) :
    (Value.object (stated fields entries)).print = printObject
      (((fields.zip entries).map fun pair =>
        optionalMember pair.1.name Value.print pair.2).filterMap id) := by
  rw [Value.print, Value.printMembers_eq_map, stated, List.map_filterMap, List.filterMap_map]
  congr 2
  funext ⟨field, entry⟩
  cases entry <;> rfl

theorem mem_stated {fields : List (Field draft)} {entries : List (Option Value)} {index : Nat}
    {field : Field draft} {value : Value} (place : fields[index]? = some field)
    (entry : entries[index]? = some (some value)) :
    (field.name, value) ∈ stated fields entries := by
  have paired : (fields.zip entries)[index]? = some (field, some value) :=
    List.getElem?_zip_eq_some.2 ⟨place, entry⟩
  exact List.mem_filterMap.2 ⟨(field, some value), List.mem_of_getElem? paired, rfl⟩

theorem mem_of_mem_stated {fields : List (Field draft)} {entries : List (Option Value)}
    {member : String × Value} (held : member ∈ stated fields entries) :
    some member.2 ∈ entries := by
  obtain ⟨⟨field, entry⟩, paired, found⟩ := List.mem_filterMap.1 held
  obtain ⟨value, rfl, rfl⟩ := Option.map_eq_some_iff.1 found
  exact (List.of_mem_zip paired).2

theorem hasReadableNumbers_stated {fields : List (Field draft)} {entries : List (Option Value)}
    (all : ∀ value, some value ∈ entries → value.HasReadableNumbers) :
    (Value.object (stated fields entries)).HasReadableNumbers :=
  Value.hasReadableNumbers_object fun member held => all member.2 (mem_of_mem_stated held)

/-- Whether reading the entries of fields one after another takes a draft to the last one. -/
inductive Fills (depth : Nat) :
    draft → List (Field draft) → List (Option Value) → draft → Prop where
  | done (current : draft) : Fills depth current [] [] current
  | absent {current last : draft} {field : Field draft} {fields : List (Field draft)}
      {entries : List (Option Value)} (allowed : field.absence ≠ .refused)
      (later : Fills depth current fields entries last) :
      Fills depth current (field :: fields) (none :: entries) last
  | present {current next last : draft} {field : Field draft} {value : Value}
      {fields : List (Field draft)} {entries : List (Option Value)}
      (read : field.decode depth value.reading current = .ok next)
      (later : Fills depth next fields entries last) :
      Fills depth current (field :: fields) (some value :: entries) last

namespace Fills

variable {α : Type} {name : String} {decode : Nat → Reading → Decoded α} {depth : Nat}
  {current last : draft} {fields : List (Field draft)} {entries : List (Option Value)}
  {toValue : α → Value}

theorem required {set : draft → α → draft} {entry : Value} {value : α}
    (read : decode depth entry.reading = .ok value)
    (later : Fills depth (set current value) fields entries last) :
    Fills depth current (requiredField name decode set :: fields) (some entry :: entries) last := by
  refine .present ?_ later
  simp only [requiredField, read]
  rfl

/-- A field that may be absent is filled with what is read of its entry, whatever that is. -/
theorem found {set : draft → Option α → draft} {held : Option α} {entry : Option Value}
    (absent : entry = none → set current held = current)
    (read : ∀ value, entry = some value → value.reading.decodeOption (decode depth) = .ok held)
    (later : Fills depth (set current held) fields entries last) :
    Fills depth current (optionalField name decode set :: fields) (entry :: entries) last := by
  cases entry with
  | none => exact .absent (fun refused => by cases refused) (absent rfl ▸ later)
  | some value =>
    refine .present ?_ later
    simp only [optionalField, read value rfl]
    rfl

theorem optional {set : draft → Option α → draft} {held : Option α} {entry : Option Value}
    (states : entry = held.map toValue) (absent : set current none = current)
    (read : ∀ value, held = some value →
      (toValue value).reading.decodeOption (decode depth) = .ok (some value))
    (later : Fills depth (set current held) fields entries last) :
    Fills depth current (optionalField name decode set :: fields) (entry :: entries) last := by
  subst states
  refine .found (fun none => ?_) (fun value is => ?_) later
  · rw [Option.map_eq_none_iff.1 none, absent]
  · obtain ⟨value, here, rfl⟩ := Option.map_eq_some_iff.1 is
    rw [read value here, here]

end Fills

namespace RecordShape

variable {shape : RecordShape draft}

/-- Whether fields are found by their names, each by its own. -/
structure IsNamed (shape : RecordShape draft) : Prop where
  finds : ∀ field ∈ shape.fields, shape.field? field.name = some field
  distinct : (shape.fields.map Field.name).Nodup

/-- Taking the members that state the entries fills the draft, and no required field is missed. -/
theorem takeMembers_stated {depth : Nat} {current last : draft} {fields : List (Field draft)}
    {entries : List (Option Value)} (fills : Fills depth current fields entries last)
    {seen : List String} (finds : ∀ field ∈ fields, shape.field? field.name = some field)
    (distinct : (fields.map Field.name).Nodup) (fresh : ∀ field ∈ fields, field.name ∉ seen) :
    ∃ taken, shape.takeMembers depth (current, seen)
        (Value.memberReadings (stated fields entries)) = .ok (last, taken) ∧
      (∀ name ∈ seen, name ∈ taken) ∧
      ∀ field ∈ fields, field.absence = .refused → field.name ∈ taken := by
  induction fills generalizing seen with
  | done current => exact ⟨seen, rfl, fun _ held => held, by simp⟩
  | @absent current last field fields entries allowed later ih =>
    obtain ⟨_, others⟩ := List.nodup_cons.1 distinct
    obtain ⟨taken, read, kept, needed⟩ := ih (List.forall_mem_cons.1 finds).2 others
      (List.forall_mem_cons.1 fresh).2
    refine ⟨taken, read, kept, List.forall_mem_cons.2 ⟨?_, needed⟩⟩
    exact fun refused => absurd refused allowed
  | @present current next last field value fields entries read later ih =>
    -- The field is seen from here on, and no field behind it has its name.
    obtain ⟨own, others⟩ := List.nodup_cons.1 distinct
    obtain ⟨freshField, freshLater⟩ := List.forall_mem_cons.1 fresh
    have freshBehind : ∀ other ∈ fields, other.name ∉ field.name :: seen := by
      intro other member held
      rcases List.mem_cons.1 held with same | before
      · exact own (same ▸ List.mem_map_of_mem member)
      · exact freshLater other member before
    obtain ⟨taken, rest, kept, needed⟩ := ih (List.forall_mem_cons.1 finds).2 others freshBehind
    refine ⟨taken, ?_, fun name held => kept name (List.mem_cons_of_mem _ held),
      List.forall_mem_cons.2 ⟨fun _ => kept _ List.mem_cons_self, needed⟩⟩
    have step : shape.takeMember depth (current, seen) field.name value.reading =
        .ok (next, field.name :: seen) := by
      simp only [takeMember, (List.forall_mem_cons.1 finds).1, read]
      simp [freshField]
    simp only [stated, List.zip_cons_cons, List.filterMap_cons, Option.map_some,
      Value.memberReadings, takeMembers, WrittenText.read_ofText, faulty, ok_bind, step]
    exact rest

/-- An object that states entries reads as the record that they fill. -/
theorem decode_stated {depth : Nat} {entries : List (Option Value)} {last : draft}
    (named : shape.IsNamed) (positive : 0 < depth)
    (fills : Fills depth shape.empty shape.fields entries last) :
    shape.decode (depth + 1) (Value.object (stated shape.fields entries)).reading = .ok last := by
  obtain ⟨taken, read, _, needed⟩ := takeMembers_stated fills named.finds named.distinct
    (by simp : ∀ field ∈ shape.fields, field.name ∉ [])
  have complete : shape.missing? taken = none := by
    rw [missing?, Option.map_eq_none_iff, List.find?_eq_none]
    intro field member lost
    simp only [Bool.and_eq_true, beq_iff_eq, Bool.not_eq_true', List.contains_eq_mem,
      decide_eq_false_iff_not] at lost
    exact lost.2 (needed field member lost.1)
  rw [Value.reading, decode, if_neg (by omega), Nat.add_sub_cancel, read]
  simp only [ok_bind, finishMembers, complete]
  rfl

end RecordShape

/-- The document of a printed value is read by reading this value. -/
theorem decodeDocument_print {α : Type} {decode : Nat → Reading → Decoded α} {value : Value}
    (readable : value.HasReadableNumbers) :
    decodeDocument decode value.print = decode nestingLimit value.reading := by
  rw [decodeDocument, Value.document_print readable]
  exact bind_pure _

end DeviceEnrollment.Json
