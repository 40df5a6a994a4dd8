import DeviceEnrollment.Proofs.Json.Escapes
import DeviceEnrollment.Proofs.Json.Numbers

/-!
What a printed value is scanned as. Scanning stops exactly behind the value, whatever follows it in
the document (`Value.scan_print`).
-/
namespace DeviceEnrollment.Json

namespace Value

mutual

/-- What a printed value is scanned as. -/
def reading : Value → Reading
  | null => .null
  | bool value => .bool value
  | number value => (Reading.scan 1 (printNumber value)).1
  | text value => .text (.ofText value)
  | list elements => .list (elementReadings elements) none
  | object members => .object (memberReadings members) .closed

def elementReadings : List Value → List Reading
  | [] => []
  | element :: rest => reading element :: elementReadings rest

def memberReadings : List (String × Value) → List (WrittenText × Reading)
  | [] => []
  | (key, value) :: rest => (.ofText key, reading value) :: memberReadings rest

end

mutual

/-- The values inside a value, itself included. -/
def inside : Value → List Value
  | list elements => list elements :: insideElements elements
  | object members => object members :: insideMembers members
  | other => [other]

def insideElements : List Value → List Value
  | [] => []
  | element :: rest => inside element ++ insideElements rest

def insideMembers : List (String × Value) → List Value
  | [] => []
  | (_, value) :: rest => inside value ++ insideMembers rest

end

/-- Whether a value is an integer of 64 bits if it is a number. -/
def IsIntegral : Value → Prop
  | number (.integer value) => -(Number.twoTo63 : Int) ≤ value ∧ value < Number.twoTo64
  | number (.double _) => False
  | _ => True

/-- Whether every number inside a value is an integer of 64 bits. -/
def HasOnlyIntegers (value : Value) : Prop := ∀ part ∈ value.inside, part.IsIntegral

/-- Whether what is printed of a value reads as some number if the value is one. -/
def IsReadable : Value → Prop
  | number value => value.IsReadable
  | _ => True

/-- Whether every number inside a value reads as some number from what is printed of it. -/
def HasReadableNumbers (value : Value) : Prop := ∀ part ∈ value.inside, part.IsReadable

theorem IsIntegral.isReadable {value : Value} (integral : value.IsIntegral) : value.IsReadable := by
  cases value with
  | number held =>
    cases held with
    | integer held => exact Number.isReadable_integer integral.1 integral.2
    | double held => exact integral.elim
  | _ => trivial

theorem HasOnlyIntegers.hasReadableNumbers {value : Value} (integral : value.HasOnlyIntegers) :
    value.HasReadableNumbers :=
  fun part held => (integral part held).isReadable

theorem mem_inside (value : Value) : value ∈ value.inside := by
  cases value <;> simp [inside]

section

variable {holds : Value → Prop}

theorem forall_mem_insideElements {elements : List Value} :
    (∀ part ∈ insideElements elements, holds part) ↔
      ∀ element ∈ elements, ∀ part ∈ element.inside, holds part := by
  induction elements with
  | nil => simp [insideElements]
  | cons element rest ih => rw [insideElements, List.forall_mem_append, ih, List.forall_mem_cons]

theorem forall_mem_insideMembers {members : List (String × Value)} :
    (∀ part ∈ insideMembers members, holds part) ↔
      ∀ member ∈ members, ∀ part ∈ member.2.inside, holds part := by
  induction members with
  | nil => simp [insideMembers]
  | cons member rest ih => rw [insideMembers, List.forall_mem_append, ih, List.forall_mem_cons]

end

theorem hasReadableNumbers_list {elements : List Value}
    (all : ∀ element ∈ elements, element.HasReadableNumbers) : (list elements).HasReadableNumbers :=
  List.forall_mem_cons.2 ⟨trivial, forall_mem_insideElements.2 all⟩

theorem hasReadableNumbers_object {members : List (String × Value)}
    (all : ∀ member ∈ members, member.2.HasReadableNumbers) :
    (object members).HasReadableNumbers :=
  List.forall_mem_cons.2 ⟨trivial, forall_mem_insideMembers.2 all⟩

theorem hasReadableNumbers_text (held : String) : (text held).HasReadableNumbers := by
  simp [HasReadableNumbers, inside, IsReadable]

end Value

/-! ### Steps of scanning -/

namespace Reading

theorem scan_text (fuel : Nat) (text : String) (rest : Bytes) :
    scan (fuel + 1) (printText text ++ rest) = (.text (.ofText text), rest) := by
  have quoted : printText text ++ rest =
      0x22 :: ((Bytes.ofText text).flatMap escapeByte ++ 0x22 :: rest) := by
    simp [printText]
  rw [quoted, scan]
  simp [skipBlanks, isBlank, WrittenText.scan_printed, WrittenText.ofText, Bytes.isDigit]

theorem scan_list {fuel : Nat} {bytes rest : Bytes} {elements : List Reading}
    {broken : Option Fault} (scanned : scanElements fuel true bytes = (elements, broken, rest)) :
    scan (fuel + 1) (0x5B :: bytes) = (.list elements broken, rest) := by
  rw [scan]
  simp [skipBlanks, isBlank, Bytes.isDigit, scanned]

theorem scan_object {fuel : Nat} {bytes rest : Bytes} {members : List (WrittenText × Reading)}
    {finish : ObjectEnd} (scanned : scanMembers fuel true bytes = (members, finish, rest)) :
    scan (fuel + 1) (0x7B :: bytes) = (.object members finish, rest) := by
  rw [scan]
  simp [skipBlanks, isBlank, Bytes.isDigit, scanned]

/-! A value is read behind an opening bracket, a comma or a colon. -/

theorem scanElements_close (fuel : Nat) (first : Bool) (rest : Bytes) :
    scanElements (fuel + 1) first (0x5D :: rest) = ([], none, rest) := by
  rw [scanElements]
  rfl

theorem scanElements_first {next : UInt8} (plain : isBlank next = false) (opens : next ≠ 0x5D)
    (fuel : Nat) (bytes : Bytes) :
    scanElements (fuel + 1) true (next :: bytes) = scanElement fuel (next :: bytes) := by
  rw [scanElements]
  simp [skipBlanks, plain, opens]

theorem scanElements_comma {next : UInt8} (plain : isBlank next = false) (opens : next ≠ 0x5D)
    (fuel : Nat) (bytes : Bytes) :
    scanElements (fuel + 1) false (0x2C :: next :: bytes) = scanElement fuel (next :: bytes) := by
  have comma : isBlank 0x2C = false := rfl
  rw [scanElements]
  simp [skipBlanks, plain, opens, comma]

theorem scanElement_of_scan {fuel : Nat} {bytes rest : Bytes} {element : Reading}
    (scanned : scan fuel bytes = (element, rest)) (whole : element.fault? = none) :
    scanElement (fuel + 1) bytes =
      (element :: (scanElements fuel false rest).1, (scanElements fuel false rest).2) := by
  rw [scanElement]
  simp [scanned, whole]

theorem scanMembers_close (fuel : Nat) (first : Bool) (rest : Bytes) :
    scanMembers (fuel + 1) first (0x7D :: rest) = ([], .closed, rest) := by
  rw [scanMembers]
  rfl

theorem scanMembers_first (fuel : Nat) (bytes : Bytes) :
    scanMembers (fuel + 1) true (0x22 :: bytes) = scanMember fuel bytes := by
  rw [scanMembers]
  rfl

theorem scanMembers_comma (fuel : Nat) (bytes : Bytes) :
    scanMembers (fuel + 1) false (0x2C :: 0x22 :: bytes) = scanMember fuel bytes := by
  rw [scanMembers]
  rfl

theorem scanMember_of_scan {fuel : Nat} {bytes rest : Bytes} {value : Reading}
    (scanned : scan fuel bytes = (value, rest)) (whole : value.fault? = none) (key : String) :
    scanMember (fuel + 1) ((printText key).tail ++ 0x3A :: bytes) =
      ((.ofText key, value) :: (scanMembers fuel false rest).1,
        (scanMembers fuel false rest).2) := by
  have quoted : (printText key).tail ++ 0x3A :: bytes =
      (Bytes.ofText key).flatMap escapeByte ++ 0x22 :: 0x3A :: bytes := by
    simp [printText]
  rw [quoted, scanMember, WrittenText.scan_printed]
  simp [WrittenText.ofText, TextEnd.fault?, skipBlanks, isBlank, scanned, whole]

end Reading

namespace Value

theorem reading_of_bytes {held : Number} {written : WrittenNumber} (legible : written.IsLegible)
    (is : written.bytes = printNumber held) : (number held).reading = .number written := by
  have alone := Reading.scan_bytes legible EndsValue.nil 0
  rw [List.append_nil, Nat.zero_add, is] at alone
  rw [reading, alone]

theorem reading_integer (held : Int) :
    (number (.integer held)).reading = .number (.ofInteger held) :=
  reading_of_bytes (WrittenNumber.isLegible_ofInteger held) (WrittenNumber.bytes_ofInteger held)

theorem exists_reading_number {held : Number} (readable : (number held).HasReadableNumbers) :
    ∃ written : WrittenNumber, (number held).reading = .number written ∧
      written.IsLegible ∧ written.bytes = printNumber held ∧ ∃ found, written.read = .ok found := by
  obtain ⟨written, legible, is, found⟩ := readable _ (mem_inside _)
  exact ⟨written, reading_of_bytes legible is, legible, is, found⟩

theorem fault?_reading {value : Value} (readable : value.HasReadableNumbers) :
    value.reading.fault? = none := by
  cases value with
  | number held =>
    obtain ⟨written, reads, _⟩ := exists_reading_number readable
    rw [reads]
    rfl
  | _ => rfl

/-- The first byte of a value is neither blank nor the end of a list. -/
theorem exists_print_cons {value : Value} (readable : value.HasReadableNumbers) :
    ∃ first rest, value.print = first :: rest ∧ isBlank first = false ∧ first ≠ 0x5D := by
  cases value with
  | null => exact ⟨_, _, rfl, rfl, by decide⟩
  | bool held => cases held <;> exact ⟨_, _, rfl, rfl, by decide⟩
  | text held => exact ⟨_, _, rfl, rfl, by decide⟩
  | list elements => exact ⟨_, _, rfl, rfl, by decide⟩
  | object members => exact ⟨_, _, rfl, rfl, by decide⟩
  | number held =>
    obtain ⟨written, _, legible, is, _⟩ := exists_reading_number readable
    rw [print, ← is]
    exact legible.exists_bytes_cons

/-! ### Whole values -/

theorem joinCommas_cons (first : Bytes) (rest : List Bytes) :
    joinCommas (first :: rest) = first ++ rest.flatMap fun part => 0x2C :: part := by
  induction rest generalizing first with
  | nil => simp [joinCommas]
  | cons next rest ih => rw [joinCommas.eq_3 _ _ (by simp), ih, List.flatMap_cons, List.cons_append]

/-- The elements of a list behind its first one, each after a comma. -/
def laterElements (elements : List Value) : Bytes :=
  (printElements elements).flatMap fun part => 0x2C :: part

/-- The members of an object behind its first one, each after a comma. -/
def laterMembers (members : List (String × Value)) : Bytes :=
  (printMembers members).flatMap fun member => 0x2C :: printMember member.1 member.2

theorem endsValue_laterElements (elements : List Value) (rest : Bytes) :
    EndsValue (laterElements elements ++ 0x5D :: rest) := by
  cases elements <;> simp [EndsValue, laterElements, printElements]

theorem endsValue_laterMembers (members : List (String × Value)) (rest : Bytes) :
    EndsValue (laterMembers members ++ 0x7D :: rest) := by
  cases members <;> simp [EndsValue, laterMembers, printMembers]

theorem print_list_cons (element : Value) (elements : List Value) :
    (list (element :: elements)).print =
      0x5B :: (element.print ++ laterElements elements ++ [0x5D]) := by
  rw [print, printElements, printList, joinCommas_cons]
  rfl

theorem print_object_cons (key : String) (value : Value) (members : List (String × Value)) :
    (object ((key, value) :: members)).print =
      0x7B :: (printText key ++ 0x3A :: value.print ++ laterMembers members ++ [0x7D]) := by
  rw [print, printMembers, printObject, List.map_cons, joinCommas_cons]
  simp [laterMembers, printMember, List.flatMap_map]

theorem laterElements_cons (element : Value) (elements : List Value) :
    laterElements (element :: elements) = 0x2C :: (element.print ++ laterElements elements) := rfl

theorem laterMembers_cons (key : String) (value : Value) (members : List (String × Value)) :
    laterMembers ((key, value) :: members) =
      0x2C :: (printText key ++ 0x3A :: value.print ++ laterMembers members) := by
  simp [laterMembers, printMembers, printMember]

/-- The first element of a list is scanned as one behind a comma. -/
theorem scanElements_first {element : Value} (readable : element.HasReadableNumbers) (fuel : Nat)
    (bytes : Bytes) : Reading.scanElements (fuel + 1) true (element.print ++ bytes) =
      Reading.scanElements (fuel + 1) false (0x2C :: (element.print ++ bytes)) := by
  obtain ⟨first, more, begins, plain, opens⟩ := exists_print_cons readable
  rw [begins, List.cons_append, Reading.scanElements_first plain opens,
    Reading.scanElements_comma plain opens]

theorem scanElements_comma {element : Value} (readable : element.HasReadableNumbers) (fuel : Nat)
    (bytes : Bytes) : Reading.scanElements (fuel + 1) false (0x2C :: (element.print ++ bytes)) =
      Reading.scanElement fuel (element.print ++ bytes) := by
  obtain ⟨first, more, begins, plain, opens⟩ := exists_print_cons readable
  rw [begins, List.cons_append, Reading.scanElements_comma plain opens]

theorem scanMembers_first (key : String) (fuel : Nat) (bytes : Bytes) :
    Reading.scanMembers (fuel + 1) true (printText key ++ bytes) =
      Reading.scanMembers (fuel + 1) false (0x2C :: (printText key ++ bytes)) :=
  (Reading.scanMembers_first fuel _).trans (Reading.scanMembers_comma fuel _).symm

theorem exists_fuel {value : Value} (readable : value.HasReadableNumbers) {fuel : Nat}
    (enough : 3 * value.print.length ≤ fuel) : ∃ less, fuel = less + 1 := by
  obtain ⟨first, rest, begins, _⟩ := exists_print_cons readable
  rw [begins, List.length_cons] at enough
  exact Nat.exists_eq_add_of_le' (by omega)

mutual

/-- Scanning a printed value stops behind it. -/
theorem scan_print : ∀ (value : Value), value.HasReadableNumbers → ∀ {fuel : Nat} {rest : Bytes},
    EndsValue rest → 3 * value.print.length ≤ fuel →
    Reading.scan fuel (value.print ++ rest) = (value.reading, rest)
  | .null, readable, fuel, rest, _, enough => by
    obtain ⟨fuel, rfl⟩ := exists_fuel readable enough
    rfl
  | .bool true, readable, fuel, rest, _, enough => by
    obtain ⟨fuel, rfl⟩ := exists_fuel readable enough
    rfl
  | .bool false, readable, fuel, rest, _, enough => by
    obtain ⟨fuel, rfl⟩ := exists_fuel readable enough
    rfl
  | .number held, readable, fuel, rest, ends, enough => by
    obtain ⟨fuel, rfl⟩ := exists_fuel readable enough
    obtain ⟨written, reads, legible, is, _⟩ := exists_reading_number readable
    rw [reads, print, ← is, Reading.scan_bytes legible ends]
  | .text held, readable, fuel, rest, _, enough => by
    obtain ⟨fuel, rfl⟩ := exists_fuel readable enough
    exact Reading.scan_text fuel held rest
  | .list [], _, fuel, rest, _, enough => by
    obtain ⟨fuel, rfl⟩ := Nat.exists_eq_add_of_le' (Nat.le_trans (by decide : 2 ≤ 6) enough)
    exact Reading.scan_list (Reading.scanElements_close fuel true rest)
  | .list (element :: elements), readable, fuel, rest, _, enough => by
    have all := (List.forall_mem_cons.1 readable).2
    have first : element.HasReadableNumbers := (List.forall_mem_append.1 all).1
    rw [print_list_cons] at enough ⊢
    simp only [List.length_cons, List.length_append] at enough
    obtain ⟨fuel, rfl⟩ := Nat.exists_eq_add_of_le' (show 2 ≤ fuel by omega)
    rw [List.cons_append, List.append_assoc, List.append_assoc, List.singleton_append]
    apply Reading.scan_list
    rw [scanElements_first first, ← List.append_assoc, ← List.cons_append, ← laterElements_cons]
    refine scanElements_print (element :: elements) all ?_
    rw [laterElements_cons, List.length_cons, List.length_append]
    omega
  | .object [], _, fuel, rest, _, enough => by
    obtain ⟨fuel, rfl⟩ := Nat.exists_eq_add_of_le' (Nat.le_trans (by decide : 2 ≤ 6) enough)
    exact Reading.scan_object (Reading.scanMembers_close fuel true rest)
  | .object ((key, value) :: members), readable, fuel, rest, _, enough => by
    have all := (List.forall_mem_cons.1 readable).2
    rw [print_object_cons] at enough ⊢
    simp only [List.length_cons, List.length_append] at enough
    obtain ⟨fuel, rfl⟩ := Nat.exists_eq_add_of_le' (show 2 ≤ fuel by omega)
    rw [List.cons_append, List.append_assoc, List.append_assoc, List.append_assoc,
      List.singleton_append]
    apply Reading.scan_object
    rw [scanMembers_first, ← List.append_assoc, ← List.append_assoc, ← List.cons_append,
      ← laterMembers_cons]
    refine scanMembers_print ((key, value) :: members) all ?_
    rw [laterMembers_cons, List.length_cons, List.length_append, List.length_append,
      List.length_cons]
    omega

theorem scanElements_print : ∀ (elements : List Value),
    (∀ part ∈ insideElements elements, part.IsReadable) → ∀ {fuel : Nat} {rest : Bytes},
    3 * (laterElements elements).length < fuel →
    Reading.scanElements fuel false (laterElements elements ++ 0x5D :: rest) =
      (elementReadings elements, none, rest)
  | [], _, fuel, rest, enough => by
    obtain ⟨fuel, rfl⟩ := Nat.exists_eq_add_of_le' (Nat.succ_le_of_lt (Nat.zero_lt_of_lt enough))
    exact Reading.scanElements_close fuel false rest
  | element :: elements, readable, fuel, rest, enough => by
    obtain ⟨first, others⟩ := List.forall_mem_append.1 readable
    -- Two steps lead to the element, and its comma pays for three.
    rw [laterElements_cons] at enough ⊢
    simp only [List.length_cons, List.length_append] at enough
    obtain ⟨fuel, rfl⟩ := Nat.exists_eq_add_of_le' (show 2 ≤ fuel by omega)
    have scanned := scan_print element first (endsValue_laterElements elements rest)
      (show 3 * element.print.length ≤ fuel by omega)
    have later : Reading.scanElements fuel false (laterElements elements ++ 0x5D :: rest) =
        (elementReadings elements, none, rest) :=
      scanElements_print elements others (show 3 * (laterElements elements).length < fuel by omega)
    rw [List.cons_append, List.append_assoc, scanElements_comma first,
      Reading.scanElement_of_scan scanned (fault?_reading first), later, elementReadings]

theorem scanMembers_print : ∀ (members : List (String × Value)),
    (∀ part ∈ insideMembers members, part.IsReadable) → ∀ {fuel : Nat} {rest : Bytes},
    3 * (laterMembers members).length < fuel →
    Reading.scanMembers fuel false (laterMembers members ++ 0x7D :: rest) =
      (memberReadings members, .closed, rest)
  | [], _, fuel, rest, enough => by
    obtain ⟨fuel, rfl⟩ := Nat.exists_eq_add_of_le' (Nat.succ_le_of_lt (Nat.zero_lt_of_lt enough))
    exact Reading.scanMembers_close fuel false rest
  | (key, value) :: members, readable, fuel, rest, enough => by
    obtain ⟨first, others⟩ := List.forall_mem_append.1 readable
    rw [laterMembers_cons] at enough ⊢
    simp only [List.length_cons, List.length_append] at enough
    obtain ⟨fuel, rfl⟩ := Nat.exists_eq_add_of_le' (show 2 ≤ fuel by omega)
    have scanned := scan_print value first (endsValue_laterMembers members rest)
      (show 3 * value.print.length ≤ fuel by omega)
    have later : Reading.scanMembers fuel false (laterMembers members ++ 0x7D :: rest) =
        (memberReadings members, .closed, rest) :=
      scanMembers_print members others (show 3 * (laterMembers members).length < fuel by omega)
    have member := Reading.scanMember_of_scan scanned (fault?_reading first) key
    rw [later] at member
    rw [memberReadings, ← member]
    simp [printText, Reading.scanMembers_comma]

end

theorem document_print {value : Value} (readable : value.HasReadableNumbers) :
    Document.ofBytes value.print = ⟨value.reading, false⟩ := by
  have scanned := scan_print value readable EndsValue.nil
    (show 3 * value.print.length ≤ 3 * value.print.length + 3 by omega)
  rw [List.append_nil] at scanned
  rw [Document.ofBytes, scanned]
  rfl

end Value

end DeviceEnrollment.Json
