import DeviceEnrollment.Json.Value
import DeviceEnrollment.Proofs.Json.Written
import Mathlib.Data.List.Basic

/-!
Printed numbers. An integer that fits in 64 bits reads back as it was
(`WrittenNumber.read_ofInteger`).
-/
namespace DeviceEnrollment.Json

namespace Number

theorem toNat_digitByte {c : Char} (digit : c.isDigit = true) :
    c.toNat.toUInt8.toNat = c.toNat := by
  have bounds := Text.isDigit_iff.1 digit
  simp only [Nat.toUInt8_eq, UInt8.toNat_ofNat']
  omega

theorem isDigit_digitByte {c : Char} (digit : c.isDigit = true) :
    Bytes.isDigit c.toNat.toUInt8 = true := by
  have bounds := Text.isDigit_iff.1 digit
  simp [Bytes.isDigit, UInt8.le_iff_toNat_le, toNat_digitByte digit, bounds]

theorem isDigits_digitBytes {digits : List Char} (some : digits ≠ [])
    (all : ∀ c ∈ digits, c.isDigit = true) : IsDigits (digitBytes digits) where
  ne_nil := List.map_eq_nil_iff.not.2 some
  all := by
    intro byte member
    obtain ⟨c, held, rfl⟩ := List.mem_map.1 member
    exact isDigit_digitByte (all c held)

/-- Whether digits can stand before a point: a zero is followed by no other digit. -/
structure IsWhole (digits : List Char) : Prop where
  ne_nil : digits ≠ []
  all : ∀ c ∈ digits, c.isDigit = true
  leading : digits.head? = some '0' → digits = ['0']

theorem isWhole_toDigits (value : Nat) : IsWhole (Nat.toDigits 10 value) where
  ne_nil := Nat.toDigits_ne_nil
  all _ := Text.isDigit_of_mem_toDigits
  leading zero := by
    rcases Nat.eq_zero_or_pos value with rfl | positive
    · rfl
    · obtain ⟨first, rest, digits, significant⟩ := Text.exists_toDigits_cons positive
      rw [digits] at zero
      exact absurd (Option.some.inj zero) significant

theorem IsWhole.of_digitBytes {digits : List Char} (whole : IsWhole digits)
    (zero : (digitBytes digits).head? = some 0x30) : digitBytes digits = [0x30] := by
  obtain ⟨first, rest, rfl⟩ := List.exists_cons_of_ne_nil whole.ne_nil
  have same := congrArg UInt8.toNat (Option.some.inj zero)
  rw [toNat_digitByte (whole.all first List.mem_cons_self)] at same
  rw [whole.leading (congrArg some (Char.toNat_inj.1 same))]
  rfl

theorem decimal_digitBytes {digits : List Char} (all : ∀ c ∈ digits, c.isDigit = true) :
    Bytes.decimal (digitBytes digits) = Text.decimalValue digits := by
  rw [Bytes.decimal, digitBytes, List.foldl_map, Text.decimalValue]
  apply List.foldl_ext
  intro total c member
  rw [toNat_digitByte (all c member), Text.digitValue]

end Number

namespace WrittenNumber

/-- What a printed integer is scanned as. -/
def ofInteger (value : Int) : WrittenNumber :=
  ⟨value < 0, Number.digitBytes (Nat.toDigits 10 value.natAbs), none, none⟩

theorem bytes_ofInteger (value : Int) : (ofInteger value).bytes = printNumber (.integer value) := by
  by_cases negative : value < 0 <;>
    simp [ofInteger, bytes, fractionBytes, powerBytes, printNumber, Number.text, negative,
      Number.digitBytes]

theorem isLegible_ofInteger (value : Int) : (ofInteger value).IsLegible where
  whole := Number.isDigits_digitBytes Nat.toDigits_ne_nil fun _ => Text.isDigit_of_mem_toDigits
  leading := (Number.isWhole_toDigits value.natAbs).of_digitBytes
  fraction := by rintro _ ⟨⟩
  power := by rintro _ _ ⟨⟩

/-- An integer of 64 bits reads back as it was printed. -/
theorem read_ofInteger {value : Int} (least : -(Number.twoTo63 : Int) ≤ value)
    (greatest : value < Number.twoTo64) : (ofInteger value).read = .ok (.integer value) := by
  have whole : Bytes.decimal (ofInteger value).whole = value.natAbs := by
    rw [ofInteger, Number.decimal_digitBytes fun _ => Text.isDigit_of_mem_toDigits,
      Text.decimalValue_toDigits]
  have integer : (ofInteger value).integer? = some value := by
    rw [integer?, whole]
    by_cases negative : value < 0
    · have bounds : 0 < value.natAbs ∧ value.natAbs ≤ Number.twoTo63 := by omega
      simp [ofInteger, isPlain, negative, bounds, -Nat.cast_natAbs]
      omega
    · have bound : value.natAbs < Number.twoTo64 := by omega
      simp [ofInteger, isPlain, negative, bound, -Nat.cast_natAbs]
      omega
  rw [read, integer]

end WrittenNumber

/-- Whether what is printed of a number reads as some number. -/
def Number.IsReadable (number : Number) : Prop :=
  ∃ written : WrittenNumber, written.IsLegible ∧ written.bytes = printNumber number ∧
    ∃ found, written.read = .ok found

theorem Number.isReadable_integer {value : Int} (least : -(Number.twoTo63 : Int) ≤ value)
    (greatest : value < Number.twoTo64) : (Number.integer value).IsReadable :=
  ⟨.ofInteger value, WrittenNumber.isLegible_ofInteger value, WrittenNumber.bytes_ofInteger value,
    _, WrittenNumber.read_ofInteger least greatest⟩

end DeviceEnrollment.Json
