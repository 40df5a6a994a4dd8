import DeviceEnrollment.Json.Reading
import DeviceEnrollment.Proofs.Digits

/-!
Numbers as they are written. Scanning takes a number whose digits are where they have to be, up to
what ends a value (`Reading.scan_bytes`).
-/
namespace DeviceEnrollment.Json

/-- Whether a value ends before these bytes: at a comma, a closing bracket or the end. -/
def EndsValue (rest : Bytes) : Prop := ∀ byte ∈ rest.head?, byte = 0x2C ∨ byte = 0x5D ∨ byte = 0x7D

theorem EndsValue.nil : EndsValue [] := by simp [EndsValue]

theorem EndsValue.not_digit {rest : Bytes} (ends : EndsValue rest) :
    ∀ byte ∈ rest.head?, Bytes.isDigit byte = false := by
  intro byte member
  rcases ends byte member with rfl | rfl | rfl <;> rfl

/-- A run of digits that is not empty. -/
structure IsDigits (digits : Bytes) : Prop where
  ne_nil : digits ≠ []
  all : ∀ byte ∈ digits, Bytes.isDigit byte = true

theorem IsDigits.of_cons {first : UInt8} {rest : Bytes} (digits : IsDigits (first :: rest)) :
    Bytes.isDigit first = true ∧ ∀ byte ∈ rest, Bytes.isDigit byte = true :=
  List.forall_mem_cons.1 digits.all

namespace WrittenNumber

def fractionBytes : Option Bytes → Bytes
  | none => []
  | some digits => 0x2E :: digits

def powerBytes : Option (Bool × Bytes) → Bytes
  | none => []
  | some (negative, digits) => 0x65 :: (if negative then 0x2D else 0x2B) :: digits

/-- A number as bytes, with a sign before its power of ten. -/
def bytes (written : WrittenNumber) : Bytes :=
  (if written.negative then [0x2D] else []) ++
    (written.whole ++ (fractionBytes written.fraction ++ powerBytes written.power))

/-- Whether there are digits before the point, behind it if there is one, and in the power if there
is one. A zero is followed by no other digit before the point. -/
structure IsLegible (written : WrittenNumber) : Prop where
  whole : IsDigits written.whole
  leading : written.whole.head? = some 0x30 → written.whole = [0x30]
  fraction : ∀ digits, written.fraction = some digits → IsDigits digits
  power : ∀ negative digits, written.power = some (negative, digits) → IsDigits digits

variable {rest : Bytes}

theorem scanPower_digits {digits : Bytes} (is : IsDigits digits) (ends : EndsValue rest)
    (negative : Bool) :
    scanPower ((if negative then 0x2D else 0x2B) :: digits ++ rest) =
      (.ok (negative, digits), rest) := by
  obtain ⟨first, more, rfl⟩ := List.exists_cons_of_ne_nil is.ne_nil
  have taken := Text.takeWhile_run is.all ends.not_digit
  have left := Text.dropWhile_run is.all ends.not_digit
  cases negative <;>
    simp only [List.cons_append, scanPower] at taken left ⊢ <;> simp [taken, left]

theorem scanTail_powerBytes {power : Option (Bool × Bytes)}
    (is : ∀ negative digits, power = some (negative, digits) → IsDigits digits)
    (ends : EndsValue rest) (negative : Bool) (whole : Bytes) (fraction : Option Bytes) :
    scanTail negative whole fraction (powerBytes power ++ rest) =
      (.ok ⟨negative, whole, fraction, power⟩, rest) := by
  cases power with
  | none =>
    cases rest with
    | nil => rfl
    | cons byte rest => rcases ends byte rfl with rfl | rfl | rfl <;> rfl
  | some power =>
    obtain ⟨down, digits⟩ := power
    have scanned := scanPower_digits (is down digits rfl) ends down
    simp only [powerBytes, List.cons_append] at scanned ⊢
    simp [scanTail, isPowerLetter, scanned, Except.map]

theorem not_digit_powerBytes (ends : EndsValue rest) (power : Option (Bool × Bytes)) :
    ∀ byte ∈ (powerBytes power ++ rest).head?, Bytes.isDigit byte = false := by
  cases power with
  | none => exact ends.not_digit
  | some power =>
    rintro byte ⟨⟩
    rfl

theorem scanFraction_fractionBytes {fraction : Option Bytes} {power : Option (Bool × Bytes)}
    (isFraction : ∀ digits, fraction = some digits → IsDigits digits)
    (isPower : ∀ negative digits, power = some (negative, digits) → IsDigits digits)
    (ends : EndsValue rest) (negative : Bool) (whole : Bytes) :
    scanFraction negative whole (fractionBytes fraction ++ (powerBytes power ++ rest)) =
      (.ok ⟨negative, whole, fraction, power⟩, rest) := by
  have tail := scanTail_powerBytes isPower ends negative whole
  cases fraction with
  | some digits =>
    have is := isFraction digits rfl
    obtain ⟨first, more, rfl⟩ := List.exists_cons_of_ne_nil is.ne_nil
    have taken := Text.takeWhile_run is.all (not_digit_powerBytes ends power)
    have left := Text.dropWhile_run is.all (not_digit_powerBytes ends power)
    simp only [fractionBytes, List.cons_append, scanFraction] at taken left ⊢
    simp [taken, left, tail]
  | none =>
    rw [← tail none, fractionBytes, List.nil_append]
    cases power with
    | some power => rfl
    | none =>
      cases rest with
      | nil => rfl
      | cons byte rest => rcases ends byte rfl with rfl | rfl | rfl <;> rfl

theorem not_digit_fractionBytes (ends : EndsValue rest) (fraction : Option Bytes)
    (power : Option (Bool × Bytes)) :
    ∀ byte ∈ (fractionBytes fraction ++ (powerBytes power ++ rest)).head?,
      Bytes.isDigit byte = false := by
  cases fraction with
  | none => exact not_digit_powerBytes ends power
  | some digits =>
    rintro byte ⟨⟩
    rfl

/-- Scanning takes a number behind its sign and stops where it ends. -/
theorem scan_bytes {written : WrittenNumber} (legible : written.IsLegible)
    (ends : EndsValue rest) :
    scan written.negative (written.whole ++
        (fractionBytes written.fraction ++ (powerBytes written.power ++ rest))) =
      (.ok written, rest) := by
  have behind : scanFraction written.negative written.whole
      (fractionBytes written.fraction ++ (powerBytes written.power ++ rest)) =
        (.ok written, rest) :=
    scanFraction_fractionBytes legible.fraction legible.power ends written.negative written.whole
  have stops := not_digit_fractionBytes ends written.fraction written.power
  obtain ⟨first, more, is⟩ := List.exists_cons_of_ne_nil legible.whole.ne_nil
  obtain ⟨digit, digits⟩ := (is ▸ legible.whole).of_cons
  generalize fractionBytes written.fraction ++ (powerBytes written.power ++ rest) = later at *
  by_cases zero : first = 0x30
  · have alone : written.whole = [0x30] := legible.leading (by rw [is, zero]; rfl)
    rw [alone] at behind ⊢
    rw [← behind]
    cases later with
    | nil => rfl
    | cons next later => simp [scan, stops next rfl]
  · have taken := Text.takeWhile_run digits stops
    have left := Text.dropWhile_run digits stops
    rw [is] at behind ⊢
    rw [List.cons_append, scan.eq_def]
    simp [zero, digit, taken, left, behind]

end WrittenNumber

namespace Reading

theorem isBlank_of_isDigit {byte : UInt8} (digit : Bytes.isDigit byte = true) :
    isBlank byte = false := by
  refine Bool.eq_false_iff.2 fun blank => ?_
  simp only [isBlank, Bool.or_eq_true, beq_iff_eq] at blank
  rcases blank with ((rfl | rfl) | rfl) | rfl <;> cases digit

theorem scan_digit {first : UInt8} (digit : Bytes.isDigit first = true) (fuel : Nat)
    (bytes : Bytes) :
    scan (fuel + 1) (first :: bytes) = ofNumber (WrittenNumber.scan false (first :: bytes)) := by
  have bounds : 0x30 ≤ first.toNat ∧ first.toNat ≤ 0x39 := by
    simpa [Bytes.isDigit, UInt8.le_iff_toNat_le] using digit
  have other : ∀ byte : UInt8, byte.toNat < 0x30 ∨ 0x39 < byte.toNat → (first == byte) = false := by
    rintro byte outside
    rw [beq_eq_false_iff_ne]
    rintro rfl
    omega
  rw [scan]
  simp [skipBlanks, isBlank, other, digit]

theorem scan_minus (fuel : Nat) (bytes : Bytes) :
    scan (fuel + 1) (0x2D :: bytes) = ofNumber (WrittenNumber.scan true bytes) := by
  rw [scan]
  simp [skipBlanks, isBlank]

/-- A legible number is scanned as it is, with whatever ends a value behind it. -/
theorem scan_bytes {written : WrittenNumber} (legible : written.IsLegible) {rest : Bytes}
    (ends : EndsValue rest) (fuel : Nat) :
    scan (fuel + 1) (written.bytes ++ rest) = (.number written, rest) := by
  have scanned := WrittenNumber.scan_bytes legible ends
  rw [WrittenNumber.bytes, List.append_assoc, List.append_assoc, List.append_assoc]
  cases sign : written.negative with
  | true =>
    rw [sign] at scanned
    rw [if_pos rfl, List.cons_append, List.nil_append, scan_minus, scanned]
    rfl
  | false =>
    obtain ⟨first, more, is⟩ := List.exists_cons_of_ne_nil legible.whole.ne_nil
    rw [sign, is, List.cons_append] at scanned
    rw [if_neg Bool.false_ne_true, List.nil_append, is, List.cons_append,
      scan_digit (is ▸ legible.whole).of_cons.1, scanned]
    rfl

end Reading

/-- A number begins with its sign or a digit. -/
theorem WrittenNumber.IsLegible.exists_bytes_cons {written : WrittenNumber}
    (legible : written.IsLegible) :
    ∃ first rest, written.bytes = first :: rest ∧ isBlank first = false ∧ first ≠ 0x5D := by
  unfold bytes
  cases written.negative with
  | true => exact ⟨_, _, rfl, rfl, by decide⟩
  | false =>
    obtain ⟨first, more, is⟩ := List.exists_cons_of_ne_nil legible.whole.ne_nil
    have digit := (is ▸ legible.whole).of_cons.1
    rw [is]
    refine ⟨first, _, rfl, Reading.isBlank_of_isDigit digit, ?_⟩
    rintro rfl
    cases digit

end DeviceEnrollment.Json
