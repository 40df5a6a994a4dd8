import DeviceEnrollment.Json.Value
import DeviceEnrollment.Proofs.Text
import Mathlib.Tactic.IntervalCases

/-!
Texts between quotes. The pieces that a printed text is scanned into stand for its bytes again, so
that every text reads back as it was (`WrittenText.read_ofText`).
-/
namespace DeviceEnrollment.Json

/-- Whether a byte is written with a four digit escape. -/
def hasCodeEscape (byte : UInt8) : Bool :=
  byte < 0x20 && !([0x08, 0x09, 0x0A, 0x0C, 0x0D] : List UInt8).contains byte

/-- The piece that a printed byte is scanned as. -/
def TextUnit.ofByte (byte : UInt8) : TextUnit :=
  if hasCodeEscape byte then .code byte.toNat else .byte byte

/-- What a printed text is scanned as. -/
def WrittenText.ofText (text : String) : WrittenText :=
  ⟨(Bytes.ofText text).map TextUnit.ofByte, .closed⟩

namespace WrittenText

theorem scan_letter {letter value : UInt8} (escape : simpleEscape? letter = some value)
    (rest : Bytes) : scan (0x5C :: letter :: rest) = push (.byte value) (scan rest) := by
  have other : letter ≠ 0x75 := by
    rintro rfl
    cases escape
  rw [scan.eq_def]
  simp [other, escape]

theorem scan_code {a b c d : UInt8} {unit : Nat} (hex : fourHexDigits? a b c d = some unit)
    (rest : Bytes) :
    scan (0x5C :: 0x75 :: a :: b :: c :: d :: rest) = push (.code unit) (scan rest) := by
  rw [scan.eq_def]
  simp [hex]

theorem scan_escapeByte_code {byte : UInt8} (escaped : hasCodeEscape byte = true) (rest : Bytes) :
    scan (escapeByte byte ++ rest) = push (.code byte.toNat) (scan rest) := by
  -- There are few such bytes: their escapes are looked at one by one.
  have all : ∀ point < 32, hasCodeEscape point.toUInt8 = true →
      escapeByte point.toUInt8 = [0x5C, 0x75, 0x30, 0x30, hexDigit (point.toUInt8 / 16),
        hexDigit (point.toUInt8 % 16)] ∧
      fourHexDigits? 0x30 0x30 (hexDigit (point.toUInt8 / 16)) (hexDigit (point.toUInt8 % 16)) =
        some point := by
    decide
  have low : byte.toNat < 32 := by
    simp only [hasCodeEscape, Bool.and_eq_true, decide_eq_true_eq] at escaped
    exact escaped.1
  have same : byte.toNat.toUInt8 = byte := by simp
  have found := all byte.toNat low
  rw [same] at found
  obtain ⟨written, hex⟩ := found escaped
  rw [written]
  exact scan_code hex rest

/-- Scanning undoes the escape of a byte. -/
theorem scan_escapeByte (byte : UInt8) (rest : Bytes) :
    scan (escapeByte byte ++ rest) = push (.ofByte byte) (scan rest) := by
  rw [TextUnit.ofByte]
  split
  · next escaped => exact scan_escapeByte_code escaped rest
  · next plain =>
    by_cases lettered : byte ∈ [0x22, 0x5C, 0x08, 0x09, 0x0A, 0x0C, 0x0D]
    · simp only [List.mem_cons, List.not_mem_nil, or_false] at lettered
      rcases lettered with rfl | rfl | rfl | rfl | rfl | rfl | rfl <;> exact scan_letter rfl rest
    · simp only [List.mem_cons, List.not_mem_nil, or_false, not_or] at lettered
      obtain ⟨quote, slash, others⟩ := lettered
      have high : ¬byte < 0x20 := by simpa [hasCodeEscape, others] using plain
      have itself : escapeByte byte = [byte] := by
        simp [escapeByte, quote, slash, UInt8.not_lt.1 high]
      rw [itself, List.singleton_append, scan.eq_def]
      simp [quote, slash, high]

/-- Scanning a printed text stops behind its closing quote. -/
theorem scan_printed (bytes rest : Bytes) :
    scan (bytes.flatMap escapeByte ++ 0x22 :: rest) =
      (⟨bytes.map TextUnit.ofByte, .closed⟩, rest) := by
  induction bytes with
  | nil =>
    rw [List.flatMap_nil, List.nil_append, scan.eq_def]
    rfl
  | cons byte bytes ih =>
    rw [List.flatMap_cons, List.append_assoc, scan_escapeByte, ih]
    rfl

theorem pointBytes_of_lt {unit : Nat} (low : unit < 0x20) :
    pointBytes unit = [unit.toUInt8] := by
  interval_cases unit <;> rfl

theorem bytes_ofByte (printed : Bytes) :
    bytes .closed (printed.map TextUnit.ofByte) = .ok printed := by
  induction printed with
  | nil => rfl
  | cons byte rest ih =>
    rw [List.map_cons, TextUnit.ofByte]
    split
    · next escaped =>
      have low : byte.toNat < 0x20 := by
        simp only [hasCodeEscape, Bool.and_eq_true, decide_eq_true_eq] at escaped
        exact escaped.1
      have trail : isTrail byte.toNat = false := by
        simp [isTrail]
        omega
      have lead : isLead byte.toNat = false := by
        simp [isLead]
        omega
      rw [bytes.eq_def]
      simp [trail, lead, ih, pointBytes_of_lt low, pure, Except.pure, bind, Except.bind]
    · rw [bytes.eq_def]
      simp [ih, pure, Except.pure, bind, Except.bind]

/-- What is printed of a text reads as this text. -/
theorem read_ofText (text : String) : (ofText text).read = .ok text := by
  rw [read, ofText]
  simp only [bytes_ofByte, bind, Except.bind, Bytes.toText?_ofText]

end WrittenText

end DeviceEnrollment.Json
