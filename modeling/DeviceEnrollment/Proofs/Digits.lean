import DeviceEnrollment.Text.Blank
import DeviceEnrollment.Text.Digits
import Mathlib.Data.List.TakeWhile
import Mathlib.Tactic.IntervalCases

/-!
Numbers in decimal digits: what is written reads back as the same number, and a run of digits ends
where something else begins.
-/
namespace DeviceEnrollment.Text

theorem decimalValue_eq_ofDigitChars (digits : List Char) :
    decimalValue digits = Nat.ofDigitChars 10 digits 0 := by
  unfold decimalValue Nat.ofDigitChars digitValue
  congr 1
  funext total digit
  rw [Nat.mul_comm]
  rfl

theorem decimalValue_toDigits (value : Nat) : decimalValue (Nat.toDigits 10 value) = value := by
  rw [decimalValue_eq_ofDigitChars, Nat.ofDigitChars_ten_toDigits]

theorem decimalValue_replicate_append (count : Nat) (digits : List Char) :
    decimalValue (List.replicate count '0' ++ digits) = decimalValue digits := by
  rw [decimalValue_eq_ofDigitChars, decimalValue_eq_ofDigitChars, Nat.ofDigitChars_append,
    Nat.ofDigitChars_replicate_zero, Nat.mul_zero]

theorem isDigit_of_mem_toDigits {value : Nat} {c : Char} (member : c ∈ Nat.toDigits 10 value) :
    c.isDigit = true :=
  Nat.isDigit_of_mem_toDigits (by decide) (by decide) member

theorem isDigit_iff {c : Char} : c.isDigit = true ↔ 0x30 ≤ c.toNat ∧ c.toNat ≤ 0x39 := by
  simp [Char.isDigit, UInt32.le_iff_toNat_le]

theorem isBlank_of_isDigit {c : Char} (digit : c.isDigit = true) : isBlank c = false := by
  have bounds := isDigit_iff.1 digit
  simp [isBlank]
  omega

/-- What holds of all points up to a bound holds of the characters there. -/
theorem forall_of_toNat_lt (holds : Char → Prop) {bound : Nat}
    (points : ∀ point < bound, holds (Char.ofNat point)) {c : Char} (below : c.toNat < bound) :
    holds c := by
  rw [← Char.ofNat_toNat c]
  exact points c.toNat below

theorem forall_of_isDigit {isPart : Char → Bool}
    (digits : ∀ point < 0x3A, (Char.ofNat point).isDigit = true → isPart (Char.ofNat point) = true)
    {c : Char} (digit : c.isDigit = true) : isPart c = true := by
  have below : c.toNat < 0x3A := Nat.lt_succ_of_le (isDigit_iff.1 digit).2
  exact forall_of_toNat_lt (fun c => c.isDigit = true → isPart c = true) digits below digit

theorem exists_toDigits_cons {value : Nat} (positive : 0 < value) :
    ∃ first rest, Nat.toDigits 10 value = first :: rest ∧ first ≠ '0' := by
  induction value using Nat.strongRecOn with
  | ind value ih =>
    by_cases small : value < 10
    · refine ⟨value.digitChar, [], Nat.toDigits_of_lt_base small, ?_⟩
      interval_cases value <;> decide
    · obtain ⟨first, rest, digits, significant⟩ := ih (value / 10) (by omega) (by omega)
      refine ⟨first, rest ++ [(value % 10).digitChar], ?_, significant⟩
      rw [Nat.toDigits_of_base_le (by decide) (by omega), digits, List.cons_append]

/-! ### Runs -/

variable {α : Type} {isPart : α → Bool} {run rest : List α}

/-- A run is all that is taken when something else follows it. -/
theorem takeWhile_run (inside : ∀ a ∈ run, isPart a = true)
    (ends : ∀ a ∈ rest.head?, isPart a = false) : (run ++ rest).takeWhile isPart = run := by
  rw [List.takeWhile_append_of_pos inside]
  cases rest with
  | nil => simp
  | cons a rest => simp [ends a rfl]

theorem dropWhile_run (inside : ∀ a ∈ run, isPart a = true)
    (ends : ∀ a ∈ rest.head?, isPart a = false) : (run ++ rest).dropWhile isPart = rest := by
  rw [List.dropWhile_append_of_pos inside]
  cases rest with
  | nil => rfl
  | cons a rest => simp [ends a rfl]

end DeviceEnrollment.Text
