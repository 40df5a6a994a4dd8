import DeviceEnrollment.Proofs.Json.Numbers
import DeviceEnrollment.Proofs.Number.Shortest

/-!
Doubles in documents. What is printed of a finite double reads as a number, though not always as
the same one (`Number.isReadable_double`).
-/
namespace DeviceEnrollment.Json

open DeviceEnrollment.Number

/-! ### Digits that are kept -/

namespace Significand

theorem le_foldl_digits (digits : Bytes) (value : Nat) :
    value ≤ digits.foldl (fun total digit => total * 10 + (digit.toNat - 0x30)) value := by
  induction digits generalizing value with
  | nil => exact le_rfl
  | cons digit rest ih => exact (show value ≤ value * 10 + _ by omega).trans (ih _)

theorem foldl_takeWhole {digits : Bytes} {value : Nat} (exponent : Int)
    (fits : digits.foldl (fun total digit => total * 10 + (digit.toNat - 0x30)) value < twoTo64) :
    digits.foldl takeWhole ⟨value, exponent, false⟩ =
      ⟨digits.foldl (fun total digit => total * 10 + (digit.toNat - 0x30)) value, exponent,
        false⟩ := by
  induction digits generalizing value with
  | nil => rfl
  | cons digit rest ih =>
    rw [List.foldl_cons] at fits
    have here := (le_foldl_digits rest _).trans_lt fits
    rw [List.foldl_cons, List.foldl_cons, ← ih fits]
    simp [takeWhole, not_le.2 here]

theorem foldl_takeFraction {digits : Bytes} {value : Nat} (exponent : Int)
    (fits : digits.foldl (fun total digit => total * 10 + (digit.toNat - 0x30)) value < twoTo64) :
    digits.foldl takeFraction ⟨value, exponent, false⟩ =
      ⟨digits.foldl (fun total digit => total * 10 + (digit.toNat - 0x30)) value,
        exponent - digits.length, false⟩ := by
  induction digits generalizing value exponent with
  | nil => simp
  | cons digit rest ih =>
    rw [List.foldl_cons] at fits
    have here := (le_foldl_digits rest _).trans_lt fits
    rw [List.foldl_cons, List.foldl_cons, List.length_cons, Nat.cast_succ, ← sub_sub,
      sub_right_comm, ← ih (exponent - 1) fits]
    simp [takeFraction, not_le.2 here]

/-- All digits of a number that fits in 64 bits are kept. -/
theorem ofDigits_of_lt {whole fraction : Bytes}
    (fits : Bytes.decimal (whole ++ fraction) < twoTo64) :
    ofDigits whole fraction =
      ⟨Bytes.decimal (whole ++ fraction), -(fraction.length : Int), false⟩ := by
  rw [Bytes.decimal, List.foldl_append] at fits ⊢
  have before := (le_foldl_digits fraction _).trans_lt fits
  rw [ofDigits, foldl_takeWhole 0 before, foldl_takeFraction 0 fits, zero_sub]

/-! ### Powers of ten -/

/-- Any number can be divided by the powers of ten that five steps reach. -/
theorem exists_scaled_of_neg (fuel : Nat) {exponent : Int} (down : exponent < 0)
    (near : exponent.natAbs ≤ 308 * (fuel + 1)) (value : Double) :
    ∃ found, scaled fuel value exponent = some found := by
  induction fuel generalizing exponent value with
  | zero =>
    rw [scaled.eq_def, if_pos (by omega), if_neg (by omega)]
    exact ⟨_, rfl⟩
  | succ fuel ih =>
    by_cases one : exponent.natAbs ≤ 308
    · rw [scaled.eq_def, if_pos one, if_neg (by omega)]
      exact ⟨_, rfl⟩
    · rw [scaled.eq_def, if_neg one]
      split
      · exact ⟨_, rfl⟩
      · next out => cases out
      · next same =>
        cases same
        rw [if_neg (by omega)]
        exact ih (by omega) (by omega) _

/-- The greatest double is below the next power of ten but one. -/
theorem lt_of_zpow_le_ample {count : Nat} (small : (10 : ℚ) ^ count ≤ Double.ample) :
    count < 309 := by
  have beyond : 2 ^ 1024 < 10 ^ 309 := by decide +kernel
  have below : Double.ample < (2 : ℚ) ^ 1024 :=
    Double.ample_le_greatest.trans_lt (by exact_mod_cast Double.greatest_lt)
  have powers : (10 : ℚ) ^ count < 10 ^ 309 :=
    (small.trans_lt below).trans (by exact_mod_cast beyond)
  exact (pow_lt_pow_iff_right₀ (by norm_num)).1 powers

theorem exists_scaled_of_le_ample (negative : Bool) {digits : Nat} {exponent : Int}
    (positive : 0 < digits) (least : -416 ≤ exponent)
    (small : (digits : ℚ) * 10 ^ exponent ≤ Double.ample) :
    ∃ found, scaled 4 (.ofNat negative digits) exponent = some found := by
  rcases Int.lt_or_le exponent 0 with down | up
  · exact exists_scaled_of_neg 4 down (by omega) _
  · obtain ⟨count, rfl⟩ := Int.eq_ofNat_of_zero_le up
    rw [zpow_natCast] at small
    have one : (1 : ℚ) ≤ digits := by exact_mod_cast positive
    have unit : (1 : ℚ) ≤ 10 ^ count := one_le_pow₀ (by norm_num)
    have power : (10 : ℚ) ^ count ≤ Double.ample :=
      (le_mul_of_one_le_left (by positivity) one).trans small
    have value : (digits : ℚ) ≤ Double.ample :=
      (le_mul_of_one_le_right (by positivity) unit).trans small
    have few := lt_of_zpow_le_ample power
    obtain ⟨coefficient, exponent, finite⟩ := Double.exists_scaleUp_finite negative value
      (show ((Nat.pow 10 count : Nat) : ℚ) ≤ Double.ample by exact_mod_cast power)
      (by exact_mod_cast small)
    rw [scaled.eq_def, if_pos (by omega), if_pos (by omega), Int.toNat_natCast, finite]
    exact ⟨_, rfl⟩

end Significand

/-! ### The shortest digits -/

/-- The greatest eight doubles are too close to infinity for that bound. -/
theorem scaled_shortestDigits_greatest : ∀ less < 8, ∀ negative : Bool,
    let decimal := shortestDigits (2 ^ 53 - 8 + less) 971
    (Significand.scaled 4 (.ofNat negative decimal.digits) decimal.exponent).isSome = true := by
  decide +kernel

/-- The shortest digits of a double are scaled to a double. -/
theorem exists_scaled_shortestDigits (negative : Bool) {coefficient : Nat} {exponent : Int}
    (short : coefficient < 2 ^ 53) (high : exponent ≤ 971)
    (fits : (shortestDigits coefficient exponent).Fits ((coefficient + 1 / 2) * 2 ^ exponent)) :
    ∃ found, Significand.scaled 4 (.ofNat negative (shortestDigits coefficient exponent).digits)
      (shortestDigits coefficient exponent).exponent = some found := by
  by_cases small : exponent < 971 ∨ coefficient < 2 ^ 53 - 8
  · refine Significand.exists_scaled_of_le_ample negative fits.positive fits.exponent_ge
      (fits.toRat_le.trans (Double.add_half_le_ample ?_))
    omega
  · obtain ⟨last, great⟩ := not_or.1 small
    obtain rfl : exponent = 971 := by omega
    obtain ⟨less, rfl⟩ := Nat.exists_eq_add_of_le (Nat.not_lt.1 great)
    exact Option.isSome_iff_exists.1 (scaled_shortestDigits_greatest less (by omega) negative)

/-! ### Doubles as text -/

namespace Number

def fractionText : Option (List Char) → List Char
  | none => []
  | some digits => '.' :: digits

def powerText : Option Int → List Char
  | none => []
  | some power => 'e' :: (if power < 0 then '-' else '+') :: Nat.toDigits 10 power.natAbs

/-- Whether a text writes a number in digits before a point, behind it and in a power of ten, and
a reader has a double for them. -/
structure Spells (negative : Bool) (text whole : List Char) (fraction : Option (List Char))
    (power : Option Int) : Prop where
  text_eq : text = whole ++ (fractionText fraction ++ powerText power)
  isWhole : IsWhole whole
  isFraction : ∀ digits, fraction = some digits → digits ≠ [] ∧ ∀ c ∈ digits, c.isDigit = true
  marked : fraction ≠ none ∨ power ≠ none
  short : Text.decimalValue (whole ++ fraction.getD []) < twoTo64
  scales : ∃ found, Significand.scaled 4
    (.ofNat negative (Text.decimalValue (whole ++ fraction.getD [])))
    (power.getD 0 - (fraction.getD []).length) = some found

end Number

namespace WrittenNumber

/-- What a number in these parts is scanned as. -/
def ofParts (negative : Bool) (whole : List Char) (fraction : Option (List Char))
    (power : Option Int) : WrittenNumber :=
  ⟨negative, Number.digitBytes whole, fraction.map Number.digitBytes,
    power.map fun value => (decide (value < 0), Number.digitBytes (Nat.toDigits 10 value.natAbs))⟩

variable {negative : Bool} {text whole : List Char} {fraction : Option (List Char)}
  {power : Option Int}

theorem bytes_ofParts (negative : Bool) (whole : List Char) (fraction : Option (List Char))
    (power : Option Int) :
    (ofParts negative whole fraction power).bytes =
      Number.digitBytes ((if negative then ['-'] else []) ++
        (whole ++ (Number.fractionText fraction ++ Number.powerText power))) := by
  have sign : Number.digitBytes (if negative then ['-'] else []) =
      if negative then [0x2D] else [] := by
    cases negative <;> rfl
  have behind : Number.digitBytes (Number.fractionText fraction) =
      fractionBytes (fraction.map Number.digitBytes) := by
    cases fraction <;> rfl
  have last : Number.digitBytes (Number.powerText power) = powerBytes (power.map fun value =>
      (decide (value < 0), Number.digitBytes (Nat.toDigits 10 value.natAbs))) := by
    cases power with
    | none => rfl
    | some value => by_cases down : value < 0 <;> simp [Number.powerText, powerBytes, down] <;> rfl
  rw [bytes, ofParts, ← sign, ← behind, ← last]
  simp [Number.digitBytes]

theorem isLegible_ofParts (spells : Number.Spells negative text whole fraction power) :
    (ofParts negative whole fraction power).IsLegible where
  whole := Number.isDigits_digitBytes spells.isWhole.ne_nil spells.isWhole.all
  leading := spells.isWhole.of_digitBytes
  fraction := by
    intro digits is
    obtain ⟨held, states, rfl⟩ := Option.map_eq_some_iff.1 is
    exact Number.isDigits_digitBytes (spells.isFraction held states).1
      (spells.isFraction held states).2
  power := by
    intro down digits is
    obtain ⟨value, _, same⟩ := Option.map_eq_some_iff.1 is
    cases same
    exact Number.isDigits_digitBytes Nat.toDigits_ne_nil fun _ => Text.isDigit_of_mem_toDigits

theorem isPlain_ofParts (spells : Number.Spells negative text whole fraction power) :
    (ofParts negative whole fraction power).isPlain = false := by
  rcases spells.marked with some | some
  · obtain ⟨digits, rfl⟩ := Option.ne_none_iff_exists'.1 some
    rfl
  · obtain ⟨value, rfl⟩ := Option.ne_none_iff_exists'.1 some
    simp [isPlain, ofParts]

theorem powerValue_ofParts (negative : Bool) (whole : List Char) (fraction : Option (List Char))
    (power : Option Int) :
    powerValue (ofParts negative whole fraction power).power = power.getD 0 := by
  cases power with
  | none => rfl
  | some value =>
    have size : Bytes.decimal (Number.digitBytes (Nat.toDigits 10 value.natAbs)) =
        value.natAbs := by
      rw [Number.decimal_digitBytes fun _ => Text.isDigit_of_mem_toDigits,
        Text.decimalValue_toDigits]
    simp only [ofParts, Option.map_some, powerValue, size, Option.getD_some, decide_eq_true_eq]
    split <;> omega

theorem decimal_ofParts (spells : Number.Spells negative text whole fraction power) :
    Bytes.decimal (Number.digitBytes whole ++ (fraction.map Number.digitBytes).getD []) =
      Text.decimalValue (whole ++ fraction.getD []) := by
  have digits : ∀ c ∈ whole ++ fraction.getD [], c.isDigit = true := by
    refine List.forall_mem_append.2 ⟨spells.isWhole.all, ?_⟩
    cases fraction with
    | none => simp
    | some digits => exact (spells.isFraction digits rfl).2
  rw [← Number.decimal_digitBytes digits]
  cases fraction <;> simp [Number.digitBytes]

theorem exists_read_ofParts (spells : Number.Spells negative text whole fraction power) :
    ∃ found, (ofParts negative whole fraction power).read = .ok found := by
  obtain ⟨found, scales⟩ := spells.scales
  have decimal := decimal_ofParts spells
  have length : ((fraction.map Number.digitBytes).getD []).length = (fraction.getD []).length := by
    cases fraction <;> simp [Number.digitBytes]
  have double : (ofParts negative whole fraction power).double? = some found := by
    rw [double?, powerValue_ofParts]
    simp only [ofParts]
    rw [Significand.ofDigits_of_lt (decimal ▸ spells.short), decimal, length, neg_add_eq_sub,
      scales]
  have notInteger : (ofParts negative whole fraction power).integer? = none := by
    simp [integer?, isPlain_ofParts spells]
  refine ⟨.double found, ?_⟩
  rw [read, notInteger, double]

end WrittenNumber

namespace Number

variable {negative : Bool} {text whole : List Char} {fraction : Option (List Char)}
  {power : Option Int} {value : Double}

theorem isReadable_of_spells (spells : Spells negative text whole fraction power)
    (written : format.write value = (if negative then ['-'] else []) ++ text) :
    (Number.double value).IsReadable := by
  refine ⟨.ofParts negative whole fraction power, WrittenNumber.isLegible_ofParts spells, ?_,
    WrittenNumber.exists_read_ofParts spells⟩
  rw [WrittenNumber.bytes_ofParts, ← spells.text_eq, ← written]
  rfl

/-! ### The forms of doubles -/

variable {digits : Nat} {exponent : Int}

theorem decimalValue_append_zeros (digits : List Char) (count : Nat) :
    Text.decimalValue (digits ++ List.replicate count '0') =
      Text.decimalValue digits * 10 ^ count := by
  rw [Text.decimalValue_eq_ofDigitChars, Text.decimalValue_eq_ofDigitChars,
    Nat.ofDigitChars_append, Nat.ofDigitChars_replicate_zero, Nat.mul_comm]

/-- Zero, or a double without digits. -/
theorem spells_zero (negative : Bool) :
    Spells negative (format.plain ['0'] 0) ['0'] (some ['0']) none where
  text_eq := by decide
  isWhole := isWhole_toDigits 0
  isFraction := by
    rintro _ ⟨⟩
    simp
  marked := .inl (by simp)
  short := by decide
  scales := Significand.exists_scaled_of_neg 4 (by decide) (by decide) _

theorem isWhole_cons {first : Char} {rest : List Char}
    (digits : ∀ c ∈ first :: rest, c.isDigit = true) (significant : first ≠ '0') :
    IsWhole (first :: rest) :=
  ⟨by simp, digits, fun zero => absurd (Option.some.inj zero) significant⟩

theorem isDigit_of_mem_zeros {count : Nat} {c : Char} (member : c ∈ DoubleFormat.zeros count) :
    c.isDigit = true := by
  rw [(List.mem_replicate.1 member).2]
  rfl

/-- Digits behind a point and some zeros. -/
theorem spells_below {leading : Int} (small : digits < twoTo64) (down : leading < 0)
    (is : leading = exponent + ((Nat.toDigits 10 digits).length : Int) - 1)
    (scales : ∃ found, Significand.scaled 4 (.ofNat negative digits) exponent = some found) :
    Spells negative (format.plain (Nat.toDigits 10 digits) leading) ['0']
      (some (DoubleFormat.zeros (-leading - 1).toNat ++ Nat.toDigits 10 digits)) none := by
  have value : Text.decimalValue (['0'] ++ (DoubleFormat.zeros (-leading - 1).toNat ++
      Nat.toDigits 10 digits)) = digits := by
    have zeros : ['0'] ++ (DoubleFormat.zeros (-leading - 1).toNat ++ Nat.toDigits 10 digits) =
        List.replicate ((-leading - 1).toNat + 1) '0' ++ Nat.toDigits 10 digits := by
      rw [List.replicate_succ]
      rfl
    rw [zeros, Text.decimalValue_replicate_append, Text.decimalValue_toDigits]
  refine ⟨?_, isWhole_toDigits 0, ?_, .inl (by simp), ?_, ?_⟩
  · rw [DoubleFormat.plain, if_pos down]
    simp [fractionText, powerText]
  · rintro _ ⟨⟩
    refine ⟨List.append_ne_nil_of_right_ne_nil _ Nat.toDigits_ne_nil, ?_⟩
    exact List.forall_mem_append.2
      ⟨fun _ => isDigit_of_mem_zeros, fun _ => Text.isDigit_of_mem_toDigits⟩
  · rw [Option.getD_some, value]
    exact small
  · have power : (none : Option Int).getD 0 - ((DoubleFormat.zeros (-leading - 1).toNat ++
        Nat.toDigits 10 digits).length : Int) = exponent := by
      simp only [DoubleFormat.zeros, List.length_append, List.length_replicate, Option.getD_none]
      omega
    rw [Option.getD_some, value, power]
    exact scales

/-- Digits and some zeros before a point. -/
theorem spells_above {leading : Int} (positive : 0 < digits) (up : 0 ≤ exponent)
    (high : leading ≤ 15)
    (is : leading = exponent + ((Nat.toDigits 10 digits).length : Int) - 1) :
    Spells negative (format.plain (Nat.toDigits 10 digits) leading)
      (Nat.toDigits 10 digits ++ DoubleFormat.zeros exponent.toNat) (some ['0']) none := by
  have some : 0 < (Nat.toDigits 10 digits).length := List.length_pos_iff.2 Nat.toDigits_ne_nil
  have short := (Nat.length_toDigits_le_iff (by decide : 1 < 10) some).1 le_rfl
  have value : Text.decimalValue ((Nat.toDigits 10 digits ++ DoubleFormat.zeros exponent.toNat) ++
      ['0']) = digits * 10 ^ (exponent.toNat + 1) := by
    have zeros : DoubleFormat.zeros exponent.toNat ++ ['0'] =
        List.replicate (exponent.toNat + 1) '0' := by
      rw [List.replicate_succ']
      rfl
    rw [List.append_assoc, zeros, decimalValue_append_zeros, Text.decimalValue_toDigits]
  refine ⟨?_, ?_, ?_, .inl (by simp), ?_, ?_⟩
  · have count : (leading + 1 - ((Nat.toDigits 10 digits).length : Int)).toNat =
        exponent.toNat := by omega
    rw [DoubleFormat.plain, if_neg (by omega), if_pos (by omega), count]
    simp [fractionText, powerText, format]
  · have all : ∀ c ∈ Nat.toDigits 10 digits ++ DoubleFormat.zeros exponent.toNat,
        c.isDigit = true :=
      List.forall_mem_append.2
        ⟨fun _ => Text.isDigit_of_mem_toDigits, fun _ => isDigit_of_mem_zeros⟩
    obtain ⟨first, rest, split, significant⟩ := Text.exists_toDigits_cons positive
    rw [split, List.cons_append] at all ⊢
    exact isWhole_cons all significant
  · rintro _ ⟨⟩
    simp
  · rw [Option.getD_some, value]
    calc digits * 10 ^ (exponent.toNat + 1)
        < 10 ^ (Nat.toDigits 10 digits).length * 10 ^ (exponent.toNat + 1) := by gcongr
      _ = 10 ^ ((Nat.toDigits 10 digits).length + (exponent.toNat + 1)) := (pow_add ..).symm
      _ ≤ 10 ^ 17 := Nat.pow_le_pow_right (by decide) (by omega)
      _ < twoTo64 := by decide
  · exact Significand.exists_scaled_of_neg 4 (by simp) (by simp) _

/-- Digits on both sides of a point. -/
theorem spells_around {leading : Int} (positive : 0 < digits) (small : digits < twoTo64)
    (up : 0 ≤ leading) (down : exponent < 0)
    (is : leading = exponent + ((Nat.toDigits 10 digits).length : Int) - 1)
    (scales : ∃ found, Significand.scaled 4 (.ofNat negative digits) exponent = some found) :
    Spells negative (format.plain (Nat.toDigits 10 digits) leading)
      ((Nat.toDigits 10 digits).take (leading + 1).toNat)
      (some ((Nat.toDigits 10 digits).drop (leading + 1).toNat)) none := by
  refine ⟨?_, ?_, ?_, .inl (by simp), ?_, ?_⟩
  · rw [DoubleFormat.plain, if_neg (by omega), if_neg (by omega)]
    simp [fractionText, powerText]
  · have all : ∀ c ∈ (Nat.toDigits 10 digits).take (leading + 1).toNat, c.isDigit = true :=
      fun _ member => Text.isDigit_of_mem_toDigits (List.mem_of_mem_take member)
    obtain ⟨first, rest, split, significant⟩ := Text.exists_toDigits_cons positive
    obtain ⟨count, same⟩ := Nat.exists_eq_add_of_le' (show 1 ≤ (leading + 1).toNat by omega)
    rw [split, same, List.take_succ_cons] at all ⊢
    exact isWhole_cons all significant
  · rintro _ ⟨⟩
    refine ⟨?_, fun _ member => Text.isDigit_of_mem_toDigits (List.mem_of_mem_drop member)⟩
    rw [ne_eq, List.drop_eq_nil_iff]
    omega
  · rw [Option.getD_some, List.take_append_drop, Text.decimalValue_toDigits]
    exact small
  · have power : (none : Option Int).getD 0 -
        (((Nat.toDigits 10 digits).drop (leading + 1).toNat).length : Int) = exponent := by
      rw [List.length_drop, Option.getD_none]
      omega
    rw [Option.getD_some, List.take_append_drop, Text.decimalValue_toDigits, power]
    exact scales

/-- A digit, the other ones behind a point, and a power of ten. -/
theorem spells_scientific {leading : Int} {first : Char} {rest : List Char}
    (small : digits < twoTo64) (split : Nat.toDigits 10 digits = first :: rest)
    (is : leading = exponent + ((Nat.toDigits 10 digits).length : Int) - 1)
    (scales : ∃ found, Significand.scaled 4 (.ofNat negative digits) exponent = some found) :
    Spells negative (format.scientific (first :: rest) leading) [first]
      (if rest = [] then none else some rest) (some leading) := by
  have all : ∀ c ∈ first :: rest, c.isDigit = true := fun _ member =>
    Text.isDigit_of_mem_toDigits (split ▸ member)
  have value : Text.decimalValue (first :: rest) = digits := by
    rw [← split, Text.decimalValue_toDigits]
  have behind : (if rest = [] then none else some rest).getD [] = rest := by
    cases rest <;> rfl
  rw [split, List.length_cons] at is
  refine ⟨?_, ⟨by simp, ?_, ?_⟩, ?_, .inr (by simp), ?_, ?_⟩
  · cases rest <;> by_cases down : leading < 0 <;>
      simp [DoubleFormat.scientific, fractionText, powerText, down, format]
  · exact List.forall_mem_singleton.2 (List.forall_mem_cons.1 all).1
  · exact fun zero => congrArg (fun c => [c]) (Option.some.inj zero)
  · intro held states
    cases rest with
    | nil => cases states
    | cons second rest =>
      cases states
      exact ⟨by simp, (List.forall_mem_cons.1 all).2⟩
  · rw [behind, List.singleton_append, value]
    exact small
  · have power : (some leading).getD 0 - (rest.length : Int) = exponent := by
      rw [Option.getD_some]
      omega
    rw [behind, List.singleton_append, value, power]
    exact scales

theorem exists_spells (positive : 0 < digits) (small : digits < twoTo64)
    (scales : ∃ found, Significand.scaled 4 (.ofNat negative digits) exponent = some found) :
    let leading := exponent + ((Nat.toDigits 10 digits).length : Int) - 1
    ∃ whole fraction power, Spells negative
      (if format.positional leading then format.plain (Nat.toDigits 10 digits) leading
        else format.scientific (Nat.toDigits 10 digits) leading) whole fraction power := by
  intro leading
  split
  · next positional =>
    have bounds : -5 ≤ leading ∧ leading ≤ 15 := by simpa [format] using positional
    rcases Int.lt_or_le leading 0 with below | above
    · exact ⟨_, _, _, spells_below small below rfl scales⟩
    · rcases Int.lt_or_le exponent 0 with down | up
      · exact ⟨_, _, _, spells_around positive small above down rfl scales⟩
      · exact ⟨_, _, _, spells_above positive up bounds.2 rfl⟩
  · obtain ⟨first, rest, split, _⟩ := Text.exists_toDigits_cons positive
    have spells := spells_scientific small split rfl scales
    rw [← split] at spells
    exact ⟨_, _, _, spells⟩

/-- What is printed of a finite double reads as a number. -/
theorem isReadable_double (finite : value.IsFinite) : (Number.double value).IsReadable := by
  cases value with
  | infinite negative => exact finite.elim
  | nan => exact finite.elim
  | finite negative coefficient exponent =>
    obtain ⟨short, _, high⟩ := finite
    by_cases none : coefficient = 0
    · refine isReadable_of_spells (spells_zero negative) ?_
      rw [DoubleFormat.write, if_pos none]
    rcases fits_shortestDigits (Nat.pos_of_ne_zero none) exponent with lost | fits
    · refine isReadable_of_spells (spells_zero negative) ?_
      rw [DoubleFormat.write, if_neg none, lost]
      rfl
    · have small := fits.short.trans_lt (by decide : 10 ^ 17 < twoTo64)
      obtain ⟨whole, fraction, power, spells⟩ := exists_spells fits.positive small
        (exists_scaled_shortestDigits negative short high fits)
      refine isReadable_of_spells spells ?_
      rw [DoubleFormat.write, if_neg none]

/-- Whether a number is one that a document can hold: an integer of 64 bits or a finite double. -/
def IsRepresentable : Number → Prop
  | .integer value => -(twoTo63 : Int) ≤ value ∧ value < twoTo64
  | .double value => value.IsFinite

theorem IsRepresentable.isReadable {held : Number} (representable : held.IsRepresentable) :
    held.IsReadable := by
  cases held with
  | integer value => exact isReadable_integer representable.1 representable.2
  | double value => exact isReadable_double representable

end Number

end DeviceEnrollment.Json
