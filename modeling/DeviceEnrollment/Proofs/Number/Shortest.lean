import DeviceEnrollment.Number.Shortest
import DeviceEnrollment.Proofs.Number.Rounding

/-!
What the shortest digits of a double can be: at most seventeen of them, and no more than half-way
to the next double (`fits_shortestDigits`).
-/
namespace DeviceEnrollment.Number

namespace Decimal

def toRat (point : Decimal) : ℚ := point.digits * 10 ^ point.exponent

variable {numerator denominator : Nat} {point : Decimal}

/-- Both sides of the comparison are those of the exact one times a power of ten. -/
theorem exists_crossed (positive : 0 < denominator) (numerator : Nat) (point : Decimal) :
    ∃ scale : ℚ, 0 < scale ∧
      ((crossed numerator denominator point).1 : ℚ) = numerator / denominator * scale ∧
      ((crossed numerator denominator point).2 : ℚ) = point.toRat * scale := by
  have apart : (denominator : ℚ) ≠ 0 := by exact_mod_cast positive.ne'
  unfold crossed toRat
  split
  · next upwards =>
    obtain ⟨count, same⟩ := Int.eq_ofNat_of_zero_le upwards
    refine ⟨denominator, by exact_mod_cast positive, ?_, ?_⟩
    · field_simp
    · simp [same]
  · next downwards =>
    obtain ⟨count, same⟩ := Int.exists_eq_neg_ofNat (Int.le_of_not_le downwards)
    refine ⟨denominator * 10 ^ count, by positivity, ?_, ?_⟩
    · simp only [same, neg_neg, Int.toNat_natCast, Nat.pow_eq]
      push_cast
      field_simp
    · simp only [same, zpow_neg, zpow_natCast]
      push_cast
      field_simp

theorem crossed_le_iff (positive : 0 < denominator) :
    (crossed numerator denominator point).1 ≤ (crossed numerator denominator point).2 ↔
      (numerator : ℚ) / denominator ≤ point.toRat := by
  obtain ⟨scale, large, first, second⟩ := exists_crossed positive numerator point
  rw [← mul_le_mul_iff_left₀ large, ← first, ← second]
  exact Nat.cast_le.symm

theorem le_crossed_iff (positive : 0 < denominator) :
    (crossed numerator denominator point).2 ≤ (crossed numerator denominator point).1 ↔
      point.toRat ≤ (numerator : ℚ) / denominator := by
  obtain ⟨scale, large, first, second⟩ := exists_crossed positive numerator point
  rw [← mul_le_mul_iff_left₀ large, ← first, ← second]
  exact Nat.cast_le.symm

end Decimal

/-! ### The interval of a double -/

namespace Interval

variable {interval : Interval} {point : Decimal}

theorem bounds_of_holds (positive : 0 < interval.denominator) (held : interval.holds point = true) :
    (interval.low : ℚ) / interval.denominator ≤ point.toRat ∧
      point.toRat ≤ interval.high / interval.denominator := by
  rw [← Decimal.crossed_le_iff positive, ← Decimal.le_crossed_iff positive]
  unfold holds at held
  dsimp only at held
  split at held
  · simpa using held
  · simp only [Bool.and_eq_true, decide_eq_true_eq] at held
    exact ⟨held.1.le, held.2.le⟩

theorem of_denominator (coefficient : Nat) (exponent : Int) :
    (Interval.of coefficient exponent).denominator =
      4 * (Double.ratio coefficient exponent).2 := rfl

theorem ratio_fst (coefficient : Nat) (exponent : Int) :
    (Double.ratio coefficient exponent).1 = coefficient * (Double.ratio 1 exponent).1 := by
  unfold Double.ratio
  split <;> simp

theorem ratio_snd (coefficient other : Nat) (exponent : Int) :
    (Double.ratio coefficient exponent).2 = (Double.ratio other exponent).2 := by
  unfold Double.ratio
  split <;> rfl

theorem low_pos {coefficient : Nat} (positive : 0 < coefficient) (exponent : Int) :
    0 < (Interval.of coefficient exponent).low := by
  have unit : 0 < (Double.ratio 1 exponent).1 := by
    unfold Double.ratio
    split <;> simp
  have grows : (Double.ratio 1 exponent).1 ≤ (Double.ratio coefficient exponent).1 := by
    rw [ratio_fst coefficient]
    exact Nat.le_mul_of_pos_left _ positive
  unfold Interval.of
  dsimp only
  split <;> omega

theorem high_div (coefficient : Nat) (exponent : Int) :
    ((Interval.of coefficient exponent).high : ℚ) / (Interval.of coefficient exponent).denominator =
      (coefficient + 1 / 2) * 2 ^ exponent := by
  have unit := Double.ratio_div 1 exponent
  have apart : ((Double.ratio 1 exponent).2 : ℚ) ≠ 0 := by
    exact_mod_cast (Double.ratio_pos 1 exponent).ne'
  have high : (Interval.of coefficient exponent).high =
      4 * (Double.ratio coefficient exponent).1 + 2 * (Double.ratio 1 exponent).1 := rfl
  rw [high, of_denominator, ratio_fst, ratio_snd coefficient 1]
  push_cast
  rw [Nat.cast_one, one_mul] at unit
  rw [← unit]
  field_simp
  ring

end Interval

/-! ### Digits that were found -/

theorem leadingExponent_ge (numerator denominator : Nat) :
    -400 ≤ leadingExponent numerator denominator := by
  have some := List.length_pos_iff.2
    (Nat.toDigits_ne_nil (n := numerator * Nat.pow 10 400 / denominator) (b := 10))
  unfold leadingExponent
  omega

/-- A ratio has no more digits before its point than are left of the digits with some behind it. -/
theorem div_lt_zpow_length {numerator denominator : Nat} (positive : 0 < denominator)
    (behind : Nat) :
    (numerator : ℚ) / denominator <
      10 ^ (((Nat.toDigits 10 (numerator * Nat.pow 10 behind / denominator)).length : Int) -
        behind) := by
  have digits : 0 < (Nat.toDigits 10 (numerator * Nat.pow 10 behind / denominator)).length :=
    List.length_pos_iff.2 Nat.toDigits_ne_nil
  have short := (Nat.length_toDigits_le_iff (by decide : 1 < 10) digits).1 le_rfl
  have scaled := (Nat.div_lt_iff_lt_mul positive).1 short
  rw [zpow_sub₀ (by norm_num), zpow_natCast, zpow_natCast,
    div_lt_div_iff₀ (by exact_mod_cast positive) (by positivity)]
  exact_mod_cast scaled

theorem div_lt_zpow_leadingExponent {numerator denominator : Nat} (positive : 0 < denominator) :
    (numerator : ℚ) / denominator < 10 ^ (leadingExponent numerator denominator + 1) := by
  -- The count keeps a name, so that its power is never formed.
  obtain ⟨behind, is⟩ : ∃ behind : Nat, behind = 400 := ⟨400, rfl⟩
  have bound := @div_lt_zpow_length numerator _ positive behind
  unfold leadingExponent
  rw [← is]
  refine bound.trans_eq (congrArg _ ?_)
  omega

namespace Interval

variable {interval : Interval} {point : Decimal}

/-- The value of an interval over a step of a grid. -/
def scaledTo (interval : Interval) (grid : Int) : Nat × Nat :=
  if 0 ≤ grid then (interval.value, interval.denominator * Nat.pow 10 grid.toNat)
  else (interval.value * Nat.pow 10 (-grid).toNat, interval.denominator)

theorem scaledTo_div (interval : Interval) (grid : Int) :
    ((interval.scaledTo grid).1 : ℚ) / (interval.scaledTo grid).2 =
      interval.value / interval.denominator / 10 ^ grid := by
  unfold scaledTo
  split
  · next upwards =>
    obtain ⟨count, rfl⟩ := Int.eq_ofNat_of_zero_le upwards
    simp [div_div]
  · next downwards =>
    obtain ⟨count, rfl⟩ := Int.exists_eq_neg_ofNat (Int.le_of_not_le downwards)
    simp [mul_div_right_comm]

/-- A point on a grid is in the interval, and at most one step above the value. -/
theorem of_onGrid? {grid : Int} (found : interval.onGrid? grid = some point) :
    interval.holds point = true ∧ point.exponent = grid ∧
      point.digits ≤ (interval.scaledTo grid).1 / (interval.scaledTo grid).2 + 1 := by
  have either (digits : Nat) (held : interval.holds ⟨digits, grid⟩ = true)
      (near : digits ≤ (interval.scaledTo grid).1 / (interval.scaledTo grid).2 + 1)
      (same : some ⟨digits, grid⟩ = some point) :
      interval.holds point = true ∧ point.exponent = grid ∧
        point.digits ≤ (interval.scaledTo grid).1 / (interval.scaledTo grid).2 + 1 := by
    cases same
    exact ⟨held, rfl, near⟩
  unfold onGrid? at found
  rw [← scaledTo] at found
  dsimp only at found
  split_ifs at found with nearer held differs other
  all_goals exact either _ (by assumption) (by omega) found

theorem exists_of_shortest (interval : Interval) (leading : Int) :
    interval.shortest leading = ⟨0, 0⟩ ∨
      ∃ count < 17,
        interval.onGrid? (leading - (count : Nat)) = some (interval.shortest leading) := by
  unfold shortest
  cases found : (List.range 17).findSome? fun (count : Nat) =>
    interval.onGrid? (leading - count) with
  | none => exact .inl rfl
  | some point =>
    obtain ⟨count, among, here⟩ := List.exists_of_findSome?_eq_some found
    exact .inr ⟨count, List.mem_range.1 among, here⟩

end Interval

/-- Whether a decimal has one to seventeen digits, no power of ten below all doubles, and a value
up to some bound. -/
structure Decimal.Fits (bound : ℚ) (point : Decimal) : Prop where
  positive : 0 < point.digits
  short : point.digits ≤ 10 ^ 17
  exponent_ge : -416 ≤ point.exponent
  toRat_le : point.toRat ≤ bound

variable {bound : ℚ} {point : Decimal} {coefficient : Nat} {exponent : Int}

theorem Decimal.Fits.trimmed (fits : point.Fits bound) (fuel : Nat) :
    (point.trimmed fuel).Fits bound := by
  induction fuel generalizing point with
  | zero => exact fits
  | succ fuel ih =>
    rw [Decimal.trimmed]
    split
    · next round =>
      simp only [Bool.and_eq_true, decide_eq_true_eq, ne_eq] at round
      obtain ⟨tens, same⟩ := Nat.dvd_of_mod_eq_zero round.2
      have fewer : point.digits / 10 = tens := by omega
      refine ih ⟨?_, ?_, ?_, ?_⟩
      · have := fits.positive
        simp only
        omega
      · exact (Nat.div_le_self _ _).trans fits.short
      · have := fits.exponent_ge
        simp only
        omega
      · refine le_trans (le_of_eq ?_) fits.toRat_le
        rw [toRat, toRat, fewer, same, zpow_add_one₀ (by norm_num)]
        push_cast
        ring
    · exact fits

theorem Decimal.trimmed_zero (fuel : Nat) : Decimal.trimmed fuel ⟨0, 0⟩ = ⟨0, 0⟩ := by
  cases fuel <;> rfl

/-- On a grid of up to seventeen digits a double is below `10 ^ 17` steps. -/
theorem Interval.scaledTo_lt (coefficient : Nat) (exponent : Int) {count : Nat} (few : count < 17) :
    let grid := leadingExponent (Double.ratio coefficient exponent).1
      (Double.ratio coefficient exponent).2 - count
    ((Interval.of coefficient exponent).scaledTo grid).1 /
      ((Interval.of coefficient exponent).scaledTo grid).2 < 10 ^ 17 := by
  intro grid
  have value : ((Interval.of coefficient exponent).value : ℚ) /
      (Interval.of coefficient exponent).denominator =
        (Double.ratio coefficient exponent).1 / (Double.ratio coefficient exponent).2 := by
    rw [of_denominator, show (Interval.of coefficient exponent).value =
      4 * (Double.ratio coefficient exponent).1 from rfl]
    push_cast
    exact mul_div_mul_left _ _ four_ne_zero
  have below : ((Double.ratio coefficient exponent).1 : ℚ) / (Double.ratio coefficient exponent).2 <
      10 ^ (leadingExponent (Double.ratio coefficient exponent).1
        (Double.ratio coefficient exponent).2 + 1) :=
    div_lt_zpow_leadingExponent (Double.ratio_pos coefficient exponent)
  have steps : ((((Interval.of coefficient exponent).scaledTo grid).1 /
      ((Interval.of coefficient exponent).scaledTo grid).2 : Nat) : ℚ) < 10 ^ 17 := by
    refine Nat.cast_div_le.trans_lt ?_
    rw [scaledTo_div, value, div_lt_iff₀ (by positivity)]
    calc _ < (10 : ℚ) ^ (leadingExponent (Double.ratio coefficient exponent).1
          (Double.ratio coefficient exponent).2 + 1) := below
      _ ≤ 10 ^ ((17 : Nat) + grid) := by
          refine zpow_le_zpow_right₀ (by norm_num) ?_
          simp only [grid]
          omega
      _ = 10 ^ 17 * 10 ^ grid := by rw [zpow_add₀ (by norm_num), zpow_natCast]
  exact_mod_cast steps

theorem fits_of_onGrid? (positive : 0 < coefficient) {count : Nat} (few : count < 17)
    (found : (Interval.of coefficient exponent).onGrid?
      (leadingExponent (Double.ratio coefficient exponent).1
        (Double.ratio coefficient exponent).2 - count) = some point) :
    point.Fits ((coefficient + 1 / 2) * 2 ^ exponent) := by
  have denominator : 0 < (Interval.of coefficient exponent).denominator :=
    Nat.mul_pos (by decide) (Double.ratio_pos coefficient exponent)
  have apart : (0 : ℚ) < (Interval.of coefficient exponent).denominator := by
    exact_mod_cast denominator
  obtain ⟨held, onGrid, near⟩ := Interval.of_onGrid? found
  obtain ⟨above, below⟩ := Interval.bounds_of_holds denominator held
  refine ⟨?_, near.trans (Interval.scaledTo_lt coefficient exponent few), ?_,
    below.trans_eq (Interval.high_div coefficient exponent)⟩
  · -- Zero is below the interval.
    refine Nat.pos_of_ne_zero fun zero => ?_
    have low : (0 : ℚ) < (Interval.of coefficient exponent).low := by
      exact_mod_cast Interval.low_pos positive exponent
    have least := (div_pos low apart).trans_le above
    rw [Decimal.toRat, zero, Nat.cast_zero, zero_mul] at least
    exact lt_irrefl _ least
  · have leading := leadingExponent_ge (Double.ratio coefficient exponent).1
      (Double.ratio coefficient exponent).2
    omega

/-- The shortest digits of a positive double, unless none were found. -/
theorem fits_shortestDigits (positive : 0 < coefficient) (exponent : Int) :
    shortestDigits coefficient exponent = ⟨0, 0⟩ ∨
      (shortestDigits coefficient exponent).Fits ((coefficient + 1 / 2) * 2 ^ exponent) := by
  unfold shortestDigits
  rcases Interval.exists_of_shortest (Interval.of coefficient exponent)
    (leadingExponent (Double.ratio coefficient exponent).1
      (Double.ratio coefficient exponent).2) with none | ⟨count, few, found⟩
  · refine .inl ?_
    dsimp only
    rw [none, Decimal.trimmed_zero]
  · exact .inr ((fits_of_onGrid? positive few found).trimmed 20)

end DeviceEnrollment.Number
