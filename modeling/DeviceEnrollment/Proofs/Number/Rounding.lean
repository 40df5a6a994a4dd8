import DeviceEnrollment.Number.Double
import Mathlib.Data.Nat.Cast.Order.Field
import Mathlib.Algebra.Order.Field.Power
import Mathlib.Tactic.FieldSimp
import Mathlib.Tactic.Linarith
import Mathlib.Tactic.NormNum
import Mathlib.Tactic.Positivity
import Mathlib.Tactic.Ring

/-!
How far rounding can go. A ratio up to the greatest double has a finite double
(`exists_ofRatio_finite`), and a number is rounded up by less than one part in `2 ^ 52`
(`exists_ofNat_finite`).
-/
namespace DeviceEnrollment.Number

variable {numerator denominator : Nat}

theorem roundEven_le {bound : Nat} (small : numerator ≤ bound * denominator) :
    roundEven numerator denominator ≤ bound := by
  have quotient : numerator / denominator ≤ bound := Nat.div_le_of_le_mul (Nat.mul_comm _ _ ▸ small)
  rcases Nat.eq_zero_or_pos denominator with rfl | positive
  · simp [roundEven, Nat.le_zero.1 small]
  rcases Nat.lt_or_eq_of_le quotient with below | same
  · unfold roundEven
    dsimp only
    split_ifs <;> omega
  · -- Nothing is left over, so nothing is rounded up.
    have exact : numerator % denominator = 0 := by
      rw [Nat.mod_eq_sub_mul_div, same, Nat.mul_comm]
      exact Nat.sub_eq_zero_of_le small
    simp [roundEven, exact, same, positive]

theorem roundEven_le_add_one (numerator denominator : Nat) :
    (roundEven numerator denominator : ℚ) ≤ numerator / denominator + 1 := by
  have small : roundEven numerator denominator ≤ numerator / denominator + 1 := by
    unfold roundEven
    dsimp only
    split_ifs <;> omega
  calc (roundEven numerator denominator : ℚ)
      ≤ ((numerator / denominator + 1 : Nat) : ℚ) := by exact_mod_cast small
    _ ≤ numerator / denominator + 1 := by
        push_cast
        exact add_le_add_left Nat.cast_div_le 1

theorem scaleRatio_div (numerator denominator : Nat) (exponent : Int) :
    ((scaleRatio numerator denominator exponent).1 : ℚ) /
      (scaleRatio numerator denominator exponent).2 = numerator / denominator / 2 ^ exponent := by
  unfold scaleRatio
  split
  · next upwards =>
    obtain ⟨count, rfl⟩ := Int.eq_ofNat_of_zero_le upwards
    simp [div_div]
  · next downwards =>
    obtain ⟨count, rfl⟩ := Int.exists_eq_neg_ofNat (Int.le_of_not_le downwards)
    simp [mul_div_right_comm]

theorem scaleRatio_pos (positive : 0 < denominator) (exponent : Int) :
    0 < (scaleRatio numerator denominator exponent).2 := by
  unfold scaleRatio
  split
  · exact Nat.mul_pos positive (Nat.two_pow_pos _)
  · exact positive

namespace Double

theorem ratio_div (coefficient : Nat) (exponent : Int) :
    ((ratio coefficient exponent).1 : ℚ) / (ratio coefficient exponent).2 =
      coefficient * 2 ^ exponent := by
  unfold ratio
  split
  · next upwards =>
    obtain ⟨count, rfl⟩ := Int.eq_ofNat_of_zero_le upwards
    simp
  · next downwards =>
    obtain ⟨count, rfl⟩ := Int.exists_eq_neg_ofNat (Int.le_of_not_le downwards)
    simp [div_eq_mul_inv]

theorem ratio_pos (coefficient : Nat) (exponent : Int) : 0 < (ratio coefficient exponent).2 := by
  unfold ratio
  split
  · exact Nat.one_pos
  · exact Nat.two_pow_pos _

/-- Whether a double is a finite one, with its coefficient and its exponent in range. -/
def IsFinite : Double → Prop
  | .finite _ coefficient exponent => coefficient < 2 * leadingUnit ∧
      leastExponent ≤ exponent ∧ exponent ≤ greatestExponent
  | _ => False

/-- The greatest finite double. -/
def greatest : ℚ := (2 ^ 53 - 1) * 2 ^ 971

theorem greatest_lt : greatest < 2 ^ (1024 : Int) := by
  rw [greatest, show (1024 : Int) = ((53 + 971 : Nat) : Int) by rfl, zpow_natCast, pow_add]
  gcongr
  norm_num

/-- The exponent at which a ratio has 53 bits, or one more. -/
def estimate (numerator denominator : Nat) : Int :=
  (numerator.log2 : Int) - (denominator.log2 : Int) - 52

theorem zpow_log2_le {value : Nat} (nonzero : value ≠ 0) :
    (2 : ℚ) ^ (value.log2 : Int) ≤ value := by
  rw [zpow_natCast]
  exact_mod_cast Nat.log2_self_le nonzero

theorem lt_zpow_log2 (value : Nat) : (value : ℚ) < 2 ^ ((value.log2 : Int) + 1) := by
  have below : (value : ℚ) < (2 : ℚ) ^ (value.log2 + 1) := by exact_mod_cast Nat.lt_log2_self
  exact_mod_cast below

theorem zpow_estimate_lt (nonzero : numerator ≠ 0) (positive : 0 < denominator) :
    (2 : ℚ) ^ (estimate numerator denominator + 51) < numerator / denominator := by
  have above := lt_zpow_log2 denominator
  rw [lt_div_iff₀ (by exact_mod_cast positive)]
  calc (2 : ℚ) ^ (estimate numerator denominator + 51) * denominator
      < 2 ^ (estimate numerator denominator + 51) * 2 ^ ((denominator.log2 : Int) + 1) := by gcongr
    _ = 2 ^ (numerator.log2 : Int) := by
        rw [← zpow_add₀ two_ne_zero, estimate]
        congr 1
        ring
    _ ≤ numerator := zpow_log2_le nonzero

/-- A ratio below `2 ^ 1024` has its 53 bits at an exponent of doubles. -/
theorem exponentOfRatio_le (nonzero : numerator ≠ 0) (positive : 0 < denominator)
    (below : (numerator : ℚ) / denominator < 2 ^ (1024 : Int)) :
    exponentOfRatio numerator denominator ≤ greatestExponent := by
  have least := (zpow_estimate_lt nonzero positive).trans below
  have bound : estimate numerator denominator + 51 < 1024 :=
    (zpow_lt_zpow_iff_right₀ one_lt_two).1 least
  unfold exponentOfRatio
  rw [← estimate]
  simp only [max_le_iff, greatestExponent, leastExponent]
  refine ⟨?_, by decide⟩
  split_ifs with short
  · omega
  · -- One more bit than the ratio can have would be left.
    by_contra long
    have last : estimate numerator denominator = 972 := by omega
    rw [last] at short
    have shifted := scaleRatio_div numerator denominator 972
    have small : (scaleRatio numerator denominator 972).1 <
        leadingUnit * (scaleRatio numerator denominator 972).2 := by
      have apart : (0 : ℚ) < (scaleRatio numerator denominator 972).2 := by
        exact_mod_cast scaleRatio_pos positive 972
      have scaled : ((scaleRatio numerator denominator 972).1 : ℚ) /
          (scaleRatio numerator denominator 972).2 < leadingUnit := by
        rw [shifted, div_lt_iff₀ (by positivity)]
        refine below.trans_eq ?_
        rw [show (leadingUnit : ℚ) = 2 ^ (52 : Int) by norm_num [leadingUnit],
          ← zpow_add₀ two_ne_zero]
        norm_num
      exact_mod_cast (div_lt_iff₀ apart).1 scaled
    exact short (Nat.div_lt_of_lt_mul (Nat.mul_comm _ _ ▸ small))

/-- A coefficient of 53 bits and its exponent; one of 54 bits is halved. -/
def carry (coefficient : Nat) (exponent : Int) : Nat × Int :=
  if coefficient = 2 * leadingUnit then (leadingUnit, exponent + 1) else (coefficient, exponent)

theorem carry_value (coefficient : Nat) (exponent : Int) :
    ((carry coefficient exponent).1 : ℚ) * 2 ^ (carry coefficient exponent).2 =
      coefficient * 2 ^ exponent := by
  unfold carry
  split
  · next twice =>
    rw [twice, zpow_add_one₀ two_ne_zero]
    push_cast
    ring
  · rfl

/-- The coefficient and the exponent that a ratio is rounded to. -/
def rounded (numerator denominator : Nat) : Nat × Int :=
  let exponent := exponentOfRatio numerator denominator
  let scaled := scaleRatio numerator denominator exponent
  carry (roundEven scaled.1 scaled.2) exponent

theorem ofRatio_of_ne_zero (negative : Bool) (nonzero : numerator ≠ 0) :
    ofRatio negative numerator denominator =
      if (rounded numerator denominator).2 > greatestExponent then .infinite negative
      else .finite negative (rounded numerator denominator).1
        (rounded numerator denominator).2 := by
  rw [ofRatio, if_neg nonzero]
  rfl

/-- A ratio up to the greatest double does not round to infinity. -/
theorem rounded_le_greatestExponent (nonzero : numerator ≠ 0) (positive : 0 < denominator)
    (bounded : (numerator : ℚ) / denominator ≤ greatest) :
    (rounded numerator denominator).2 ≤ greatestExponent := by
  have below := bounded.trans_lt greatest_lt
  have fits := exponentOfRatio_le nonzero positive below
  rcases fits.lt_or_eq with lower | last
  · unfold rounded carry
    dsimp only
    split_ifs <;> simp only <;> omega
  · -- A coefficient of the greatest exponent stays below the next power of two.
    have exact := scaleRatio_div numerator denominator greatestExponent
    have apart : (0 : ℚ) < (scaleRatio numerator denominator greatestExponent).2 := by
      exact_mod_cast scaleRatio_pos positive greatestExponent
    have small : ((scaleRatio numerator denominator greatestExponent).1 : ℚ) ≤
        ((2 ^ 53 - 1 : Nat) : ℚ) * (scaleRatio numerator denominator greatestExponent).2 := by
      rw [← div_le_iff₀ apart, exact, div_le_iff₀ (by positivity)]
      refine bounded.trans_eq ?_
      rw [greatest, greatestExponent, show (971 : Int) = ((971 : Nat) : Int) by rfl, zpow_natCast]
      norm_num
    have short := roundEven_le (by exact_mod_cast small)
    unfold rounded carry
    dsimp only
    rw [last, if_neg (Nat.ne_of_lt (short.trans_lt (by decide)))]

theorem exists_ofRatio_finite (negative : Bool) (positive : 0 < denominator)
    (bounded : (numerator : ℚ) / denominator ≤ greatest) :
    ∃ coefficient exponent,
      ofRatio negative numerator denominator = .finite negative coefficient exponent := by
  by_cases nonzero : numerator = 0
  · exact ⟨0, leastExponent, by rw [ofRatio, if_pos nonzero, zero]⟩
  · have fits := rounded_le_greatestExponent nonzero positive bounded
    rw [ofRatio_of_ne_zero negative nonzero, if_neg (not_lt.2 fits)]
    exact ⟨_, _, rfl⟩

/-! ### Whole numbers -/

variable {value : Nat}

theorem estimate_one (value : Nat) : estimate value 1 = (value.log2 : Int) - 52 := by
  have none : Nat.log2 1 = 0 := by decide
  simp [estimate, none]

/-- A number has its 53 bits at the estimated exponent. -/
theorem leadingUnit_mul_zpow_le (nonzero : value ≠ 0) :
    (leadingUnit : ℚ) * 2 ^ estimate value 1 ≤ value := by
  refine le_trans (le_of_eq ?_) (zpow_log2_le nonzero)
  rw [show (leadingUnit : ℚ) = 2 ^ (52 : Int) by norm_num [leadingUnit],
    ← zpow_add₀ two_ne_zero, estimate_one]
  congr 1
  ring

theorem exponentOfRatio_one (nonzero : value ≠ 0) :
    exponentOfRatio value 1 = estimate value 1 := by
  have positive : 0 < (scaleRatio value 1 (estimate value 1)).2 := scaleRatio_pos Nat.one_pos _
  have apart : (0 : ℚ) < (scaleRatio value 1 (estimate value 1)).2 := by exact_mod_cast positive
  have scaled : (leadingUnit : ℚ) ≤ (scaleRatio value 1 (estimate value 1)).1 /
      (scaleRatio value 1 (estimate value 1)).2 := by
    rw [scaleRatio_div, le_div_iff₀ (by positivity), Nat.cast_one, div_one]
    exact leadingUnit_mul_zpow_le nonzero
  have enough : leadingUnit * (scaleRatio value 1 (estimate value 1)).2 ≤
      (scaleRatio value 1 (estimate value 1)).1 := by
    exact_mod_cast (le_div_iff₀ apart).1 scaled
  have full := Nat.not_lt.2 ((Nat.le_div_iff_mul_le positive).2 enough)
  unfold exponentOfRatio
  rw [← estimate]
  simp only [if_neg full]
  refine max_eq_left ?_
  rw [estimate_one, leastExponent]
  omega

/-- A number up to the greatest double is rounded up by at most one part in `2 ^ 52`. -/
theorem exists_ofNat_finite (negative : Bool) (bounded : (value : ℚ) ≤ greatest) :
    ∃ (coefficient : Nat) (exponent : Int),
      ofNat negative value = .finite negative coefficient exponent ∧
      (coefficient : ℚ) * 2 ^ exponent ≤ value * (1 + 1 / 2 ^ 52) := by
  by_cases nonzero : value = 0
  · exact ⟨0, leastExponent, by rw [ofNat, ofRatio, if_pos nonzero, zero], by simp [nonzero]⟩
  · have fits := rounded_le_greatestExponent nonzero Nat.one_pos (by simpa using bounded)
    refine ⟨(rounded value 1).1, (rounded value 1).2, ?_, ?_⟩
    · rw [ofNat, ofRatio_of_ne_zero negative nonzero, if_neg (not_lt.2 fits)]
    · rw [rounded, carry_value, exponentOfRatio_one nonzero]
      have unit : (0 : ℚ) < 2 ^ estimate value 1 := by positivity
      have up := roundEven_le_add_one (scaleRatio value 1 (estimate value 1)).1
        (scaleRatio value 1 (estimate value 1)).2
      rw [scaleRatio_div, Nat.cast_one, div_one] at up
      have full : 2 ^ 52 * 2 ^ estimate value 1 ≤ (value : ℚ) := by
        refine (le_of_eq ?_).trans (leadingUnit_mul_zpow_le nonzero)
        norm_num [leadingUnit]
      calc _ ≤ ((value : ℚ) / 2 ^ estimate value 1 + 1) * 2 ^ estimate value 1 := by gcongr
        _ = value + 2 ^ estimate value 1 := by field_simp
        _ ≤ value + value / 2 ^ 52 := by linarith
        _ = value * (1 + 1 / 2 ^ 52) := by ring

/-- A number up to this can be rounded twice and stays among the doubles. -/
def ample : ℚ := (2 ^ 53 - 8) * 2 ^ 971

theorem ample_le_greatest : ample ≤ greatest := by
  unfold ample greatest
  gcongr
  norm_num

/-- Half-way to the next double there is as much room, but for the greatest eight doubles. -/
theorem add_half_le_ample {coefficient : Nat} {exponent : Int}
    (small : coefficient < 2 ^ 53 - 8 ∧ exponent ≤ 971 ∨ coefficient < 2 ^ 53 ∧ exponent < 971) :
    ((coefficient : ℚ) + 1 / 2) * 2 ^ exponent ≤ ample := by
  have last : ample = (2 ^ 53 - 8) * 2 ^ (971 : Int) := rfl
  rw [last]
  rcases small with ⟨short, high⟩ | ⟨short, high⟩
  · have room : (coefficient : ℚ) + 9 ≤ 2 ^ 53 := by
      exact_mod_cast (show coefficient + 9 ≤ 2 ^ 53 by omega)
    gcongr
    · linarith
    · norm_num
  · have room : (coefficient : ℚ) + 1 ≤ 2 ^ 53 := by exact_mod_cast short
    calc _ ≤ (2 ^ 53 : ℚ) * 2 ^ (970 : Int) := by
          gcongr
          · linarith
          · norm_num
          · omega
      _ = 2 ^ 52 * 2 ^ (971 : Int) := by
          rw [show (971 : Int) = 970 + 1 by rfl, zpow_add_one₀ two_ne_zero]
          ring
      _ ≤ (2 ^ 53 - 8) * 2 ^ (971 : Int) := by
          gcongr
          norm_num

theorem scaleUp_of_ofNat {factor coefficient coefficient' : Nat} {exponent exponent' : Int}
    {negative : Bool} (rounds : ofNat false factor = .finite false coefficient' exponent') :
    (Double.finite negative coefficient exponent).scaleUp factor =
      ofRatio negative ((ratio coefficient exponent).1 * (ratio coefficient' exponent').1)
        ((ratio coefficient exponent).2 * (ratio coefficient' exponent').2) := by
  unfold scaleUp
  rw [rounds]

/-- A product up to that bound does not become infinite when both factors are rounded before. -/
theorem exists_scaleUp_finite (negative : Bool) {factor : Nat} (small : (value : ℚ) ≤ ample)
    (smallFactor : (factor : ℚ) ≤ ample) (product : (value : ℚ) * factor ≤ ample) :
    ∃ coefficient exponent,
      (ofNat negative value).scaleUp factor = .finite negative coefficient exponent := by
  obtain ⟨coefficient, exponent, first, above⟩ :=
    exists_ofNat_finite negative (small.trans ample_le_greatest)
  obtain ⟨coefficient', exponent', second, above'⟩ :=
    exists_ofNat_finite false (smallFactor.trans ample_le_greatest)
  rw [first, scaleUp_of_ofNat second]
  refine exists_ofRatio_finite negative
    (Nat.mul_pos (ratio_pos coefficient exponent) (ratio_pos coefficient' exponent')) ?_
  push_cast
  rw [mul_div_mul_comm, ratio_div, ratio_div]
  calc _ ≤ (value : ℚ) * (1 + 1 / 2 ^ 52) * (factor * (1 + 1 / 2 ^ 52)) := by gcongr
    _ = value * factor * (1 + 1 / 2 ^ 52) ^ 2 := by ring
    _ ≤ ample * (1 + 1 / 2 ^ 52) ^ 2 := by gcongr
    _ = (2 ^ 53 - 8) * (1 + 1 / 2 ^ 52) ^ 2 * 2 ^ 971 := by rw [ample, mul_right_comm]
    _ ≤ greatest := by
        unfold greatest
        gcongr
        norm_num

end Double

end DeviceEnrollment.Number
