/-!
Double precision numbers in exact arithmetic. A finite double is a coefficient times a power
of two, and every operation rounds the exact ratio once, to the nearest double, a tie going to
the even coefficient.
-/
namespace DeviceEnrollment.Number

/-- A finite double is `coefficient * 2 ^ exponent` under its sign. Its coefficient is below
`2 ^ 53` and its exponent from -1074 to 971, with a coefficient of at least `2 ^ 52` above the
least exponent, so that each value has one form for each sign. -/
inductive Double where
  | finite (negative : Bool) (coefficient : Nat) (exponent : Int)
  | infinite (negative : Bool)
  | nan
deriving DecidableEq, Repr

/-- The quotient rounded to the nearest natural number, a tie going to the even one. -/
def roundEven (numerator denominator : Nat) : Nat :=
  let quotient := numerator / denominator
  let twice := 2 * (numerator % denominator)
  if twice < denominator then quotient
  else if twice > denominator then quotient + 1
  else if quotient % 2 = 0 then quotient else quotient + 1

/-- A ratio divided by a power of two, as a ratio. -/
def scaleRatio (numerator denominator : Nat) (exponent : Int) : Nat × Nat :=
  if 0 ≤ exponent then (numerator, denominator * Nat.pow 2 exponent.toNat)
  else (numerator * Nat.pow 2 (-exponent).toNat, denominator)

namespace Double

/-- The least coefficient of 53 bits. -/
def leadingUnit : Nat := 4503599627370496

def leastExponent : Int := -1074
def greatestExponent : Int := 971

def zero (negative : Bool) : Double := .finite negative 0 leastExponent

/-- The power of two at which the ratio has a coefficient of 53 bits, or the least one. -/
def exponentOfRatio (numerator denominator : Nat) : Int :=
  let estimate : Int := (numerator.log2 : Int) - (denominator.log2 : Int) - 52
  let (scaled, divisor) := scaleRatio numerator denominator estimate
  let exact := if scaled / divisor < leadingUnit then estimate - 1 else estimate
  max exact leastExponent

/-- The double nearest to a ratio. -/
def ofRatio (negative : Bool) (numerator denominator : Nat) : Double :=
  if numerator = 0 then zero negative
  else
    let exponent := exponentOfRatio numerator denominator
    let (scaled, divisor) := scaleRatio numerator denominator exponent
    let coefficient := roundEven scaled divisor
    let (coefficient, exponent) :=
      if coefficient = 2 * leadingUnit then (leadingUnit, exponent + 1) else (coefficient, exponent)
    if exponent > greatestExponent then .infinite negative
    else .finite negative coefficient exponent

def ofNat (negative : Bool) (value : Nat) : Double := ofRatio negative value 1

/-- A nonnegative value as a ratio of natural numbers. -/
def ratio (coefficient : Nat) (exponent : Int) : Nat × Nat :=
  if 0 ≤ exponent then (coefficient * Nat.pow 2 exponent.toNat, 1)
  else (coefficient, Nat.pow 2 (-exponent).toNat)

/-- A finite double times a natural number that is itself rounded to a double first. -/
def scaleUp (value : Double) (factor : Nat) : Double :=
  match value, ofNat false factor with
  | .finite negative coefficient exponent, .finite _ coefficient' exponent' =>
    let (numerator, denominator) := ratio coefficient exponent
    let (numerator', denominator') := ratio coefficient' exponent'
    ofRatio negative (numerator * numerator') (denominator * denominator')
  | .finite negative _ _, _ => .infinite negative
  | other, _ => other

/-- A finite double divided by a natural number that is itself rounded to a double first. -/
def scaleDown (value : Double) (divisor : Nat) : Double :=
  match value, ofNat false divisor with
  | .finite negative coefficient exponent, .finite _ coefficient' exponent' =>
    let (numerator, denominator) := ratio coefficient exponent
    let (numerator', denominator') := ratio coefficient' exponent'
    ofRatio negative (numerator * denominator') (denominator * numerator')
  | .finite negative _ _, _ => zero negative
  | other, _ => other

/-- The double nearest to `digits * 10 ^ exponent`. Beyond the range of doubles the answer is
known without forming the power. -/
def ofDecimal (negative : Bool) (digits : Nat) (exponent : Int) : Double :=
  let magnitude := exponent + (Nat.toDigits 10 digits).length
  if digits = 0 || magnitude < -400 then zero negative
  else if magnitude > 400 then .infinite negative
  else if 0 ≤ exponent then ofRatio negative (digits * Nat.pow 10 exponent.toNat) 1
  else ofRatio negative digits (Nat.pow 10 (-exponent).toNat)

end Double

end DeviceEnrollment.Number
