import DeviceEnrollment.Number.Double

/-!
The fewest decimal digits that read back as a given double, and the texts built from them.
A double stands for the interval of reals that round to it; the first decimal grid with a
point in that interval decides the number of digits, and of two such points the nearer one
is taken.
-/
namespace DeviceEnrollment.Number

/-- `digits * 10 ^ exponent`. -/
structure Decimal where
  digits : Nat
  exponent : Int
deriving DecidableEq, Repr

namespace Decimal

/-- A ratio against `digits * 10 ^ exponent`, as two natural numbers to compare. -/
def crossed (numerator denominator : Nat) (value : Decimal) : Nat × Nat :=
  if 0 ≤ value.exponent then (numerator, value.digits * Nat.pow 10 value.exponent.toNat * denominator)
  else (numerator * Nat.pow 10 (-value.exponent).toNat, value.digits * denominator)

end Decimal

/-- The reals that round to a double, between two ratios over one denominator. -/
structure Interval where
  low : Nat
  value : Nat
  high : Nat
  denominator : Nat
  ends : Bool

/-- Half-way to each neighbour; below a power of two the lower neighbour is nearer. The ends
round to the even coefficient. -/
def Interval.of (coefficient : Nat) (exponent : Int) : Interval :=
  let (numerator, denominator) := Double.ratio coefficient exponent
  let unit := (Double.ratio 1 exponent).1
  let narrow := coefficient = Double.leadingUnit && exponent > Double.leastExponent
  { low := 4 * numerator - (if narrow then unit else 2 * unit)
    value := 4 * numerator
    high := 4 * numerator + 2 * unit
    denominator := 4 * denominator
    ends := coefficient % 2 = 0 }

def Interval.holds (interval : Interval) (point : Decimal) : Bool :=
  let (low, at_low) := point.crossed interval.low interval.denominator
  let (high, at_high) := point.crossed interval.high interval.denominator
  if interval.ends then low ≤ at_low && at_high ≤ high else low < at_low && at_high < high

/-- The exponent of the leading decimal digit. -/
def leadingExponent (numerator denominator : Nat) : Int :=
  ((Nat.toDigits 10 (numerator * Nat.pow 10 400 / denominator)).length : Int) - 401

/-- The point of a grid that lies in the interval and nearest to the value, if there is one. -/
def Interval.onGrid? (interval : Interval) (grid : Int) : Option Decimal :=
  let (scaled, divisor) :=
    if 0 ≤ grid then (interval.value, interval.denominator * Nat.pow 10 grid.toNat)
    else (interval.value * Nat.pow 10 (-grid).toNat, interval.denominator)
  let below : Decimal := ⟨scaled / divisor, grid⟩
  let above : Decimal := ⟨scaled / divisor + 1, grid⟩
  let twice := 2 * (scaled % divisor)
  let nearer :=
    if twice < divisor || (twice = divisor && below.digits % 2 = 0) then below else above
  let farther := if nearer.digits = below.digits then above else below
  if interval.holds nearer then some nearer
  else if interval.holds farther then some farther
  else none

/-- Tries grids of one digit, two digits and so on; seventeen always suffice. -/
def Interval.shortest (interval : Interval) (leading : Int) : Decimal :=
  ((List.range 17).findSome? fun (count : Nat) => interval.onGrid? (leading - count)).getD ⟨0, 0⟩

/-- Drops trailing zeros of the digits. -/
def Decimal.trimmed (fuel : Nat) (value : Decimal) : Decimal :=
  match fuel with
  | 0 => value
  | fuel + 1 =>
    if value.digits ≠ 0 && value.digits % 10 = 0 then
      Decimal.trimmed fuel ⟨value.digits / 10, value.exponent + 1⟩
    else value

/-- The shortest digits of a positive finite double. -/
def shortestDigits (coefficient : Nat) (exponent : Int) : Decimal :=
  let (numerator, denominator) := Double.ratio coefficient exponent
  ((Interval.of coefficient exponent).shortest (leadingExponent numerator denominator)).trimmed 20

/-- How a double is written. -/
structure DoubleFormat where
  /-- The exponents of the leading digit at which no power of ten is written. -/
  positional : Int → Bool
  /-- Whether a whole number ends in `.0`. -/
  pointZero : Bool
  /-- What stands before a power of ten that is not negative. -/
  exponentSign : List Char
  infinity : String
  notANumber : String

namespace DoubleFormat

def zeros (count : Nat) : List Char := List.replicate count '0'

/-- Digits with their point, the leading digit having the given exponent. -/
def plain (format : DoubleFormat) (digits : List Char) (leading : Int) : List Char :=
  let count : Int := digits.length
  let whole := if format.pointZero then ['.', '0'] else []
  if leading < 0 then ['0', '.'] ++ zeros (-leading - 1).toNat ++ digits
  else if count ≤ leading + 1 then digits ++ zeros (leading + 1 - count).toNat ++ whole
  else digits.take (leading + 1).toNat ++ '.' :: digits.drop (leading + 1).toNat

/-- Digits with a point after the first, and a power of ten. -/
def scientific (format : DoubleFormat) (digits : List Char) (leading : Int) : List Char :=
  let mantissa := match digits with
    | first :: second :: rest => first :: '.' :: second :: rest
    | short => short
  let sign := if leading < 0 then ['-'] else format.exponentSign
  mantissa ++ 'e' :: sign ++ Nat.toDigits 10 leading.natAbs

def write (format : DoubleFormat) (value : Double) : List Char :=
  match value with
  | .nan => format.notANumber.toList
  | .infinite negative => (if negative then ['-'] else []) ++ format.infinity.toList
  | .finite negative coefficient exponent =>
    let body :=
      if coefficient = 0 then format.plain ['0'] 0
      else
        let decimal := shortestDigits coefficient exponent
        let digits := Nat.toDigits 10 decimal.digits
        let leading := decimal.exponent + (digits.length : Int) - 1
        if format.positional leading then format.plain digits leading
        else format.scientific digits leading
    (if negative then ['-'] else []) ++ body

end DoubleFormat

end DeviceEnrollment.Number
