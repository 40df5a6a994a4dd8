import DeviceEnrollment.Json.Reading
import DeviceEnrollment.Number.Limits
import DeviceEnrollment.Number.Shortest

/-!
Numbers of JSON documents. A number without fraction and power of ten that fits in 64 bits is
an integer; every other one is a double.
-/
namespace DeviceEnrollment.Json

open DeviceEnrollment.Number

inductive Number where
  | integer (value : Int)
  | double (value : Double)
deriving DecidableEq, Repr

namespace Number

def digitBytes (digits : List Char) : Bytes := digits.map fun digit => digit.toNat.toUInt8

/-- Doubles are plain when their leading digit stands between 10^-5 and 10^15, and always show
that they are no integers. -/
def format : DoubleFormat :=
  { positional := fun leading => -5 ≤ leading && leading ≤ 15
    pointZero := true
    exponentSign := ['+']
    infinity := "inf"
    notANumber := "NaN" }

def text : Number → List Char
  | .integer value => (if value < 0 then ['-'] else []) ++ Nat.toDigits 10 value.natAbs
  | .double value => format.write value

end Number

/-- The digits of a number as far as they are kept, and the power of ten of the last one. -/
structure Significand where
  value : Nat
  exponent : Int
  /-- Whether a digit did not fit, so that no further digit is taken. -/
  full : Bool

namespace Significand

/-- Takes a digit before the point. One that does not fit only raises the power of ten. -/
def takeWhole (kept : Significand) (digit : UInt8) : Significand :=
  let value := kept.value * 10 + (digit.toNat - 0x30)
  if kept.full || value ≥ twoTo64 then ⟨kept.value, kept.exponent + 1, true⟩
  else ⟨value, kept.exponent, false⟩

/-- Takes a digit behind the point. One that does not fit is dropped. -/
def takeFraction (kept : Significand) (digit : UInt8) : Significand :=
  let value := kept.value * 10 + (digit.toNat - 0x30)
  if kept.full || value ≥ twoTo64 then ⟨kept.value, kept.exponent, true⟩
  else ⟨value, kept.exponent - 1, false⟩

def ofDigits (whole fraction : Bytes) : Significand :=
  let kept := whole.foldl takeWhole ⟨0, 0, false⟩
  fraction.foldl takeFraction { kept with full := false }

/-- Multiplies by a power of ten in steps of at most 308, rounding after each. Two steps down
take every significand to zero. -/
def scaled (fuel : Nat) (value : Double) (exponent : Int) : Option Double :=
  if exponent.natAbs ≤ 308 then
    if 0 ≤ exponent then
      match value.scaleUp (Nat.pow 10 exponent.toNat) with
      | .finite negative coefficient exponent => some (.finite negative coefficient exponent)
      | _ => none
    else some (value.scaleDown (Nat.pow 10 exponent.natAbs))
  else
    match value, fuel with
    | .finite negative 0 _, _ => some (.zero negative)
    | _, 0 => none
    | value, fuel + 1 =>
      if 0 ≤ exponent then none
      else scaled fuel (value.scaleDown (Nat.pow 10 308)) (exponent + 308)

end Significand

namespace WrittenNumber

def powerValue (power : Option (Bool × Bytes)) : Int :=
  match power with
  | none => 0
  | some (negative, digits) =>
    let value : Int := Bytes.decimal digits
    if negative then -value else value

/-- The double that the number reads as; a number beyond all doubles is refused. -/
def double? (written : WrittenNumber) : Option Double :=
  let kept := Significand.ofDigits written.whole (written.fraction.getD [])
  let power := kept.exponent + powerValue written.power
  Significand.scaled 4 (.ofNat written.negative kept.value) power

def isPlain (written : WrittenNumber) : Bool := written.fraction.isNone && written.power.isNone

/-- The integer that the number reads as, if it is written as one and fits. A negative zero is
no integer. -/
def integer? (written : WrittenNumber) : Option Int :=
  let value := Bytes.decimal written.whole
  if !written.isPlain then none
  else if !written.negative then if value < twoTo64 then some (value : Int) else none
  else if 0 < value && value ≤ twoTo63 then some (-value : Int)
  else none

def read (written : WrittenNumber) : Except Fault Number :=
  match written.integer? with
  | some value => .ok (.integer value)
  | none =>
    match written.double? with
    | some value => .ok (.double value)
    | none => .error .numberTooLarge

end WrittenNumber

end DeviceEnrollment.Json
