/-!
Numbers in digits of ten or another base.
-/
namespace DeviceEnrollment.Text

def digitValue (digit : Char) : Nat := digit.toNat - 0x30

/-- The number that decimal digits write, most significant first. -/
def decimalValue (digits : List Char) : Nat :=
  digits.foldl (fun total digit => total * 10 + digitValue digit) 0

/-- The value of a digit below a base, at most 16, in either case. -/
def digitOf? (base : Nat) (c : Char) : Option Nat :=
  let point := c.toNat
  let value :=
    if c.isDigit then point - 0x30
    else if 0x61 ≤ point && point ≤ 0x66 then point - 0x57
    else if 0x41 ≤ point && point ≤ 0x46 then point - 0x37
    else base
  if value < base then some value else none

/-- The number that digits of a base write. -/
def numberIn? (base : Nat) (digits : List Char) : Option Nat :=
  digits.foldlM (fun total digit => do return total * base + (← digitOf? base digit)) 0

/-- The decimal digits of a number. -/
def numberText (value : Nat) : String := String.ofList (Nat.toDigits 10 value)

end DeviceEnrollment.Text
