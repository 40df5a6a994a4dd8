import DeviceEnrollment.Number.Double
import DeviceEnrollment.Text.Digits

/-!
Decimal numbers with a point and a power of ten, read as doubles.
-/
namespace DeviceEnrollment.Number

/-- The power of ten at the end of a decimal number. -/
def power? (text : List Char) : Option Int :=
  match text with
  | [] => some 0
  | mark :: rest =>
    if mark = 'e' || mark = 'E' then
      let (negative, digits) := match rest with
        | '-' :: digits => (true, digits)
        | '+' :: digits => (false, digits)
        | digits => (false, digits)
      if !digits.isEmpty && digits.all Char.isDigit then
        let value : Int := Text.decimalValue digits
        some (if negative then -value else value)
      else none
    else none

/-- A decimal number without its sign. Digits are wanted before or behind the point. -/
def unsignedDouble? (negative : Bool) (text : List Char) : Option Double := do
  let whole := text.takeWhile Char.isDigit
  let rest := text.dropWhile Char.isDigit
  let (fraction, rest) := match rest with
    | '.' :: rest => (rest.takeWhile Char.isDigit, rest.dropWhile Char.isDigit)
    | rest => ([], rest)
  if whole.isEmpty && fraction.isEmpty then none
  let power ← power? rest
  return .ofDecimal negative (Text.decimalValue (whole ++ fraction)) (power - fraction.length)

/-- The double nearest to a decimal number. -/
def double? (text : List Char) : Option Double :=
  match text with
  | '-' :: rest => unsignedDouble? true rest
  | '+' :: rest => unsignedDouble? false rest
  | rest => unsignedDouble? false rest

end DeviceEnrollment.Number
