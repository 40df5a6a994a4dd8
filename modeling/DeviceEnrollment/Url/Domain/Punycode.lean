import DeviceEnrollment.Number.Limits

/-!
Labels of domain names in letters, digits and hyphens: first the characters of ASCII, then the
others as differences of points and places, in digits of base 36 whose weights adapt to the
differences before.
-/
namespace DeviceEnrollment.Url.Punycode

def digitChar (digit : Nat) : Char :=
  if digit < 26 then Char.ofNat (0x61 + digit) else Char.ofNat (0x30 + (digit - 26))

def digitValue? (c : Char) : Option Nat :=
  if 'a' ≤ c && c ≤ 'z' then some (c.toNat - 0x61)
  else if 'A' ≤ c && c ≤ 'Z' then some (c.toNat - 0x41)
  else if c.isDigit then some (c.toNat - 0x30 + 26)
  else none

/-- The least value of a digit that does not end a number. -/
def threshold (weight bias : Nat) : Nat :=
  if weight ≤ bias then 1 else if bias + 26 ≤ weight then 26 else weight - bias

theorem threshold_pos (weight bias : Nat) : 0 < threshold weight bias := by
  unfold threshold
  split
  · decide
  · split <;> omega

def initialBias : Nat := 72

def firstPoint : Nat := 0x80

/-- Brings a difference down to a size below 456, counting the divisions in steps of a base. -/
def settle (delta weight : Nat) : Nat × Nat :=
  if large : 455 < delta then settle (delta / 35) (weight + 36) else (delta, weight)
termination_by delta
decreasing_by omega

/-- The bias behind a difference. -/
def adapt (delta count : Nat) (first : Bool) : Nat :=
  let scaled := if first then delta / 700 else delta / 2
  let (rest, weight) := settle (scaled + scaled / count) 0
  weight + 36 * rest / (rest + 38)

/-! ### Writing -/

def encodeNumber (bias weight value : Nat) : List Char :=
  let least := threshold weight bias
  if small : value < least then [digitChar value]
  else
    digitChar (least + (value - least) % (36 - least)) ::
      encodeNumber bias (weight + 36) ((value - least) / (36 - least))
termination_by value
decreasing_by
  have positive := threshold_pos weight bias
  calc (value - threshold weight bias) / (36 - threshold weight bias)
      ≤ value - threshold weight bias := Nat.div_le_self _ _
    _ < value := by
      have : threshold weight bias ≤ value := Nat.le_of_not_lt small
      omega

structure Writer where
  text : List Char
  delta : Nat
  bias : Nat
  /-- How many characters are written. -/
  count : Nat

/-- Writes a character that is the least one left, and counts those already written. -/
def Writer.visit (least basicCount : Nat) (writer : Writer) (c : Char) : Writer :=
  if c.toNat < least then { writer with delta := writer.delta + 1 }
  else if c.toNat = least then
    { text := writer.text ++ encodeNumber writer.bias 36 writer.delta
      delta := 0
      bias := adapt writer.delta (writer.count + 1) (writer.count = basicCount)
      count := writer.count + 1 }
  else writer

/-- Writes the characters of each point, the points in rising order. -/
def Writer.write (label : List Char) (basicCount : Nat) (reached : Nat) (writer : Writer) :
    List Nat → Writer
  | [] => writer
  | point :: points =>
    let raised := { writer with delta := writer.delta + (point - reached) * (writer.count + 1) }
    let written := label.foldl (visit point basicCount) raised
    write label basicCount (point + 1) { written with delta := written.delta + 1 } points

def insertPoint (point : Nat) : List Nat → List Nat
  | [] => [point]
  | other :: rest =>
    if point < other then point :: other :: rest
    else if point = other then other :: rest
    else other :: insertPoint point rest

def isBasic (c : Char) : Bool := c.toNat < firstPoint

def encode (label : List Char) : List Char :=
  let basic := label.filter isBasic
  let points := (label.filter (!isBasic ·)).foldr (fun c => insertPoint c.toNat) []
  let writer := Writer.write label basic.length firstPoint ⟨[], 0, initialBias, basic.length⟩ points
  basic ++ (if basic.isEmpty then [] else ['-']) ++ writer.text

/-! ### Reading -/

/-- Reads the digits of one number, which are counted in `factor`. -/
def readNumber? (bias weight factor value : Nat) : List Char → Option (Nat × List Char)
  | [] => none
  | c :: rest => do
    let digit ← digitValue? c
    let value := value + digit * factor
    if value ≥ Number.twoTo32 then none
    let least := threshold weight bias
    if digit < least then return (value, rest)
    else readNumber? bias (weight + 36) (factor * (36 - least)) value rest

structure Reader where
  label : List Char
  point : Nat
  place : Nat
  bias : Nat

def charOfPoint? (point : Nat) : Option Char :=
  if point.isValidChar then some (Char.ofNat point) else none

/-- Reads the characters beyond ASCII into their places. -/
def Reader.read? (fuel : Nat) (reader : Reader) (text : List Char) : Option (List Char) :=
  match fuel, text with
  | _, [] => some reader.label
  | 0, _ => none
  | fuel + 1, text => do
    let (delta, rest) ← readNumber? reader.bias 36 1 0 text
    let length := reader.label.length + 1
    let position := reader.place + delta
    let point := reader.point + position / length
    let c ← charOfPoint? point
    let place := position % length
    read? fuel
      { label := reader.label.take place ++ c :: reader.label.drop place
        point
        place := place + 1
        bias := adapt delta length (reader.place = 0) }
      rest

/-- The characters before the last hyphen, and the text behind it. -/
def splitBasic (text : List Char) : List Char × List Char :=
  let after := (text.reverse.takeWhile (· != '-')).reverse
  (text.take (text.length - after.length - 1), after)

def decode? (text : List Char) : Option (List Char) :=
  let (basic, rest) := splitBasic text
  if basic.all isBasic then
    Reader.read? (rest.length + 1) ⟨basic, firstPoint, 0, initialBias⟩ rest
  else none

end DeviceEnrollment.Url.Punycode
