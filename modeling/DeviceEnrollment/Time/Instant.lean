import DeviceEnrollment.Number.Limits
import DeviceEnrollment.Text.Blank
import DeviceEnrollment.Text.Digits
import DeviceEnrollment.Time.Calendar

/-!
Instants in universal time, to the nanosecond, leap seconds included. They are read from a
relaxed form of the internet date and time format and written in its strict form.
-/
namespace DeviceEnrollment.Time

def nanosPerSecond : Nat := 1000000000

/-- A time of day. A leap second is the last second of its minute with a second or more in its
nanoseconds. -/
structure Clock where
  /-- Counted from midnight. -/
  minute : Nat
  second : Nat
  nano : Nat
  minute_lt : minute < 1440
  second_lt : second < 60
  nano_lt : nano < 2 * nanosPerSecond
  leap : nanosPerSecond ≤ nano → second = 59
deriving DecidableEq, Repr

structure Instant where
  date : Date
  clock : Clock
deriving DecidableEq, Repr

/-- Why a text is no instant. -/
inductive InstantError where
  | outOfRange
  | impossible
  | invalid
  | tooShort
  | tooLong
deriving DecidableEq, Repr

def InstantError.message : InstantError → String
  | outOfRange => "input is out of range"
  | impossible => "no possible date and time matching input"
  | invalid => "input contains invalid characters"
  | tooShort => "premature end of input"
  | tooLong => "trailing input"

namespace Clock

def of? (minute second nano : Nat) : Option Clock :=
  if minute_lt : minute < 1440 then
    if second_lt : second < 60 then
      if nano_lt : nano < 2 * nanosPerSecond then
        if leap : nanosPerSecond ≤ nano → second = 59 then
          some ⟨minute, second, nano, minute_lt, second_lt, nano_lt, leap⟩
        else none
      else none
    else none
  else none

theorem of?_self (clock : Clock) : of? clock.minute clock.second clock.nano = some clock := by
  simp only [of?, clock.minute_lt, clock.second_lt, clock.nano_lt, dite_true, dif_pos clock.leap]

/-- The same second of another minute. -/
def atMinute (clock : Clock) (minute : Nat) (minute_lt : minute < 1440) : Clock :=
  { clock with minute := minute, minute_lt := minute_lt }

end Clock

namespace Instant

/-! ### Reading -/

abbrev Scan (α : Type) := List Char → Except InstantError (α × List Char)

def skipBlanks (text : List Char) : List Char := text.dropWhile Text.isBlank

/-- Reads digits, at most `width` of them, with at least one. -/
def scanNumber (width : Nat) : Scan Nat := fun text =>
  let digits := (text.take width).takeWhile Char.isDigit
  match text, digits with
  | [], _ => .error .tooShort
  | _, [] => .error .invalid
  | _, digits =>
    let value := Text.decimalValue digits
    if value < Number.twoTo63 then .ok (value, text.drop digits.length) else .error .outOfRange

/-- Reads a year: four digits at most, or any number of them after a sign. -/
def scanYear : Scan Int := fun text =>
  match skipBlanks text with
  | '-' :: rest => do
    let (value, rest) ← scanNumber rest.length rest
    return (-(value : Int), rest)
  | '+' :: rest => do
    let (value, rest) ← scanNumber rest.length rest
    return ((value : Int), rest)
  | rest => do
    let (value, rest) ← scanNumber 4 rest
    return ((value : Int), rest)

/-- Reads a number of two digits at most between two bounds, behind blanks. -/
def scanWithin (least greatest : Nat) : Scan Nat := fun text => do
  let (value, rest) ← scanNumber 2 (skipBlanks text)
  if least ≤ value && value ≤ greatest then return (value, rest) else .error .outOfRange

/-- Reads a mark behind blanks. -/
def scanMark (mark : Char) : Scan Unit := fun text =>
  match skipBlanks text with
  | [] => .error .tooShort
  | first :: rest => if first = mark then .ok ((), rest) else .error .invalid

/-- The nanoseconds that the first nine digits of a fraction stand for. -/
def fractionNanos (digits : List Char) : Nat :=
  let kept := digits.take 9
  Text.decimalValue kept * Nat.pow 10 (9 - kept.length)

/-- Reads a fraction of a second, if there is one. -/
def scanFraction : Scan Nat := fun text =>
  match text with
  | '.' :: [] => .error .tooShort
  | '.' :: rest =>
    match rest.takeWhile Char.isDigit with
    | [] => .error .invalid
    | digits => .ok (fractionNanos digits, rest.dropWhile Char.isDigit)
  | rest => .ok (0, rest)

/-- Two digits, counted as `tens` and ones. A lone character of one byte is too little. -/
def scanTwoDigits : Scan (Nat × Nat) := fun text =>
  match text with
  | [] => .error .tooShort
  | [only] => if only.utf8Size < 2 then .error .tooShort else .error .invalid
  | tens :: ones :: rest =>
    if tens.isDigit && ones.isDigit then .ok ((Text.digitValue tens, Text.digitValue ones), rest)
    else .error .invalid

def isOffsetMark (c : Char) : Bool := c == ':' || Text.isBlank c

/-- Reads hours and minutes of an offset, in minutes. -/
def scanOffsetSize : Scan Int := fun text => do
  let ((hourTens, hourOnes), rest) ← scanTwoDigits text
  let ((minuteTens, minuteOnes), rest) ← scanTwoDigits (rest.dropWhile isOffsetMark)
  if minuteTens ≥ 6 then .error .outOfRange
  else return (((hourTens * 10 + hourOnes) * 60 + minuteTens * 10 + minuteOnes : Nat), rest)

/-- Reads an offset from universal time, in minutes. -/
def scanOffset : Scan Int := fun text =>
  match skipBlanks text with
  | [] => .error .tooShort
  | first :: rest =>
    if ((first :: rest).take 3).map Char.toUpper = ['U', 'T', 'C'] then .ok (0, rest.drop 2)
    else if first = 'Z' || first = 'z' then .ok (0, rest)
    else if first = '+' then scanOffsetSize rest
    else if first = '-' || first = '\u2212' then do
      let (size, rest) ← scanOffsetSize rest
      return (-size, rest)
    else .error .invalid

/-- Reads the mark between date and time. -/
def scanSeparator : Scan Unit := fun text =>
  match text with
  | [] => .error .tooShort
  | first :: rest =>
    if first = 'T' || first = 't' || first = ' ' then .ok ((), rest) else .error .invalid

/-- What a text says, before it is checked against the calendar. -/
structure Fields where
  year : Int
  month : Nat
  day : Nat
  hour : Nat
  minute : Nat
  second : Nat
  nano : Nat
  offset : Int
deriving DecidableEq, Repr

def scanFields : Scan Fields := fun text => do
  let (year, rest) ← scanYear text
  if year < -(Number.twoTo31 : Int) || Number.twoTo31 ≤ year then .error .outOfRange
  let ((), rest) ← scanMark '-' rest
  let (month, rest) ← scanWithin 1 12 rest
  let ((), rest) ← scanMark '-' rest
  let (day, rest) ← scanWithin 1 31 rest
  let ((), rest) ← scanSeparator rest
  let (hour, rest) ← scanWithin 0 23 rest
  let ((), rest) ← scanMark ':' rest
  let (minute, rest) ← scanWithin 0 59 rest
  let ((), rest) ← scanMark ':' rest
  let (second, rest) ← scanWithin 0 60 rest
  let (nano, rest) ← scanFraction rest
  let (offset, rest) ← scanOffset rest
  return (⟨year, month, day, hour, minute, second, nano, offset⟩, rest)

/-- Moves a local time to universal time. The offset is less than a day. -/
def ofLocal? (date : Date) (clock : Clock) (offset : Int) : Option Instant := do
  let minute := (clock.minute : Int) - offset
  let date ← if minute < 0 then date.previous? else if 1440 ≤ minute then date.next? else some date
  let moved := (minute % 1440).toNat
  if moved_lt : moved < 1440 then some ⟨date, clock.atMinute moved moved_lt⟩ else none

def Fields.resolve (fields : Fields) : Except InstantError Instant :=
  let (second, nano) :=
    if fields.second = 60 then (59, fields.nano + nanosPerSecond) else (fields.second, fields.nano)
  match Date.of? fields.year fields.month fields.day,
      Clock.of? (fields.hour * 60 + fields.minute) second nano with
  | some date, some clock =>
    if fields.offset.natAbs ≥ 1440 then .error .outOfRange
    else
      match ofLocal? date clock fields.offset with
      | some instant => .ok instant
      | none => .error .impossible
  | _, _ => .error .outOfRange

def parse (text : String) : Except InstantError Instant := do
  let (fields, rest) ← scanFields text.toList
  if skipBlanks rest = [] then fields.resolve else .error .tooLong

/-! ### Writing -/

/-- Decimal digits, filled up with zeros. -/
def padded (width value : Nat) : List Char :=
  let digits := Nat.toDigits 10 value
  List.replicate (width - digits.length) '0' ++ digits

/-- Years of four digits stand alone, all others carry a sign. -/
def yearText (year : Int) : List Char :=
  if 0 ≤ year && year ≤ 9999 then padded 4 year.toNat
  else (if year < 0 then '-' else '+') :: padded 4 year.natAbs

/-- No digits, or three, six or nine of them. -/
def nanoText (nano : Nat) : List Char :=
  if nano = 0 then []
  else if nano % 1000000 = 0 then '.' :: padded 3 (nano / 1000000)
  else if nano % 1000 = 0 then '.' :: padded 6 (nano / 1000)
  else '.' :: padded 9 nano

def render (instant : Instant) : List Char :=
  let clock := instant.clock
  let (second, nano) :=
    if nanosPerSecond ≤ clock.nano then (clock.second + 1, clock.nano - nanosPerSecond)
    else (clock.second, clock.nano)
  yearText instant.date.year ++ '-' :: padded 2 instant.date.month ++
    '-' :: padded 2 instant.date.day ++
    'T' :: padded 2 (clock.minute / 60) ++ ':' :: padded 2 (clock.minute % 60) ++
    ':' :: padded 2 second ++ nanoText nano ++ ['Z']

def text (instant : Instant) : String := String.ofList instant.render

end Instant

end DeviceEnrollment.Time
