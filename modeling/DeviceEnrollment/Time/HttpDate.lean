import DeviceEnrollment.Text.Blank
import DeviceEnrollment.Text.Digits
import DeviceEnrollment.Time.Calendar

/-!
Dates of the hypertext protocol, in their preferred form and in the two obsolete ones. A date
counts only if its day of the week is right.
-/
namespace DeviceEnrollment.Time

/-- What an HTTP date says. Days of the week count from Monday, which is 1. -/
structure HttpDate where
  year : Nat
  month : Nat
  day : Nat
  hour : Nat
  minute : Nat
  second : Nat
  weekday : Nat
deriving DecidableEq, Repr

namespace HttpDate

def monthNames : List String :=
  ["Jan", "Feb", "Mar", "Apr", "May", "Jun", "Jul", "Aug", "Sep", "Oct", "Nov", "Dec"]

def weekdayNames : List String :=
  ["Monday", "Tuesday", "Wednesday", "Thursday", "Friday", "Saturday", "Sunday"]

/-- The number of the name that the text equals, counted from one. -/
def numberOf? (names : List (List Char)) (text : List Char) : Option Nat :=
  (names.findIdx? (· == text)).map (· + 1)

def shortWeekdays : List (List Char) := weekdayNames.map fun name => name.toList.take 3

def months : List (List Char) := monthNames.map String.toList

/-- A number written with digits alone. -/
def digits? (text : List Char) : Option Nat :=
  if !text.isEmpty && text.all Char.isDigit then some (Text.decimalValue text) else none

def slice (text : List Char) (start length : Nat) : List Char := (text.drop start).take length

/-- `Sun, 06 Nov 1994 08:49:37 GMT` -/
def ofFixed? (text : List Char) : Option HttpDate := do
  guard (text.length = 29)
  guard (slice text 3 2 = [',', ' '] ∧ slice text 7 1 = [' '] ∧ slice text 11 1 = [' '])
  guard (slice text 16 1 = [' '] ∧ slice text 19 1 = [':'] ∧ slice text 22 1 = [':'])
  guard (slice text 25 4 = [' ', 'G', 'M', 'T'])
  return {
    weekday := ← numberOf? shortWeekdays (slice text 0 3)
    day := ← digits? (slice text 5 2)
    month := ← numberOf? months (slice text 8 3)
    year := ← digits? (slice text 12 4)
    hour := ← digits? (slice text 17 2)
    minute := ← digits? (slice text 20 2)
    second := ← digits? (slice text 23 2) }

/-- `Sunday, 06-Nov-94 08:49:37 GMT`; years below 70 belong to the next century. -/
def ofLongWeekday? (text : List Char) : Option HttpDate := do
  let weekday ← numberOf? (weekdayNames.map String.toList) (text.takeWhile (· ≠ ','))
  let rest := text.dropWhile (· ≠ ',')
  guard (rest.length = 24 ∧ slice rest 0 2 = [',', ' '])
  let rest := rest.drop 2
  guard (slice rest 2 1 = ['-'] ∧ slice rest 6 1 = ['-'])
  guard (slice rest 12 1 = [':'] ∧ slice rest 15 1 = [':'])
  guard (slice rest 18 4 = [' ', 'G', 'M', 'T'])
  let year ← digits? (slice rest 7 2)
  return {
    weekday
    day := ← digits? (slice rest 0 2)
    month := ← numberOf? months (slice rest 3 3)
    year := if year < 70 then year + 2000 else year + 1900
    hour := ← digits? (slice rest 10 2)
    minute := ← digits? (slice rest 13 2)
    second := ← digits? (slice rest 16 2) }

/-- `Sun Nov  6 08:49:37 1994` -/
def ofTimestamp? (text : List Char) : Option HttpDate := do
  guard (text.length = 24)
  guard (slice text 3 1 = [' '] ∧ slice text 7 1 = [' '] ∧ slice text 10 1 = [' '])
  guard (slice text 13 1 = [':'] ∧ slice text 16 1 = [':'] ∧ slice text 19 1 = [' '])
  let day := slice text 8 2
  return {
    weekday := ← numberOf? shortWeekdays (slice text 0 3)
    month := ← numberOf? months (slice text 4 3)
    day := ← digits? (if day.head? = some ' ' then day.drop 1 else day)
    hour := ← digits? (slice text 11 2)
    minute := ← digits? (slice text 14 2)
    second := ← digits? (slice text 17 2)
    year := ← digits? (slice text 20 4) }

/-- The days of the years and months before a date, and its own, from the first day of the
year 1. -/
def dayNumber (year month day : Nat) : Nat :=
  let before := year - 1
  let lengths := (List.range (month - 1)).map fun index => daysInMonth year (index + 1)
  before * 365 + before / 4 - before / 100 + before / 400 + lengths.foldl (· + ·) 0 + day

/-- The first day of the year 1 is a Monday. -/
def weekdayOf (year month day : Nat) : Nat := (dayNumber year month day + 6) % 7 + 1

def isValid (date : HttpDate) : Bool :=
  date.second < 60 && date.minute < 60 && date.hour < 24 && 1970 ≤ date.year && date.year ≤ 9999 &&
  1 ≤ date.day && date.day ≤ daysInMonth date.year date.month &&
  date.weekday == weekdayOf date.year date.month date.day

/-- Seconds since the start of 1970. -/
def epochSeconds (date : HttpDate) : Nat :=
  (dayNumber date.year date.month date.day - dayNumber 1970 1 1) * 86400 +
    date.hour * 3600 + date.minute * 60 + date.second

/-- Reads a date, in the first of the three forms that the text has. -/
def ofText? (text : List Char) : Option HttpDate := do
  guard (text.all fun c => c.toNat < 0x80)
  let trimmed := Text.trimWhere Text.isBlank text
  let date ← ofFixed? trimmed <|> ofLongWeekday? trimmed <|> ofTimestamp? trimmed
  guard date.isValid
  return date

end HttpDate

end DeviceEnrollment.Time
