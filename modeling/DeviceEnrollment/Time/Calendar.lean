/-!
Dates of the proleptic Gregorian calendar, within the years that an instant may have.
-/
namespace DeviceEnrollment.Time

def isLeapYear (year : Int) : Bool :=
  year % 4 == 0 && (year % 100 != 0 || year % 400 == 0)

/-- The length of a month, numbered from one; other numbers name no month. -/
def daysInMonth (year : Int) (month : Nat) : Nat :=
  match month with
  | 1 | 3 | 5 | 7 | 8 | 10 | 12 => 31
  | 4 | 6 | 9 | 11 => 30
  | 2 => if isLeapYear year then 29 else 28
  | _ => 0

def firstYear : Int := -262143
def lastYear : Int := 262142

structure Date where
  year : Int
  month : Nat
  day : Nat
  year_mem : firstYear ≤ year ∧ year ≤ lastYear
  day_mem : 1 ≤ day ∧ day ≤ daysInMonth year month
deriving DecidableEq, Repr

namespace Date

def of? (year : Int) (month day : Nat) : Option Date :=
  if year_mem : firstYear ≤ year ∧ year ≤ lastYear then
    if day_mem : 1 ≤ day ∧ day ≤ daysInMonth year month then
      some ⟨year, month, day, year_mem, day_mem⟩
    else none
  else none

theorem of?_self (date : Date) : of? date.year date.month date.day = some date := by
  simp [of?, date.year_mem, date.day_mem]

/-- The day after, unless it is out of range. -/
def next? (date : Date) : Option Date :=
  of? date.year date.month (date.day + 1) <|>
  of? date.year (date.month + 1) 1 <|>
  of? (date.year + 1) 1 1

/-- The day before, unless it is out of range. -/
def previous? (date : Date) : Option Date :=
  of? date.year date.month (date.day - 1) <|>
  of? date.year (date.month - 1) (daysInMonth date.year (date.month - 1)) <|>
  of? (date.year - 1) 12 31

end Date

end DeviceEnrollment.Time
