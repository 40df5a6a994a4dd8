import DeviceEnrollment.Text.Digits
import DeviceEnrollment.Text.Parts

/-!
Properties that runs of characters share. A table is written in rows such as `41:L`: the first
point of a run in hexadecimal digits, and what holds from there on.
-/
namespace DeviceEnrollment.Text

/-- What holds of the points from `start` up to the next run. -/
structure Run (α : Type) where
  start : Nat
  holds : α

/-- The number that hexadecimal digits write. -/
def hexNumber (digits : List Char) : Nat := (numberIn? 16 digits).getD 0

/-- Reads rows, each property by `holds`. -/
def readRuns {α : Type} (holds : List Char → α) (rows : List String) : List (Run α) :=
  (rows.flatMap words).filterMap fun word =>
    (cutAt? ':' word).map fun (start, rest) => ⟨hexNumber start, holds rest⟩

/-- The run that holds a point. -/
def runAt? {α : Type} (runs : List (Run α)) (point : Nat) : Option (Run α) :=
  runs.foldl (fun found run => if run.start ≤ point then some run else found) none

/-- Reads rows whose properties are single letters. -/
def readLetters (rows : List String) : List (Run Char) :=
  readRuns (fun text => text.headD ' ') rows

/-- The letter that holds of a character. -/
def letterAt (runs : List (Run Char)) (other : Char) (c : Char) : Char :=
  ((runAt? runs c.toNat).map Run.holds).getD other

end DeviceEnrollment.Text
