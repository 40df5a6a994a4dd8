import DeviceEnrollment.Http.Header
import DeviceEnrollment.Number.Limits
import DeviceEnrollment.Text.Blank
import DeviceEnrollment.Text.Digits
import DeviceEnrollment.Time.Duration
import DeviceEnrollment.Time.HttpDate

/-!
What a response says about trying again: a number of seconds, or a date. How long to wait for a
date is asked at some moment, and there is no wait for a date that is past.
-/
namespace DeviceEnrollment.Http

inductive RetryHint where
  | seconds (count : Nat)
  | untilDate (date : Time.HttpDate)
deriving DecidableEq, Repr

/-- A number below `2 ^ 64` in digits, a plus sign allowed before them. -/
def wholeNumber? (text : List Char) : Option Nat :=
  let digits := match text with
    | '+' :: rest => rest
    | rest => rest
  if !digits.isEmpty && digits.all Char.isDigit && Text.decimalValue digits < Number.twoTo64 then
    some (Text.decimalValue digits)
  else none

namespace RetryHint

def ofText? (text : String) : Option RetryHint :=
  let trimmed := Text.trimWhere Text.isBlank text.toList
  match wholeNumber? trimmed with
  | some count => some (.seconds count)
  | none => (Time.HttpDate.ofText? trimmed).map .untilDate

/-- Reads the first value of the header. -/
def ofHeaders? (headers : HeaderMap) : Option RetryHint := headers.text? .retryAfter >>= ofText?

/-- How long to wait at a moment, which is counted in nanoseconds since the start of 1970. -/
def delay? (hint : RetryHint) (now : Nat) : Option Time.Duration :=
  match hint with
  | seconds count => some (.ofSeconds count)
  | untilDate date =>
    let moment := (Time.Duration.ofSeconds date.epochSeconds).nanos
    if now ≤ moment then some ⟨moment - now⟩ else none

end RetryHint

end DeviceEnrollment.Http
