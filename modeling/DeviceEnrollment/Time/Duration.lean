/-!
Lengths of time in nanoseconds, and their text in the largest unit that leaves a whole number.
-/
namespace DeviceEnrollment.Time

structure Duration where
  nanos : Nat
deriving DecidableEq, Repr

namespace Duration

def ofMillis (count : Nat) : Duration := ⟨count * 1000000⟩
def ofSeconds (count : Nat) : Duration := ⟨count * 1000000000⟩

/-- Drops zeros at the end. -/
def dropZeros (digits : List Char) : List Char := (digits.reverse.dropWhile (· == '0')).reverse

/-- A whole number and a fraction in units of `10 ^ -places`. -/
def withFraction (whole fraction places : Nat) : List Char :=
  let digits := Nat.toDigits 10 fraction
  let filled := List.replicate (places - digits.length) '0' ++ digits
  let kept := dropZeros filled
  Nat.toDigits 10 whole ++ if kept.isEmpty then [] else '.' :: kept

def text (duration : Duration) : String :=
  let nanos := duration.nanos
  let (digits, suffix) :=
    if nanos ≥ 1000000000 then (withFraction (nanos / 1000000000) (nanos % 1000000000) 9, "s")
    else if nanos ≥ 1000000 then (withFraction (nanos / 1000000) (nanos % 1000000) 6, "ms")
    else if nanos ≥ 1000 then (withFraction (nanos / 1000) (nanos % 1000) 3, "µs")
    else (Nat.toDigits 10 nanos, "ns")
  String.ofList digits ++ suffix

end Duration

end DeviceEnrollment.Time
