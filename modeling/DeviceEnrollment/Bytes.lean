/-!
Octet strings as lists of bytes, and their relation to text. `toText?_ofText` says that the
bytes of a text read back as that text.
-/
namespace DeviceEnrollment

abbrev Bytes := List UInt8

namespace Bytes

/-- The UTF-8 bytes of a text. -/
def ofText (text : String) : Bytes := text.toByteArray.data.toList

/-- The text whose UTF-8 bytes these are, if they are well-formed UTF-8. -/
def toText? (bytes : Bytes) : Option String := String.fromUTF8? ⟨bytes.toArray⟩

theorem toText?_ofText (text : String) : toText? (ofText text) = some text := by
  simp [toText?, ofText, String.fromUTF8?, text.isValidUTF8]
  rfl

/-- Space, tab, line feed, form feed and carriage return. -/
def isAsciiBlank (byte : UInt8) : Bool :=
  byte == 0x20 || byte == 0x09 || byte == 0x0A || byte == 0x0C || byte == 0x0D

/-- Drops the matching bytes at both ends. -/
def trimWhere (drop : UInt8 → Bool) (bytes : Bytes) : Bytes :=
  ((bytes.dropWhile drop).reverse.dropWhile drop).reverse

theorem mem_of_mem_trimWhere {drop : UInt8 → Bool} {bytes : Bytes} {byte : UInt8}
    (member : byte ∈ trimWhere drop bytes) : byte ∈ bytes := by
  unfold trimWhere at member
  have front := (List.dropWhile_sublist drop).mem (List.mem_reverse.1 member)
  exact (List.dropWhile_sublist drop).mem (List.mem_reverse.1 front)

def trimAscii (bytes : Bytes) : Bytes := trimWhere isAsciiBlank bytes

def isDigit (byte : UInt8) : Bool := 0x30 ≤ byte && byte ≤ 0x39

/-- The number that a run of decimal digits writes, most significant first. -/
def decimal (digits : Bytes) : Nat :=
  digits.foldl (fun total digit => total * 10 + (digit.toNat - 0x30)) 0

/-- The value of a hexadecimal digit in either case. -/
def hexValue? (byte : UInt8) : Option Nat :=
  if 0x30 ≤ byte && byte ≤ 0x39 then some (byte.toNat - 0x30)
  else if 0x61 ≤ byte && byte ≤ 0x66 then some (byte.toNat - 0x57)
  else if 0x41 ≤ byte && byte ≤ 0x46 then some (byte.toNat - 0x37)
  else none

/-- A byte as two hexadecimal digits in lower case. -/
def hexPair (byte : UInt8) : List Char :=
  [Nat.digitChar (byte.toNat / 16), Nat.digitChar (byte.toNat % 16)]

def toHex (bytes : Bytes) : String := String.ofList (bytes.flatMap hexPair)

/-- Reads pairs of hexadecimal digits; an odd digit or another byte is refused. -/
def ofHex? : Bytes → Option Bytes
  | [] => some []
  | [_] => none
  | high :: low :: rest => do
    let highValue ← hexValue? high
    let lowValue ← hexValue? low
    let bytes ← ofHex? rest
    return (highValue * 16 + lowValue).toUInt8 :: bytes

end Bytes

end DeviceEnrollment
