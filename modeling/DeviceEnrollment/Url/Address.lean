import DeviceEnrollment.Text.Digits
import DeviceEnrollment.Text.Parts
import DeviceEnrollment.Url.Error

/-!
Internet addresses as hosts: version 4 in any of its number notations, version 6 between
brackets.
-/
namespace DeviceEnrollment.Url

/-! ### Version 4 -/

/-- A number in decimal, in octal behind a zero, or in hexadecimal behind `0x`. -/
def ipv4Number? (text : List Char) : Option Nat :=
  match text with
  | [] => none
  | '0' :: 'x' :: digits => Text.numberIn? 16 digits
  | '0' :: 'X' :: digits => Text.numberIn? 16 digits
  | '0' :: digit :: digits => Text.numberIn? 8 (digit :: digits)
  | digits => Text.numberIn? 10 digits

/-- The parts of a name without the empty one behind a final dot. -/
def dottedParts (name : List Char) : List (List Char) :=
  let parts := Text.partsAt '.' name
  if parts.length > 1 && parts.getLast? = some [] then parts.dropLast else parts

/-- Whether the last part is a number, so that the whole has to be an address. -/
def endsInNumber (name : List Char) : Bool :=
  match (dottedParts name).getLast? with
  | none => false
  | some last => (!last.isEmpty && last.all Char.isDigit) || (ipv4Number? last).isSome

/-- All parts but the last are bytes, and the last fills the rest of the address. -/
def ipv4OfNumbers? (numbers : List Nat) : Option Nat := do
  let last ← numbers.getLast?
  let bytes := numbers.dropLast
  guard (bytes.length ≤ 3)
  guard (last < Nat.pow 256 (4 - bytes.length))
  guard (bytes.all (· ≤ 255))
  return bytes.zipIdx.foldl (fun total (byte, index) => total + byte * Nat.pow 256 (3 - index)) last

def parseIpv4 (name : List Char) : Except UrlError Nat :=
  match (dottedParts name).mapM ipv4Number? >>= ipv4OfNumbers? with
  | some address => .ok address
  | none => .error .invalidIpv4

def ipv4Text (address : Nat) : List Char :=
  let byte (index : Nat) := Nat.toDigits 10 (address / Nat.pow 256 index % 256)
  byte 3 ++ '.' :: byte 2 ++ '.' :: byte 1 ++ '.' :: byte 0

/-! ### Version 6 -/

/-- A decimal byte without leading zeros. -/
def ipv4Byte? (text : List Char) : Option Nat :=
  match text with
  | ['0'] => some 0
  | '0' :: _ => none
  | [] => none
  | digits => (Text.numberIn? 10 digits).filter (· ≤ 255)

/-- Four bytes with dots between them, as two pieces of sixteen bits. -/
def embeddedIpv4? (text : List Char) : Option (List Nat) :=
  match (Text.partsAt '.' text).map ipv4Byte? with
  | [some a, some b, some c, some d] => some [a * 256 + b, c * 256 + d]
  | _ => none

/-- The pieces read so far, and how many of them stand before a double colon. -/
structure PieceState where
  pieces : List Nat
  gap : Option Nat

namespace PieceState

/-- A double colon takes the place of one piece at least. -/
def count (state : PieceState) : Nat := state.pieces.length + if state.gap.isSome then 1 else 0

def push (state : PieceState) (piece : Nat) : PieceState :=
  { state with pieces := state.pieces ++ [piece] }

/-- Reads pieces up to the end of the text. -/
def read? (fuel : Nat) (state : PieceState) (text : List Char) : Option PieceState :=
  match fuel, text with
  | _, [] => some state
  | 0, _ => none
  | fuel + 1, first :: rest =>
    if state.count = 8 then none
    else if first = ':' then
      if state.gap.isSome then none
      else read? fuel { state with gap := some state.pieces.length } rest
    else
      let digits := (text.take 4).takeWhile fun c => (Text.digitOf? 16 c).isSome
      let piece := (Text.numberIn? 16 digits).getD 0
      match text.drop digits.length with
      | [] => some (state.push piece)
      | '.' :: _ =>
        if digits.isEmpty || state.count > 6 then none
        else (embeddedIpv4? text).map fun pair => { state with pieces := state.pieces ++ pair }
      | ':' :: after => if after.isEmpty then none else read? fuel (state.push piece) after
      | _ => none

/-- All eight pieces, zeros standing for a double colon. -/
def fill? (state : PieceState) : Option (List Nat) :=
  match state.gap with
  | none => if state.pieces.length = 8 then some state.pieces else none
  | some before =>
    some (state.pieces.take before ++ List.replicate (8 - state.pieces.length) 0 ++
      state.pieces.drop before)

end PieceState

def parseIpv6 (text : List Char) : Except UrlError (List Nat) :=
  let read := match text with
    | ':' :: ':' :: rest => PieceState.read? (rest.length + 1) ⟨[], some 0⟩ rest
    | [] | [_] | ':' :: _ => none
    | text => PieceState.read? (text.length + 1) ⟨[], none⟩ text
  match read >>= PieceState.fill? with
  | some pieces => .ok pieces
  | none => .error .invalidIpv6

/-- The length of the run of zeros at each place. -/
def zeroRuns : List Nat → List Nat
  | [] => []
  | piece :: rest =>
    let runs := zeroRuns rest
    (if piece = 0 then runs.headD 0 + 1 else 0) :: runs

def piecesText (pieces : List Nat) : List Char :=
  [':'].intercalate (pieces.map (Nat.toDigits 16))

/-- The first of the longest runs of two zeros or more becomes a double colon. -/
def ipv6Text (pieces : List Nat) : List Char :=
  let runs := zeroRuns pieces
  let longest := runs.foldl max 0
  if longest < 2 then piecesText pieces
  else
    let start := runs.findIdx (· = longest)
    piecesText (pieces.take start) ++ [':', ':'] ++ piecesText (pieces.drop (start + longest))

end DeviceEnrollment.Url
