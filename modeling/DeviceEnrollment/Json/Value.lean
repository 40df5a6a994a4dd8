import DeviceEnrollment.Json.Number

/-!
JSON values without their spelling. The members of an object are sorted by key, each key once.
`print` writes a value without blanks, and `Reading.value` takes one from a document that is
nested no deeper than it allows.
-/
namespace DeviceEnrollment.Json

inductive Value where
  | null
  | bool (value : Bool)
  | number (value : Number)
  | text (value : String)
  | list (elements : List Value)
  | object (members : List (String × Value))
deriving Repr, BEq

/-- Sets a member, at its place in the order of keys. -/
def insertMember (key : String) (value : Value) : List (String × Value) → List (String × Value)
  | [] => [(key, value)]
  | (other, held) :: rest =>
    if key < other then (key, value) :: (other, held) :: rest
    else if key = other then (key, value) :: rest
    else (other, held) :: insertMember key value rest

/-! ### Printing -/

def hexDigit (value : UInt8) : UInt8 := if value < 10 then value + 0x30 else value + 0x57

/-- A byte of a text as it is written between quotes. -/
def escapeByte (byte : UInt8) : Bytes :=
  if byte == 0x22 || byte == 0x5C then [0x5C, byte]
  else if byte ≥ 0x20 then [byte]
  else if byte == 0x08 then [0x5C, 0x62]
  else if byte == 0x09 then [0x5C, 0x74]
  else if byte == 0x0A then [0x5C, 0x6E]
  else if byte == 0x0C then [0x5C, 0x66]
  else if byte == 0x0D then [0x5C, 0x72]
  else [0x5C, 0x75, 0x30, 0x30, hexDigit (byte / 16), hexDigit (byte % 16)]

def printText (text : String) : Bytes := 0x22 :: (Bytes.ofText text).flatMap escapeByte ++ [0x22]

def printNumber (number : Number) : Bytes := Number.digitBytes number.text

/-- Writes the parts with a comma between each two. -/
def joinCommas : List Bytes → Bytes
  | [] => []
  | [last] => last
  | first :: rest => first ++ 0x2C :: joinCommas rest

def printMember (key : String) (value : Bytes) : Bytes := printText key ++ 0x3A :: value

def printObject (members : List (String × Bytes)) : Bytes :=
  0x7B :: joinCommas (members.map fun member => printMember member.1 member.2) ++ [0x7D]

def printList (elements : List Bytes) : Bytes := 0x5B :: joinCommas elements ++ [0x5D]

namespace Value

mutual

def print : Value → Bytes
  | null => [0x6E, 0x75, 0x6C, 0x6C]
  | bool true => [0x74, 0x72, 0x75, 0x65]
  | bool false => [0x66, 0x61, 0x6C, 0x73, 0x65]
  | number value => printNumber value
  | text value => printText value
  | list elements => printList (printElements elements)
  | object members => printObject (printMembers members)

def printElements : List Value → List Bytes
  | [] => []
  | element :: rest => print element :: printElements rest

def printMembers : List (String × Value) → List (String × Bytes)
  | [] => []
  | (key, value) :: rest => (key, print value) :: printMembers rest

end

end Value

/-! ### Reading -/

def isLead (unit : Nat) : Bool := 0xD800 ≤ unit && unit ≤ 0xDBFF

def isTrail (unit : Nat) : Bool := 0xDC00 ≤ unit && unit ≤ 0xDFFF

def pointBytes (point : Nat) : Bytes := Bytes.ofText (String.singleton (Char.ofNat point))

/-- What a lead surrogate means when no second unit follows it. -/
def TextEnd.afterLead : TextEnd → Fault
  | .broken .endOfText => .endOfText
  | .broken .badEscape => .badEscape
  | _ => .unpairedEscape

namespace WrittenText

/-- The bytes that the pieces of a text stand for, surrogates joined in pairs. -/
def bytes (finish : TextEnd) : List TextUnit → Except Fault Bytes
  | [] =>
    match finish.fault? with
    | none => .ok []
    | some fault => .error fault
  | .byte value :: rest => do return value :: (← bytes finish rest)
  | .code unit :: rest =>
    if isTrail unit then .error .loneSurrogate
    else if isLead unit then
      match rest with
      | [] => .error finish.afterLead
      | .byte _ :: _ => .error .unpairedEscape
      | .code second :: rest =>
        if isTrail second then do
          let point := 0x10000 + (unit - 0xD800) * 0x400 + (second - 0xDC00)
          return pointBytes point ++ (← bytes finish rest)
        else .error .loneSurrogate
    else do return pointBytes unit ++ (← bytes finish rest)

/-- The text itself. Whether its bytes are UTF-8 is looked at last. -/
def read (written : WrittenText) : Except Fault String := do
  let bytes ← bytes written.finish written.units
  match Bytes.toText? bytes with
  | some text => .ok text
  | none => .error .badCodePoint

end WrittenText

namespace Reading

mutual

/-- The value, its own nesting counted against `depth`. -/
def value (depth : Nat) : Reading → Except Fault Value
  | .null => .ok .null
  | .bool value => .ok (.bool value)
  | .number written => do return .number (← written.read)
  | .text written => do return .text (← written.read)
  | .list elements broken =>
    if depth ≤ 1 then .error .tooDeep
    else do
      let values ← elementValues (depth - 1) elements
      match broken with
      | none => .ok (.list values)
      | some fault => .error fault
  | .object members finish =>
    if depth ≤ 1 then .error .tooDeep
    else do
      let values ← memberValues (depth - 1) [] members
      match finish with
      | .closed => .ok (.object values)
      | .broken fault => .error fault
      | .key written fault => do
        let _ ← written.read
        .error fault
      | .notKey _ => .error .keyNotText
  | .brokenNull fault | .cutOff fault => .error fault

def elementValues (depth : Nat) : List Reading → Except Fault (List Value)
  | [] => .ok []
  | element :: rest => do
    let first ← value depth element
    return first :: (← elementValues depth rest)

/-- Collects members; of a repeated key the last value stays. -/
def memberValues (depth : Nat) (held : List (String × Value)) :
    List (WrittenText × Reading) → Except Fault (List (String × Value))
  | [] => .ok held
  | (written, element) :: rest => do
    let key ← written.read
    let value ← value depth element
    memberValues depth (insertMember key value held) rest

end

/-- The fault of a value that nobody reads. Only its text can be at fault. -/
def skip (reading : Reading) : Except Fault Unit :=
  match reading.fault? with
  | none => .ok ()
  | some fault => .error fault.skipped

end Reading

end DeviceEnrollment.Json
