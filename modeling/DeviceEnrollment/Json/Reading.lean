import DeviceEnrollment.Bytes
import DeviceEnrollment.Json.Fault

/-!
JSON documents as they are read: a tree that keeps members in order, repeated keys, the written
form of texts and numbers, and the place where the document breaks off, if it does. Whoever
walks the tree in order meets a fault exactly when the text up to there has been used, so an
earlier mismatch wins over a later fault.
-/
namespace DeviceEnrollment.Json

/-- A piece of a written text. -/
inductive TextUnit where
  | byte (value : UInt8)
  /-- A four digit escape: one unit of UTF-16. -/
  | code (unit : Nat)
deriving DecidableEq, Repr

/-- How a written text ends. -/
inductive TextEnd where
  | closed
  | broken (fault : Fault)
  /-- A backslash and a character that begins no escape. -/
  | unknownEscape
deriving DecidableEq, Repr

structure WrittenText where
  units : List TextUnit
  finish : TextEnd
deriving DecidableEq, Repr

structure WrittenNumber where
  negative : Bool
  whole : Bytes
  fraction : Option Bytes
  /-- Whether the power of ten is negative, and its digits. -/
  power : Option (Bool × Bytes)
deriving DecidableEq, Repr

/-- The outer form of a value. -/
inductive Shape where
  | null
  | bool (value : Bool)
  | number (written : WrittenNumber)
  | text (written : WrittenText)
  | list
  | object
deriving DecidableEq, Repr

/-- How the members of an object end. -/
inductive ObjectEnd where
  | closed
  | broken (fault : Fault)
  /-- A key that no value follows. -/
  | key (written : WrittenText) (fault : Fault)
  /-- Something other than a text where the first key is due. -/
  | notKey (found : Except Fault Shape)

inductive Reading where
  | null
  | bool (value : Bool)
  | number (written : WrittenNumber)
  | text (written : WrittenText)
  /-- The elements, and the fault that ends the list unless it is closed. -/
  | list (elements : List Reading) (broken : Option Fault)
  | object (members : List (WrittenText × Reading)) (finish : ObjectEnd)
  /-- The first letter of `null` with a fault after it. -/
  | brokenNull (fault : Fault)
  | cutOff (fault : Fault)

def TextEnd.fault? : TextEnd → Option Fault
  | .closed => none
  | .broken fault => some fault
  | .unknownEscape => some .badEscape

def ObjectEnd.fault? : ObjectEnd → Option Fault
  | .closed => none
  | .broken fault => some fault
  | .key _ fault => some fault
  | .notKey _ => some .keyNotText

namespace Reading

/-- The fault at which the text of a value breaks off. -/
def fault? : Reading → Option Fault
  | .null | .bool _ | .number _ => none
  | .text written => written.finish.fault?
  | .list _ broken => broken
  | .object _ finish => finish.fault?
  | .brokenNull fault | .cutOff fault => some fault

def shape : Reading → Except Fault Shape
  | .null => .ok .null
  | .bool value => .ok (.bool value)
  | .number written => .ok (.number written)
  | .text written => .ok (.text written)
  | .list _ _ => .ok .list
  | .object _ _ => .ok .object
  | .brokenNull fault | .cutOff fault => .error fault

end Reading

/-! ### Scanning -/

/-- Space, tab, line feed and carriage return. -/
def isBlank (byte : UInt8) : Bool :=
  byte == 0x20 || byte == 0x09 || byte == 0x0A || byte == 0x0D

def skipBlanks (bytes : Bytes) : Bytes := bytes.dropWhile isBlank

/-- The byte that a one letter escape stands for. -/
def simpleEscape? (letter : UInt8) : Option UInt8 :=
  if letter == 0x22 || letter == 0x5C || letter == 0x2F then some letter
  else if letter == 0x62 then some 0x08
  else if letter == 0x66 then some 0x0C
  else if letter == 0x6E then some 0x0A
  else if letter == 0x72 then some 0x0D
  else if letter == 0x74 then some 0x09
  else none

def fourHexDigits? (a b c d : UInt8) : Option Nat := do
  let a ← Bytes.hexValue? a
  let b ← Bytes.hexValue? b
  let c ← Bytes.hexValue? c
  let d ← Bytes.hexValue? d
  return ((a * 16 + b) * 16 + c) * 16 + d

namespace WrittenText

def push (unit : TextUnit) (scanned : WrittenText × Bytes) : WrittenText × Bytes :=
  ({ scanned.1 with units := unit :: scanned.1.units }, scanned.2)

/-- Reads on after an opening quote. -/
def scan : Bytes → WrittenText × Bytes
  | [] => (⟨[], .broken .endOfText⟩, [])
  | byte :: rest =>
    if byte == 0x22 then (⟨[], .closed⟩, rest)
    else if byte == 0x5C then
      match rest with
      | [] => (⟨[], .broken .endOfText⟩, [])
      | letter :: rest =>
        if letter == 0x75 then
          match rest with
          | a :: b :: c :: d :: rest =>
            match fourHexDigits? a b c d with
            | some unit => push (.code unit) (scan rest)
            | none => (⟨[], .broken .badEscape⟩, rest)
          | _ => (⟨[], .broken .endOfText⟩, [])
        else
          match simpleEscape? letter with
          | some value => push (.byte value) (scan rest)
          | none => (⟨[], .unknownEscape⟩, rest)
    else if byte < 0x20 then (⟨[], .broken .controlCharacter⟩, rest)
    else push (.byte byte) (scan rest)

end WrittenText

namespace WrittenNumber

/-- Reads a power of ten after its letter. -/
def scanPower (bytes : Bytes) : Except Fault (Bool × Bytes) × Bytes :=
  let (negative, digits) := match bytes with
    | sign :: rest =>
      if sign == 0x2B then (false, rest) else if sign == 0x2D then (true, rest) else (false, bytes)
    | [] => (false, [])
  match digits.takeWhile Bytes.isDigit, digits.dropWhile Bytes.isDigit with
  | [], [] => (.error .endOfNumber, [])
  | [], rest => (.error .badNumber, rest)
  | power, rest => (.ok (negative, power), rest)

def isPowerLetter (byte : UInt8) : Bool := byte == 0x65 || byte == 0x45

/-- Reads what may follow the whole part and the fraction. -/
def scanTail (negative : Bool) (whole : Bytes) (fraction : Option Bytes) (bytes : Bytes) :
    Except Fault WrittenNumber × Bytes :=
  match bytes with
  | letter :: rest =>
    if isPowerLetter letter then
      let (power, rest) := scanPower rest
      (power.map fun power => ⟨negative, whole, fraction, some power⟩, rest)
    else (.ok ⟨negative, whole, fraction, none⟩, bytes)
  | [] => (.ok ⟨negative, whole, fraction, none⟩, [])

def scanFraction (negative : Bool) (whole : Bytes) (bytes : Bytes) :
    Except Fault WrittenNumber × Bytes :=
  match bytes with
  | point :: rest =>
    if point == 0x2E then
      match rest.takeWhile Bytes.isDigit, rest.dropWhile Bytes.isDigit with
      | [], [] => (.error .endOfNumber, [])
      | [], rest => (.error .badNumber, rest)
      | fraction, rest => scanTail negative whole (some fraction) rest
    else scanTail negative whole none bytes
  | [] => (.ok ⟨negative, whole, none, none⟩, [])

/-- Reads a number after its sign. A zero is a whole part of its own. -/
def scan (negative : Bool) (bytes : Bytes) : Except Fault WrittenNumber × Bytes :=
  match bytes with
  | [] => (.error .endOfNumber, [])
  | first :: rest =>
    if first == 0x30 then
      match rest with
      | next :: _ =>
        if Bytes.isDigit next then (.error .badNumber, rest)
        else scanFraction negative [first] rest
      | [] => scanFraction negative [first] rest
    else if Bytes.isDigit first then
      scanFraction negative (first :: rest.takeWhile Bytes.isDigit) (rest.dropWhile Bytes.isDigit)
    else (.error .badNumber, rest)

end WrittenNumber

namespace Reading

/-- Reads the rest of a literal after its first letter. -/
def scanLiteral (meaning : Reading) (broken : Fault → Reading) : Bytes → Bytes → Reading × Bytes
  | [], bytes => (meaning, bytes)
  | _ :: _, [] => (broken .endOfLiteral, [])
  | expected :: letters, byte :: rest =>
    if byte == expected then scanLiteral meaning broken letters rest
    else (broken .expectedLiteral, rest)

def ofNumber (scanned : Except Fault WrittenNumber × Bytes) : Reading × Bytes :=
  match scanned with
  | (.ok written, rest) => (.number written, rest)
  | (.error fault, rest) => (.cutOff fault, rest)

mutual

/-- Reads one value. -/
def scan (fuel : Nat) (bytes : Bytes) : Reading × Bytes :=
  match fuel with
  | 0 => (.cutOff .endOfValue, bytes)
  | fuel + 1 =>
    match skipBlanks bytes with
    | [] => (.cutOff .endOfValue, [])
    | first :: rest =>
      if first == 0x6E then scanLiteral .null .brokenNull [0x75, 0x6C, 0x6C] rest
      else if first == 0x74 then scanLiteral (.bool true) .cutOff [0x72, 0x75, 0x65] rest
      else if first == 0x66 then scanLiteral (.bool false) .cutOff [0x61, 0x6C, 0x73, 0x65] rest
      else if first == 0x2D then ofNumber (WrittenNumber.scan true rest)
      else if Bytes.isDigit first then ofNumber (WrittenNumber.scan false (first :: rest))
      else if first == 0x22 then
        let (written, rest) := WrittenText.scan rest
        (.text written, rest)
      else if first == 0x5B then
        let (elements, broken, rest) := scanElements fuel true rest
        (.list elements broken, rest)
      else if first == 0x7B then
        let (members, finish, rest) := scanMembers fuel true rest
        (.object members finish, rest)
      else (.cutOff .expectedValue, rest)

/-- Reads on inside a list, before its first element or after an element. -/
def scanElements (fuel : Nat) (first : Bool) (bytes : Bytes) :
    List Reading × Option Fault × Bytes :=
  match fuel with
  | 0 => ([], some .endOfList, bytes)
  | fuel + 1 =>
    match skipBlanks bytes with
    | [] => ([], some .endOfList, [])
    | next :: rest =>
      if next == 0x5D then ([], none, rest)
      else if first then scanElement fuel (next :: rest)
      else if next == 0x2C then
        match skipBlanks rest with
        | [] => ([], some .endOfValue, [])
        | next :: rest =>
          if next == 0x5D then ([], some .listTrailingComma, rest)
          else scanElement fuel (next :: rest)
      else ([], some .expectedListComma, rest)

/-- Reads an element and what follows it. -/
def scanElement (fuel : Nat) (bytes : Bytes) : List Reading × Option Fault × Bytes :=
  match fuel with
  | 0 => ([], some .endOfList, bytes)
  | fuel + 1 =>
    let (element, rest) := scan fuel bytes
    match element.fault? with
    | some fault => ([element], some fault, rest)
    | none =>
      let (elements, broken, rest) := scanElements fuel false rest
      (element :: elements, broken, rest)

/-- Reads on inside an object, before its first member or after a member. -/
def scanMembers (fuel : Nat) (first : Bool) (bytes : Bytes) :
    List (WrittenText × Reading) × ObjectEnd × Bytes :=
  match fuel with
  | 0 => ([], .broken .endOfObject, bytes)
  | fuel + 1 =>
    match skipBlanks bytes with
    | [] => ([], .broken .endOfObject, [])
    | next :: rest =>
      if next == 0x7D then ([], .closed, rest)
      else if first then
        if next == 0x22 then scanMember fuel rest
        else ([], .notKey (scan fuel (next :: rest)).1.shape, rest)
      else if next == 0x2C then
        match skipBlanks rest with
        | [] => ([], .broken .endOfKey, [])
        | next :: rest =>
          if next == 0x22 then scanMember fuel rest
          else if next == 0x7D then ([], .broken .objectTrailingComma, rest)
          else ([], .broken .keyNotText, rest)
      else ([], .broken .expectedObjectComma, rest)

/-- Reads a member after the opening quote of its key, and what follows it. -/
def scanMember (fuel : Nat) (bytes : Bytes) : List (WrittenText × Reading) × ObjectEnd × Bytes :=
  match fuel with
  | 0 => ([], .broken .endOfObject, bytes)
  | fuel + 1 =>
    let (key, rest) := WrittenText.scan bytes
    match key.finish.fault? with
    | some fault => ([], .key key fault, rest)
    | none =>
      match skipBlanks rest with
      | [] => ([], .key key .endOfObject, [])
      | colon :: rest =>
        if colon == 0x3A then
          let (value, rest) := scan fuel rest
          match value.fault? with
          | some fault => ([(key, value)], .broken fault, rest)
          | none =>
            let (members, finish, rest) := scanMembers fuel false rest
            ((key, value) :: members, finish, rest)
        else ([], .key key .expectedColon, rest)

end

end Reading

/-- A value and whether anything but blanks follows it. -/
structure Document where
  value : Reading
  trailing : Bool

/-- Each byte costs at most three steps, so the fuel never runs out. -/
def Document.ofBytes (bytes : Bytes) : Document :=
  let (value, rest) := Reading.scan (3 * bytes.length + 3) bytes
  ⟨value, !(skipBlanks rest).isEmpty⟩

end DeviceEnrollment.Json
