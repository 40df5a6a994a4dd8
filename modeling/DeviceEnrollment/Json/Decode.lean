import DeviceEnrollment.Json.Value
import DeviceEnrollment.Number.Limits
import DeviceEnrollment.Text.Quoted

/-!
Typed reading of documents: texts, integers, options, names of a closed set, and records whose
fields may come as members in any order or as a list in their own order.
-/
namespace DeviceEnrollment.Json

/-- What stands where something else was expected. -/
inductive Found where
  | null
  | bool (value : Bool)
  | number (value : Number)
  | text (value : String)
  | list
  | object
deriving DecidableEq, Repr

inductive DecodeError where
  | malformed (fault : Fault)
  | mismatch (found : Found) (expected : String)
  | outOfRange (value : Int) (expected : String)
  | wrongLength (count : Nat) (expected : String)
  | unknownVariant (name : String) (variants : List String)
  | missingField (name : String)
  | duplicateField (name : String)
  /-- A value of the right form that its own rules refuse. -/
  | refused (reason : String)
deriving DecidableEq, Repr

abbrev Decoded := Except DecodeError

namespace DecodeError

def foundText : Found → String
  | .null => "null"
  | .bool value => s!"boolean `{value}`"
  | .number (.integer value) => s!"integer `{value}`"
  | .number (.double value) =>
    "floating point `" ++ String.ofList (Number.format.write value) ++ "`"
  | .text value => "string " ++ Text.quoted value
  | .list => "sequence"
  | .object => "map"

/-- The names that would have been accepted. -/
def choiceText (names : List String) : String :=
  let quotedNames := names.map fun name => s!"`{name}`"
  match quotedNames with
  | [] => "there are no variants"
  | [only] => "expected " ++ only
  | [first, second] => "expected " ++ first ++ " or " ++ second
  | more => "expected one of " ++ ", ".intercalate more

def message : DecodeError → String
  | .malformed fault => fault.message
  | .mismatch found expected => s!"invalid type: {foundText found}, expected {expected}"
  | .outOfRange value expected => s!"invalid value: integer `{value}`, expected {expected}"
  | .wrongLength count expected => s!"invalid length {count}, expected {expected}"
  | .unknownVariant name variants => s!"unknown variant `{name}`, {choiceText variants}"
  | .missingField name => s!"missing field `{name}`"
  | .duplicateField name => s!"duplicate field `{name}`"
  | .refused reason => reason

end DecodeError

/-- A fault of the text is an error of whatever is read from it. -/
def faulty {α : Type} (result : Except Fault α) : Decoded α :=
  match result with
  | .ok value => .ok value
  | .error fault => .error (.malformed fault)

/-- The error for a value of another form than expected. A value that breaks off is reported
as such. -/
def mismatch (shape : Except Fault Shape) (expected : String) : DecodeError :=
  let found : Except Fault Found := do
    match ← shape with
    | .null => return .null
    | .bool value => return .bool value
    | .number written => return .number (← written.read)
    | .text written => return .text (← written.read)
    | .list => return .list
    | .object => return .object
  match found with
  | .ok found => .mismatch found expected
  | .error fault => .malformed fault

namespace Reading

def decodeText (reading : Reading) : Decoded String :=
  match reading with
  | .text written => faulty written.read
  | other => .error (mismatch other.shape "a string")

def decodeBool (reading : Reading) : Decoded Bool :=
  match reading with
  | .bool value => .ok value
  | other => .error (mismatch other.shape "a boolean")

def int64Expected : String := "i64"

def fitsInt64 (value : Int) : Bool := -(Number.twoTo63 : Int) ≤ value && value < Number.twoTo63

/-- A signed integer of 64 bits. -/
def decodeInt (reading : Reading) : Decoded Int :=
  match reading with
  | .number written => do
    match ← faulty written.read with
    | .integer value =>
      if fitsInt64 value then .ok value else .error (.outOfRange value int64Expected)
    | .double value => .error (.mismatch (.number (.double value)) int64Expected)
  | other => .error (mismatch other.shape int64Expected)

/-- `null` stands for nothing. -/
def decodeOption {α : Type} (decode : Reading → Decoded α) (reading : Reading) :
    Decoded (Option α) :=
  match reading with
  | .null => .ok none
  | .brokenNull fault => .error (.malformed fault)
  | other => do return some (← decode other)

/-- The value for a name, or what stands for every unknown name. -/
def variantOf {α : Type} (variants : List (String × α)) (other : Option α) (name : String) :
    Decoded α :=
  match variants.lookup name, other with
  | some value, _ => .ok value
  | none, some value => .ok value
  | none, none => .error (.unknownVariant name (variants.map Prod.fst))

/-- One of a set of names, as a text or as the only key of an object that maps it to `null`. -/
def decodeVariant {α : Type} (variants : List (String × α)) (other : Option α) (depth : Nat)
    (reading : Reading) : Decoded α :=
  match reading with
  | .text written => do variantOf variants other (← faulty written.read)
  | .object members finish =>
    if depth ≤ 1 then .error (.malformed .tooDeep)
    else
      match members with
      | (written, value) :: rest => do
        let variant ← variantOf variants other (← faulty written.read)
        match value with
        | .null =>
          match rest, finish with
          | [], .closed => .ok variant
          | [], .broken .endOfObject => .error (.malformed .endOfObject)
          | _, _ => .error (.malformed .expectedValue)
        | other => .error (mismatch other.shape "unit")
      | [] =>
        match finish with
        | .closed => .error (.malformed .expectedValue)
        | .broken _ => .error (.malformed .endOfValue)
        | .key written fault => do
          let _ ← variantOf variants other (← faulty written.read)
          .error (.malformed fault)
        | .notKey found => .error (mismatch found "variant identifier")
  | .cutOff .endOfValue => .error (.malformed .endOfValue)
  | _ => .error (.malformed .expectedValue)

/-- Every element of a list. -/
def decodeList {α : Type} (decode : Nat → Reading → Decoded α) (depth : Nat)
    (reading : Reading) : Decoded (List α) :=
  match reading with
  | .list elements broken =>
    if depth ≤ 1 then .error (.malformed .tooDeep)
    else do
      let values ← elements.mapM (decode (depth - 1))
      match broken with
      | none => .ok values
      | some fault => .error (.malformed fault)
  | other => .error (mismatch other.shape "a sequence")

end Reading

/-! ### Records -/

/-- What it means that a field is absent. -/
inductive Absence where
  | refused
  /-- Members may leave it out, a list may not. -/
  | refusedInList
  | allowed
deriving DecidableEq, Repr

/-- A field of a record that is put together in drafts. -/
structure Field (draft : Type) where
  name : String
  aliases : List String
  absence : Absence
  decode : Nat → Reading → draft → Decoded draft

structure RecordShape (draft : Type) where
  name : String
  fields : List (Field draft)
  empty : draft

namespace RecordShape

variable {draft : Type}

def field? (shape : RecordShape draft) (key : String) : Option (Field draft) :=
  shape.fields.find? fun field => field.name == key || field.aliases.contains key

/-- Takes one member into the draft. Fields already seen are refused before their value is
looked at, and the value of an unknown member is skipped. -/
def takeMember (shape : RecordShape draft) (depth : Nat) (state : draft × List String)
    (key : String) (value : Reading) : Decoded (draft × List String) :=
  match shape.field? key with
  | none => do
    faulty value.skip
    return state
  | some field =>
    if state.2.contains field.name then .error (.duplicateField field.name)
    else do return (← field.decode depth value state.1, field.name :: state.2)

def takeMembers (shape : RecordShape draft) (depth : Nat) (state : draft × List String) :
    List (WrittenText × Reading) → Decoded (draft × List String)
  | [] => .ok state
  | (written, value) :: rest => do
    let key ← faulty written.read
    takeMembers shape depth (← shape.takeMember depth state key value) rest

/-- The fault of an object that is not closed. A key is read before what is missing behind it. -/
def finishMembers (shape : RecordShape draft) (seen : List String) (finish : ObjectEnd) :
    Decoded Unit :=
  match finish with
  | .closed => .ok ()
  | .broken fault => .error (.malformed fault)
  | .key written fault => do
    let key ← faulty written.read
    match shape.field? key with
    | some field =>
      if seen.contains field.name then .error (.duplicateField field.name)
      else .error (.malformed fault)
    | none => .error (.malformed fault)
  | .notKey _ => .error (.malformed .keyNotText)

/-- The first field that may not be left out and was. -/
def missing? (shape : RecordShape draft) (seen : List String) : Option String :=
  (shape.fields.find? fun field => field.absence == .refused && !seen.contains field.name).map
    Field.name

def lengthText (shape : RecordShape draft) : String :=
  let count := shape.fields.length
  s!"struct {shape.name} with {count} element" ++ if count = 1 then "" else "s"

/-- Takes the elements of a list as the fields in their order. -/
def takeElements (shape : RecordShape draft) (depth : Nat) (broken : Option Fault) (index : Nat) :
    List (Field draft) → List Reading → draft → Decoded draft
  | [], [], current =>
    match broken with
    | none => .ok current
    | some .endOfList => .error (.malformed .endOfList)
    | some .listTrailingComma => .error (.malformed .listTrailingComma)
    | some _ => .error (.malformed .trailingCharacters)
  | [], _ :: _, _ => .error (.malformed .trailingCharacters)
  | field :: fields, element :: elements, current => do
    takeElements shape depth broken (index + 1) fields elements
      (← field.decode depth element current)
  | field :: fields, [], current =>
    match broken with
    | some fault => .error (.malformed fault)
    | none =>
      if field.absence == .allowed then
        takeElements shape depth broken (index + 1) fields [] current
      else .error (.wrongLength index shape.lengthText)

def decode (shape : RecordShape draft) (depth : Nat) (reading : Reading) : Decoded draft :=
  match reading with
  | .object members finish =>
    if depth ≤ 1 then .error (.malformed .tooDeep)
    else do
      let (record, seen) ← shape.takeMembers (depth - 1) (shape.empty, []) members
      shape.finishMembers seen finish
      match shape.missing? seen with
      | some name => .error (.missingField name)
      | none => return record
  | .list elements broken =>
    if depth ≤ 1 then .error (.malformed .tooDeep)
    else shape.takeElements (depth - 1) broken 0 shape.fields elements shape.empty
  | other => .error (mismatch other.shape s!"struct {shape.name}")

end RecordShape

/-! ### Documents -/

/-- The nesting that a document may use up. -/
def nestingLimit : Nat := 128

/-- Reads one value and nothing after it. -/
def decodeDocument {α : Type} (decode : Nat → Reading → Decoded α) (bytes : Bytes) : Decoded α := do
  let document := Document.ofBytes bytes
  let value ← decode nestingLimit document.value
  if document.trailing then .error (.malformed .trailingCharacters) else return value

end DeviceEnrollment.Json
