import DeviceEnrollment.Number.Shortest
import DeviceEnrollment.Text.Quoted
import DeviceEnrollment.Yaml.Scalar

/-!
The value of a document: its nodes with every alias replaced by the node it refers to. What is
wrong with a value comes before a fault of the text behind it.
-/
namespace DeviceEnrollment.Yaml

inductive Node where
  | scalar (value : Scalar)
  | list (elements : List Node)
  | table (entries : List (String × Node))

/-! ### Faults -/

/-- What a value is instead of what it should be. -/
inductive Refusal where
  | wrongType (found expected : String)
  | wrongText (text expected : String)
deriving DecidableEq, Repr

def Refusal.text : Refusal → String
  | wrongType found expected => s!"invalid type: {found}, expected {expected}"
  | wrongText text expected => s!"invalid value: string {Text.quoted text}, expected {expected}"

inductive DocumentFault where
  | unreadable (fault : Fault)
  | unknownAnchor (mark : Mark)
  /-- A value is refused at a place among the values, the document itself having none. -/
  | refused (refusal : Refusal) (path : Option String) (mark : Mark)
  | tooDeep (mark : Mark)
  | tooManyAliases
  | tooManyDocuments
  | ended
deriving DecidableEq, Repr

def DocumentFault.message : DocumentFault → String
  | unreadable fault => fault.message
  | unknownAnchor mark => "unknown anchor" ++ mark.suffix
  | refused refusal path mark =>
    let place := path.getD "."
    (if place = "." then "" else place ++ ": ") ++ refusal.text ++ mark.suffix
  | tooDeep mark => "recursion limit exceeded" ++ mark.suffix
  | tooManyAliases => "repetition limit exceeded"
  | tooManyDocuments =>
    "deserializing from YAML containing more than one document is not supported"
  | ended => "EOF while parsing a value"

/-- Doubles in messages: positional, and never without a point. -/
def doubleFormat : Number.DoubleFormat :=
  { positional := fun _ => true
    pointZero := true
    exponentSign := []
    infinity := "inf"
    notANumber := "NaN" }

/-- What a scalar is, in a message. -/
def Scalar.kindText : Scalar → String
  | null => "unit value"
  | bool value => if value then "boolean `true`" else "boolean `false`"
  | unsigned value => s!"integer `{value}`"
  | signed value => s!"integer `{value}`"
  | wide value => s!"integer `{value}` as " ++ if value < 0 then "i128" else "u128"
  | double value => "floating point `" ++ String.ofList (doubleFormat.write value) ++ "`"
  | text value => "string " ++ Text.quoted value

/-! ### Anchors -/

/-- The anchors and aliases among events. An anchor gets the count of the names in use before
it as its number, and an alias the number that its name has at that point. -/
structure Anchors where
  names : List (List Char × Nat)
  /-- The places of nodes under their numbers, the last one first. -/
  nodes : List (Nat × Nat)
  /-- The numbers of aliases under their places. -/
  aliases : List (Nat × Nat)

namespace Anchors

def none : Anchors := ⟨[], [], []⟩

/-- Takes an anchor into account. -/
def declare (anchors : Anchors) (place : Nat) (name : List Char) : Anchors :=
  let number := anchors.names.length
  let others := anchors.names.filter fun entry => entry.1 != name
  { anchors with names := (name, number) :: others, nodes := (number, place) :: anchors.nodes }

/-- Takes an event into account. An alias has to have a name in use. -/
def note? (anchors : Anchors) (place : Nat) (event : Event) : Option Anchors :=
  match event with
  | .reference name => (anchors.names.lookup name).map fun number =>
    { anchors with aliases := (place, number) :: anchors.aliases }
  | .scalar (some name) _ _ _ | .sequenceStart (some name) _ | .mappingStart (some name) _ =>
    some (anchors.declare place name)
  | _ => some anchors

/-- The place of the node that an alias stands for: the last one with its number. -/
def target? (anchors : Anchors) (place : Nat) : Option Nat := do
  anchors.nodes.lookup (← anchors.aliases.lookup place)

end Anchors

/-- The events of a document up to its first fault. -/
structure Sheet where
  events : Array Placed
  anchors : Anchors
  fault : Option DocumentFault

/-- Notes events one after the other, up to an alias without an anchor. -/
def Sheet.note (sheet : Sheet) : List Placed → Sheet
  | [] => sheet
  | placed :: rest =>
    match sheet.anchors.note? sheet.events.size placed.event with
    | none => { sheet with fault := some (.unknownAnchor placed.mark) }
    | some anchors =>
      Sheet.note { sheet with events := sheet.events.push placed, anchors := anchors } rest

def Sheet.ofDocument (document : Document) : Sheet :=
  Sheet.note ⟨#[], .none, document.fault.map .unreadable⟩ document.events

namespace Sheet

/-- The event at a place, or what comes instead. -/
def event (sheet : Sheet) (place : Nat) : Except DocumentFault Placed :=
  match sheet.events[place]? with
  | some placed => .ok placed
  | none => .error (sheet.fault.getD .ended)

/-- The place that a place stands for, and how many aliases may still be followed. -/
def follow (sheet : Sheet) (aliases place : Nat) (event : Event) :
    Except DocumentFault (Nat × Nat) :=
  match event with
  | .reference _ =>
    match aliases, sheet.anchors.target? place with
    | 0, _ => .error .tooManyAliases
    | aliases + 1, some target => .ok (aliases, target)
    | _, none => .error .ended
  | _ => .ok (aliases, place)

/-! ### Values -/

/-- A scalar at a place among the values. -/
def scalarAt (path : Option String) (mark : Mark) (tag : Option (List Char))
    (text : List Char) (style : ScalarStyle) : Except DocumentFault Scalar :=
  match Scalar.of tag text style with
  | .ok value => .ok value
  | .error .ownTag => .error (.refused (.wrongType "enum" "any valid value") path mark)
  | .error (.mismatch text expected) => .error (.refused (.wrongText text expected) path mark)

/-- Refuses a tag of one's own. -/
def checkTag (path : Option String) (mark : Mark) (tag : Option (List Char)) :
    Except DocumentFault Unit :=
  if tag.any fun tag => tag.head? == some '!' then
    .error (.refused (.wrongType "enum" "any valid value") path mark)
  else .ok ()

def indexPath (path : Option String) (index : Nat) : Option String :=
  some (path.getD "." ++ s!"[{index}]")

/-- The place of a value under a key. Only a key that is written there has a name. -/
def keyPath (path : Option String) (key : Option String) : Option String :=
  some ((path.map (· ++ ".")).getD "" ++ key.getD "?")

/-- The text of a key. -/
def keyAt (sheet : Sheet) (path : Option String) (place : Nat) : Except DocumentFault String := do
  let placed ← sheet.event place
  match placed.event with
  | .scalar _ _ text _ => return String.ofList text
  | .sequenceStart _ _ =>
    .error (.refused (.wrongType "sequence" "a string") path placed.mark)
  | _ => .error (.refused (.wrongType "map" "a string") path placed.mark)

/-- A value, what follows it, and how many aliases may still be followed. -/
structure Read (α : Type) where
  value : α
  next : Nat
  aliases : Nat

mutual

/-- Reads the node at a place. -/
def node (sheet : Sheet) (depth aliases : Nat) (path : Option String) (place : Nat) :
    Except DocumentFault (Read Node) := do
  let placed ← sheet.event place
  let (aliases, target) ← sheet.follow aliases place placed.event
  let read ← content sheet depth aliases path target
  return if target = place then read else { read with next := place + 1 }
termination_by (depth, 0, 1)

/-- Reads a node that is no alias. -/
def content (sheet : Sheet) (depth aliases : Nat) (path : Option String) (place : Nat) :
    Except DocumentFault (Read Node) := do
  let ⟨event, mark⟩ ← sheet.event place
  match event, depth with
  | .scalar _ tag text style, _ =>
    return ⟨.scalar (← scalarAt path mark tag text style), place + 1, aliases⟩
  | .sequenceStart _ tag, depth =>
    checkTag path mark tag
    match depth with
    | 0 => .error (.tooDeep mark)
    | depth + 1 =>
      let read ← elements sheet depth sheet.events.size aliases path 0 (place + 1)
      return { read with value := .list read.value }
  | .mappingStart _ tag, depth =>
    checkTag path mark tag
    match depth with
    | 0 => .error (.tooDeep mark)
    | depth + 1 =>
      let read ← entries sheet depth sheet.events.size aliases path (place + 1)
      return { read with value := .table read.value }
  | _, _ => .error .ended
termination_by (depth, 0, 0)

/-- Reads the elements of a sequence and its end. -/
def elements (sheet : Sheet) (depth fuel aliases : Nat) (path : Option String)
    (index place : Nat) : Except DocumentFault (Read (List Node)) := do
  match fuel with
  | 0 => .error (sheet.fault.getD .ended)
  | fuel + 1 =>
    let placed ← sheet.event place
    if placed.event = .sequenceEnd then return ⟨[], place + 1, aliases⟩
    let first ← node sheet depth aliases (indexPath path index) place
    let rest ← elements sheet depth fuel first.aliases path (index + 1) first.next
    return { rest with value := first.value :: rest.value }
termination_by (depth, fuel + 1, 0)

/-- Reads the entries of a mapping and its end. -/
def entries (sheet : Sheet) (depth fuel aliases : Nat) (path : Option String) (place : Nat) :
    Except DocumentFault (Read (List (String × Node))) := do
  match fuel with
  | 0 => .error (sheet.fault.getD .ended)
  | fuel + 1 =>
    let placed ← sheet.event place
    if placed.event = .mappingEnd then return ⟨[], place + 1, aliases⟩
    let (aliases, target) ← sheet.follow aliases place placed.event
    let key ← keyAt sheet path target
    let written := if target = place then some key else none
    let first ← node sheet depth aliases (keyPath path written) (place + 1)
    let rest ← entries sheet depth fuel first.aliases path first.next
    return { rest with value := (key, first.value) :: rest.value }
termination_by (depth, fuel + 1, 0)

end

/-- How deep collections may lie within one another. -/
def depthLimit : Nat := 128

/-- The entries of the mapping that the document is. An empty document has none. -/
def table (sheet : Sheet) : Except DocumentFault (List (String × Node)) := do
  if sheet.events.isEmpty && sheet.fault.isNone then return []
  let ⟨event, mark⟩ ← sheet.event 0
  let refuse (found : String) : Except DocumentFault (List (String × Node)) :=
    .error (.refused (.wrongType found "a map") none mark)
  match event with
  | .mappingStart _ _ =>
    let size := sheet.events.size
    return (← entries sheet (depthLimit - 1) size (100 * size) none 1).value
  | .scalar _ tag text style =>
    if text.isEmpty && style = .plain then return []
    let tag := tag.filter fun tag => tag.head? != some '!'
    refuse (← scalarAt none mark tag text style).kindText
  | _ => refuse "sequence"

end Sheet

/-- The entries of the mapping that a text consists of. -/
def tableOfText (text : String) : Except DocumentFault (List (String × Node)) := do
  let document := Document.ofText text
  let sheet := Sheet.ofDocument document
  let entries ← sheet.table
  match sheet.fault with
  | some fault => .error fault
  | none => if document.followed then .error .tooManyDocuments else .ok entries

end DeviceEnrollment.Yaml
