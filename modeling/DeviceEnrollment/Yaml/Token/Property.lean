import DeviceEnrollment.Text.Digits
import DeviceEnrollment.Yaml.Token.Basic

/-!
What stands before nodes and documents: anchors, tags and directives.
-/
namespace DeviceEnrollment.Yaml

/-! ### Anchors -/

/-- Characters that may follow the name of an anchor, apart from gaps. -/
def endsAnchor (c : Char) : Bool := isGap c || "?:,]\x7d%@`".toList.contains c

/-- Reads the name behind the mark of an anchor or of an alias. -/
def readAnchor (activity : Activity) (cursor : Cursor) :
    Except Fault (List Char × Cursor) :=
  let (name, rest) := (cursor.skip 1).spanWhile isNameChar
  if name.isEmpty || !rest.atOrEnd endsAnchor then
    rest.fail .anchorName activity cursor.mark
  else .ok (name, rest)

/-! ### Tags -/

/-- Characters of tags, apart from those of names. Brackets and commas are among them only where
the tag is enclosed. -/
def isTagChar (enclosed : Bool) (c : Char) : Bool :=
  isNameChar c || ";/?:@&=+$.%!~*'()".toList.contains c || (enclosed && ",[]".toList.contains c)

/-- How many octets a character has that begins with an octet. -/
def octetCount? (octet : Nat) : Option Nat :=
  if octet < 0x80 then some 1
  else if octet / 0x20 = 0x6 then some 2
  else if octet / 0x10 = 0xE then some 3
  else if octet / 0x8 = 0x1E then some 4
  else none

/-- Reads an octet in two digits behind a percent sign. -/
def readOctet (activity : Activity) (since : Mark) (cursor : Cursor) : Except Fault Nat :=
  match cursor.rest with
  | '%' :: high :: low :: _ =>
    match Text.numberIn? 16 [high, low] with
    | some octet => .ok octet
    | none => cursor.fail .escapedOctet activity since
  | _ => cursor.fail .escapedOctet activity since

/-- Reads the octets of a character behind its first one. -/
def readTrailingOctets (activity : Activity) (since : Mark) (point : Nat) (cursor : Cursor) :
    Nat → Except Fault (Nat × Cursor)
  | 0 => .ok (point, cursor)
  | count + 1 => do
    let octet ← readOctet activity since cursor
    if octet / 0x40 ≠ 2 then cursor.fail .trailingOctet activity since
    readTrailingOctets activity since (point * 0x40 + octet % 0x40) (cursor.skip 3) count

/-- Reads a character whose octets are escaped. -/
def readEscapedChar (activity : Activity) (since : Mark) (cursor : Cursor) :
    Except Fault (Char × Cursor) := do
  let octet ← readOctet activity since cursor
  match octetCount? octet with
  | none => cursor.fail .leadingOctet activity since
  | some count =>
    let lead := if count = 1 then octet else octet % Nat.pow 2 (7 - count)
    let (point, rest) ← readTrailingOctets activity since lead (cursor.skip 3) (count - 1)
    return (Char.ofNat point, rest)

/-- Reads the characters of a tag. -/
def readTagText (fuel : Nat) (enclosed : Bool) (activity : Activity) (since : Mark)
    (cursor : Cursor) : Except Fault (List Char × Cursor) := do
  match fuel, cursor.next? with
  | fuel + 1, some c =>
    if !isTagChar enclosed c then return ([], cursor)
    let (c, rest) ← if c = '%' then readEscapedChar activity since cursor
      else Except.ok (c, cursor.skip 1)
    let (text, rest) ← readTagText fuel enclosed activity since rest
    return (c :: text, rest)
  | _, _ => return ([], cursor)

/-- Reads the characters of a tag behind those that are read already, one at least in all. -/
def readTagRest (enclosed : Bool) (activity : Activity) (since : Mark) (before : List Char)
    (cursor : Cursor) : Except Fault (List Char × Cursor) := do
  let (text, rest) ← readTagText cursor.rest.length enclosed activity since cursor
  if before.isEmpty && text.isEmpty then rest.fail .tagText activity since
  return (before.drop 1 ++ text, rest)

/-- Reads a name between exclamation marks, of which the second one may be missing. -/
def readTagHandle (activity : Activity) (since : Mark) (cursor : Cursor) :
    Except Fault (List Char × Cursor) := do
  if !cursor.sees '!' then cursor.fail .tagMark activity since
  let (name, rest) := (cursor.skip 1).spanWhile isNameChar
  if rest.sees '!' then return ('!' :: name ++ ['!'], rest.skip 1)
  return ('!' :: name, rest)

def isTagHandle (handle : List Char) : Bool :=
  2 ≤ handle.length && handle.getLast? == some '!'

/-- Reads the handle of a tag and the rest of it. A tag that stands for itself has no handle. -/
def readTag (inFlow : Bool) (cursor : Cursor) : Except Fault (TokenKind × Cursor) := do
  let since := cursor.mark
  let (handle, text, rest) ← (do
    if (cursor.skip 1).sees '<' then
      let (text, rest) ← readTagRest true .tagText since [] (cursor.skip 2)
      if !rest.sees '>' then rest.fail .verbatimTagEnd .tag since
      return ([], text, rest.skip 1)
    let (handle, rest) ← readTagHandle .tag since cursor
    if isTagHandle handle then
      let (text, rest) ← readTagRest false .tagText since [] rest
      return (handle, text, rest)
    let (text, rest) ← readTagRest false .tagText since handle rest
    if text.isEmpty then return ([], ['!'], rest)
    return (['!'], text, rest) : Except Fault (List Char × List Char × Cursor))
  if !(inFlow && rest.sees ',') && !rest.atOrEnd isGap then
    rest.fail .blankOrLineEnd .tag since
  return (.tag handle text, rest)

/-! ### Directives -/

def readVersionNumber (since : Mark) (cursor : Cursor) : Except Fault (Nat × Cursor) :=
  let (digits, rest) := cursor.spanWhile Char.isDigit
  if 9 < digits.length then (cursor.skip 9).fail .longVersion .versionDirective since
  else if digits.isEmpty then cursor.fail .versionNumber .versionDirective since
  else .ok (Text.decimalValue digits, rest)

def readVersion (since : Mark) (cursor : Cursor) : Except Fault (TokenKind × Cursor) := do
  let (major, rest) ← readVersionNumber since (cursor.skipWhile isBlank)
  if !rest.sees '.' then rest.fail .versionPoint .versionDirective since
  let (minor, rest) ← readVersionNumber since (rest.skip 1)
  return (.version major minor, rest)

def readTagDirective (since : Mark) (cursor : Cursor) : Except Fault (TokenKind × Cursor) := do
  let (handle, rest) ← readTagHandle .tagDirectiveMark since (cursor.skipWhile isBlank)
  if !isTagHandle handle && 2 ≤ handle.length then
    rest.fail .tagMark .tagDirectiveHandle since
  if !rest.at? isBlank then rest.fail .blank .tagDirective since
  let (lead, rest) ← readTagRest true .tagDirectiveText since [] (rest.skipWhile isBlank)
  if !rest.atOrEnd isGap then rest.fail .blankOrLineEnd .tagDirective since
  return (.tagDirective handle lead, rest)

/-- Reads a directive and the rest of its line. -/
def readDirective (cursor : Cursor) : Except Fault (TokenKind × Cursor) := do
  let since := cursor.mark
  let (name, rest) := (cursor.skip 1).spanWhile isNameChar
  if name.isEmpty then rest.fail .directiveName .directive since
  if !rest.atOrEnd isGap then rest.fail .directiveNameEnd .directive since
  let (kind, rest) ← if name = "YAML".toList then readVersion since rest
    else if name = "TAG".toList then readTagDirective since rest
    else rest.fail .unknownDirective .directive since
  let rest := (rest.skipWhile isBlank).skipComment
  if !rest.atOrEnd isBreak then rest.fail .lineEnd .directive since
  return (kind, rest.skipBreak)

end DeviceEnrollment.Yaml
