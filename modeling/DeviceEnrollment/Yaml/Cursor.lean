import DeviceEnrollment.Yaml.Fault

/-!
The characters of a YAML text that are still to be read, and the place of the first of them.
-/
namespace DeviceEnrollment.Yaml

/-- Characters that end a line. -/
def isBreak (c : Char) : Bool :=
  c == '\n' || c == '\r' || c == '\u0085' || c == '\u2028' || c == '\u2029'

def isBlank (c : Char) : Bool := c == ' ' || c == '\t'

def isGap (c : Char) : Bool := isBlank c || isBreak c

/-- Characters of names: letters, digits, low lines and hyphens. -/
def isNameChar (c : Char) : Bool := c.isAlphanum || c == '_' || c == '-'

structure Cursor where
  rest : List Char
  mark : Mark
deriving Repr

namespace Cursor

def ofText (text : String) : Cursor := ⟨text.toList, .start⟩

def next? (cursor : Cursor) : Option Char := cursor.rest.head?

def atEnd (cursor : Cursor) : Bool := cursor.rest.isEmpty

def sees (cursor : Cursor) (c : Char) : Bool := cursor.next? == some c

/-- Whether the next character is of a kind. -/
def at? (kind : Char → Bool) (cursor : Cursor) : Bool := cursor.next?.any kind

/-- Whether the next character, if there is one, is of a kind. -/
def atOrEnd (kind : Char → Bool) (cursor : Cursor) : Bool := cursor.next?.all kind

/-- Passes over characters of the same line. -/
def skip (count : Nat) (cursor : Cursor) : Cursor :=
  let mark := cursor.mark
  let passed := min count cursor.rest.length
  ⟨cursor.rest.drop count, ⟨mark.index + passed, mark.line, mark.column + passed⟩⟩

/-- The first characters of the line that are of a kind, and what follows them. -/
def spanWhile (kind : Char → Bool) (cursor : Cursor) : List Char × Cursor :=
  let taken := cursor.rest.takeWhile kind
  (taken, cursor.skip taken.length)

def skipWhile (kind : Char → Bool) (cursor : Cursor) : Cursor := (cursor.spanWhile kind).2

/-- The start of the next line, behind a break of so many characters. -/
def nextLine (count : Nat) (cursor : Cursor) : Cursor :=
  ⟨cursor.rest.drop count, ⟨cursor.mark.index + count, cursor.mark.line + 1, 0⟩⟩

/-- A line break, and the start of the next line. All breaks count as line feeds, apart from
the separators of lines and paragraphs. -/
def lineBreak? (cursor : Cursor) : Option (Char × Cursor) :=
  match cursor.rest with
  | '\r' :: '\n' :: _ => some ('\n', cursor.nextLine 2)
  | c :: _ =>
    if c == '\u2028' || c == '\u2029' then some (c, cursor.nextLine 1)
    else if isBreak c then some ('\n', cursor.nextLine 1)
    else none
  | [] => none

/-- Passes over a line break if there is one. -/
def skipBreak (cursor : Cursor) : Cursor :=
  match cursor.lineBreak? with
  | some (_, next) => next
  | none => cursor

/-- Passes over a comment. -/
def skipComment (cursor : Cursor) : Cursor :=
  if cursor.sees '#' then cursor.skipWhile (!isBreak ·) else cursor

/-- Whether a line begins here with three marks of a document and nothing right behind them. -/
def atDocumentMark (mark : Char) (cursor : Cursor) : Bool :=
  cursor.mark.column == 0 && [mark, mark, mark].isPrefixOf cursor.rest &&
    (cursor.rest[3]?).all isGap

/-- Whether a document begins or ends here. -/
def atDocumentEdge (cursor : Cursor) : Bool :=
  cursor.atDocumentMark '-' || cursor.atDocumentMark '.'

/-- A problem at this place, in something that began at a mark. -/
def fail {α : Type} (cursor : Cursor) (problem : Problem) (activity : Activity) (since : Mark) :
    Except Fault α :=
  .error (.at problem cursor.mark (some (activity, since)))

end Cursor

/-- Whether YAML allows a character at all. -/
def isAllowed (c : Char) : Bool :=
  let point := c.toNat
  point == 0x09 || point == 0x0A || point == 0x0D || (0x20 ≤ point && point ≤ 0x7E) ||
  point == 0x85 || (0xA0 ≤ point && point ≤ 0xFFFD) || 0x10000 ≤ point

/-- The first character that is not allowed, by the bytes before it. -/
def controlAt? (offset : Nat) : List Char → Option Nat
  | [] => none
  | c :: rest => if isAllowed c then controlAt? (offset + c.utf8Size) rest else some offset

end DeviceEnrollment.Yaml
