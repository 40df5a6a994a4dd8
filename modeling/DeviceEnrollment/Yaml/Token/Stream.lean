import DeviceEnrollment.Yaml.Token.Property
import DeviceEnrollment.Yaml.Token.Scalar

/-!
The tokens of a text. A text on one line turns out to be a key only at the colon behind it, so
that tokens are held back as long as a key may begin at the first of them.
-/
namespace DeviceEnrollment.Yaml

/-- A place where a key may begin. -/
structure KeyPlace where
  /-- The number of the token that the key would begin with. -/
  number : Nat
  /-- Whether nothing but a key may stand there. -/
  required : Bool
  mark : Mark
deriving DecidableEq, Repr

/-- The state of reading tokens. -/
structure Reader where
  cursor : Cursor
  /-- The tokens that were read and not given out. -/
  held : List Token
  /-- How many tokens were given out. -/
  given : Nat
  /-- The column of the innermost block, or -1. -/
  indent : Int
  outerIndents : List Int
  /-- Where a key may begin, here and in the enclosing flow collections. -/
  key : Option KeyPlace
  outerKeys : List (Option KeyPlace)
  /-- Whether a key may begin right here. -/
  keyAllowed : Bool

namespace Reader

/-- A reader that has read the beginning of the stream. -/
def ofText (text : String) : Reader :=
  { cursor := .ofText text
    held := [⟨.streamStart, .start⟩]
    given := 0
    indent := -1
    outerIndents := []
    key := none
    outerKeys := []
    keyAllowed := true }

def inFlow (reader : Reader) : Bool := !reader.outerKeys.isEmpty

def mark (reader : Reader) : Mark := reader.cursor.mark

def column (reader : Reader) : Int := reader.mark.column

/-- Holds a token at the end. -/
def hold (reader : Reader) (kind : TokenKind) (mark : Mark) : Reader :=
  { reader with held := reader.held ++ [⟨kind, mark⟩] }

/-- Holds a token before the one of a number. -/
def holdAt (reader : Reader) (number : Nat) (kind : TokenKind) (mark : Mark) : Reader :=
  let place := number - reader.given
  { reader with held := reader.held.take place ++ ⟨kind, mark⟩ :: reader.held.drop place }

/-- Reads a token of so many characters. -/
def take (reader : Reader) (kind : TokenKind) (count : Nat) : Reader :=
  { reader.hold kind reader.mark with cursor := reader.cursor.skip count }

/-! ### Indentation -/

/-- Opens a block whose start is held before the token of a number, or at the end. -/
def openBlock (reader : Reader) (column : Int) (kind : TokenKind) (number : Option Nat)
    (mark : Mark) : Reader :=
  if reader.inFlow || column ≤ reader.indent then reader
  else
    let outerIndents := reader.indent :: reader.outerIndents
    let opened := { reader with indent := column, outerIndents := outerIndents }
    match number with
    | none => opened.hold kind mark
    | some number => opened.holdAt number kind mark

/-- The ends of the blocks that are indented more than a column, given the columns of the
enclosing ones, and the innermost block that remains. -/
def closedBlocks (column : Int) : Int → List Int → Nat × Int × List Int
  | indent, outer :: outerIndents =>
    if indent ≤ column then (0, indent, outer :: outerIndents)
    else
      let (count, remaining) := closedBlocks column outer outerIndents
      (count + 1, remaining)
  | indent, [] => (0, indent, [])

/-- Closes the blocks that are indented more than a column. -/
def closeBlocks (reader : Reader) (column : Int) : Reader :=
  if reader.inFlow then reader
  else
    let (count, indent, outerIndents) := closedBlocks column reader.indent reader.outerIndents
    { reader with
      held := reader.held ++ List.replicate count ⟨.blockEnd, reader.mark⟩
      indent := indent
      outerIndents := outerIndents }

/-! ### Places of keys -/

/-- Whether a key that begins at a place would have to be finished before a mark. -/
def KeyPlace.isPast (place : KeyPlace) (mark : Mark) : Bool :=
  place.mark.line < mark.line || place.mark.index + 1024 < mark.index

/-- A place that no key has used. It may be given up unless a key is required. -/
def giveUp (place : KeyPlace) (mark : Mark) : Except Fault (Option KeyPlace) :=
  if place.required then .error (.at .keyWithoutColon mark (some (.simpleKey, place.mark)))
  else .ok none

/-- Gives up a place that is too far back. -/
def keepPlace (mark : Mark) : Option KeyPlace → Except Fault (Option KeyPlace)
  | none => .ok none
  | some place => if KeyPlace.isPast place mark then giveUp place mark else .ok (some place)

/-- Gives up the places that are too far back, the outermost one first. -/
def dropPastKeys (reader : Reader) : Except Fault Reader := do
  let outerKeys ← reader.outerKeys.reverse.mapM (keepPlace reader.mark)
  let key ← keepPlace reader.mark reader.key
  return { reader with key := key, outerKeys := outerKeys.reverse }

/-- Gives up the place of this level. -/
def dropKey (reader : Reader) : Except Fault Reader := do
  match reader.key with
  | none => return reader
  | some place => return { reader with key := ← giveUp place reader.mark }

/-- Remembers that a key may begin here. -/
def noteKey (reader : Reader) : Except Fault Reader := do
  if !reader.keyAllowed then return reader
  let required := !reader.inFlow && reader.indent = reader.column
  let reader ← reader.dropKey
  return { reader with key := some ⟨reader.given + reader.held.length, required, reader.mark⟩ }

/-! ### Tokens -/

/-- Passes over blanks, comments and line ends. In a block, a key may begin on each line, and no
tab may stand where one may begin. -/
def skipGaps (fuel : Nat) (reader : Reader) : Reader :=
  match fuel with
  | 0 => reader
  | fuel + 1 =>
    let cursor := reader.cursor
    let cursor := if cursor.mark.column = 0 && cursor.sees '\ufeff' then cursor.skip 1 else cursor
    let tabs := reader.inFlow || !reader.keyAllowed
    let cursor := (cursor.skipWhile fun c => c == ' ' || (tabs && c == '\t')).skipComment
    if cursor.at? isBreak then
      let keyAllowed := reader.keyAllowed || !reader.inFlow
      skipGaps fuel { reader with cursor := cursor.skipBreak, keyAllowed := keyAllowed }
    else { reader with cursor := cursor }

def readStreamEnd (reader : Reader) : Except Fault Reader := do
  let mark := reader.mark
  let ended := if mark.column = 0 then mark else ⟨mark.index, mark.line + 1, 0⟩
  let reader := { reader with cursor := { reader.cursor with mark := ended } }
  let reader ← (reader.closeBlocks (-1)).dropKey
  return { reader.hold .streamEnd ended with keyAllowed := false }

/-- Reads a directive or the mark of a document, which end all blocks. -/
def readBetweenDocuments (reader : Reader) (read : Reader → Except Fault Reader) :
    Except Fault Reader := do
  let reader ← (reader.closeBlocks (-1)).dropKey
  read { reader with keyAllowed := false }

def readFlowStart (kind : TokenKind) (reader : Reader) : Except Fault Reader := do
  let reader ← reader.noteKey
  let reader := { reader with
    key := none, outerKeys := reader.key :: reader.outerKeys, keyAllowed := true }
  return reader.take kind 1

def readFlowEnd (kind : TokenKind) (reader : Reader) : Except Fault Reader := do
  let reader ← reader.dropKey
  let reader := match reader.outerKeys with
    | [] => reader
    | key :: outerKeys => { reader with key := key, outerKeys := outerKeys }
  return { reader.take kind 1 with keyAllowed := false }

def readFlowEntry (reader : Reader) : Except Fault Reader := do
  let reader ← reader.dropKey
  return { reader.take .flowEntry 1 with keyAllowed := true }

/-- A problem here that needs no explanation. -/
def fail {α : Type} (reader : Reader) (problem : Problem) : Except Fault α :=
  .error (.at problem reader.mark none)

def readBlockEntry (reader : Reader) : Except Fault Reader := do
  if !reader.inFlow && !reader.keyAllowed then reader.fail .entryNotAllowed
  let reader ← (reader.openBlock reader.column .blockSequenceStart none reader.mark).dropKey
  return { reader.take .blockEntry 1 with keyAllowed := true }

/-- Reads the mark before a key. -/
def readKey (reader : Reader) : Except Fault Reader := do
  if !reader.inFlow && !reader.keyAllowed then reader.fail .keyNotAllowed
  let reader ← (reader.openBlock reader.column .blockMappingStart none reader.mark).dropKey
  return { reader.take .key 1 with keyAllowed := !reader.inFlow }

/-- Reads the mark before a value. If a key may begin further back, it does. -/
def readValue (reader : Reader) : Except Fault Reader := do
  match reader.key with
  | some place =>
    let column : Int := place.mark.column
    let reader := (reader.holdAt place.number .key place.mark).openBlock column
      .blockMappingStart (some place.number) place.mark
    return { reader.take .value 1 with key := none, keyAllowed := false }
  | none =>
    if !reader.inFlow && !reader.keyAllowed then reader.fail .valueNotAllowed
    let reader := reader.openBlock reader.column .blockMappingStart none reader.mark
    return { reader.take .value 1 with keyAllowed := !reader.inFlow }

/-- Reads what may begin a key. Whether one may begin behind it is told by the reading. -/
def readContent (reader : Reader)
    (read : Cursor → Except Fault (TokenKind × Bool × Cursor)) : Except Fault Reader := do
  let reader ← reader.noteKey
  let (kind, keyAllowed, rest) ← read reader.cursor
  return { reader.hold kind reader.mark with cursor := rest, keyAllowed := keyAllowed }

def readPlainToken (reader : Reader) : Except Fault Reader :=
  reader.readContent fun cursor => do
    let read ← plainScalar reader.inFlow (reader.indent + 1).toNat cursor
    return (.scalar read.text .plain, read.lineEnded, read.rest)

def readQuotedToken (single : Bool) (reader : Reader) : Except Fault Reader :=
  reader.readContent fun cursor => do
    let (text, rest) ← quotedScalar single cursor
    return (.scalar text .quoted, false, rest)

def readBlockToken (literal : Bool) (reader : Reader) : Except Fault Reader := do
  let reader ← reader.dropKey
  let (text, rest) ← blockScalar literal reader.indent reader.cursor
  return { reader.hold (.scalar text .block) reader.mark with cursor := rest, keyAllowed := true }

/-- Characters that begin no plain scalar, whatever follows them. -/
def isIndicator (c : Char) : Bool := ",[]\x7b\x7d#&*!|>'\"%@`".toList.contains c

/-- Whether a plain scalar begins with a character before another one. -/
def beginsPlain (inFlow : Bool) (c : Char) (after : Option Char) : Bool :=
  if c == '-' then !after.any isBlank
  else if c == '?' || c == ':' then !inFlow && !after.all isGap
  else !isIndicator c && !isGap c

/-- Reads the next token, and what it shows to stand before it. -/
def readNext (reader : Reader) : Except Fault Reader := do
  let reader ← (reader.skipGaps (reader.cursor.rest.length + 1)).dropPastKeys
  let reader := reader.closeBlocks reader.column
  let cursor := reader.cursor
  match cursor.rest with
  | [] => reader.readStreamEnd
  | c :: more =>
    let alone := more.head?.all isGap
    if cursor.mark.column = 0 && c == '%' then
      reader.readBetweenDocuments fun reader => do
        let (kind, rest) ← readDirective reader.cursor
        return { reader.hold kind reader.mark with cursor := rest }
    else if cursor.atDocumentMark '-' then
      reader.readBetweenDocuments fun reader => .ok (reader.take .documentStart 3)
    else if cursor.atDocumentMark '.' then
      reader.readBetweenDocuments fun reader => .ok (reader.take .documentEnd 3)
    else if c == '[' then reader.readFlowStart .flowSequenceStart
    else if c == '\x7b' then reader.readFlowStart .flowMappingStart
    else if c == ']' then reader.readFlowEnd .flowSequenceEnd
    else if c == '\x7d' then reader.readFlowEnd .flowMappingEnd
    else if c == ',' then reader.readFlowEntry
    else if c == '-' && alone then reader.readBlockEntry
    else if c == '?' && (reader.inFlow || alone) then reader.readKey
    else if c == ':' && (reader.inFlow || alone) then reader.readValue
    else if c == '*' then
      reader.readContent fun cursor => do
        let (name, rest) ← readAnchor .reference cursor
        return (.reference name, false, rest)
    else if c == '&' then
      reader.readContent fun cursor => do
        let (name, rest) ← readAnchor .anchor cursor
        return (.anchor name, false, rest)
    else if c == '!' then
      reader.readContent fun cursor => do
        let (kind, rest) ← readTag reader.inFlow cursor
        return (kind, false, rest)
    else if c == '|' && !reader.inFlow then reader.readBlockToken true
    else if c == '>' && !reader.inFlow then reader.readBlockToken false
    else if c == '\'' then reader.readQuotedToken true
    else if c == '"' then reader.readQuotedToken false
    else if beginsPlain reader.inFlow c more.head? then reader.readPlainToken
    else cursor.fail .strayCharacter .nextToken cursor.mark

/-- Whether a key may begin with the first token that is held. -/
def mayBeKey (reader : Reader) : Bool :=
  (reader.key :: reader.outerKeys).any fun key =>
    key.any fun place => place.number == reader.given

end Reader

/-- Tokens, and what is wrong behind them if the text is not read to its end. -/
structure Tokens where
  tokens : List Token
  fault : Option Fault

/-- Gives out the tokens that are held while no key may begin there, and reads more of them
otherwise, up to the end of the stream. -/
def Tokens.read (fuel : Nat) (reader : Reader) : Tokens :=
  match fuel with
  | 0 => ⟨[], none⟩
  | fuel + 1 =>
    match reader.held with
    | [] =>
      match reader.readNext with
      | .error fault => ⟨[], some fault⟩
      | .ok reader => Tokens.read fuel reader
    | token :: held =>
      match reader.dropPastKeys with
      | .error fault => ⟨[], some fault⟩
      | .ok reader =>
        if reader.mayBeKey then
          match reader.readNext with
          | .error fault => ⟨[], some fault⟩
          | .ok reader => Tokens.read fuel reader
        else if token.kind = .streamEnd then ⟨[token], none⟩
        else
          let more := Tokens.read fuel { reader with held := held, given := reader.given + 1 }
          ⟨token :: more.tokens, more.fault⟩

/-- The tokens of a text. Each character makes up three tokens at the most. -/
def Tokens.ofText (text : String) : Tokens :=
  match controlAt? 0 text.toList with
  | some offset => ⟨[⟨.streamStart, .start⟩], some (.control offset)⟩
  | none => Tokens.read (8 * text.length + 16) (.ofText text)

end DeviceEnrollment.Yaml
