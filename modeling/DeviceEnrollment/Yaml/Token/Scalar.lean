import DeviceEnrollment.Text.Digits
import DeviceEnrollment.Yaml.Token.Basic

/-!
The texts of scalars: plain ones, those in quotes, and blocks of indented lines. A line break
between two lines of a folded scalar is read as a space, and breaks beyond the first are kept.
-/
namespace DeviceEnrollment.Yaml

/-! ### Gaps between words -/

/-- Blanks and line breaks between words. Blanks count only where no break follows them. -/
structure Gap where
  blanks : List Char
  breaks : List Char

/-- What stands for line breaks between words. -/
def foldBreaks : List Char → List Char
  | ['\n'] => [' ']
  | '\n' :: more => more
  | breaks => breaks

def Gap.text (gap : Gap) : List Char :=
  if gap.breaks.isEmpty then gap.blanks else foldBreaks gap.breaks

/-- Reads line breaks and the blanks behind each. Tabs may not stand before a column. -/
def readBreaks (fuel column : Nat) (since : Mark) (cursor : Cursor) :
    Except Fault (List Char × Cursor) := do
  match fuel, cursor.lineBreak? with
  | fuel + 1, some (c, line) =>
    let (blanks, content) := line.spanWhile isBlank
    let tab := (blanks.takeWhile (· != '\t')).length
    if tab < blanks.length && tab < column then
      (line.skip tab).fail .tabBeforePlainScalar .plainScalar since
    let (breaks, rest) ← readBreaks fuel column since content
    return (c :: breaks, rest)
  | _, _ => return ([], cursor)

def readGap (column : Nat) (since : Mark) (cursor : Cursor) : Except Fault (Gap × Cursor) := do
  let (blanks, rest) := cursor.spanWhile isBlank
  let (breaks, rest) ← readBreaks rest.rest.length column since rest
  return (⟨blanks, breaks⟩, rest)

/-! ### Plain scalars -/

def isFlowMark (c : Char) : Bool := ",[]\x7b\x7d".toList.contains c

/-- Whether a colon stands here with a mark right behind it that may not follow. -/
def atFlowColon (text : List Char) : Bool :=
  match text with
  | ':' :: c :: _ => isFlowMark c || c == '?'
  | _ => false

/-- Whether a word of a plain scalar ends before a text. -/
def endsWord (inFlow : Bool) (text : List Char) : Bool :=
  match text with
  | [] => true
  | c :: rest => isGap c || (c == ':' && rest.head?.all isGap) || (inFlow && isFlowMark c)

/-- How far the word of a plain scalar reaches. -/
def wordLength (inFlow : Bool) : List Char → Nat
  | [] => 0
  | c :: rest =>
    if endsWord inFlow (c :: rest) || (inFlow && atFlowColon (c :: rest)) then 0
    else wordLength inFlow rest + 1

/-- A plain scalar, whether its line ends behind it, and what follows. -/
structure PlainText where
  text : List Char
  lineEnded : Bool
  rest : Cursor

/-- Reads the words of a plain scalar from a column on, behind what is read already. -/
def readPlain (fuel : Nat) (inFlow : Bool) (column : Nat) (since : Mark) (before : PlainText)
    (gap : List Char) : Except Fault PlainText := do
  let cursor := before.rest
  match fuel with
  | 0 => return before
  | fuel + 1 =>
    if cursor.atDocumentEdge || cursor.sees '#' then return before
    let count := wordLength inFlow cursor.rest
    let after := cursor.skip count
    if inFlow && atFlowColon after.rest then
      after.fail .colonInPlainScalar .plainScalar since
    let read := if count = 0 then { before with rest := after }
      else ⟨before.text ++ gap ++ cursor.rest.take count, false, after⟩
    if !after.at? isGap then return read
    let (gap, rest) ← readGap column since after
    let read := { read with lineEnded := !gap.breaks.isEmpty, rest := rest }
    if !inFlow && rest.mark.column < column then return read
    readPlain fuel inFlow column since read gap.text

def plainScalar (inFlow : Bool) (column : Nat) (cursor : Cursor) : Except Fault PlainText :=
  readPlain (cursor.rest.length + 1) inFlow column cursor.mark ⟨[], false, cursor⟩ []

/-! ### Quoted scalars -/

/-- The character that a letter behind a backslash stands for. -/
def escapedChar? : Char → Option Char
  | '0' => some '\x00'
  | 'a' => some '\x07'
  | 'b' => some '\x08'
  | 't' | '\t' => some '\t'
  | 'n' => some '\n'
  | 'v' => some '\x0b'
  | 'f' => some '\x0c'
  | 'r' => some '\r'
  | 'e' => some '\x1b'
  | ' ' => some ' '
  | '"' => some '"'
  | '/' => some '/'
  | '\\' => some '\\'
  | 'N' => some '\u0085'
  | '_' => some '\u00a0'
  | 'L' => some '\u2028'
  | 'P' => some '\u2029'
  | _ => none

/-- How many digits follow a letter behind a backslash. -/
def escapeWidth : Char → Nat
  | 'x' => 2
  | 'u' => 4
  | 'U' => 8
  | _ => 0

/-- Reads what stands behind a backslash. -/
def readEscape (since : Mark) (cursor : Cursor) : Except Fault (Char × Cursor) :=
  match (cursor.skip 1).next? with
  | none => cursor.fail .unknownEscape .escape since
  | some letter =>
    let width := escapeWidth letter
    let after := cursor.skip 2
    if width = 0 then
      match escapedChar? letter with
      | some c => .ok (c, after)
      | none => cursor.fail .unknownEscape .escape since
    else if after.rest.length < width then after.fail .escapeDigits .escape since
    else
      match Text.numberIn? 16 (after.rest.take width) with
      | none => after.fail .escapeDigits .escape since
      | some point =>
        if point.isValidChar then .ok (Char.ofNat point, after.skip width)
        else after.fail .escapedPoint .escape since

/-- What ends a word between quotes. -/
inductive WordEnd where
  | quote
  | gap
  | escapedBreak

/-- Reads a word between quotes. -/
def readQuotedWord (fuel : Nat) (single : Bool) (since : Mark) (cursor : Cursor) :
    Except Fault (List Char × WordEnd × Cursor) := do
  match fuel, cursor.rest with
  | 0, _ | _, [] => return ([], .gap, cursor)
  | fuel + 1, c :: more =>
    if isGap c then return ([], .gap, cursor)
    let (read, after) ← (do
      if single && c == '\'' && more.head? == some '\'' then return (some c, cursor.skip 2)
      else if c == (if single then '\'' else '"') then return (none, cursor)
      else if !single && c == '\\' then
        if more.head?.any isBreak then return (none, cursor.skip 1)
        let (c, after) ← readEscape since cursor
        return (some c, after)
      else return (some c, cursor.skip 1) : Except Fault (Option Char × Cursor))
    match read with
    | some c =>
      let (word, ending, rest) ← readQuotedWord fuel single since after
      return (c :: word, ending, rest)
    | none =>
      if after.at? isBreak then return ([], .escapedBreak, after.skipBreak)
      else return ([], .quote, after)

/-- Reads the words between quotes, and the closing quote. -/
def readQuoted (fuel : Nat) (single : Bool) (since : Mark) (cursor : Cursor) :
    Except Fault (List Char × Cursor) := do
  match fuel with
  | 0 => return ([], cursor)
  | fuel + 1 =>
    if cursor.atDocumentEdge then cursor.fail .documentMarkInQuotes .quotedScalar since
    if cursor.atEnd then cursor.fail .endInQuotes .quotedScalar since
    let (word, ending, after) ← readQuotedWord cursor.rest.length single since cursor
    let quote := if single then '\'' else '"'
    if after.sees quote then return (word, after.skip 1)
    let (gap, rest) ← readGap 0 since after
    let between := match ending with
      | .escapedBreak => gap.breaks
      | _ => gap.text
    let (text, rest) ← readQuoted fuel single since rest
    return (word ++ between ++ text, rest)

/-- A scalar between quotes, with the cursor on the opening one. -/
def quotedScalar (single : Bool) (cursor : Cursor) : Except Fault (List Char × Cursor) :=
  readQuoted (cursor.rest.length + 1) single cursor.mark (cursor.skip 1)

/-! ### Block scalars -/

/-- What becomes of the line breaks at the end of a block. -/
inductive Chomping where
  | strip
  | clip
  | keep
deriving DecidableEq, Repr

/-- The marks in the first line of a block: the treatment of its end, and its indentation. -/
structure BlockHeader where
  chomping : Chomping
  indentation : Option Nat

def chomping? : Option Char → Option Chomping
  | some '+' => some .keep
  | some '-' => some .strip
  | _ => none

/-- Reads an indentation of one digit, if there is one. -/
def readIndentation (since : Mark) (cursor : Cursor) : Except Fault (Option Nat × Cursor) :=
  match cursor.next? with
  | some digit =>
    if digit = '0' then cursor.fail .zeroIndentation .blockScalar since
    else if digit.isDigit then .ok (some (Text.digitValue digit), cursor.skip 1)
    else .ok (none, cursor)
  | none => .ok (none, cursor)

def readBlockHeader (since : Mark) (cursor : Cursor) : Except Fault (BlockHeader × Cursor) := do
  match chomping? cursor.next? with
  | some chomping =>
    let (indentation, rest) ← readIndentation since (cursor.skip 1)
    return (⟨chomping, indentation⟩, rest)
  | none =>
    let (indentation, rest) ← readIndentation since cursor
    match indentation, chomping? rest.next? with
    | some _, some chomping => return (⟨chomping, indentation⟩, rest.skip 1)
    | _, _ => return (⟨.clip, indentation⟩, rest)

/-- Empty lines and the indentation of the line behind them. -/
structure EmptyLines where
  breaks : List Char
  /-- The widest indentation. -/
  widest : Nat
  rest : Cursor

/-- Reads empty lines, indented up to a column if it is known. -/
def readEmptyLines (fuel : Nat) (column : Option Nat) (since : Mark) (cursor : Cursor) :
    Except Fault EmptyLines := do
  let spaces := (cursor.rest.takeWhile (· == ' ')).length
  let content := cursor.skip <|
    match column with
    | none => spaces
    | some column => min spaces (column - cursor.mark.column)
  if column.all (content.mark.column < ·) && content.sees '\t' then
    content.fail .tabForIndentation .blockScalar since
  let widest := content.mark.column
  match fuel, content.lineBreak? with
  | fuel + 1, some (c, line) =>
    let more ← readEmptyLines fuel column since line
    return { more with breaks := c :: more.breaks, widest := max widest more.widest }
  | _, _ => return ⟨[], widest, content⟩

/-- How the lines of a block are joined. -/
structure BlockLines where
  text : List Char
  /-- The break behind the last line. -/
  lastBreak : List Char
  /-- The breaks of the empty lines at the end. -/
  emptyLines : List Char
  rest : Cursor

/-- What stands for the break between two lines of a block. A folded one is a space, unless a
line begins with a blank or empty lines follow. -/
def joinLines (folded : Bool) (lastBreak emptyLines : List Char) : List Char :=
  if folded && lastBreak.head? == some '\n' then
    if emptyLines.isEmpty then [' '] else emptyLines
  else lastBreak ++ emptyLines

/-- Reads the lines of a block that begin at a column, behind those that are read already. -/
def readBlockLines (fuel : Nat) (literal : Bool) (column : Nat) (since : Mark)
    (blankBefore : Bool) (before : BlockLines) : Except Fault BlockLines := do
  let cursor := before.rest
  match fuel with
  | 0 => return before
  | fuel + 1 =>
    if cursor.mark.column != column || cursor.atEnd then return before
    let blank := cursor.at? isBlank
    let folded := !literal && !blankBefore && !blank
    let between := joinLines folded before.lastBreak before.emptyLines
    let (line, after) := cursor.spanWhile (!isBreak ·)
    let (lastBreak, after) := match after.lineBreak? with
      | some (c, next) => ([c], next)
      | none => ([], after)
    let empty ← readEmptyLines after.rest.length (some column) since after
    readBlockLines fuel literal column since blank
      ⟨before.text ++ between ++ line, lastBreak, empty.breaks, empty.rest⟩

/-- A block scalar, with the cursor on the mark before it, in a block of some indentation. -/
def blockScalar (literal : Bool) (indent : Int) (cursor : Cursor) :
    Except Fault (List Char × Cursor) := do
  let since := cursor.mark
  let (header, rest) ← readBlockHeader since (cursor.skip 1)
  let rest := (rest.skipWhile isBlank).skipComment
  if !rest.atOrEnd isBreak then rest.fail .lineEnd .blockScalar since
  let body := rest.skipBreak
  let known := header.indentation.map fun width => (max indent 0).toNat + width
  let empty ← readEmptyLines body.rest.length known since body
  let column := known.getD (max empty.widest (max (indent + 1) 1).toNat)
  let lines ← readBlockLines (body.rest.length + 1) literal column since false
    ⟨[], [], empty.breaks, empty.rest⟩
  let tail := match header.chomping with
    | .strip => []
    | .clip => lines.lastBreak
    | .keep => lines.lastBreak ++ lines.emptyLines
  return (lines.text ++ tail, lines.rest)

end DeviceEnrollment.Yaml
