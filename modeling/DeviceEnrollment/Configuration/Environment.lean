import DeviceEnrollment.Configuration.Error
import DeviceEnrollment.Number.Limits
import DeviceEnrollment.Number.Reading
import DeviceEnrollment.Text.Blank
import DeviceEnrollment.Text.Digits
import DeviceEnrollment.Text.Parts

/-!
Settings from environment variables. A value is read as a truth value, a number, a quoted text or
letter, a list or a table if the whole of it can be, and as plain text otherwise.
-/
namespace DeviceEnrollment.Configuration

open Number

/-! ### Values -/

def isGap (c : Char) : Bool := c == ' ' || c == '\t' || c == '\n' || c == '\x0c' || c == '\r'

def skipGap (text : List Char) : List Char := text.dropWhile isGap

def isSeparator (c : Char) : Bool := ",\x7b\x7d[]".toList.contains c

def isNameChar (c : Char) : Bool := c.isAlphanum || c == '_' || c == '-'

/-- Digits of a number below a limit. -/
def digitsBelow? (limit : Nat) (digits : List Char) : Option Nat :=
  if !digits.isEmpty && digits.all Char.isDigit && Text.decimalValue digits < limit then
    some (Text.decimalValue digits)
  else none

def unsigned? (text : List Char) : Option Nat :=
  match text with
  | '+' :: digits => digitsBelow? twoTo64 digits
  | digits => digitsBelow? twoTo64 digits

def signed? (text : List Char) : Option Int :=
  match text with
  | '-' :: digits => (digitsBelow? (twoTo63 + 1) digits).map fun value => -(value : Int)
  | _ => none

/-- A word without separators. Only numbers with a point are doubles. -/
def wordSetting (word : List Char) : Setting :=
  let decimal := if word.contains '.' then double? word else none
  match decimal, unsigned? word, signed? word with
  | some value, _, _ => .double .environment value
  | none, some value, _ => .unsigned .environment value
  | none, none, some value => .signed .environment value
  | none, none, none => .text .environment (String.ofList word)

/-- The character that hexadecimal digits stand for. -/
def codePoint? (digits : List Char) : Option Char := do
  let point ← Text.numberIn? 16 digits
  if point.isValidChar then some (Char.ofNat point) else none

/-- The character that a letter behind a backslash stands for. -/
def escapedChar? : Char → Option Char
  | '"' => some '"'
  | '\\' => some '\\'
  | '\'' => some '\''
  | 'b' => some '\x08'
  | 'f' => some '\x0c'
  | 'n' => some '\n'
  | 'r' => some '\r'
  | 't' => some '\t'
  | _ => none

def isPlainInQuotes (c : Char) : Bool := c == '\t' || (c.toNat ≥ 0x20 && c.toNat != 0x7F)

/-- The rest of a quoted text, and what follows it. -/
def quotedRest? (fuel : Nat) (text : List Char) : Option (List Char × List Char) :=
  match fuel, text with
  | 0, _ | _, [] => none
  | _ + 1, '"' :: rest => some ([], rest)
  | fuel + 1, '\\' :: mark :: rest => do
    let width := if mark = 'u' then 4 else if mark = 'U' then 8 else 0
    let c ← if width = 0 then escapedChar? mark
      else if rest.length < width then none
      else codePoint? (rest.take width)
    let (text, rest) ← quotedRest? fuel (rest.drop width)
    return (c :: text, rest)
  | fuel + 1, c :: rest => do
    if !isPlainInQuotes c then none
    let (text, rest) ← quotedRest? fuel rest
    return (c :: text, rest)

/-- A name, and what follows it. -/
def name? (text : List Char) : Option (List Char × List Char) :=
  match text with
  | '"' :: rest => quotedRest? (rest.length + 1) rest
  | text =>
    let name := text.takeWhile isNameChar
    if name.isEmpty then none else some (name, text.dropWhile isNameChar)

/-- Drops a word that a text begins with. -/
def afterWord? (word : String) (text : List Char) : Option (List Char) :=
  if word.toList.isPrefixOf text then some (text.drop word.length) else none

mutual

/-- Reads a value and the gaps around it. -/
def value? (fuel : Nat) (text : List Char) : Option (Setting × List Char) :=
  match fuel with
  | 0 => none
  | fuel + 1 => do
    let text := skipGap text
    let (value, rest) ←
      match afterWord? "true" text, afterWord? "false" text, text with
      | some rest, _, _ => some (Setting.bool .environment true, rest)
      | none, some rest, _ => some (.bool .environment false, rest)
      | none, none, '\x7b' :: rest => do
        let (entries, rest) ← entries? fuel rest
        some (.table .environment (Table.ofEntries entries), rest)
      | none, none, '[' :: rest => (elements? fuel rest).map fun rest => (.list .environment, rest)
      | none, none, '"' :: rest => do
        let (value, rest) ← quotedRest? (rest.length + 1) rest
        some (.text .environment (String.ofList value), rest)
      | none, none, '\'' :: rest =>
        match rest with
        | letter :: '\'' :: rest => some (.letter .environment letter, rest)
        | _ => none
      | none, none, text =>
        let word := text.takeWhile (!isSeparator ·)
        some (wordSetting (Text.trimWhere isGap word), text.dropWhile (!isSeparator ·))
    return (value, skipGap rest)

/-- Passes over the elements of a list and its closing bracket. -/
def elements? (fuel : Nat) (text : List Char) : Option (List Char) :=
  match fuel with
  | 0 => none
  | fuel + 1 =>
    match text with
    | ']' :: rest => some rest
    | text => do
      let (_, rest) ← value? fuel text
      match rest with
      | ',' :: rest => elements? fuel rest
      | ']' :: rest => return rest
      | _ => none

/-- Reads the entries of a table and its closing brace. -/
def entries? (fuel : Nat) (text : List Char) :
    Option (List (String × Setting) × List Char) :=
  match fuel with
  | 0 => none
  | fuel + 1 =>
    match text with
    | '\x7d' :: rest => some ([], rest)
    | text => do
      let (name, rest) ← name? (skipGap text)
      match skipGap rest with
      | '=' :: rest => do
        let (value, rest) ← value? fuel rest
        let entry := (String.ofList name, value)
        match rest with
        | ',' :: rest => do
          let (more, rest) ← entries? fuel rest
          return (entry :: more, rest)
        | '\x7d' :: rest => return ([entry], rest)
        | _ => none
      | _ => none

end

/-- The value of a variable. -/
def settingOfText (text : String) : Setting :=
  match value? (2 * text.length + 2) text.toList with
  | some (value, []) => value
  | _ => .text .environment text

/-! ### Variables -/

/-- The place that a variable sets, if it is one of ours. Points stand between names. -/
def variablePath? (name : String) : Option (List String) :=
  let letters := (Text.trim name).toList.map Char.toLower
  let mark := environmentMark.toList.map Char.toLower
  if mark.isPrefixOf letters then
    let names := (Text.partsAt '.' (letters.drop mark.length)).map String.ofList
    if names.any String.isEmpty then none else some names
  else none

/-- The table of all variables, the later ones above. -/
def environmentTable (entries : List (String × String)) : Table :=
  entries.foldl (fun table entry =>
    match variablePath? entry.1 with
    | none => table
    | some path =>
      match nested (settingOfText (Text.trim entry.2)) path with
      | .table _ entries => Table.over table entries
      | _ => table) []

end DeviceEnrollment.Configuration
