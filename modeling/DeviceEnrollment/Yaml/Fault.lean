import DeviceEnrollment.Text.Digits

/-!
What makes a YAML text unreadable, and where.
-/
namespace DeviceEnrollment.Yaml

/-- A place in a text: the characters before it, and its line and column, all from zero. -/
structure Mark where
  index : Nat
  line : Nat
  column : Nat
deriving DecidableEq, Repr

namespace Mark

def start : Mark := ⟨0, 0, 0⟩

/-- Whether a mark stands in the first column of the first line. -/
def isFirst (mark : Mark) : Bool := mark.line == 0 && mark.column == 0

def text (mark : Mark) : String := s!"line {mark.line + 1} column {mark.column + 1}"

/-- A mark at the end of a message, where the very first one is left out. -/
def suffix (mark : Mark) : String := if mark.isFirst then "" else " at " ++ mark.text

end Mark

/-- What is being read when something goes wrong. -/
inductive Activity where
  | nextToken
  | simpleKey
  | directive
  | versionDirective
  | tagDirectiveMark
  | tagDirectiveHandle
  | tagDirective
  | anchor
  | reference
  | tag
  | tagText
  | tagDirectiveText
  | blockScalar
  | quotedScalar
  | escape
  | plainScalar
  | node
  | blockNode
  | flowNode
  | blockSequence
  | blockMapping
  | flowSequence
  | flowMapping
deriving DecidableEq, Repr

def Activity.text : Activity → String
  | nextToken => "while scanning for the next token"
  | simpleKey => "while scanning a simple key"
  | directive => "while scanning a directive"
  | versionDirective => "while scanning a %YAML directive"
  | tagDirectiveMark => "while scanning a tag directive"
  | tagDirectiveHandle => "while parsing a tag directive"
  | tagDirective => "while scanning a %TAG directive"
  | anchor => "while scanning an anchor"
  | reference => "while scanning an alias"
  | tag => "while scanning a tag"
  | tagText => "while parsing a tag"
  | tagDirectiveText => "while parsing a %TAG directive"
  | blockScalar => "while scanning a block scalar"
  | quotedScalar => "while scanning a quoted scalar"
  | escape => "while parsing a quoted scalar"
  | plainScalar => "while scanning a plain scalar"
  | node => "while parsing a node"
  | blockNode => "while parsing a block node"
  | flowNode => "while parsing a flow node"
  | blockSequence => "while parsing a block collection"
  | blockMapping => "while parsing a block mapping"
  | flowSequence => "while parsing a flow sequence"
  | flowMapping => "while parsing a flow mapping"

inductive Problem where
  | strayCharacter
  | entryNotAllowed
  | keyNotAllowed
  | valueNotAllowed
  | keyWithoutColon
  | directiveName
  | directiveNameEnd
  | unknownDirective
  | lineEnd
  | longVersion
  | versionNumber
  | versionPoint
  | blank
  | blankOrLineEnd
  | anchorName
  | verbatimTagEnd
  | tagMark
  | tagText
  | escapedOctet
  | leadingOctet
  | trailingOctet
  | zeroIndentation
  | tabForIndentation
  | documentMarkInQuotes
  | endInQuotes
  | unknownEscape
  | escapeDigits
  | escapedPoint
  | colonInPlainScalar
  | tabBeforePlainScalar
  | documentStart
  | repeatedVersion
  | foreignVersion
  | repeatedTagHandle
  | undefinedTagHandle
  | nodeContent
  | sequenceEntry
  | mappingKey
  | flowSequenceEnd
  | flowMappingEnd
deriving DecidableEq, Repr

def Problem.text : Problem → String
  | strayCharacter => "found character that cannot start any token"
  | entryNotAllowed => "block sequence entries are not allowed in this context"
  | keyNotAllowed => "mapping keys are not allowed in this context"
  | valueNotAllowed => "mapping values are not allowed in this context"
  | keyWithoutColon => "could not find expected ':'"
  | directiveName => "could not find expected directive name"
  | directiveNameEnd => "found unexpected non-alphabetical character"
  | unknownDirective => "found unknown directive name"
  | lineEnd => "did not find expected comment or line break"
  | longVersion => "found extremely long version number"
  | versionNumber => "did not find expected version number"
  | versionPoint => "did not find expected digit or '.' character"
  | blank => "did not find expected whitespace"
  | blankOrLineEnd => "did not find expected whitespace or line break"
  | anchorName => "did not find expected alphabetic or numeric character"
  | verbatimTagEnd => "did not find the expected '>'"
  | tagMark => "did not find expected '!'"
  | tagText => "did not find expected tag URI"
  | escapedOctet => "did not find URI escaped octet"
  | leadingOctet => "found an incorrect leading UTF-8 octet"
  | trailingOctet => "found an incorrect trailing UTF-8 octet"
  | zeroIndentation => "found an indentation indicator equal to 0"
  | tabForIndentation => "found a tab character where an indentation space is expected"
  | documentMarkInQuotes => "found unexpected document indicator"
  | endInQuotes => "found unexpected end of stream"
  | unknownEscape => "found unknown escape character"
  | escapeDigits => "did not find expected hexdecimal number"
  | escapedPoint => "found invalid Unicode character escape code"
  | colonInPlainScalar => "found unexpected ':'"
  | tabBeforePlainScalar => "found a tab character that violates indentation"
  | documentStart => "did not find expected <document start>"
  | repeatedVersion => "found duplicate %YAML directive"
  | foreignVersion => "found incompatible YAML document"
  | repeatedTagHandle => "found duplicate %TAG directive"
  | undefinedTagHandle => "found undefined tag handle"
  | nodeContent => "did not find expected node content"
  | sequenceEntry => "did not find expected '-' indicator"
  | mappingKey => "did not find expected key"
  | flowSequenceEnd => "did not find expected ',' or ']'"
  | flowMappingEnd => "did not find expected ',' or '\x7d'"

/-- A character that may not occur at all, by the bytes before it, or a problem and what was
being read, from where. -/
inductive Fault where
  | control (offset : Nat)
  | at (problem : Problem) (mark : Mark) (context : Option (Activity × Mark))
deriving DecidableEq, Repr

namespace Fault

/-- A place of its own is named for the activity only where it differs from the problem's. -/
def contextText (mark : Mark) (activity : Activity) (since : Mark) : String :=
  let same := since.line = mark.line && since.column = mark.column
  ", " ++ activity.text ++ if same then "" else since.suffix

def message : Fault → String
  | control offset =>
    "control characters are not allowed" ++ if offset = 0 then "" else s!" at position {offset}"
  | .at problem mark none => problem.text ++ mark.suffix
  | .at problem mark (some (activity, since)) =>
    problem.text ++ mark.suffix ++ contextText mark activity since

end Fault

end DeviceEnrollment.Yaml
