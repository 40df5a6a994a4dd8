/-!
The ways in which a text fails to be a JSON document, and their wording.
-/
namespace DeviceEnrollment.Json

inductive Fault where
  | endOfList
  /-- The text ends inside `null`, `true` or `false`. -/
  | endOfLiteral
  | endOfObject
  | endOfText
  | endOfValue
  /-- The text ends where the key after a comma is due. -/
  | endOfKey
  | expectedColon
  | expectedListComma
  | expectedObjectComma
  | expectedLiteral
  | expectedValue
  | badEscape
  | badNumber
  /-- The text ends where a digit is due. -/
  | endOfNumber
  | numberTooLarge
  | badCodePoint
  | controlCharacter
  | keyNotText
  | loneSurrogate
  | unpairedEscape
  | listTrailingComma
  | objectTrailingComma
  | trailingCharacters
  | tooDeep
deriving DecidableEq, Repr

namespace Fault

def message : Fault → String
  | endOfList => "EOF while parsing a list"
  | endOfObject => "EOF while parsing an object"
  | endOfText => "EOF while parsing a string"
  | endOfValue | endOfKey | endOfLiteral | endOfNumber => "EOF while parsing a value"
  | expectedColon => "expected `:`"
  | expectedListComma => "expected `,` or `]`"
  | expectedObjectComma => "expected `,` or `\x7d`"
  | expectedLiteral => "expected ident"
  | expectedValue => "expected value"
  | badEscape => "invalid escape"
  | badNumber => "invalid number"
  | numberTooLarge => "number out of range"
  | badCodePoint => "invalid unicode code point"
  | controlCharacter => "control character (\\u0000-\\u001F) found while parsing a string"
  | keyNotText => "key must be a string"
  | loneSurrogate => "lone leading surrogate in hex escape"
  | unpairedEscape => "unexpected end of hex escape"
  | listTrailingComma | objectTrailingComma => "trailing comma"
  | trailingCharacters => "trailing characters"
  | tooDeep => "recursion limit exceeded"

/-- The fault as it is reported inside a value that nobody reads: there a number needs no
look-ahead, and after a comma the next element or key is expected without further ado. -/
def skipped : Fault → Fault
  | endOfKey => endOfObject
  | endOfNumber => badNumber
  | listTrailingComma => expectedValue
  | objectTrailingComma => keyNotText
  | other => other

end Fault

end DeviceEnrollment.Json
