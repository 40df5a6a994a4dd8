import DeviceEnrollment.Yaml.Cursor

/-!
The marks and texts that a YAML document is made of. Those that only indentation shows, such as
the end of a block, are tokens too.
-/
namespace DeviceEnrollment.Yaml

inductive ScalarStyle where
  | plain
  | quoted
  | block
deriving DecidableEq, Repr

inductive TokenKind where
  | streamStart
  | streamEnd
  | version (major minor : Nat)
  | tagDirective (handle lead : List Char)
  | documentStart
  | documentEnd
  | blockSequenceStart
  | blockMappingStart
  | blockEnd
  | flowSequenceStart
  | flowSequenceEnd
  | flowMappingStart
  | flowMappingEnd
  | blockEntry
  | flowEntry
  | key
  | value
  | reference (name : List Char)
  | anchor (name : List Char)
  | tag (handle rest : List Char)
  | scalar (text : List Char) (style : ScalarStyle)
deriving DecidableEq, Repr

/-- A token and where it begins. -/
structure Token where
  kind : TokenKind
  mark : Mark
deriving DecidableEq, Repr

end DeviceEnrollment.Yaml
