import DeviceEnrollment.Text.Printable

/-!
Texts between double quotes, as diagnostics show them: quotes, backslashes and the common
controls behind a backslash, and everything that has no printed form of its own by its code
point.
-/
namespace DeviceEnrollment.Text

def escapedPoint (c : Char) : List Char :=
  ['\\', 'u', '\x7b'] ++ Nat.toDigits 16 c.toNat ++ ['\x7d']

def quotedChar (c : Char) : List Char :=
  match c with
  | '\x00' => ['\\', '0']
  | '\t' => ['\\', 't']
  | '\r' => ['\\', 'r']
  | '\n' => ['\\', 'n']
  | '\\' => ['\\', '\\']
  | '"' => ['\\', '"']
  | other => if isExtending other || !isPrintable other then escapedPoint other else [other]

def quoted (text : String) : String :=
  String.ofList ('"' :: text.toList.flatMap quotedChar ++ ['"'])

/-- An optional part of a diagnostic. -/
def optional (inner : Option String) : String :=
  match inner with
  | none => "None"
  | some text => "Some(" ++ text ++ ")"

end DeviceEnrollment.Text
