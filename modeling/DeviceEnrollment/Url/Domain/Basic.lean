import DeviceEnrollment.Bytes
import DeviceEnrollment.Url.Domain.Label
import DeviceEnrollment.Url.Domain.Mapping
import DeviceEnrollment.Url.Domain.Punycode
import DeviceEnrollment.Url.Error

/-!
Domain names of any script in the form that hosts have in a URL, which is ASCII.
-/
namespace DeviceEnrollment.Url.Domain

open DeviceEnrollment.Text

/-- What shows that a label is written in digits of base 36. -/
def codeMark : List Char := "xn--".toList

/-- The characters of ASCII that no host has. -/
def isForbidden (c : Char) : Bool :=
  c.toNat ≤ 0x20 || c.toNat == 0x7F || "%#/:<>?@[\\]^|".toList.contains c

def isAscii (c : Char) : Bool := c.toNat < 0x80

/-- Longer labels are not written in digits. -/
def greatestWritten : Nat := 1000

/-- Longer codes are not read. -/
def greatestCode : Nat := 2000

/-- A label in its own script. -/
structure Label where
  script : List Char
  /-- The label as it was, if it was written in ASCII. -/
  ascii : Option (List Char)

namespace Label

/-- Reads a label. A code has to stand for a text with a character beyond ASCII, all of whose
characters are as they would be written. -/
def read? (label : List Char) : Option Label :=
  if label.take 4 == codeMark then do
    let code := label.drop 4
    if code.isEmpty || code.getLast? == some '-' || code.length > greatestCode then none
    let script ← Punycode.decode? code
    if script.all isKept && composed script == script && isWellFormed script then
      return ⟨script, some label⟩
    else none
  else if label.all isAscii then some ⟨label, some label⟩
  else if isWellFormed label then some ⟨label, none⟩
  else none

def write? (label : Label) : Option (List Char) :=
  match label.ascii with
  | some text => some text
  | none =>
    if label.script.length > greatestWritten then none
    else some (codeMark ++ Punycode.encode label.script)

end Label

/-- The labels of a text of any script, each written in ASCII. -/
def translate? (text : List Char) : Option (List Char) := do
  let mapped ← text.mapM mapCharacter?
  let labels ← (partsAt '.' (composed mapped.flatten)).mapM Label.read?
  if labels.any (fun label => label.script.any isRightToLeft) &&
      !labels.all (fun label => keepsDirection label.script) then none
  let written ← labels.mapM Label.write?
  return ['.'].intercalate written

/-- Whether a text is its own translation but for its capital letters: it is ASCII, and none of
its labels is a code. -/
def isPlain (text : List Char) : Bool :=
  text.all isAscii &&
    !(partsAt '.' (text.map Char.toLower)).any fun label => label.take 4 == codeMark

/-- The name in ASCII, if all its characters and labels may be. -/
def ofText? (text : List Char) : Option (List Char) :=
  (if isPlain text then some (text.map Char.toLower) else translate? text).filter
    (·.all fun c => isAscii c && !isForbidden c)

/-- The name that bytes write. -/
def ofBytes (bytes : Bytes) : Except UrlError (List Char) :=
  match Bytes.toText? bytes >>= fun text => ofText? text.toList with
  | some name => .ok name
  | none => .error .invalidDomain

end DeviceEnrollment.Url.Domain
