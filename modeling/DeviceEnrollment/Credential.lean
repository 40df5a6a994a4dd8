import DeviceEnrollment.Text.Blank

/-!
The credential of a client: the whole value of an authorization header, shown to nobody.
-/
namespace DeviceEnrollment

structure Credential where
  /-- The value itself, for the header alone. -/
  exposed : String
deriving DecidableEq

namespace Credential

/-- What a credential is shown as. -/
def text (_ : Credential) : String := "[REDACTED]"

/-- Whether the value is nothing but blanks. -/
def isEmpty (credential : Credential) : Bool := Text.isAllBlank credential.exposed

/-- What is left once a credential is given up. -/
def wiped (_ : Credential) : Credential := ⟨""⟩

end Credential

end DeviceEnrollment
