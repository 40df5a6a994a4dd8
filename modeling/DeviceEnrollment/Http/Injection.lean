import DeviceEnrollment.Credential
import DeviceEnrollment.Http.Failure
import DeviceEnrollment.Http.Header

/-!
Headers that every request gets unless it has them already.
-/
namespace DeviceEnrollment.Http

/-- A value that is filled in for a header that a request lacks. -/
structure Injection where
  name : HeaderName
  value : HeaderValue
deriving DecidableEq, Repr

namespace Injection

def fill (injection : Injection) (headers : HeaderMap) : HeaderMap :=
  headers.insertNew injection.name injection.value

/-- The name of the client. -/
def ofUserAgent (userAgent : String) : Except Failure Injection :=
  match HeaderValue.ofText? userAgent with
  | some value => .ok ⟨.userAgent, value⟩
  | none => .error .invalidHeaderValue

/-- The credential, which diagnostics never show. -/
def ofCredential (credential : Credential) : Except Failure Injection :=
  match HeaderValue.ofText? credential.exposed with
  | some value => .ok ⟨.authorization, { value with sensitive := true }⟩
  | none => .error .invalidHeaderValue

/-- What the injection of a credential is shown as. -/
def credentialText : String := "CredentialLayer \x7b .. \x7d"

end Injection

end DeviceEnrollment.Http
