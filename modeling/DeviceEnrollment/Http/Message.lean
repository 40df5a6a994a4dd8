import DeviceEnrollment.Http.Header
import DeviceEnrollment.Http.Status

/-!
Request methods and whole responses.
-/
namespace DeviceEnrollment.Http

inductive Method where
  | get
  | put
  | post
  | delete
  | other (name : String)
deriving DecidableEq, Repr

def Method.text : Method → String
  | get => "GET"
  | put => "PUT"
  | post => "POST"
  | delete => "DELETE"
  | other name => name

structure Response where
  status : Status
  headers : HeaderMap
  body : Bytes
deriving DecidableEq, Repr

/-- The first value of a header as text, the name given in any letter case. -/
def Response.headerText? (response : Response) (name : String) : Option String :=
  HeaderName.ofText? name >>= response.headers.text?

end DeviceEnrollment.Http
