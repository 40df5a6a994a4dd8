import DeviceEnrollment.Time.Duration

/-!
Why there is no response to a request.
-/
namespace DeviceEnrollment.Http

/-- What is wrong with a request target. -/
inductive TargetFault where
  | unreadable
  | noAuthority
  | noScheme
deriving DecidableEq, Repr

inductive Failure where
  /-- A header of every request is no header value. -/
  | invalidHeaderValue
  /-- No whole response arrived in time. -/
  | timeout (limit : Time.Duration)
  | transport (reason : String)
  | tls (reason : String)
  | bodyTooLarge (limit actual : Nat)
  /-- Nothing was sent, as too many requests are under way. -/
  | overloaded
  | serviceClosed
  | invalidTarget (url : String) (fault : TargetFault) (reason : String)
  | invalidScheme (scheme reason : String)
deriving DecidableEq, Repr

namespace Failure

def message : Failure → String
  | invalidHeaderValue => "invalid header value: failed to parse header value"
  | timeout limit => s!"no response within {limit.text}"
  | transport reason => s!"transport failure: {reason}"
  | tls reason => s!"TLS setup failed: {reason}"
  | bodyTooLarge limit actual => s!"response body exceeds {limit} bytes (read {actual})"
  | overloaded => "client overloaded, request not sent"
  | serviceClosed => "request worker closed"
  | invalidTarget url _ reason => s!"invalid URL '{url}': {reason}"
  | invalidScheme scheme reason => s!"scheme '{scheme}' rejected: {reason}"

def isTimeout : Failure → Bool
  | timeout _ => true
  | _ => false

end Failure

end DeviceEnrollment.Http
