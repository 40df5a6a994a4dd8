import DeviceEnrollment.Http.Failure
import DeviceEnrollment.Http.RetryAfter
import DeviceEnrollment.Http.Status
import DeviceEnrollment.Json.Decode
import DeviceEnrollment.Url.Error

/-!
How calls to the registry fail. A bad argument is found before anything is sent; everything else
is what the transport or the service reported, and the call is over with it.
-/
namespace DeviceEnrollment.Registry

/-- What is wrong with an argument of a caller. -/
inductive InvalidArgument where
  | emptyRegistrationId
  | unaddressableId (id : String)
  | etagNotHeader
  | emptyBatch
  | emptyIdAt (index : Nat)
  | repeatedId (id : String)
  | emptyQuery
  | negativePageSize (size : Int)
  | emptyEndpoint
  | badEndpoint (endpoint : String) (error : Url.UrlError)
  | foreignEndpoint (endpoint : String)
  | badClientConfiguration (failure : Http.Failure)
  /-- A fault that a caller states in its own words. -/
  | stated (message : String)
deriving DecidableEq, Repr

def InvalidArgument.message : InvalidArgument → String
  | emptyRegistrationId => "registration id must not be empty"
  | unaddressableId id => s!"registration id '{id}' cannot be used as a path segment"
  | etagNotHeader => "etag is not a valid header value"
  | emptyBatch => "bulk operation requires at least one enrollment"
  | emptyIdAt index => s!"enrollment at index {index} has an empty registration id"
  | repeatedId id => s!"registration id '{id}' appears more than once in the batch"
  | emptyQuery => "query specification must not be empty"
  | negativePageSize size => s!"page size must not be negative, got {size}"
  | emptyEndpoint => "service endpoint must not be empty"
  | badEndpoint endpoint error => s!"invalid service endpoint '{endpoint}': {error.message}"
  | foreignEndpoint endpoint =>
    s!"service endpoint '{endpoint}' must be an absolute http(s) URL"
  | badClientConfiguration failure => s!"invalid client configuration: {failure.message}"
  | stated message => message

/-- What a response was to carry. -/
inductive BodyKind where
  | enrollment
  | queryPage
  | bulkResult
deriving DecidableEq, Repr

def BodyKind.name : BodyKind → String
  | enrollment => "enrollment"
  | queryPage => "query page"
  | bulkResult => "bulk result"

/-- How a response of success fails to be what it should be. -/
inductive ProtocolFault where
  | missingBody (kind : BodyKind)
  | malformed (kind : BodyKind) (error : Json.DecodeError)
  | emptyRegistrationId
  | missingVerdict
  | unexplainedFailure
  | tokenNotHeader
  | stated (message : String)
deriving DecidableEq, Repr

def ProtocolFault.message : ProtocolFault → String
  | missingBody kind => s!"response carried no {kind.name} body"
  | malformed kind error => s!"malformed {kind.name}: {error.message}"
  | emptyRegistrationId => "enrollment in response has an empty registrationId"
  | missingVerdict => "bulk result is missing isSuccessful"
  | unexplainedFailure => "bulk result reports failure but carries no per-item errors"
  | tokenNotHeader => "continuation token is not a valid header value"
  | stated message => message

/-- The transport got no response. -/
structure TransportFailure where
  message : String
  timeout : Bool
  /-- The cause below, in its own words. -/
  source : Option String
deriving DecidableEq, Repr

namespace TransportFailure

def text (failure : TransportFailure) : String := s!"transport failure: {failure.message}"

def ofText (message : String) : TransportFailure := ⟨message, false, none⟩

/-- The failure of the executor below. -/
def ofFailure (failure : Http.Failure) : TransportFailure :=
  ⟨failure.message, failure.isTimeout, some failure.message⟩

end TransportFailure

/-! ### Answers of the service that report failure -/

inductive ServiceErrorKind where
  | badRequest
  | unauthorized
  | notFound
  /-- The version of the record is another one, or its state is in the way. -/
  | conflict
  | throttled
  | serverError
  | other
deriving DecidableEq, Repr

def ServiceErrorKind.ofCode (code : Nat) : ServiceErrorKind :=
  if code = 400 then badRequest
  else if code = 401 then unauthorized
  else if code = 404 then notFound
  else if code = 409 ∨ code = 412 then conflict
  else if code = 429 then throttled
  else if 500 ≤ code ∧ code ≤ 599 then serverError
  else other

structure ServiceError where
  status : Http.Status
  code : Option String
  message : String
  /-- What the service wants to be told about this answer. -/
  trackingId : Option String
  retryAfter : Option Http.RetryHint
deriving DecidableEq, Repr

namespace ServiceError

def kind (error : ServiceError) : ServiceErrorKind := .ofCode error.status.code

def text (error : ServiceError) : String :=
  s!"service returned {error.status.line}: {error.message}"

def isRetryable (error : ServiceError) : Bool :=
  error.kind = .throttled || error.kind = .serverError

end ServiceError

/-! ### All failures -/

inductive RegistryError where
  | validation (argument : InvalidArgument)
  | transport (failure : TransportFailure)
  | service (error : ServiceError)
  | protocol (fault : ProtocolFault)
  /-- The last page was already returned. -/
  | exhausted
deriving DecidableEq, Repr

namespace RegistryError

def message : RegistryError → String
  | validation argument => s!"invalid argument: {argument.message}"
  | transport failure => failure.text
  | service error => error.text
  | protocol fault => s!"protocol violation: {fault.message}"
  | exhausted => "query is exhausted; create a new query to start over"

def isValidation : RegistryError → Bool
  | validation _ => true
  | _ => false

/-- Whether the service answered with a status of a kind. -/
def hasKind (kind : ServiceErrorKind) : RegistryError → Bool
  | service error => error.kind = kind
  | _ => false

def isNotFound (error : RegistryError) : Bool := error.hasKind .notFound
def isConflict (error : RegistryError) : Bool := error.hasKind .conflict
def isThrottled (error : RegistryError) : Bool := error.hasKind .throttled

/-- Whether the same call may go well later. A conflict does not, as the record has to be read
again first. -/
def isRetryable : RegistryError → Bool
  | transport _ => true
  | service error => error.isRetryable
  | _ => false

end RegistryError

/-- What a call comes to. -/
abbrev Outcome := Except RegistryError

end DeviceEnrollment.Registry
