import DeviceEnrollment.Enrollment.Basic
import DeviceEnrollment.Http.Message
import DeviceEnrollment.Text.Digits

/-!
What happens during calls, for a log. Every event has a level, a message and named values.
-/
namespace DeviceEnrollment

inductive Level where
  | trace
  | debug
  | warn
  | error
deriving DecidableEq, Repr

def Level.name : Level → String
  | trace => "trace"
  | debug => "debug"
  | warn => "warn"
  | error => "error"

/-- The calls that make requests. -/
inductive Operation where
  | createOrUpdate
  | get
  | delete
  | bulk
  | query
deriving DecidableEq, Repr

def Operation.name : Operation → String
  | createOrUpdate => "create_or_update"
  | get => "get"
  | delete => "delete"
  | bulk => "bulk_operation"
  | query => "query"

/-- What a request is logged as. -/
structure RequestLabel where
  operation : Operation
  method : Http.Method
  path : String
deriving DecidableEq, Repr

inductive Event where
  /-- Requests may travel unencrypted. -/
  | insecureAllowed
  | dispatching (method : Http.Method) (url : String)
  | workerClosed (reason : String)
  | responseReceived (request : RequestLabel) (status : Nat)
  | requestFailed (request : RequestLabel) (error : String)
  | bulkCompleted (mode : BulkMode) (items failed : Nat) (isSuccessful : Bool)
  /-- The service reported on an id that was not in the batch. -/
  | errorDropped (registrationId : String)
  | pageReceived (items : Nat) (lastPage : Bool)
deriving DecidableEq, Repr

namespace Event

def level : Event → Level
  | dispatching .. => .trace
  | insecureAllowed | errorDropped _ => .warn
  | workerClosed _ => .error
  | _ => .debug

def message : Event → String
  | insecureAllowed =>
    "insecure HTTP enabled; registry traffic and credentials will not be encrypted"
  | dispatching .. => "dispatching registry request"
  | workerClosed _ => "request buffer worker closed unexpectedly"
  | responseReceived .. => "registry response"
  | requestFailed .. => "registry request failed"
  | bulkCompleted .. => "bulk operation completed"
  | errorDropped _ => "dropping bulk error for an id that was not submitted"
  | pageReceived .. => "query page received"

def labelFields (request : RequestLabel) : List (String × String) :=
  [("operation", request.operation.name), ("method", request.method.text), ("path", request.path)]

def boolText (value : Bool) : String := if value then "true" else "false"

def fields : Event → List (String × String)
  | insecureAllowed => []
  | dispatching method url => [("method", method.text), ("url", url)]
  | workerClosed reason => [("error", reason)]
  | responseReceived request status => labelFields request ++ [("status", Text.numberText status)]
  | requestFailed request error => labelFields request ++ [("error", error)]
  | bulkCompleted mode items failed isSuccessful =>
    [("mode", mode.name), ("items", Text.numberText items), ("failed", Text.numberText failed),
      ("is_successful", boolText isSuccessful)]
  | errorDropped registrationId => [("registration_id", registrationId)]
  | pageReceived items lastPage =>
    [("items", Text.numberText items), ("last_page", boolText lastPage)]

end Event

end DeviceEnrollment
