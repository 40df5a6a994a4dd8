import DeviceEnrollment.Http.Executor
import DeviceEnrollment.Registry.Endpoint
import DeviceEnrollment.Settings

/-!
The registry over the web: requests find the address of their resource, get the headers that the
service wants, and go through the executor.
-/
namespace DeviceEnrollment.Registry

structure WebTransport where
  service : Service
  executor : Http.Executor
deriving DecidableEq, Repr

namespace WebTransport

/-- What the client understands. -/
def accept : Http.Injection := ⟨.accept, .ofVisible "application/json"⟩

/-- What the body of a request is. -/
def contentType : Http.Injection :=
  ⟨.contentType, .ofVisible "application/json; charset=utf-8"⟩

/-- The headers of a request with those that the service wants. -/
def describe (headers : Http.HeaderMap) (body : Bytes) : Http.HeaderMap :=
  let accepting := accept.fill headers
  if body.isEmpty then accepting else contentType.fill accepting

/-- The request that goes to an address. -/
def outgoing (request : Request) (url : Url.WebUrl) : Http.Executor.Outgoing :=
  ⟨request.method, url.text, describe request.headers request.body, request.body⟩

def send (web : WebTransport) (network : Http.Network) (request : Request) :
    Sent Http.Network :=
  match web.service.urlFor request.segments with
  | .error failure => ⟨[], .error failure, network⟩
  | .ok url =>
    let executed := web.executor.execute network (outgoing request url)
    let answer : Answer := match executed.result with
      | .ok response => .ok response
      | .error failure => .error (.ofFailure failure)
    ⟨.dispatching request.method url.text :: executed.events, answer, executed.network⟩

def transport (web : WebTransport) : Transport Http.Network where
  send := web.send
  responsesLeft network := network.answers.length
  responsesLeft_lt network request response got := by
    unfold send at got ⊢
    split at got
    · simp at got
    · next url found =>
      cases executed : (web.executor.execute network (outgoing request url)).result with
      | error failure => simp [executed] at got
      | ok answer =>
        have fewer := Http.Executor.answers_execute_lt executed
        simpa only using fewer

/-! ### From settings -/

/-- A failure to build the executor. Headers that are none are the caller's fault. -/
def buildError : Http.Failure → RegistryError
  | .invalidHeaderValue => .validation (.badClientConfiguration .invalidHeaderValue)
  | failure => .transport (.ofFailure failure)

/-- The transport that settings describe, given what building its executor comes to. An endpoint that
cannot be used is found before that. -/
def ofBuilt (settings : Settings) (built : Except Http.Failure Http.Executor) :
    Settled (Outcome WebTransport) :=
  match parseEndpoint settings.endpoint with
  | .error fault => ⟨[], .error (.validation fault)⟩
  | .ok endpoint =>
    ⟨Http.Executor.buildEvents settings.executor,
      match built with
      | .error failure => .error (buildError failure)
      | .ok executor => .ok ⟨⟨endpoint, settings.apiVersion⟩, executor⟩⟩

/-- The transport that settings describe, once TLS is set up. -/
def ofSettings (settings : Settings) : Settled (Outcome WebTransport) :=
  ofBuilt settings (Http.Executor.build settings.executor settings.credential)

/-- The transport that settings describe on a machine. -/
def ofSettingsOn (store : Http.TrustStore) (settings : Settings) : Settled (Outcome WebTransport) :=
  ofBuilt settings (Http.Executor.buildOn store settings.executor settings.credential)

end WebTransport

/-- What a client of the registry is shown as. -/
def clientText : String := "EnrollmentRegistryClient \x7b .. \x7d"

end DeviceEnrollment.Registry
