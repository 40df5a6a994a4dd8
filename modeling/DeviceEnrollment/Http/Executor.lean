import DeviceEnrollment.Event
import DeviceEnrollment.Http.Body
import DeviceEnrollment.Http.Injection
import DeviceEnrollment.Http.Settings
import DeviceEnrollment.Http.Target
import DeviceEnrollment.Http.Tls

/-!
The executor of requests: which addresses it accepts, what it adds to a request, how many requests
it takes up at once, and what it makes of the answer of the network.
-/
namespace DeviceEnrollment.Http

/-! ### The network -/

/-- A request as it is sent. -/
structure WireRequest where
  method : Method
  target : RequestTarget
  headers : HeaderMap
  body : Bytes
deriving DecidableEq, Repr

inductive WireAnswer where
  | response (status : Status) (headers : HeaderMap) (frames : List Frame)
  | failed (reason : String)
  /-- The time is over before the whole response is there. -/
  | late
deriving Repr

/-- The answers that servers are going to give, and the requests that they have received. -/
structure Network where
  answers : List WireAnswer
  received : List WireRequest

namespace Network

/-- Servers that do not let anyone connect. -/
def unreachable : Network := ⟨[], []⟩

def connectFailure : String := "client error (Connect)"

/-- Servers give their next answer. After the last one they cannot be reached any more. -/
def exchange (network : Network) (request : WireRequest) : WireAnswer × Network :=
  match network.answers with
  | [] => (.failed connectFailure, network)
  | answer :: rest => (answer, ⟨rest, network.received ++ [request]⟩)

end Network

/-! ### Building an executor -/

structure Executor where
  requestTimeout : Time.Duration
  maxBodySize : Nat
  security : TransportSecurity
  userAgent : Injection
  credential : Option Injection
  concurrencyLimit : Option ConcurrencyLimit
  bufferCapacity : Nat
  /-- Whether somebody still takes requests up. -/
  workerAlive : Bool
deriving DecidableEq, Repr

namespace Executor

/-- An executor with these settings, once TLS is set up. All requests carry the credential. -/
def build (settings : ExecutorSettings) (credential : Option Credential) :
    Except Failure Executor := do
  let userAgent ← Injection.ofUserAgent settings.userAgent
  let credential ← credential.mapM Injection.ofCredential
  return {
    requestTimeout := settings.requestTimeout
    maxBodySize := settings.maxBodySize
    security := settings.transport
    userAgent
    credential
    concurrencyLimit := settings.concurrencyLimit
    bufferCapacity := max settings.bufferCapacity 1
    workerAlive := true }

/-- An executor with these settings on a machine. TLS is set up before the headers are looked at. -/
def buildOn (store : TrustStore) (settings : ExecutorSettings) (credential : Option Credential) :
    Except Failure Executor :=
  match store.fault? settings.tlsRoots with
  | some reason => .error (.tls reason)
  | none => build settings credential

/-- What is logged before an executor is built. -/
def buildEvents (settings : ExecutorSettings) : List Event :=
  if settings.transport = .allowInsecureHttp then [.insecureAllowed] else []

/-- The executor when nobody takes requests up any more. -/
def abandoned (executor : Executor) : Executor := { executor with workerAlive := false }

/-- What an executor is shown as. -/
def text (executor : Executor) : String :=
  "HttpClient \x7b request_timeout: " ++ executor.requestTimeout.text ++ ", max_body_size: " ++
    Text.numberText executor.maxBodySize ++ ", transport_security: " ++ executor.security.name ++
    ", .. \x7d"

/-! ### Addresses -/

def onlyWebSchemes : String := "only http:// and https:// schemes are supported"

def tlsRequired : String := "HTTPS required (transport security is TlsOnly)"

/-- The target of an address with a host, on a scheme that may be used. -/
def target (security : TransportSecurity) (url : String) : Except Failure RequestTarget :=
  match RequestTarget.ofText url with
  | .error error => .error (.invalidTarget url .unreadable error.message)
  | .ok target =>
    if target.authority.isEmpty then
      .error (.invalidTarget url .noAuthority "missing host/authority")
    else
      match target.scheme with
      | none => .error (.invalidTarget url .noScheme "missing scheme")
      | some scheme =>
        if scheme = "https".toList then .ok target
        else if scheme = "http".toList then
          if security = .allowInsecureHttp then .ok target
          else .error (.invalidScheme "http" tlsRequired)
        else .error (.invalidScheme (String.ofList scheme) onlyWebSchemes)

/-! ### Requests -/

/-- A request as a caller gives it. -/
structure Outgoing where
  method : Method
  url : String
  headers : HeaderMap
  body : Bytes
deriving Repr

/-- The encodings that are understood. -/
def acceptEncoding : Injection := ⟨.acceptEncoding, .ofVisible "gzip,deflate,br"⟩

/-- The headers of a request with all that the executor fills in. -/
def dress (executor : Executor) (headers : HeaderMap) : HeaderMap :=
  let named := executor.userAgent.fill headers
  let authorized := match executor.credential with
    | none => named
    | some credential => credential.fill named
  acceptEncoding.fill authorized

/-- What the answer of the network amounts to. -/
def conclude (executor : Executor) : WireAnswer → Except Failure Response
  | .failed reason => .error (.transport reason)
  | .late => .error (.timeout executor.requestTimeout)
  | .response status headers frames => do
    return ⟨status, headers, ← collectFrames executor.maxBodySize [] frames⟩

/-- Sends a request to a target that was looked at before. -/
def send (executor : Executor) (network : Network) (request : Outgoing) (target : RequestTarget) :
    Except Failure Response × Network :=
  let (answer, network) := network.exchange
    ⟨request.method, target, executor.dress request.headers, request.body⟩
  (executor.conclude answer, network)

def workerReason : String := "buffer's worker closed unexpectedly"

structure Executed where
  events : List Event
  result : Except Failure Response
  network : Network

/-- Performs one request while no other is under way. -/
def execute (executor : Executor) (network : Network) (request : Outgoing) : Executed :=
  match target executor.security request.url with
  | .error failure => ⟨[], .error failure, network⟩
  | .ok target =>
    if executor.workerAlive then
      let (result, network) := executor.send network request target
      ⟨[], result, network⟩
    else ⟨[.workerClosed workerReason], .error .serviceClosed, network⟩

/-! ### Several requests at once -/

/-- Takes requests up in order while there are places. Those that have failed by then need none. -/
def takeUp {α : Type} (places : Nat) : List (Except Failure α) → List (Except Failure α)
  | [] => []
  | .error failure :: rest => .error failure :: takeUp places rest
  | .ok target :: rest =>
    match places with
    | 0 => .error .overloaded :: takeUp 0 rest
    | places + 1 => .ok target :: takeUp places rest

/-- The requests that get through when all are started together: each needs a place in the buffer,
and those that wait there are shed when too many others are under way. -/
def letThrough {α : Type} (executor : Executor) (requests : List (Except Failure α)) :
    List (Except Failure α) :=
  let buffered := takeUp executor.bufferCapacity requests
  match executor.concurrencyLimit with
  | none => buffered
  | some limit => takeUp limit.maxInFlight buffered

/-- Sends those of the requests that were taken up. -/
def sendAdmitted (executor : Executor) (network : Network) :
    List (Except Failure (Outgoing × RequestTarget)) →
      List (Except Failure Response) × Network
  | [] => ([], network)
  | .error failure :: rest =>
    let (results, network) := sendAdmitted executor network rest
    (.error failure :: results, network)
  | .ok (request, target) :: rest =>
    let (result, network) := executor.send network request target
    let (results, network) := sendAdmitted executor network rest
    (result :: results, network)

/-- Performs requests that are started together. -/
def executeTogether (executor : Executor) (network : Network) (requests : List Outgoing) :
    List (Except Failure Response) × Network :=
  let targets := requests.map fun request => do
    let target ← target executor.security request.url
    if executor.workerAlive then return (request, target) else .error .serviceClosed
  executor.sendAdmitted network (executor.letThrough targets)

theorem answers_send_lt {executor : Executor} {network : Network} {request : Outgoing}
    {target : RequestTarget} {response : Response}
    (got : (executor.send network request target).1 = .ok response) :
    (executor.send network request target).2.answers.length < network.answers.length := by
  cases left : network.answers with
  | nil => simp [send, Network.exchange, left, conclude] at got
  | cons answer rest => simp [send, Network.exchange, left]

theorem answers_execute_lt {executor : Executor} {network : Network} {request : Outgoing}
    {response : Response} (got : (executor.execute network request).result = .ok response) :
    (executor.execute network request).network.answers.length < network.answers.length := by
  unfold execute at got ⊢
  split at got
  · simp at got
  · split at got
    · next alive => simpa [alive] using answers_send_lt got
    · simp at got

end Executor

/-! ### What a server receives -/

/-- The port that the scheme of a target has by itself. -/
def RequestTarget.defaultPort (target : RequestTarget) : List Char :=
  if target.scheme = some "https".toList then "443".toList else "80".toList

/-- The host as a server is told it. -/
def RequestTarget.hostText (target : RequestTarget) : List Char :=
  if target.port.isEmpty || target.port == target.defaultPort then target.host
  else target.host ++ ':' :: target.port

/-- The headers that arrive: host and length of the body are added. -/
def WireRequest.framedHeaders (request : WireRequest) : HeaderMap :=
  let hosted := match HeaderValue.ofText? (String.ofList request.target.hostText) with
    | none => request.headers
    | some host => request.headers.insertNew .host host
  if request.body.isEmpty then hosted
  else hosted.insertNew .contentLength (.ofNat request.body.length)

end DeviceEnrollment.Http
