import DeviceEnrollment.Event
import DeviceEnrollment.Registry.Body

/-!
Calls as plans: a call is settled at once, or makes one request and is settled by the answer to
it. A transport answers requests, and keeps whatever it has to remember.
-/
namespace DeviceEnrollment.Registry

structure Request where
  method : Http.Method
  /-- The place below the endpoint, one text for each segment. -/
  segments : List String
  headers : Http.HeaderMap
  body : Bytes
deriving DecidableEq, Repr

/-- The segments in one text, for logs. -/
def Request.path (request : Request) : String := "/".intercalate request.segments

def Request.label (request : Request) (operation : Operation) : RequestLabel :=
  ⟨operation, request.method, request.path⟩

/-- A response of any status, or none at all. -/
abbrev Answer := Except TransportFailure Http.Response

/-- A result and the events that it took to get there. -/
structure Settled (α : Type) where
  events : List Event
  result : α
deriving Repr

inductive Plan (α : Type) where
  | settled (result : α)
  | exchange (request : Request) (conclude : Answer → Settled α)

namespace Plan

variable {α β : Type}

/-- A plan whose result is looked at in another way. -/
def map (f : α → β) : Plan α → Plan β
  | settled result => .settled (f result)
  | exchange request conclude =>
    .exchange request fun answer => ⟨(conclude answer).events, f (conclude answer).result⟩

/-- The request that a plan makes, if any. -/
def request? : Plan α → Option Request
  | settled _ => none
  | exchange request _ => some request

end Plan

/-! ### Transports -/

/-- What a transport does with a request, and what it remembers afterwards. -/
structure Sent (σ : Type) where
  events : List Event
  answer : Answer
  state : σ

/-- The way to the service. A state bounds the responses that are still to come, so that a
transport fails in the end. -/
structure Transport (σ : Type) where
  send : σ → Request → Sent σ
  responsesLeft : σ → Nat
  responsesLeft_lt : ∀ (state : σ) (request : Request) (response : Http.Response),
    (send state request).answer = .ok response →
      responsesLeft (send state request).state < responsesLeft state

structure Ran (σ α : Type) where
  events : List Event
  result : α
  state : σ

def Plan.run {σ α : Type} (transport : Transport σ) (state : σ) : Plan α → Ran σ α
  | .settled result => ⟨[], result, state⟩
  | .exchange request conclude =>
    let sent := transport.send state request
    let settled := conclude sent.answer
    ⟨sent.events ++ settled.events, settled.result, sent.state⟩

/-! ### Calls of the registry -/

/-- Settles a call at once if an argument is bad. -/
def Plan.withArgument {α β : Type} (argument : Except InvalidArgument α)
    (next : α → Plan (Outcome β)) : Plan (Outcome β) :=
  match argument with
  | .error fault => .settled (.error (.validation fault))
  | .ok value => next value

/-- Makes a request and reads the response if its status is one of success. -/
def Plan.send {α : Type} (operation : Operation) (request : Request)
    (read : Http.Response → Settled (Outcome α)) : Plan (Outcome α) :=
  .exchange request fun answer =>
    match answer with
    | .error failure =>
      ⟨[.requestFailed (request.label operation) failure.text], .error (.transport failure)⟩
    | .ok response =>
      let received := Event.responseReceived (request.label operation) response.status.code
      if response.status.isSuccess then
        let settled := read response
        ⟨received :: settled.events, settled.result⟩
      else ⟨[received], .error (.service (.ofResponse response))⟩

/-- A result comes of a response only. -/
theorem Plan.responsesLeft_send_lt {σ α : Type} {transport : Transport σ} {state : σ}
    {operation : Operation} {request : Request} {read : Http.Response → Settled (Outcome α)}
    {value : α}
    (got : ((Plan.send operation request read).run transport state).result = .ok value) :
    transport.responsesLeft ((Plan.send operation request read).run transport state).state <
      transport.responsesLeft state := by
  simp only [Plan.send, Plan.run] at got ⊢
  cases answered : (transport.send state request).answer with
  | error failure => simp [answered] at got
  | ok response => exact transport.responsesLeft_lt state request response answered

/-! ### Answers that were written down before -/

/-- The answers still to come, and the requests made so far. -/
structure Script where
  answers : List Answer
  requests : List Request

namespace Script

def ofAnswers (answers : List Answer) : Script := ⟨answers, []⟩

/-- What every request after the last answer gets. -/
def finished : TransportFailure := .ofText "no scripted response left"

/-- Each request takes the next answer. -/
def answer (script : Script) (request : Request) : Sent Script :=
  let requests := script.requests ++ [request]
  match script.answers with
  | [] => ⟨[], .error finished, ⟨[], requests⟩⟩
  | next :: rest => ⟨[], next, ⟨rest, requests⟩⟩

def transport : Transport Script where
  send := answer
  responsesLeft script := script.answers.length
  responsesLeft_lt script request response got := by
    cases left : script.answers <;> simp_all [answer]

end Script

end DeviceEnrollment.Registry
