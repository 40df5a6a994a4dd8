import DeviceEnrollment.Http.Executor

/-!
Executors that differ in their credential. Whatever is done with them, they log the same and come to
the same, and the requests that servers receive differ in the values of one header
(`glimpses_carrying`).
-/
namespace DeviceEnrollment.Http

/-! ### Veiled requests -/

/-- Headers in order, without the values of the authorization. -/
def HeaderMap.veil (headers : HeaderMap) : List (HeaderName × Option HeaderValue) :=
  headers.entries.map fun entry =>
    (entry.1, if entry.1 = .authorization then none else some entry.2)

namespace HeaderMap

theorem contains_eq_of_veil {first second : HeaderMap} (same : first.veil = second.veil)
    (name : HeaderName) : first.contains name = second.contains name := by
  have held : ∀ headers : HeaderMap,
      headers.contains name = headers.veil.any fun entry => decide (entry.1 = name) := by
    intro headers
    simp [contains, veil, List.any_map, Function.comp_def]
  rw [held, held, same]

/-- A value that is put in stays hidden if it is one of the authorization. -/
theorem veil_insertNew {first second : HeaderMap} (same : first.veil = second.veil)
    {name : HeaderName} {value other : HeaderValue}
    (hidden : name = .authorization ∨ value = other) :
    (first.insertNew name value).veil = (second.insertNew name other).veil := by
  unfold insertNew
  rw [contains_eq_of_veil same]
  split
  · exact same
  · have entry : (if name = .authorization then none else some value) =
        if name = .authorization then none else some other := by
      rcases hidden with secret | rfl
      · rw [if_pos secret, if_pos secret]
      · rfl
    simp only [veil, append, List.map_append, List.map_cons, List.map_nil, entry] at same ⊢
    rw [same]

end HeaderMap

/-- A request as a server receives it, without the values of its authorization. -/
structure VeiledRequest where
  method : Method
  target : RequestTarget
  headers : List (HeaderName × Option HeaderValue)
  body : Bytes
deriving DecidableEq, Repr

def WireRequest.veil (request : WireRequest) : VeiledRequest :=
  ⟨request.method, request.target, request.framedHeaders.veil, request.body⟩

/-- Host and length are added to headers alike. -/
theorem WireRequest.veil_eq {first second : HeaderMap} (same : first.veil = second.veil)
    (method : Method) (target : RequestTarget) (body : Bytes) :
    (WireRequest.mk method target first body).veil =
      (WireRequest.mk method target second body).veil := by
  have framed : (WireRequest.mk method target first body).framedHeaders.veil =
      (WireRequest.mk method target second body).framedHeaders.veil := by
    unfold framedHeaders
    cases HeaderValue.ofText? (String.ofList target.hostText) with
    | none =>
      simp only
      split
      · exact same
      · exact HeaderMap.veil_insertNew same (.inr rfl)
    | some host =>
      have hosted : (first.insertNew .host host).veil = (second.insertNew .host host).veil :=
        HeaderMap.veil_insertNew same (.inr rfl)
      simp only
      split
      · exact hosted
      · exact HeaderMap.veil_insertNew hosted (.inr rfl)
  simp only [veil, framed]

/-- Networks with the same answers to give, whose requests were the same behind the veil. -/
structure Network.Alike (first second : Network) : Prop where
  answers : first.answers = second.answers
  received : first.received.map WireRequest.veil = second.received.map WireRequest.veil

theorem Network.Alike.exchange {first second : Network} (alike : first.Alike second)
    {request other : WireRequest} (same : request.veil = other.veil) :
    (first.exchange request).1 = (second.exchange other).1 ∧
      (first.exchange request).2.Alike (second.exchange other).2 := by
  obtain ⟨answers, received⟩ := first
  obtain ⟨otherAnswers, otherReceived⟩ := second
  obtain ⟨rfl, requests⟩ := alike
  cases answers with
  | nil => exact ⟨rfl, rfl, requests⟩
  | cons answer rest =>
    refine ⟨rfl, rfl, ?_⟩
    simp only [Network.exchange, List.map_append, List.map_cons, List.map_nil, same] at requests ⊢
    rw [requests]

namespace Executor

/-- An executor whose requests carry a value as their credential. -/
def carrying (executor : Executor) (value : HeaderValue) : Executor :=
  { executor with credential := some ⟨.authorization, value⟩ }

/-- A credential is nothing but the value that the requests carry. -/
theorem build_some {credential : Credential} {value : HeaderValue}
    (legal : HeaderValue.ofText? credential.exposed = some value) (settings : ExecutorSettings) :
    build settings (some credential) =
      (build settings none).map (·.carrying { value with sensitive := true }) := by
  have made : Injection.ofCredential credential =
      .ok ⟨.authorization, { value with sensitive := true }⟩ := by
    rw [Injection.ofCredential, legal]
  unfold build
  cases Injection.ofUserAgent settings.userAgent with
  | error failure => rfl
  | ok userAgent =>
    have injected : Option.mapM Injection.ofCredential (some credential) =
        .ok (some ⟨.authorization, { value with sensitive := true }⟩) := by
      rw [Option.mapM_some, made]
      rfl
    simp only [injected]
    rfl

variable (executor : Executor) (value other : HeaderValue)

theorem veil_dress (headers : HeaderMap) :
    ((executor.carrying value).dress headers).veil =
      ((executor.carrying other).dress headers).veil := by
  unfold dress
  exact HeaderMap.veil_insertNew (HeaderMap.veil_insertNew rfl (.inl rfl)) (.inr rfl)

variable {network another : Network}

theorem send_carrying (alike : network.Alike another) (request : Outgoing)
    (target : RequestTarget) :
    ((executor.carrying value).send network request target).1 =
        ((executor.carrying other).send another request target).1 ∧
      ((executor.carrying value).send network request target).2.Alike
        ((executor.carrying other).send another request target).2 := by
  obtain ⟨answer, left⟩ := alike.exchange <| WireRequest.veil_eq
    (executor.veil_dress value other request.headers) request.method target request.body
  refine ⟨?_, left⟩
  simp only [send, answer]
  rfl

theorem execute_carrying (alike : network.Alike another) (request : Outgoing) :
    ((executor.carrying value).execute network request).events =
        ((executor.carrying other).execute another request).events ∧
      ((executor.carrying value).execute network request).result =
        ((executor.carrying other).execute another request).result ∧
      ((executor.carrying value).execute network request).network.Alike
        ((executor.carrying other).execute another request).network := by
  unfold execute
  have allowed : target (executor.carrying value).security request.url =
      target (executor.carrying other).security request.url := rfl
  have alive : (executor.carrying value).workerAlive = (executor.carrying other).workerAlive := rfl
  rw [allowed, alive]
  split
  · exact ⟨rfl, rfl, alike⟩
  · split
    · obtain ⟨result, left⟩ := executor.send_carrying value other alike request _
      exact ⟨rfl, result, left⟩
    · exact ⟨rfl, rfl, alike⟩

theorem sendAdmitted_carrying (alike : network.Alike another)
    (admitted : List (Except Failure (Outgoing × RequestTarget))) :
    ((executor.carrying value).sendAdmitted network admitted).1 =
        ((executor.carrying other).sendAdmitted another admitted).1 ∧
      ((executor.carrying value).sendAdmitted network admitted).2.Alike
        ((executor.carrying other).sendAdmitted another admitted).2 := by
  induction admitted generalizing network another with
  | nil => exact ⟨rfl, alike⟩
  | cons first rest ih =>
    cases first with
    | error failure =>
      obtain ⟨results, left⟩ := ih alike
      refine ⟨?_, left⟩
      simp only [sendAdmitted, results]
    | ok request =>
      obtain ⟨result, between⟩ := executor.send_carrying value other alike request.1 request.2
      obtain ⟨results, left⟩ := ih between
      refine ⟨?_, left⟩
      simp only [sendAdmitted, result, results]

theorem executeTogether_carrying (alike : network.Alike another) (requests : List Outgoing) :
    ((executor.carrying value).executeTogether network requests).1 =
        ((executor.carrying other).executeTogether another requests).1 ∧
      ((executor.carrying value).executeTogether network requests).2.Alike
        ((executor.carrying other).executeTogether another requests).2 :=
  executor.sendAdmitted_carrying value other alike _

/-! ### Whatever is done with an executor -/

/-- What a caller does with an executor. -/
inductive Job where
  | single (request : Outgoing)
  | together (requests : List Outgoing)
  /-- Nobody takes requests up any more. -/
  | abandon

/-- What a job leads to. -/
structure Performed where
  events : List Event
  results : List (Except Failure Response)
  network : Network
  executor : Executor

/-- Requests that nobody takes up are logged if they had a target. -/
def closedEvents (executor : Executor) (requests : List Outgoing) : List Event :=
  if executor.workerAlive then []
  else
    (requests.filter fun request => (target executor.security request.url).toBool).map fun _ =>
      .workerClosed workerReason

def perform (executor : Executor) (network : Network) : Job → Performed
  | .single request =>
    let executed := executor.execute network request
    ⟨executed.events, [executed.result], executed.network, executor⟩
  | .together requests =>
    let (results, left) := executor.executeTogether network requests
    ⟨executor.closedEvents requests, results, left, executor⟩
  | .abandon => ⟨[], [], network, executor.abandoned⟩

/-- All that is to be seen of a job, the executor and the received requests included. -/
structure Glimpse where
  text : String
  events : List Event
  results : List (Except Failure Response)
  received : List VeiledRequest

def glimpses (executor : Executor) (network : Network) : List Job → List Glimpse
  | [] => []
  | job :: rest =>
    let performed := executor.perform network job
    ⟨performed.executor.text, performed.events, performed.results,
        performed.network.received.map WireRequest.veil⟩ ::
      glimpses performed.executor performed.network rest

/-- No job shows what credential an executor carries. -/
theorem glimpses_carrying (alike : network.Alike another) (jobs : List Job) :
    (executor.carrying value).glimpses network jobs =
      (executor.carrying other).glimpses another jobs := by
  induction jobs generalizing executor network another with
  | nil => rfl
  | cons job rest ih =>
    cases job with
    | single request =>
      obtain ⟨events, result, left⟩ := executor.execute_carrying value other alike request
      simp only [glimpses, perform, events, result, left.received, ih executor left]
      rfl
    | together requests =>
      obtain ⟨results, left⟩ := executor.executeTogether_carrying value other alike requests
      simp only [glimpses, perform, results, left.received, ih executor left]
      rfl
    | abandon =>
      have later : (executor.carrying value).abandoned.glimpses network rest =
          (executor.carrying other).abandoned.glimpses another rest := ih executor.abandoned alike
      simp only [glimpses, perform, alike.received, later]
      rfl

end Executor

end DeviceEnrollment.Http
