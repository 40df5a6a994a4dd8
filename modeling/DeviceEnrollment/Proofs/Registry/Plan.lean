import DeviceEnrollment.Registry.Exchange

/-!
What plans come to under given answers, apart from any transport, and a transport that keeps the
requests it is given.
-/
namespace DeviceEnrollment.Registry

namespace Plan

variable {σ α β : Type}

/-- What a plan comes to if its request is answered in some way. -/
def settledBy (respond : Request → Answer) : Plan α → α
  | settled result => result
  | exchange request conclude => (conclude (respond request)).result

theorem settledBy_map (f : α → β) (respond : Request → Answer) (plan : Plan α) :
    (plan.map f).settledBy respond = f (plan.settledBy respond) := by
  cases plan <;> rfl

/-- A request is settled by the answer to it. -/
theorem settledBy_send (operation : Operation) (request : Request)
    (read : Http.Response → Settled (Outcome α)) (respond : Request → Answer) :
    (send operation request read).settledBy respond =
      match respond request with
      | .error failure => .error (.transport failure)
      | .ok response =>
        if response.status.isSuccess then (read response).result
        else .error (.service (.ofResponse response)) := by
  simp only [send, settledBy]
  cases respond request with
  | error failure => rfl
  | ok response =>
    simp only
    split
    · rfl
    · rfl

/-- A result comes of a response of success. -/
theorem of_settledBy_send {operation : Operation} {request : Request}
    {read : Http.Response → Settled (Outcome α)} {response : Http.Response} {value : α}
    (got : (send operation request read).settledBy (fun _ => .ok response) = .ok value) :
    response.status.isSuccess = true ∧ (read response).result = .ok value := by
  rw [settledBy_send] at got
  simp only at got
  split at got
  · next success => exact ⟨success, got⟩
  · cases got

/-- A result of a request comes of a response of success, and behind the events of the transport
there stand those of reading it. -/
theorem of_run_send {transport : Transport σ} {state : σ}
    {operation : Operation} {request : Request} {read : Http.Response → Settled (Outcome α)}
    {value : α} (got : ((send operation request read).run transport state).result = .ok value) :
    ∃ response, (transport.send state request).answer = .ok response ∧
      response.status.isSuccess = true ∧ (read response).result = .ok value ∧
      ((send operation request read).run transport state).events =
        (transport.send state request).events ++
          .responseReceived (request.label operation) response.status.code ::
            (read response).events := by
  simp only [send, run] at got ⊢
  cases answer : (transport.send state request).answer with
  | error failure =>
    rw [answer] at got
    cases got
  | ok response =>
    simp only [answer] at got ⊢
    split at got
    · next success => exact ⟨response, rfl, success, got, by rw [if_pos success]⟩
    · cases got

/-- A transport is a way to answer. -/
theorem result_run (transport : Transport σ) (state : σ) (plan : Plan α) :
    (plan.run transport state).result =
      plan.settledBy fun request => (transport.send state request).answer := by
  cases plan <;> rfl

/-- The answers to other requests do not matter. -/
theorem settledBy_congr {plan : Plan α} {first second : Request → Answer}
    (same : ∀ request, plan.request? = some request → first request = second request) :
    plan.settledBy first = plan.settledBy second := by
  cases plan with
  | settled result => rfl
  | exchange request conclude => rw [settledBy, settledBy, same request rfl]

theorem run_map (transport : Transport σ) (state : σ) (f : α → β) (plan : Plan α) :
    (plan.map f).run transport state =
      let ran := plan.run transport state
      ⟨ran.events, f ran.result, ran.state⟩ := by
  cases plan <;> rfl

theorem request?_map (f : α → β) (plan : Plan α) : (plan.map f).request? = plan.request? := by
  cases plan <;> rfl

/-- A plan with a request looked its argument over before. -/
theorem exists_of_request?_withArgument {argument : Except InvalidArgument α}
    {next : α → Plan (Outcome β)} {request : Request}
    (made : (withArgument argument next).request? = some request) :
    ∃ value, argument = .ok value ∧ (next value).request? = some request := by
  cases argument with
  | error fault => cases made
  | ok value => exact ⟨value, rfl, made⟩

end Plan

/-- A transport beside a list of the requests that went through it. -/
def Transport.recording {σ : Type} (transport : Transport σ) : Transport (σ × List Request) where
  send state request :=
    let sent := transport.send state.1 request
    ⟨sent.events, sent.answer, (sent.state, state.2 ++ [request])⟩
  responsesLeft state := transport.responsesLeft state.1
  responsesLeft_lt state request response got :=
    transport.responsesLeft_lt state.1 request response got

/-- A run records the request of its plan, and comes to what the answer makes of it. -/
theorem Plan.run_recording {σ α : Type} (transport : Transport σ) (state : σ) (plan : Plan α) :
    (plan.run transport.recording (state, [])).state.2 = plan.request?.toList ∧
      (plan.run transport.recording (state, [])).result =
        plan.settledBy fun request => (transport.send state request).answer := by
  cases plan with
  | settled result => exact ⟨rfl, rfl⟩
  | exchange request conclude => exact ⟨rfl, rfl⟩

end DeviceEnrollment.Registry
