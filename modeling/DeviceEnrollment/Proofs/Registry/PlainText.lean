import DeviceEnrollment.Proofs.Http.Scheme
import DeviceEnrollment.Proofs.Registry.Frame
import DeviceEnrollment.Proofs.Registry.Transparency

/-!
No plain text without leave. An executor turns every address away that is on no scheme it may use,
and a client whose endpoint is on such a scheme never reaches a server (`plain_text_refused`).
-/
namespace DeviceEnrollment.Registry

variable {σ α β : Type}

/-! ### Transports that turn requests away -/

/-- Whether a transport in this state turns every request away, and is left as it was. -/
structure Transport.Rejects (transport : Transport σ) (state : σ) : Prop where
  fails : ∀ request, ∃ failure, (transport.send state request).answer = .error failure ∧
    failure.timeout = false
  stays : ∀ request, (transport.send state request).state = state

/-- Whether a run beside a list left a transport as it was, and noted nothing or one request that
was turned away, in which case it came to its end with that. -/
def EndsRejected (state : σ) (endsIn : RegistryError → α → Prop)
    (ran : Ran (σ × List Exchanged) α) : Prop :=
  ran.state.1 = state ∧ (ran.state.2 = [] ∨ ∃ request failure,
    ran.state.2 = [⟨request, .error failure⟩] ∧ failure.timeout = false ∧
      endsIn (.transport failure) ran.result)

/-- Whether a plan reports that its request was turned away, and nothing else. -/
def Plan.PassesOn : Plan (Outcome α) → Prop
  | .settled _ => True
  | .exchange _ conclude =>
    ∀ failure, (conclude (.error failure)).result = .error (.transport failure)

namespace Plan

theorem passesOn_withArgument {argument : Except InvalidArgument β} {next : β → Plan (Outcome α)}
    (rest : ∀ value, (next value).PassesOn) : (withArgument argument next).PassesOn := by
  cases argument with
  | error fault => trivial
  | ok value => exact rest value

theorem passesOn_send (operation : Operation) (request : Request)
    (read : Http.Response → Settled (Outcome α)) : (send operation request read).PassesOn :=
  fun _ => rfl

theorem PassesOn.endsRejected {plan : Plan (Outcome α)} (passes : plan.PassesOn)
    {transport : Transport σ} {state : σ} (rejects : transport.Rejects state) :
    EndsRejected state (fun error result => result = .error error)
      (plan.run transport.logging (state, [])) := by
  cases plan with
  | settled result => exact ⟨rfl, .inl rfl⟩
  | exchange request conclude =>
    obtain ⟨failure, answer, late⟩ := rejects.fails request
    refine ⟨rejects.stays request, .inr ⟨request, failure, ?_, late, ?_⟩⟩
    · simp [run, Transport.logging, answer]
    · simp only [run, Transport.logging, answer]
      exact passes failure

end Plan

theorem EndsRejected.map {state : σ} {endsIn : RegistryError → α → Prop}
    {endsSo : RegistryError → β → Prop} {ran : Ran (σ × List Exchanged) α}
    (ends : EndsRejected state endsIn ran) {f : α → β}
    (carries : ∀ error, endsIn error ran.result → endsSo error (f ran.result)) :
    EndsRejected state endsSo ⟨ran.events, f ran.result, ran.state⟩ := by
  obtain ⟨stays, noted⟩ := ends
  refine ⟨stays, noted.imp id ?_⟩
  rintro ⟨request, failure, exchanges, late, result⟩
  exact ⟨request, failure, exchanges, late, carries _ result⟩

/-! ### Every call -/

theorem passesOn_createOrUpdate (enrollment : Enrollment) :
    (createOrUpdate enrollment).PassesOn :=
  Plan.passesOn_withArgument fun _ => Plan.passesOn_withArgument fun _ =>
    Plan.passesOn_send _ _ _

theorem passesOn_get (id : String) : (get id).PassesOn :=
  Plan.passesOn_withArgument fun _ => Plan.passesOn_send _ _ _

theorem passesOn_deleteById (id : String) (etag : Option ETag) : (deleteById id etag).PassesOn :=
  Plan.passesOn_withArgument fun _ => Plan.passesOn_withArgument fun _ =>
    Plan.passesOn_send _ _ _

theorem passesOn_bulkOperation (mode : BulkMode) (batch : List Enrollment) :
    (bulkOperation mode batch).PassesOn :=
  Plan.passesOn_withArgument fun _ => Plan.passesOn_send _ _ _

theorem Cursor.passesOn_fetch (cursor : Cursor) : cursor.fetch.PassesOn := by
  unfold fetch
  split
  · trivial
  · split
    · trivial
    · exact Plan.passesOn_send _ _ _

section Rejecting

variable {transport : Transport σ} {state : σ}

/-- A fetch that is turned away fails, as one that makes no request does. -/
theorem Cursor.exists_error_of_rejects (rejects : transport.Rejects state) (cursor : Cursor) :
    ∃ error, (cursor.fetch.run transport.logging (state, [])).result = .error error := by
  rw [Plan.result_run]
  unfold fetch
  split
  · exact ⟨_, rfl⟩
  · split
    · exact ⟨_, rfl⟩
    · next headers _ =>
      obtain ⟨failure, answer, _⟩ := rejects.fails (cursor.request headers)
      rw [Plan.settledBy_send]
      simp only [Transport.logging, answer]
      exact ⟨_, rfl⟩

namespace EnrollmentStream

theorem endsRejected_next (rejects : transport.Rejects state) (stream : EnrollmentStream) :
    EndsRejected state (fun error pulled => pulled.1 = .failed error)
      (stream.next transport.logging (state, [])) := by
  obtain ⟨pending⟩ := stream
  cases pending with
  | none => exact ⟨rfl, .inl rfl⟩
  | some pending =>
    obtain ⟨cursor, items⟩ := pending
    show EndsRejected state _ (pull _ _ ⟨cursor, items⟩)
    cases items with
    | cons item rest =>
      rw [pull_cons]
      exact ⟨rfl, .inl rfl⟩
    | nil =>
      cases more : cursor.hasNext with
      | false =>
        rw [pull_of_last _ _ more]
        exact ⟨rfl, .inl rfl⟩
      | true =>
        obtain ⟨error, failed⟩ := cursor.exists_error_of_rejects rejects
        rw [pull_of_error more failed]
        refine (cursor.passesOn_fetch.endsRejected rejects).map
          (f := fun _ => (Pulled.failed error, ended)) fun other same => ?_
        rw [failed] at same
        exact congrArg _ (Except.error.inj same)

theorem endsRejected_drain (rejects : transport.Rejects state) (stream : EnrollmentStream) :
    EndsRejected state (fun error items => items.getLast? = some (.error error))
      (stream.drain transport.logging (state, [])) := by
  obtain ⟨pending⟩ := stream
  cases pending with
  | none => exact ⟨rfl, .inl rfl⟩
  | some pending =>
    obtain ⟨cursor, items⟩ := pending
    show EndsRejected state _ (drainPending _ _ ⟨cursor, items⟩)
    cases more : cursor.hasNext with
    | false =>
      have idle := congrFun (congrFun (congrFun (drainPendingAction_of_last more items) _)
        transport.logging) (state, [])
      rw [drainPendingAction] at idle
      rw [idle]
      exact ⟨rfl, .inl rfl⟩
    | true =>
      obtain ⟨error, failed⟩ := cursor.exists_error_of_rejects rejects
      rw [drainPending_of_error more failed]
      refine (cursor.passesOn_fetch.endsRejected rejects).map
        (f := fun _ => items.map Except.ok ++ [Except.error error]) fun other same => ?_
      rw [failed] at same
      cases same
      exact List.getLast?_concat

end EnrollmentStream

/-- Whether a result is, or ends with, this failure. -/
def CallResult.EndsIn (error : RegistryError) : CallResult → Prop
  | .enrollment result => result = .error error
  | .deleted result => result = .error error
  | .bulk result => result = .error error
  | .created result => result = .error error
  | .page result => result = .error error
  | .pulled last => last = .failed error
  | .drained items => items.getLast? = some (.error error)
  | .shown _ | .streaming | .noSuchQuery => False

/-- A call that is turned away fails with that, and makes no further request. -/
theorem Call.endsRejected_action (rejects : transport.Rejects state) (call : Call)
    (cursor : Option Cursor) (stream : Option EnrollmentStream) :
    EndsRejected state (fun error effect => effect.result.EndsIn error)
      (call.action cursor stream _ transport.logging (state, [])) := by
  have planned {α : Type} {plan : Plan (Outcome α)} (passes : plan.PassesOn)
      {f : Outcome α → Effect} (reports : ∀ error, (f (.error error)).result.EndsIn error) :
      EndsRejected state (fun error effect => effect.result.EndsIn error)
        (plan.action.map f _ transport.logging (state, [])) :=
    (passes.endsRejected rejects).map fun error same => same ▸ reports error
  have idle (effect : Effect) :
      EndsRejected state (fun error effect => effect.result.EndsIn error)
        (Action.done effect _ transport.logging (state, [])) := ⟨rfl, .inl rfl⟩
  cases call with
  | createOrUpdate enrollment => exact planned (passesOn_createOrUpdate enrollment) fun _ => rfl
  | get id => exact planned (passesOn_get id) fun _ => rfl
  | delete enrollment =>
    exact planned (passesOn_deleteById enrollment.registrationId enrollment.etag) fun _ => rfl
  | deleteById id etag => exact planned (passesOn_deleteById id etag) fun _ => rfl
  | bulk mode batch => exact planned (passesOn_bulkOperation mode batch) fun _ => rfl
  | createQuery slot specification pageSize =>
    cases made : Registry.createQuery specification pageSize <;>
      simp only [action, made] <;> exact idle _
  | nextPage slot =>
    cases cursor with
    | none => exact idle _
    | some cursor =>
      simp only [action, Action.map, Plan.action, Cursor.nextPage, Plan.run_map]
      exact (cursor.passesOn_fetch.endsRejected rejects).map fun _ same => same
  | showQuery slot =>
    simp only [action]
    split <;> exact idle _
  | intoStream slot =>
    simp only [action]
    split <;> exact idle _
  | streamNext slot =>
    cases stream with
    | none => exact idle _
    | some stream =>
      simp only [action, Action.map, EnrollmentStream.nextAction]
      exact (stream.endsRejected_next rejects).map
        (f := fun result => Effect.mk (.pulled result.1) .keep (.set result.2)) fun _ same => same
  | streamAll slot =>
    cases stream with
    | none => exact idle _
    | some stream =>
      simp only [action, Action.map, EnrollmentStream.drainAction]
      exact (stream.endsRejected_drain rejects).map
        (f := fun result => Effect.mk (.drained result) .keep .remove) fun _ same => same

end Rejecting

/-! ### Every session -/

/-- Whether a call comes to its result with every transport, and asks nothing of it. -/
def Seen.IsLocal (seen : Seen) : Prop :=
  ∃ cursor stream, ∀ (τ : Type) (transport : Transport τ) (state : τ),
    let ran := seen.call.action cursor stream τ transport state
    ran.result.result = seen.result ∧ ran.state = state

/-- Whether a call made one request, which was turned away before its time was over, and fails with
that. -/
def Seen.IsTurnedAway (seen : Seen) : Prop :=
  ∃ request failure, seen.exchanges = [⟨request, .error failure⟩] ∧ failure.timeout = false ∧
    seen.result.EndsIn (.transport failure)

namespace Session

variable {transport : Transport σ} {session : Session σ}

theorem isLocal_of_mem {calls : List Call} {seen : Seen}
    (member : seen ∈ (session.watch transport calls).1) (silent : seen.exchanges = []) :
    seen.IsLocal := by
  obtain ⟨cursor, stream, state, makes, result⟩ := exists_makes_of_mem member
  rw [silent] at makes
  refine ⟨cursor, stream, fun τ other start => ?_⟩
  obtain ⟨same, untouched⟩ := makes.repeated other (.nil start)
  exact ⟨by rw [same, result], untouched⟩

/-- A session leaves such a transport as it was, and a call of it is turned away or local. -/
theorem watch_of_rejects (rejects : transport.Rejects session.transport) (calls : List Call) :
    (session.watch transport calls).2.transport = session.transport ∧
      ∀ seen ∈ (session.watch transport calls).1,
        (seen.exchanges = [] ∧ seen.IsLocal) ∨ seen.IsTurnedAway := by
  have noted : (session.watch transport calls).2.transport = session.transport ∧
      ∀ seen ∈ (session.watch transport calls).1, seen.exchanges = [] ∨ seen.IsTurnedAway := by
    induction calls generalizing session with
    | nil => exact ⟨rfl, fun _ member => by cases member⟩
    | cons call rest ih =>
      obtain ⟨stays, noted⟩ := call.endsRejected_action rejects
        (call.slot? >>= session.cursors.get?) (call.slot? >>= session.streams.get?)
      have next (later : Session σ) (same : later.transport = session.transport) :=
        @ih later (same ▸ rejects)
      simp only [watch, step_eq]
      obtain ⟨left, others⟩ := next ⟨_, _, _⟩ stays
      refine ⟨left.trans stays, fun seen member => ?_⟩
      rcases List.mem_cons.1 member with rfl | further
      · exact noted
      · exact others seen further
  refine ⟨noted.1, fun seen member => ?_⟩
  rcases noted.2 seen member with silent | turnedAway
  · exact .inl ⟨silent, isLocal_of_mem member silent⟩
  · exact .inr turnedAway

end Session

/-! ### Clients without leave for plain text -/

/-- The address of a resource below an endpoint on plain text is on no other scheme. -/
theorem not_isOn_https {url : Url.WebUrl} (plain : url.scheme = .http) (authority : List Char) :
    ¬Http.IsOn "https" authority url.text := by
  rintro ⟨letters, rest, whole, lower, _⟩
  have length : letters.length = 5 := by simpa using congrArg List.length lower
  have here : url.text.toList[4]? = some ':' := by
    simp [Url.WebUrl.text, Url.WebUrl.letters, plain, Url.WebScheme.text]
  have named : (letters.map Char.toLower)[4]? = some 's' := by rw [lower]; rfl
  rw [whole, List.append_assoc, List.getElem?_append_left (by omega)] at here
  rw [List.getElem?_map, here] at named
  exact absurd named (by decide)

theorem timeout_of_urlFor {service : Service} {segments : List String} {failure : TransportFailure}
    (refused : service.urlFor segments = .error failure) : failure.timeout = false := by
  unfold Service.urlFor at refused
  split at refused
  · cases refused
    rfl
  · cases refused

/-- A client none of whose addresses may be used has all its requests turned away. -/
theorem WebTransport.rejects_of_refused {web : WebTransport}
    (refused : ∀ segments url, web.service.urlFor segments = .ok url →
      ∃ failure, Http.Executor.target web.executor.security url.text = .error failure)
    (network : Http.Network) : web.transport.Rejects network := by
  constructor
  case fails =>
    intro request
    show ∃ failure, (web.send network request).answer = .error failure ∧ _
    cases placed : web.service.urlFor request.segments with
    | error failure =>
      simp only [send, placed]
      exact ⟨failure, rfl, timeout_of_urlFor placed⟩
    | ok url =>
      obtain ⟨failure, unusable⟩ := refused _ url placed
      have turnedAway : web.executor.TurnsAway (outgoing request url) failure :=
        Http.Executor.turnsAway_of_refused unusable
      simp only [send, placed, turnedAway.1 network]
      refine ⟨_, rfl, ?_⟩
      cases Http.Executor.isAddressFault_of_target unusable <;> rfl
  case stays =>
    intro request
    refine state_send_of_not_dispatches ?_ network
    rintro ⟨_, url, target, placed, usable⟩
    obtain ⟨failure, unusable⟩ := refused _ url placed
    cases usable.symm.trans unusable

theorem WebTransport.rejects_of_plain {web : WebTransport} (tls : web.executor.security = .tlsOnly)
    (plain : web.service.endpoint.scheme = .http) (network : Http.Network) :
    web.transport.Rejects network := by
  refine rejects_of_refused (fun segments url placed => ?_) network
  have scheme : url.scheme = .http := by
    rw [eq_of_urlFor placed]
    exact plain
  cases allowed : Http.Executor.target web.executor.security url.text with
  | error failure => exact ⟨failure, rfl⟩
  | ok target =>
    obtain ⟨_, ⟨_, https⟩ | ⟨insecure, _⟩⟩ := Http.Executor.of_target allowed
    · exact absurd https (not_isOn_https scheme _)
    · cases tls.symm.trans insecure

theorem WebTransport.of_ofBuilt {settings : Settings} {web : WebTransport}
    {result : Except Http.Failure Http.Executor}
    (made : (ofBuilt settings result).result = .ok web) :
    parseEndpoint settings.endpoint = .ok web.service.endpoint ∧ result = .ok web.executor := by
  unfold ofBuilt at made
  split at made
  · cases made
  · next endpoint accepted =>
    simp only at made
    split at made
    · cases made
    · next executor built =>
      cases made
      exact ⟨accepted, rfl⟩

/-- An executor sends a request to an address on the encrypted scheme, in any letter case and with
an authority, or to one on the other scheme of the web if it was built with leave for plain text.
Every other request fails before anyone takes it up. So a client without this leave whose endpoint
is on plain text leaves the servers alone: a call fails with its one request, which is turned away,
unless it is one that comes to its result without a request. -/
theorem plain_text_refused :
    (∀ (settings : Http.ExecutorSettings) (credential : Option Credential)
      (executor : Http.Executor), Http.Executor.build settings credential = .ok executor →
      ∀ (alive : Bool) (request : Http.Executor.Outgoing),
        let client := { executor with workerAlive := alive }
        (∃ found, Http.Executor.target client.security request.url = .ok found ∧
          Http.Executor.IsAllowed settings.transport request.url found) ∨
        ∃ failure, Http.Executor.IsAddressFault failure ∧ client.TurnsAway request failure) ∧
    ∀ (settings : Settings) (web : WebTransport), settings.allowInsecureHttp = false →
      (WebTransport.ofSettings settings).result = .ok web →
      web.service.endpoint.scheme = .http →
      ∀ (session : Session Http.Network) (calls : List Call),
        let watched := session.watch web.transport calls
        watched.1.map Seen.result = (session.run web.transport calls).map Session.Step.result ∧
          watched.2.transport = session.transport ∧
          ∀ seen ∈ watched.1, (seen.exchanges = [] ∧ seen.IsLocal) ∨ seen.IsTurnedAway := by
  constructor
  · intro settings credential executor built alive request client
    obtain ⟨security, _⟩ := Http.Executor.of_build built
    cases read : Http.Executor.target client.security request.url with
    | ok found => exact .inl ⟨found, rfl, security ▸ Http.Executor.of_target read⟩
    | error failure =>
      exact .inr ⟨failure, Http.Executor.isAddressFault_of_target read,
        Http.Executor.turnsAway_of_refused read⟩
  · intro settings web forbidden made plain session calls watched
    obtain ⟨_, built⟩ := WebTransport.of_ofBuilt made
    obtain ⟨security, _⟩ := Http.Executor.of_build built
    have tls : web.executor.security = .tlsOnly := by
      rw [security]
      simp [Settings.executor, forbidden]
    exact ⟨session.result_watch web.transport calls,
      Session.watch_of_rejects (WebTransport.rejects_of_plain tls plain session.transport) calls⟩

/-- Settings for a service nearby that is on plain text. -/
def nearbySettings : Settings := { Settings.default with endpoint := "http://[::1]:8080" }

def nearbyWeb : WebTransport :=
  ⟨⟨⟨.http, [], .ipv6 [0, 0, 0, 0, 0, 0, 0, 1], some 8080, [[]], none⟩, "2021-10-01"⟩,
    { requestTimeout := .ofMillis 30000
      maxBodySize := Settings.default.maxResponseSize
      security := .tlsOnly
      userAgent := ⟨.userAgent, .ofVisible Http.ExecutorSettings.defaultUserAgent⟩
      credential := none
      concurrencyLimit := none
      bufferCapacity := 1024
      workerAlive := true }⟩

/-- An executor without leave turns plain text away. In a session of its client a lookup is turned
away, a lookup of nothing is refused before, and the server that would answer hears of neither. -/
theorem plain_text_refused_nearby :
    nearbySettings.allowInsecureHttp = false ∧
      (WebTransport.ofSettings nearbySettings).result = .ok nearbyWeb ∧
      nearbyWeb.service.endpoint.scheme = .http ∧
      Http.Executor.build nearbySettings.executor none = .ok nearbyWeb.executor ∧
      (∃ failure,
        nearbyWeb.executor.TurnsAway (Http.Executor.lookup "http://[::1]:8080/a") failure) ∧
      let session : Session Http.Network := .ofTransport ⟨[.late], []⟩
      let watched := session.watch nearbyWeb.transport [.get "dev-1", .get ""]
      watched.2.transport = ⟨[.late], []⟩ ∧
        ∃ first second, watched.1 = [first, second] ∧ first.IsTurnedAway ∧ second.IsLocal := by
  have made : (WebTransport.ofSettings nearbySettings).result = .ok nearbyWeb := rfl
  have built : Http.Executor.build nearbySettings.executor none = .ok nearbyWeb.executor := rfl
  obtain ⟨executors, clients⟩ := plain_text_refused
  refine ⟨rfl, made, rfl, built, ?_, ?_⟩
  · rcases executors _ none _ built true (Http.Executor.lookup "http://[::1]:8080/a") with
      ⟨_, allowed, _⟩ | ⟨failure, _, turnedAway⟩
    · cases allowed
    · exact ⟨failure, turnedAway⟩
  intro session watched
  obtain ⟨_, untouched, calls⟩ := clients nearbySettings nearbyWeb rfl made rfl session
    [.get "dev-1", .get ""]
  have places : watched.1 = [watched.1[0], watched.1[1]] := rfl
  refine ⟨untouched, _, _, places, ?_, ?_⟩
  · refine (calls _ (List.getElem_mem _)).resolve_left ?_
    rintro ⟨silent, _⟩
    cases silent
  · refine ((calls _ (List.getElem_mem _)).resolve_right ?_).2
    rintro ⟨_, _, asked, _⟩
    cases asked

end DeviceEnrollment.Registry
