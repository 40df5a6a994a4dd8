import DeviceEnrollment.Proofs.Http.Filling
import DeviceEnrollment.Proofs.Steps
import DeviceEnrollment.Registry.Web
import Mathlib.Data.List.Nodup
import Mathlib.Data.List.Pairwise

/-!
What becomes of the headers of a request on its way. Each step fills in what is missing and leaves
everything else alone, so the request arrives with the headers that it had and one value for each
name that it lacked (`request_headers_filled`).
-/
namespace DeviceEnrollment

open Http

namespace Http

/-! ### What an executor was built with -/

/-- What an injection fills in: the name, the bytes, and whether they are kept out of
diagnostics. -/
def Injection.summary (injection : Injection) : HeaderName × Bytes × Bool :=
  (injection.name, injection.value.bytes, injection.value.sensitive)

theorem Injection.summary_ofUserAgent {userAgent : String} {injection : Injection}
    (made : ofUserAgent userAgent = .ok injection) :
    injection.summary = (.userAgent, Bytes.ofText userAgent, false) := by
  unfold ofUserAgent HeaderValue.ofText? HeaderValue.ofBytes? at made
  split at made
  · next value written =>
    split at written
    · cases written
      cases made
      rfl
    · cases written
  · cases made

theorem Injection.summary_ofCredential {credential : Credential} {injection : Injection}
    (made : ofCredential credential = .ok injection) :
    injection.summary = (.authorization, Bytes.ofText credential.exposed, true) := by
  unfold ofCredential HeaderValue.ofText? HeaderValue.ofBytes? at made
  split at made
  · next value written =>
    split at written
    · cases written
      cases made
      rfl
    · cases written
  · cases made

/-- An executor fills in the name and the credential that it was built with. -/
theorem Executor.injections_of_build {settings : ExecutorSettings} {credential : Option Credential}
    {executor : Executor} (built : build settings credential = .ok executor) :
    executor.userAgent.summary = (.userAgent, Bytes.ofText settings.userAgent, false) ∧
      executor.credential.map Injection.summary =
        credential.map fun secret => (.authorization, Bytes.ofText secret.exposed, true) := by
  obtain ⟨userAgent, named, later⟩ := exists_of_bind_ok built
  obtain ⟨injected, sealed, made⟩ := exists_of_bind_ok later
  cases made
  refine ⟨Injection.summary_ofUserAgent named, ?_⟩
  cases credential with
  | none =>
    cases sealed
    rfl
  | some secret =>
    obtain ⟨injection, legal, rfl⟩ := exists_of_map_ok sealed
    exact congrArg some (Injection.summary_ofCredential legal)

end Http

namespace Registry

open Http

namespace WebTransport

/-! ### The steps on the way -/

/-- What the transport fills in. -/
def described (body : Bytes) : List Injection :=
  accept :: if body.isEmpty then [] else [contentType]

/-- The steps that the headers of a request go through, and what each of them fills in. -/
def steps (executor : Executor) (body : Bytes) : List (List Injection) :=
  [described body, [executor.userAgent], executor.credential.toList, [Executor.acceptEncoding]]

theorem describe_eq_fillAll (headers : HeaderMap) (body : Bytes) :
    describe headers body = Injection.fillAll (described body) headers := by
  unfold describe described
  cases body.isEmpty <;> rfl

/-- On its way a request goes through all steps. -/
theorem dress_describe (executor : Executor) (headers : HeaderMap) (body : Bytes) :
    executor.dress (describe headers body) =
      Injection.fillAll (steps executor body).flatten headers := by
  rw [describe_eq_fillAll]
  unfold Executor.dress steps
  simp only [List.flatten_cons, List.flatten_nil, Injection.fillAll_append]
  cases executor.credential <;> rfl

/-- What a request of a client gets: the names, the bytes, and what is kept out of diagnostics. -/
def configured (settings : ExecutorSettings) (credential : Option Credential) (body : Bytes) :
    List (HeaderName × Bytes × Bool) :=
  [(.accept, Bytes.ofText "application/json", false)] ++
    (if body.isEmpty then []
      else [(.contentType, Bytes.ofText "application/json; charset=utf-8", false)]) ++
    [(.userAgent, Bytes.ofText settings.userAgent, false)] ++
    (credential.toList.map fun secret => (.authorization, Bytes.ofText secret.exposed, true)) ++
    [(.acceptEncoding, Bytes.ofText "gzip,deflate,br", false)]

variable {settings : ExecutorSettings} {credential : Option Credential} {executor : Executor}

theorem summary_steps (built : Executor.build settings credential = .ok executor) (body : Bytes) :
    (steps executor body).flatten.map Injection.summary = configured settings credential body := by
  obtain ⟨userAgent, authorization⟩ := Executor.injections_of_build built
  have accepted : accept.summary = (.accept, Bytes.ofText "application/json", false) := by
    decide +kernel
  have typed : contentType.summary =
      (.contentType, Bytes.ofText "application/json; charset=utf-8", false) := by
    decide +kernel
  have encoded : Executor.acceptEncoding.summary =
      (.acceptEncoding, Bytes.ofText "gzip,deflate,br", false) := by
    decide +kernel
  have secrets : executor.credential.toList.map Injection.summary =
      credential.toList.map fun secret => (.authorization, Bytes.ofText secret.exposed, true) := by
    rw [← Option.toList_map, authorization, Option.toList_map]
  unfold steps described configured
  cases body.isEmpty <;> simp [accepted, typed, encoded, userAgent, secrets]

theorem nodup_names (built : Executor.build settings credential = .ok executor) (body : Bytes) :
    ((steps executor body).flatten.map Injection.name).Nodup := by
  have names : (steps executor body).flatten.map Injection.name =
      (configured settings credential body).map Prod.fst := by
    rw [← summary_steps built body, List.map_map]
    rfl
  rw [names]
  unfold configured
  cases body.isEmpty with
  | true =>
    cases credential with
    | none => show [HeaderName.accept, .userAgent, .acceptEncoding].Nodup; decide
    | some secret =>
      show [HeaderName.accept, .userAgent, .authorization, .acceptEncoding].Nodup; decide
  | false =>
    cases credential with
    | none => show [HeaderName.accept, .contentType, .userAgent, .acceptEncoding].Nodup; decide
    | some secret =>
      show [HeaderName.accept, .contentType, .userAgent, .authorization, .acceptEncoding].Nodup
      decide

theorem nodup_names_of_mem (built : Executor.build settings credential = .ok executor)
    {body : Bytes} {step : List Injection} (among : step ∈ steps executor body) :
    (step.map Injection.name).Nodup :=
  (nodup_names built body).sublist ((List.sublist_flatten_of_mem among).map _)

/-- Two steps fill in different names, unless they are the same step. -/
theorem eq_or_apart (built : Executor.build settings credential = .ok executor) {body : Bytes}
    {step other : List Injection} (among : step ∈ steps executor body)
    (amongOther : other ∈ steps executor body) :
    step = other ∨ ∀ injection ∈ step, ∀ another ∈ other, injection.name ≠ another.name := by
  have distinct := nodup_names built body
  rw [List.map_flatten, List.nodup_flatten, List.pairwise_map] at distinct
  have : Std.Symm fun first second : List Injection =>
      List.Disjoint (first.map Injection.name) (second.map Injection.name) :=
    ⟨fun _ _ apart => List.disjoint_symm apart⟩
  rcases Classical.em (step = other) with same | differs
  · exact .inl same
  · refine .inr fun injection held another heldOther same => ?_
    exact distinct.2.forall among amongOther differs (List.mem_map_of_mem held)
      (same ▸ List.mem_map_of_mem heldOther)

/-- The names that the service has a meaning of its own for. -/
def IsServiceName (name : HeaderName) : Prop :=
  name = .ifMatch ∨ "x-ms-".toList <+: name.text.toList

theorem mem_names_of_mem_configured {body : Bytes} {entry : HeaderName × Bytes × Bool}
    (held : entry ∈ configured settings credential body) :
    entry.1 ∈ [HeaderName.accept, .contentType, .userAgent, .authorization, .acceptEncoding] := by
  unfold configured at held
  simp only [List.mem_append, List.mem_singleton, List.mem_map] at held
  rcases held with (((rfl | typed) | rfl) | ⟨secret, _, rfl⟩) | rfl
  case inl.inl.inl.inr =>
    split at typed
    · cases typed
    · rw [List.mem_singleton.1 typed]
      simp
  all_goals simp

theorem ne_of_isServiceName (built : Executor.build settings credential = .ok executor)
    {body : Bytes} {name : HeaderName} (own : IsServiceName name) :
    ∀ injection ∈ (steps executor body).flatten, injection.name ≠ name := by
  have common : ∀ other ∈ [HeaderName.accept, .contentType, .userAgent, .authorization,
      .acceptEncoding], ¬IsServiceName other := by
    unfold IsServiceName
    decide
  rintro injection among rfl
  refine common injection.name ?_ own
  have listed : injection.summary ∈ configured settings credential body :=
    summary_steps built body ▸ List.mem_map_of_mem among
  exact mem_names_of_mem_configured listed

theorem received_send (web : WebTransport) (network : Network) (request : Request) :
    (web.send network request).state.received = network.received ∨
      ∃ wire : WireRequest, (web.send network request).state.received =
          network.received ++ [wire] ∧
        wire.method = request.method ∧ wire.body = request.body ∧
        wire.headers = web.executor.dress (describe request.headers request.body) := by
  unfold send
  split
  · exact .inl rfl
  · simp only [Executor.execute]
    split
    · exact .inl rfl
    · split
      · simp only [Executor.send, Network.exchange]
        split
        · exact .inl rfl
        · exact .inr ⟨_, rfl, rfl, rfl, rfl⟩
      · exact .inl rfl

end WebTransport

open WebTransport Injection

/-- Headers are only added where they are missing. Every step on the way of a request keeps all that
is there, adds the one value that it is configured with for a name without any, and touches no other
name; doing it again changes nothing, and any two steps can change places. So a request of a client
arrives with its own version and service headers, and with each name that is filled in as the caller
set it or else with exactly one value. -/
theorem request_headers_filled {settings : ExecutorSettings} {credential : Option Credential}
    {executor : Executor} (built : Executor.build settings credential = .ok executor)
    (body : Bytes) :
    (steps executor body).flatten.map Injection.summary = configured settings credential body ∧
    (∀ headers, describe headers body = fillAll (described body) headers ∧
      executor.dress (describe headers body) = fillAll (steps executor body).flatten headers) ∧
    (∀ step ∈ steps executor body, ∀ headers,
      FillsGaps step headers (fillAll step headers) ∧
        fillAll step (fillAll step headers) = fillAll step headers) ∧
    (∀ step ∈ steps executor body, ∀ other ∈ steps executor body, ∀ headers name,
      (fillAll step (fillAll other headers)).values name =
        (fillAll other (fillAll step headers)).values name) ∧
    ∀ service network (request : Request), request.body = body →
      (send ⟨service, executor⟩ network request).state.received = network.received ∨
        ∃ wire : WireRequest, (send ⟨service, executor⟩ network request).state.received =
            network.received ++ [wire] ∧ wire.body = body ∧
          wire.headers = fillAll (steps executor body).flatten request.headers ∧
          FillsGaps (steps executor body).flatten request.headers wire.headers ∧
          ∀ name, IsServiceName name → wire.headers.values name = request.headers.values name := by
  refine ⟨summary_steps built body,
    fun headers => ⟨describe_eq_fillAll headers body, dress_describe executor headers body⟩,
    fun step among headers => ?_, fun step among other amongOther headers name => ?_,
    fun service network request same => ?_⟩
  · exact ⟨fillsGaps (nodup_names_of_mem built among) headers, fillAll_fillAll step headers⟩
  · rcases eq_or_apart built among amongOther with rfl | apart
    · rfl
    · exact values_fillAll_comm apart headers name
  · subst same
    rcases received_send ⟨service, executor⟩ network request with nothing | ⟨wire, one, is⟩
    · exact .inl nothing
    · obtain ⟨_, sent, dressed⟩ := is
      rw [dress_describe] at dressed
      have fills := fillsGaps (nodup_names built request.body) request.headers
      rw [← dressed] at fills
      refine .inr ⟨wire, one, sent, dressed, fills, fun name own => ?_⟩
      exact fills.untouched name (ne_of_isServiceName built own)

/-- A service that is nearby, on TLS. -/
def nearbyService : Service :=
  ⟨⟨.https, [], .ipv6 [0, 0, 0, 0, 0, 0, 0, 1], none, [[]], none⟩, "2021-10-01"⟩

/-- A delete of one version, by a caller who accepts two kinds of text. -/
def choosyRequest : Request :=
  ⟨.delete, ["enrollments", "dev-1"], ⟨[(.accept, .ofVisible "text/plain"),
    (.ifMatch, .ofVisible "\"1\""), (.accept, .ofVisible "text/csv")]⟩, []⟩

theorem request_headers_filled_choosy :
    ∃ executor wire, Executor.build .default (some ⟨"secret"⟩) = .ok executor ∧
      (send ⟨nearbyService, executor⟩ ⟨[.late], []⟩ choosyRequest).state.received = [wire] ∧
      wire.headers.values .accept = [.ofVisible "text/plain", .ofVisible "text/csv"] ∧
      wire.headers.values .ifMatch = [.ofVisible "\"1\""] ∧
      wire.headers.values .authorization =
        [{ HeaderValue.ofVisible "secret" with sensitive := true }] ∧
      wire.headers.values .contentType = [] := by
  let secret : Injection :=
    ⟨.authorization, { HeaderValue.ofVisible "secret" with sensitive := true }⟩
  obtain ⟨executor, built, sealed, sent⟩ : ∃ executor : Executor,
      Executor.build .default (some ⟨"secret"⟩) = .ok executor ∧
        executor.credential = some secret ∧
        (send ⟨nearbyService, executor⟩ ⟨[.late], []⟩ choosyRequest).state.received.length = 1 :=
    ⟨_, rfl, rfl, rfl⟩
  obtain ⟨summary, _, _, _, arrives⟩ := request_headers_filled built []
  rcases arrives nearbyService ⟨[.late], []⟩ choosyRequest rfl with nothing | ⟨wire, one, is⟩
  · rw [nothing] at sent
    cases sent
  · obtain ⟨_, _, fills, own⟩ := is
    refine ⟨executor, wire, built, one, ?_, ?_, ?_, ?_⟩
    · rw [fills.kept .accept (by decide +kernel)]
      decide +kernel
    · rw [own .ifMatch (.inl rfl)]
      decide +kernel
    · refine fills.filled secret ?_ (by decide +kernel)
      simp [steps, sealed]
    · have foreign : ∀ entry ∈ configured .default (some ⟨"secret"⟩) [],
          entry.1 ≠ .contentType := by
        decide +kernel
      refine fills.untouched .contentType fun injection among => ?_
      exact foreign injection.summary (summary ▸ List.mem_map_of_mem among)

end Registry

end DeviceEnrollment
