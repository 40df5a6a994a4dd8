import DeviceEnrollment.Proofs.Http.Veil
import DeviceEnrollment.Proofs.Registry.Lockstep
import DeviceEnrollment.Registry.Web

/-!
The credential of a client stays hidden. Whatever is called and whatever servers answer, nothing that
a client shows, logs or returns depends on the credential, and of the requests nothing does but the
value of their authorization (`credential_hidden`).
-/
namespace DeviceEnrollment

open Http (Executor HeaderValue WireAnswer)

namespace Registry

/-! ### The registry over the web -/

/-- What is to be seen of a call, the requests that servers have received by then included. -/
structure Glimpse where
  events : List Event
  result : CallResult
  received : List Http.VeiledRequest

def Glimpse.ofStep (step : Session.Step Http.Network) : Glimpse :=
  ⟨step.events, step.result, step.session.transport.received.map Http.WireRequest.veil⟩

namespace WebTransport

/-- The client, its executor and the layer of its credential as they are shown. -/
def texts (web : WebTransport) : List String :=
  [clientText, web.executor.text, Http.Injection.credentialText]

/-- Calls in order, servers giving these answers. -/
def glimpses (web : WebTransport) (answers : List WireAnswer) (calls : List Call) :
    List Glimpse :=
  (Session.run web.transport (.ofTransport ⟨answers, []⟩) calls).map .ofStep

def carrying (web : WebTransport) (value : HeaderValue) : WebTransport :=
  ⟨web.service, web.executor.carrying value⟩

/-- Requests that carry different credentials are answered alike. -/
theorem lockstep_carrying (web : WebTransport) (value other : HeaderValue) :
    Transport.Lockstep Http.Network.Alike (web.carrying value).transport
      (web.carrying other).transport := by
  have sent : ∀ {network another : Http.Network}, network.Alike another → ∀ request,
      ((web.carrying value).send network request).events =
          ((web.carrying other).send another request).events ∧
        ((web.carrying value).send network request).answer =
          ((web.carrying other).send another request).answer ∧
        ((web.carrying value).send network request).state.Alike
          ((web.carrying other).send another request).state := by
    intro network another alike request
    have placed : (web.carrying value).service.urlFor request.segments =
        (web.carrying other).service.urlFor request.segments := rfl
    unfold send
    rw [placed]
    split
    · exact ⟨rfl, rfl, alike⟩
    · next url _ =>
      obtain ⟨events, result, left⟩ :=
        web.executor.execute_carrying value other alike (outgoing request url)
      refine ⟨?_, ?_, left⟩
      · simp only [carrying, events]
      · simp only [carrying, result]
  exact ⟨fun alike request => (sent alike request).1, fun alike request => (sent alike request).2.1,
    fun alike request => (sent alike request).2.2⟩

theorem glimpses_carrying (web : WebTransport) (value other : HeaderValue)
    (answers : List WireAnswer) (calls : List Call) :
    (web.carrying value).glimpses answers calls = (web.carrying other).glimpses answers calls := by
  apply Session.map_run_eq (web.lockstep_carrying value other)
  · intro step another same
    rw [Glimpse.ofStep, Glimpse.ofStep, same.events, same.result, same.session.transport.received]
  · exact ⟨⟨rfl, rfl⟩, rfl, rfl⟩

/-- A credential in the settings is nothing but the value that the requests carry. -/
theorem ofSettings_some {credential : Credential} {value : HeaderValue}
    (legal : HeaderValue.ofText? credential.exposed = some value) (settings : Settings) :
    let bare := ofSettings { settings with credential := none }
    ofSettings { settings with credential := some credential } =
      ⟨bare.events, bare.result.map (·.carrying { value with sensitive := true })⟩ := by
  have executor : { settings with credential := some credential }.executor =
      { settings with credential := none }.executor := rfl
  simp only [ofSettings, ofBuilt, executor]
  cases parseEndpoint settings.endpoint with
  | error fault => rfl
  | ok endpoint =>
    simp only [Executor.build_some legal]
    cases Executor.build { settings with credential := none }.executor none <;> rfl

end WebTransport

/-- Two credentials that may stand in a header make no difference to anything that is seen of a
client of the registry, or of an executor, but to the values of the authorization that the requests
carry to the servers. -/
theorem credential_hidden {first second : Credential}
    (firstLegal : (HeaderValue.ofText? first.exposed).isSome = true)
    (secondLegal : (HeaderValue.ofText? second.exposed).isSome = true) :
    (∀ (settings : Settings) (answers : List WireAnswer) (calls : List Call),
      let made credential := WebTransport.ofSettings { settings with credential := some credential }
      { settings with credential := some first }.text =
          { settings with credential := some second }.text ∧
        (made first).events = (made second).events ∧
        (made first).result.map (fun web => (web.texts, web.glimpses answers calls)) =
          (made second).result.map fun web => (web.texts, web.glimpses answers calls)) ∧
    ∀ (settings : Http.ExecutorSettings) (answers : List WireAnswer) (jobs : List Executor.Job),
      (Executor.build settings (some first)).map
          (fun executor => (executor.text, executor.glimpses ⟨answers, []⟩ jobs)) =
        (Executor.build settings (some second)).map
          fun executor => (executor.text, executor.glimpses ⟨answers, []⟩ jobs) := by
  obtain ⟨value, firstLegal⟩ := Option.isSome_iff_exists.1 firstLegal
  obtain ⟨other, secondLegal⟩ := Option.isSome_iff_exists.1 secondLegal
  constructor
  · intro settings answers calls
    simp only [WebTransport.ofSettings_some firstLegal, WebTransport.ofSettings_some secondLegal]
    refine ⟨rfl, trivial, ?_⟩
    cases (WebTransport.ofSettings { settings with credential := none }).result with
    | error error => rfl
    | ok web =>
      have seen := web.glimpses_carrying { value with sensitive := true }
        { other with sensitive := true } answers calls
      simp only [Except.map, seen]
      rfl
  · intro settings answers jobs
    rw [Executor.build_some firstLegal, Executor.build_some secondLegal]
    cases Executor.build settings none with
    | error failure => rfl
    | ok executor =>
      have alike : Http.Network.Alike ⟨answers, []⟩ ⟨answers, []⟩ := ⟨rfl, rfl⟩
      have seen := executor.glimpses_carrying { value with sensitive := true }
        { other with sensitive := true } alike jobs
      simp only [Except.map, seen]
      rfl

/-- Settings of a client with an address of version 6, and a server that deletes one record. -/
def plainSettings (credential : Credential) : Settings :=
  { Settings.default with endpoint := "https://[::1]", credential := some credential }

def deletion : List WireAnswer := [.response ⟨204, by decide⟩ .empty []]

/-- Two keys give the same events, results and texts, and the server tells them apart. -/
theorem credential_hidden_keys :
    ∃ web other,
      (WebTransport.ofSettings (plainSettings ⟨"sig=a"⟩)).result = .ok web ∧
      (WebTransport.ofSettings (plainSettings ⟨"sig=b"⟩)).result = .ok other ∧
      web.texts = other.texts ∧
      web.glimpses deletion [.deleteById "dev-1" none, .get "dev-1"] =
        other.glimpses deletion [.deleteById "dev-1" none, .get "dev-1"] ∧
      (web.glimpses deletion [.deleteById "dev-1" none, .get "dev-1"]).map
        (·.received.length) = [1, 1] ∧
      web.executor.dress .empty ≠ other.executor.dress .empty := by
  have legal : ∀ text ∈ ["sig=a", "sig=b"], (HeaderValue.ofText? text).isSome = true := by decide
  obtain ⟨hidden, _⟩ := @credential_hidden ⟨"sig=a"⟩ ⟨"sig=b"⟩ (legal _ (by decide))
    (legal _ (by decide))
  obtain ⟨_, _, same⟩ := hidden (plainSettings ⟨"sig=a"⟩) deletion
    [.deleteById "dev-1" none, .get "dev-1"]
  refine ⟨_, _, rfl, rfl, ?_⟩
  have seen := Prod.mk.inj (Except.ok.inj same)
  exact ⟨seen.1, seen.2, by rfl, by decide⟩

end Registry

end DeviceEnrollment
