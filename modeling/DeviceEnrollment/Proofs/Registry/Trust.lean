import DeviceEnrollment.Proofs.Steps
import DeviceEnrollment.Registry.Web

/-!
Executors and transports on machines where TLS may not be set up. Where it is, the same is built as
anywhere else (`Executor.buildOn_eq_ok_iff`, `WebTransport.ofSettingsOn_eq_ok_iff`). Where it is not,
nothing is built, and what the failure says depends on the machine only
(`WebTransport.ofSettingsOn_of_fault`).
-/
namespace DeviceEnrollment

namespace Http

/-- The roots that come with the program need nothing but the ciphers. Those of the system need a
certificate that can be parsed as well. -/
theorem TrustStore.fault?_eq_none_iff {store : TrustStore} {roots : TlsRoots} :
    store.fault? roots = none ↔
      store.versionFault = none ∧ (roots = .native → 0 < store.parsed) := by
  cases roots with
  | webPki => simp [fault?]
  | native =>
    have bound := store.parsed_le
    simp only [fault?]
    split
    · next empty =>
      have unparsed : store.parsed = 0 := by omega
      simp [unparsed]
    · split
      · next unparsed => simp [unparsed]
      · next parsed => simp [Nat.pos_of_ne_zero parsed]

namespace Injection

theorem eq_of_ofUserAgent_error {userAgent : String} {failure : Failure}
    (refused : ofUserAgent userAgent = .error failure) : failure = .invalidHeaderValue := by
  unfold ofUserAgent at refused
  split at refused
  · cases refused
  · exact (Except.error.inj refused).symm

theorem eq_of_ofCredential_error {credential : Credential} {failure : Failure}
    (refused : ofCredential credential = .error failure) : failure = .invalidHeaderValue := by
  unfold ofCredential at refused
  split at refused
  · cases refused
  · exact (Except.error.inj refused).symm

end Injection

namespace Executor

variable {store : TrustStore} {settings : ExecutorSettings} {credential : Option Credential}

/-- Once TLS is set up, nothing but a header can be wrong. -/
theorem eq_of_build_error {failure : Failure} (failed : build settings credential = .error failure) :
    failure = .invalidHeaderValue := by
  rcases cases_of_bind_error failed with unnamed | ⟨userAgent, _, later⟩
  · exact Injection.eq_of_ofUserAgent_error unnamed
  · rcases cases_of_bind_error later with unsealed | ⟨injection, _, built⟩
    · cases credential with
      | none => cases unsealed
      | some credential =>
        rcases cases_of_bind_error unsealed with refused | ⟨_, _, sealed⟩
        · exact Injection.eq_of_ofCredential_error refused
        · cases sealed
    · cases built

theorem buildOn_of_sound (sound : store.fault? settings.tlsRoots = none) :
    buildOn store settings credential = build settings credential := by
  rw [buildOn, sound]

theorem buildOn_eq_ok_iff {executor : Executor} :
    buildOn store settings credential = .ok executor ↔
      store.fault? settings.tlsRoots = none ∧ build settings credential = .ok executor := by
  unfold buildOn
  cases store.fault? settings.tlsRoots <;> simp

/-- A failure of TLS says what is wrong with the machine. -/
theorem buildOn_eq_tls_iff {reason : String} :
    buildOn store settings credential = .error (.tls reason) ↔
      store.fault? settings.tlsRoots = some reason := by
  unfold buildOn
  cases fault : store.fault? settings.tlsRoots with
  | some other => simp
  | none =>
    constructor
    · intro failed
      cases eq_of_build_error failed
    · intro found
      cases found

end Executor

end Http

namespace Registry.WebTransport

variable {store : Http.TrustStore} {settings : Settings}

theorem ofSettingsOn_of_sound (sound : store.fault? settings.tlsRoots = none) :
    ofSettingsOn store settings = ofSettings settings := by
  have same : Http.Executor.buildOn store settings.executor settings.credential =
      Http.Executor.build settings.executor settings.credential :=
    Http.Executor.buildOn_of_sound sound
  rw [ofSettingsOn, same, ofSettings]

/-- Where TLS cannot be set up, a usable endpoint ends in a failure of the transport with the reason,
whatever the credential is. -/
theorem ofSettingsOn_of_fault {reason : String}
    (fault : store.fault? settings.tlsRoots = some reason) {endpoint : Url.WebUrl}
    (usable : parseEndpoint settings.endpoint = .ok endpoint) (credential : Option Credential) :
    ofSettingsOn store { settings with credential } =
      ⟨Http.Executor.buildEvents settings.executor,
        .error (.transport (.ofFailure (.tls reason)))⟩ := by
  have failed : Http.Executor.buildOn store settings.executor credential =
      .error (.tls reason) := Http.Executor.buildOn_eq_tls_iff.2 fault
  show ofBuilt { settings with credential }
    (Http.Executor.buildOn store settings.executor credential) = _
  rw [failed, ofBuilt]
  simp only [usable]
  rfl

/-- A transport on a machine is one that the settings give where TLS is set up. -/
theorem ofSettingsOn_eq_ok_iff {web : WebTransport} :
    (ofSettingsOn store settings).result = .ok web ↔
      store.fault? settings.tlsRoots = none ∧ (ofSettings settings).result = .ok web := by
  cases fault : store.fault? settings.tlsRoots with
  | none => simp [ofSettingsOn_of_sound fault]
  | some reason =>
    cases read : parseEndpoint settings.endpoint with
    | error unusable => simp [ofSettingsOn, ofBuilt, read]
    | ok endpoint => simp [ofSettingsOn_of_fault fault read settings.credential]

end Registry.WebTransport

end DeviceEnrollment
