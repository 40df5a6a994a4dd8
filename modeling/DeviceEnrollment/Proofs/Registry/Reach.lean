import DeviceEnrollment.Proofs.Registry.PlainText
import DeviceEnrollment.Proofs.Url.Printed

/-!
Which endpoints can be reached. Below an endpoint that was accepted every address is read as the
target with the same parts if its host is plain, and as none if it is not; such an endpoint is
accepted all the same, and no request below it is ever sent (`reach_exact`).
-/
namespace DeviceEnrollment

/-! ### Targets of addresses -/

namespace Http.Executor

variable {security : TransportSecurity} {url : String}

/-- A target on a scheme of the web may be used, on the encrypted one in any case. -/
theorem target_of_ofText {found : RequestTarget} {scheme : Url.WebScheme}
    (read : RequestTarget.ofText url = .ok found) (filled : found.authority ≠ [])
    (named : found.scheme = some scheme.text.toList)
    (allowed : security = .allowInsecureHttp ∨ scheme = .https) :
    target security url = .ok found := by
  have authority : found.authority.isEmpty = false := by simpa using filled
  rw [target, read]
  simp only [authority, named, Bool.false_eq_true, if_false]
  cases scheme with
  | https => rfl
  | http =>
    obtain rfl : security = .allowInsecureHttp := allowed.resolve_right (by decide)
    rfl

theorem target_of_ofText_error {fault : TargetError} (read : RequestTarget.ofText url = .error fault) :
    target security url = .error (.invalidTarget url .unreadable fault.message) := by
  rw [target, read]

end Http.Executor

namespace Registry

open Url

/-! ### Addresses below an endpoint -/

theorem isPrinted_of_parseEndpoint {text : String} {endpoint : WebUrl}
    (accepted : parseEndpoint text = .ok endpoint) : endpoint.IsPrinted := by
  obtain ⟨url, parsed, rfl⟩ := exists_parse_of_parseEndpoint accepted
  obtain ⟨scheme, rest, read⟩ := exists_parseWeb_of_parse parsed
  obtain ⟨authority, authorized, rfl⟩ := exists_authority_of_parseWeb read
  obtain ⟨⟨info, userinfo⟩, _, host⟩ := of_parseAuthority authorized
  constructor
  case userinfo => exact userinfo ▸ isInfo_writeUserinfo info
  case host => exact Host.isPrinted_of_parseHost host
  case path => exact fun segment member => isPathChar_parsePath member
  case query => exact fun _ none => nomatch none

theorem isPrinted_of_urlFor {service : Service} (printed : service.endpoint.IsPrinted)
    {segments : List String} {url : WebUrl} (found : service.urlFor segments = .ok url) :
    url.IsPrinted := by
  rw [eq_of_urlFor found]
  constructor
  case userinfo => exact printed.userinfo
  case host => exact printed.host
  case path =>
    exact WebUrl.forall_mem_extend (by simp) isPathChar_writeSegment printed.path segments
  case query =>
    intro query same
    cases same
    exact isQueryChar_formPair _ _

theorem authorityText_ne_nil {url : WebUrl} (printed : url.IsPrinted) : url.authorityText ≠ [] := by
  have host : url.host.text ≠ [] := by
    rcases printed.host with written | ⟨filled, _⟩
    · exact written.ne_nil
    · exact filled
  rw [authorityText_eq]
  simp [host]

/-- An odd character in the host of an endpoint is found in every address, however long. -/
theorem exists_failure_of_not_isPlain {service : Service} (printed : service.endpoint.IsPrinted)
    (odd : ¬service.endpoint.host.IsPlain) {segments : List String} {url : WebUrl}
    (found : service.urlFor segments = .ok url) (security : Http.TransportSecurity) :
    ∃ failure, Http.Executor.target security url.text = .error failure := by
  have same : ¬url.host.IsPlain := by
    rw [eq_of_urlFor found]
    exact odd
  by_cases short : url.text.utf8ByteSize ≤ Http.RequestTarget.greatestLength
  · exact ⟨_, Http.Executor.target_of_ofText_error
      ((isPrinted_of_urlFor printed found).ofText_of_not_isPlain same short)⟩
  · have long : Http.RequestTarget.ofText url.text = .error .tooLong := by
      rw [Http.RequestTarget.ofText, if_pos (Nat.not_le.1 short)]
    exact ⟨_, Http.Executor.target_of_ofText_error long⟩

/-- Below an endpoint with a plain host every address that is not too long is read as the target with
the same scheme, authority, host, port, path and query. With an odd character in the host every
such address is refused for it. The endpoint is accepted though, and a client of it leaves the
servers alone in every session: its calls are turned away unless they need no request. -/
theorem reach_exact {text : String} {service : Service}
    (accepted : parseEndpoint text = .ok service.endpoint) :
    (∀ segments url, service.urlFor segments = .ok url →
      url.text.utf8ByteSize ≤ Http.RequestTarget.greatestLength →
      (service.endpoint.host.IsPlain → ∃ found, url.IsTarget found ∧
        ∀ security, security = .allowInsecureHttp ∨ url.scheme = .https →
          Http.Executor.target security url.text = .ok found) ∧
      (¬service.endpoint.host.IsPlain → ∀ security, Http.Executor.target security url.text =
        .error (.invalidTarget url.text .unreadable "invalid uri character"))) ∧
    (¬service.endpoint.host.IsPlain →
      ∀ (executor : Http.Executor) (session : Session Http.Network) (calls : List Call),
        let web : WebTransport := ⟨service, executor⟩
        let watched := session.watch web.transport calls
        watched.2.transport = session.transport ∧
          ∀ seen ∈ watched.1, (seen.exchanges = [] ∧ seen.IsLocal) ∨ seen.IsTurnedAway) := by
  have printed := isPrinted_of_parseEndpoint accepted
  constructor
  · intro segments url found short
    have below := isPrinted_of_urlFor printed found
    have host : url.host = service.endpoint.host := by rw [eq_of_urlFor found]
    rw [← host]
    constructor
    · intro plain
      refine ⟨_, below.isTarget plain, fun security allowed => ?_⟩
      exact Http.Executor.target_of_ofText (below.ofText_of_isPlain plain short)
        (authorityText_ne_nil below) rfl allowed
    · intro odd security
      exact Http.Executor.target_of_ofText_error (below.ofText_of_not_isPlain odd short)
  · intro odd executor session calls
    refine Session.watch_of_rejects (WebTransport.rejects_of_refused ?_ session.transport) calls
    exact fun segments url found =>
      exists_failure_of_not_isPlain printed odd found executor.security

/-- A service whose endpoint still has the place for a name in it. -/
def templateService : Service :=
  ⟨⟨.https, [], .name "\x7btenant\x7d.example.net".toList, none, [[]], none⟩, "2021-10-01"⟩

theorem parseEndpoint_templateService :
    parseEndpoint "https://\x7btenant\x7d.example.net" = .ok templateService.endpoint := by
  decide +kernel

/-- The guarded service is reached under its host and port. A session of a client of the template
asks the server, which would answer, for nothing. -/
theorem reach_exact_guarded :
    parseEndpoint "https://ops:a@b@[::1]:8443/t?api-version=0#top" = .ok guardedService.endpoint ∧
      guardedService.endpoint.host.IsPlain ∧
      (∃ url found, guardedService.urlFor ["enrollments", "dev 1"] = .ok url ∧
        Http.Executor.target .allowInsecureHttp url.text = .ok found ∧
        found.host = "[::1]".toList ∧ found.port = "8443".toList ∧
        found.path = "/t/enrollments/dev%201".toList) ∧
      parseEndpoint "https://\x7btenant\x7d.example.net" = .ok templateService.endpoint ∧
      ¬templateService.endpoint.host.IsPlain ∧
      let session : Session Http.Network := .ofTransport ⟨[.late], []⟩
      let web : WebTransport := ⟨templateService, nearbyWeb.executor⟩
      (session.watch web.transport [.get "dev-1"]).2.transport = ⟨[.late], []⟩ := by
  have plain : guardedService.endpoint.host.IsPlain := by decide
  have odd : ¬templateService.endpoint.host.IsPlain := by decide
  obtain ⟨below, _⟩ := reach_exact parseEndpoint_guardedService
  obtain ⟨_, silent⟩ := reach_exact parseEndpoint_templateService
  obtain ⟨url, placed, path⟩ : ∃ url,
      guardedService.urlFor ["enrollments", "dev 1"] = .ok url ∧
        url = { guardedService.endpoint with
          path := ["t".toList, "enrollments".toList, "dev%201".toList]
          query := some (formPair Service.versionName guardedService.apiVersion) } :=
    ⟨_, rfl, by rfl⟩
  obtain ⟨found, same, allowed⟩ := (below _ url placed (by rw [path]; decide +kernel)).1 plain
  refine ⟨parseEndpoint_guardedService, plain,
    ⟨url, found, placed, allowed _ (.inl rfl), ?_, ?_, ?_⟩, parseEndpoint_templateService, odd,
    (silent odd nearbyWeb.executor _ _).1⟩
  · rw [same.host, path]
    rfl
  · rw [same.port, path]
    rfl
  · rw [same.path, path]
    rfl

/-- The template is accepted as an endpoint, and the address of the first resource below it is read
as no target. -/
theorem reach_lost :
    parseEndpoint "https://\x7btenant\x7d.example.net" = .ok templateService.endpoint ∧
      ∃ url, templateService.urlFor ["enrollments"] = .ok url ∧
        url.text = "https://\x7btenant\x7d.example.net/enrollments?api-version=2021-10-01" ∧
        url.text.utf8ByteSize ≤ Http.RequestTarget.greatestLength ∧
        ∀ found, Http.Executor.target .allowInsecureHttp url.text ≠ .ok found := by
  obtain ⟨url, placed, text⟩ : ∃ url, templateService.urlFor ["enrollments"] = .ok url ∧
      url.text = "https://\x7btenant\x7d.example.net/enrollments?api-version=2021-10-01" :=
    ⟨_, rfl, by decide +kernel⟩
  refine ⟨parseEndpoint_templateService, url, placed, text, by rw [text]; decide +kernel, ?_⟩
  have refused : Http.RequestTarget.ofText url.text = .error .badCharacter := by
    rw [text]
    decide +kernel
  rw [Http.Executor.target_of_ofText_error refused]
  rintro _ ⟨⟩

end Registry

end DeviceEnrollment
