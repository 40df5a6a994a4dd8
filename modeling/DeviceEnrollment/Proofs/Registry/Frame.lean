import DeviceEnrollment.Proofs.Registry.Addressing
import DeviceEnrollment.Proofs.Url.Form
import DeviceEnrollment.Proofs.Url.Parts

/-!
What no id can change about an address. Whatever the segments of a resource are, the text of its
address falls into the scheme, the user information, the host and the port of the endpoint, a path,
and a query that holds the version of the interface and nothing else (`address_frame`).
-/
namespace DeviceEnrollment.Registry

open Url

/-- An address that the service gives differs from the endpoint in path and query only. -/
theorem eq_of_urlFor {service : Service} {segments : List String} {url : WebUrl}
    (found : service.urlFor segments = .ok url) :
    url = { service.endpoint with
      path := (service.endpoint.extend segments).path
      query := some (formPair Service.versionName service.apiVersion) } := by
  unfold Service.urlFor at found
  split at found
  · cases found
  · exact (Except.ok.inj found).symm

theorem isSeparate_of_parseEndpoint {text : String} {endpoint : WebUrl}
    (accepted : parseEndpoint text = .ok endpoint) : endpoint.IsSeparate := by
  obtain ⟨url, parsed, rfl⟩ := exists_parse_of_parseEndpoint accepted
  have separate := isSeparate_of_parse parsed
  exact ⟨separate.userinfo, separate.host, separate.path, fun _ none => nomatch none⟩

/-- Written segments and a written pair run into no other part. -/
theorem isSeparate_of_urlFor {service : Service} (separate : service.endpoint.IsSeparate)
    {segments : List String} {url : WebUrl} (found : service.urlFor segments = .ok url) :
    url.IsSeparate := by
  rw [eq_of_urlFor found]
  constructor
  case userinfo => exact separate.userinfo
  case host => exact separate.host
  case path =>
    exact WebUrl.forall_mem_extend (by simp) mark_not_mem_writeSegment separate.path segments
  case query =>
    intro query same
    cases same
    exact not_mem_formPair (by decide) (by decide) _ _

theorem query_endpoint {text : String} {endpoint : WebUrl}
    (accepted : parseEndpoint text = .ok endpoint) : endpoint.query = none := by
  obtain ⟨url, _, rfl⟩ := exists_parse_of_parseEndpoint accepted
  rfl

/-- The parts of the endpoint are read in the text of every address below it. Only the path differs,
and the query is there, which is one pair for the version and the same for all segments. -/
theorem address_frame {text : String} {service : Service}
    (accepted : parseEndpoint text = .ok service.endpoint) :
    ∃ frame query,
      AddressParts.ofText? service.endpoint.text.toList = some frame ∧
      frame.scheme = service.endpoint.scheme.text.toList ∧
      frame.userinfo = service.endpoint.userinfo ∧
      frame.host = service.endpoint.host.text ∧
      frame.port.map Text.decimalValue = service.endpoint.port ∧
      frame.query = none ∧ frame.fragment = none ∧
      formPairs query = [(Bytes.ofText Service.versionName, Bytes.ofText service.apiVersion)] ∧
      ∀ segments url, service.urlFor segments = .ok url →
        url = { service.endpoint with path := url.path, query := some query } ∧
        AddressParts.ofText? url.text.toList =
          some { frame with path := pathText url.path, query := some query } := by
  have separate := isSeparate_of_parseEndpoint accepted
  have read : ∀ {url : WebUrl}, url.IsSeparate →
      AddressParts.ofText? url.text.toList = some url.parts := fun separate => by
    rw [WebUrl.text, String.toList_ofList, AddressParts.ofText?_letters separate]
  refine ⟨service.endpoint.parts, formPair Service.versionName service.apiVersion, read separate,
    rfl, rfl, rfl, ?_, query_endpoint accepted, rfl, formPairs_formPair _ _, ?_⟩
  · cases port : service.endpoint.port <;> simp [WebUrl.parts, port, Text.decimalValue_toDigits]
  · intro segments url found
    have same := eq_of_urlFor found
    have parts := read (isSeparate_of_urlFor separate found)
    constructor
    · rw [same]
    · rw [parts, same]
      rfl

/-- A service behind a user name and a port of its own, with a version that has marks in it. -/
def guardedService : Service :=
  ⟨⟨.https, "ops:a%40b".toList, .ipv6 [0, 0, 0, 0, 0, 0, 0, 1], some 8443, ["t".toList], none⟩,
    "1 &api-version=2#é"⟩

theorem parseEndpoint_guardedService :
    parseEndpoint "https://ops:a@b@[::1]:8443/t?api-version=0#top" =
      .ok guardedService.endpoint := by rfl

/-- Segments that look like another host, another query and a way up are all part of the path. -/
theorem address_frame_hostile :
    ∃ url query, guardedService.urlFor ["..\t", "@evil:1\\?api-version=0#x", "%2e%2E/.."] = .ok url ∧
      AddressParts.ofText? url.text.toList = some {
        scheme := "https".toList
        userinfo := "ops:a%40b".toList
        host := "[::1]".toList
        port := some "8443".toList
        path := pathText url.path
        query := some query
        fragment := none } ∧
      formPairs query = [(Bytes.ofText "api-version", Bytes.ofText "1 &api-version=2#é")] := by
  obtain ⟨frame, query, endpoint, _, _, _, _, _, _, pairs, below⟩ :=
    address_frame parseEndpoint_guardedService
  have own : frame = guardedService.endpoint.parts :=
    Option.some.inj (endpoint.symm.trans (by rfl))
  obtain ⟨url, found⟩ : ∃ url, guardedService.urlFor
      ["..\t", "@evil:1\\?api-version=0#x", "%2e%2E/.."] = .ok url := ⟨_, rfl⟩
  obtain ⟨_, parts⟩ := below _ url found
  rw [own] at parts
  exact ⟨url, query, found, parts, pairs⟩

end DeviceEnrollment.Registry
