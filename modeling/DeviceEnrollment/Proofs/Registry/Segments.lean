import DeviceEnrollment.Proofs.Url.Settled
import DeviceEnrollment.Registry.Endpoint

/-!
Where a segment of the collection lies. Without its tabs and line ends a segment has to be a name,
which is neither empty nor dots; it is then one segment of the path that reads as the name, and only
segments of the same name share its address (`segment_address_exact`).
-/
namespace DeviceEnrollment.Registry

open Url

/-! ### Endpoints -/

theorem exists_parse_of_parseEndpoint {text : String} {endpoint : WebUrl}
    (accepted : parseEndpoint text = .ok endpoint) :
    ∃ url, parse (Text.trim text) = .ok (some url) ∧ endpoint = { url with query := none } := by
  unfold parseEndpoint at accepted
  simp only at accepted
  split at accepted
  · cases accepted
  · split at accepted
    · cases accepted
    · cases accepted
    · next url parsed => exact ⟨url, parsed, (Except.ok.inj accepted).symm⟩

theorem isSettled_endpoint {text : String} {endpoint : WebUrl}
    (accepted : parseEndpoint text = .ok endpoint) : ∀ part ∈ endpoint.path, IsSettled part := by
  obtain ⟨url, parsed, rfl⟩ := exists_parse_of_parseEndpoint accepted
  obtain ⟨rest, path⟩ := exists_parsePath_of_parse parsed
  exact fun part member => isSettled_of_mem_parsePath (path ▸ member)

theorem mem_path_of_mem_stem {url : WebUrl} {part : List Char} (member : part ∈ url.stem) :
    part ∈ url.path := by
  unfold WebUrl.stem at member
  split at member
  · exact (List.dropLast_sublist _).subset member
  · exact member

/-! ### The collection -/

/-- The address of the collection is its name behind the stem of the endpoint. -/
theorem extendPath_collection {endpoint : WebUrl} (tidy : endpoint.IsTidy) :
    extendPath (dropFinalSlash endpoint.path) enrollmentCollection =
      endpoint.stem ++ [enrollmentCollection.toList] :=
  extendPath_dropFinalSlash tidy (by decide) (by decide)

theorem isSettled_collection {text : String} {endpoint : WebUrl}
    (accepted : parseEndpoint text = .ok endpoint) :
    ∀ part ∈ endpoint.stem ++ [enrollmentCollection.toList], IsSettled part := by
  intro part member
  rcases List.mem_append.1 member with stem | collection
  · exact isSettled_endpoint accepted part (mem_path_of_mem_stem stem)
  · have whole : writeSegment enrollmentCollection = enrollmentCollection.toList := by decide
    rw [List.mem_singleton.1 collection, ← whole]
    exact isSettled_writeSegment (by decide) (by decide)

variable {service : Service} {segment other : String}

/-- Whatever a segment is, its address is that of the collection with the segment added to it. -/
theorem urlFor_collection (tidy : service.endpoint.IsTidy)
    (addressable : isUnaddressable segment = false) :
    service.urlFor [enrollmentCollection, segment] = .ok { service.endpoint with
      path := addSegment (service.endpoint.stem ++ [enrollmentCollection.toList])
        (writeSegment segment)
      query := some (formPair Service.versionName service.apiVersion) } := by
  -- The path is not that of a bare host any more, which would make room for the segment.
  have filled : service.endpoint.stem ++ [enrollmentCollection.toList] ≠ [[]] := by
    intro bare
    have ends := congrArg List.getLast? bare
    rw [List.getLast?_concat] at ends
    exact absurd (Option.some.inj ends) (by decide)
  have path : [enrollmentCollection, segment].foldl extendPath
      (dropFinalSlash service.endpoint.path) =
      addSegment (service.endpoint.stem ++ [enrollmentCollection.toList])
        (writeSegment segment) := by
    rw [List.foldl_cons, List.foldl_cons, List.foldl_nil, extendPath_collection tidy, extendPath,
      if_neg filled]
  have found : [enrollmentCollection, segment].find? isUnaddressable = none := by
    have collection : isUnaddressable enrollmentCollection = false := by decide
    simp [collection, addressable]
  rw [Service.urlFor, found]
  simp only [WebUrl.extend, WebUrl.withPair, path]

/-- Addresses of one service differ in their paths only. -/
theorem pathText_eq_of_text_eq {endpoint : WebUrl} {query : Option (List Char)}
    {first second : List (List Char)}
    (same : ({ endpoint with path := first, query } : WebUrl).text =
      ({ endpoint with path := second, query } : WebUrl).text) :
    pathText first = pathText second := by
  have letters := congrArg String.toList same
  simp only [WebUrl.text, String.toList_ofList, WebUrl.letters, WebUrl.authorityText] at letters
  exact List.append_cancel_left (List.append_cancel_right letters)

/-! ### Names -/

theorem stripVanishing_ne_dots (named : isUnaddressable (stripVanishing segment) = false) :
    stripVanishing segment ≠ "." ∧ stripVanishing segment ≠ ".." := by
  simp only [isUnaddressable, Bool.or_eq_false_iff, beq_eq_false_iff_ne] at named
  exact ⟨named.1.2, named.2⟩

/-- What is a name without tabs and line ends is accepted with them. -/
theorem isUnaddressable_of_stripVanishing
    (named : isUnaddressable (stripVanishing segment) = false) :
    isUnaddressable segment = false := by
  cases refused : isUnaddressable segment with
  | false => rfl
  | true =>
    simp only [isUnaddressable, Bool.or_eq_true, beq_iff_eq] at refused
    rcases refused with (rfl | rfl) | rfl <;> exact absurd named (by decide)

theorem addSegment_of_named (named : isUnaddressable (stripVanishing segment) = false)
    (done : List (List Char)) :
    addSegment done (writeSegment segment) = done ++ [writeSegment segment] := by
  obtain ⟨single, double⟩ := stripVanishing_ne_dots named
  exact addSegment_writeSegment single double done

theorem writeSegment_ne_nil_of_named (named : isUnaddressable (stripVanishing segment) = false) :
    writeSegment segment ≠ [] := by
  intro nothing
  rw [writeSegment_eq_nil_iff.1 nothing] at named
  exact absurd named (by decide)

/-- A name is one segment behind the collection. -/
theorem urlFor_named (tidy : service.endpoint.IsTidy)
    (named : isUnaddressable (stripVanishing segment) = false) :
    service.urlFor [enrollmentCollection, segment] = .ok { service.endpoint with
      path := service.endpoint.stem ++ [enrollmentCollection.toList] ++ [writeSegment segment]
      query := some (formPair Service.versionName service.apiVersion) } := by
  rw [urlFor_collection tidy (isUnaddressable_of_stripVanishing named), addSegment_of_named named]

theorem stripVanishing_eq_of_text_eq {url otherUrl : WebUrl} (tidy : service.endpoint.IsTidy)
    (named : isUnaddressable (stripVanishing segment) = false)
    (found : service.urlFor [enrollmentCollection, segment] = .ok url)
    (otherNamed : isUnaddressable (stripVanishing other) = false)
    (otherFound : service.urlFor [enrollmentCollection, other] = .ok otherUrl)
    (same : otherUrl.text = url.text) : stripVanishing other = stripVanishing segment := by
  cases Except.ok.inj (found.symm.trans (urlFor_named tidy named))
  cases Except.ok.inj (otherFound.symm.trans (urlFor_named tidy otherNamed))
  have paths := pathText_eq_of_text_eq same
  rw [pathText_append _ [writeSegment other], pathText_append _ [writeSegment segment]] at paths
  have segments := List.append_cancel_left paths
  simp only [pathText, List.flatMap_cons, List.flatMap_nil, List.append_nil,
    List.cons.injEq, true_and] at segments
  exact stripVanishing_eq_of_writeSegment segments

theorem urlFor_eq_of_stripVanishing_eq (tidy : service.endpoint.IsTidy)
    (named : isUnaddressable (stripVanishing segment) = false)
    (same : stripVanishing other = stripVanishing segment) :
    service.urlFor [enrollmentCollection, other] =
      service.urlFor [enrollmentCollection, segment] := by
  rw [urlFor_named tidy named, urlFor_named tidy (same ▸ named), writeSegment_eq, same,
    ← writeSegment_eq]

/-- A segment that is a name without its tabs and line ends lies behind the path of the endpoint and
the collection. It is written there in printable characters of ASCII that separate nothing, and it
reads as that name. Cut at its slashes or read again, the path has the same segments, so that an
escape in the name is never a slash or a dot. Exactly the segments of one name share an address. -/
theorem segment_address_exact {text : String} {service : Service} {segment : String}
    (accepted : parseEndpoint text = .ok service.endpoint) (tidy : service.endpoint.IsTidy)
    (named : isUnaddressable (stripVanishing segment) = false) :
    ∃ url written, service.urlFor [enrollmentCollection, segment] = .ok url ∧
      pathText url.path = pathText service.endpoint.stem ++ "/enrollments/".toList ++ written ∧
      (∀ c ∈ written, 0x20 < c.toNat ∧ c.toNat < 0x7F ∧ c ∉ ['/', '?', '#', '\\']) ∧
      decodeBytes (Bytes.ofText (String.ofList written)) = Bytes.ofText (stripVanishing segment) ∧
      Text.partsAt '/' (pathText url.path) =
        [] :: (service.endpoint.stem ++ [enrollmentCollection.toList, written]) ∧
      parsePath (pathText url.path) =
        service.endpoint.stem ++ [enrollmentCollection.toList, written] ∧
      ∀ other otherUrl, isUnaddressable (stripVanishing other) = false →
        service.urlFor [enrollmentCollection, other] = .ok otherUrl →
        (otherUrl.text = url.text ↔ stripVanishing other = stripVanishing segment) := by
  have found := urlFor_named tidy named
  have settled : ∀ part ∈ service.endpoint.stem ++ [enrollmentCollection.toList] ++
      [writeSegment segment], IsSettled part := by
    obtain ⟨single, double⟩ := stripVanishing_ne_dots named
    intro part member
    rcases List.mem_append.1 member with before | last
    · exact isSettled_collection accepted part before
    · exact List.mem_singleton.1 last ▸ isSettled_writeSegment single double
  refine ⟨_, writeSegment segment, found, ?_, ?_, decodeBytes_writeSegment segment, ?_, ?_, ?_⟩
  · rw [pathText_append, pathText_append]
    simp [pathText, enrollmentCollection]
  · intro c member
    simpa [isSegmentChar, and_assoc] using isSegmentChar_writeSegment segment c member
  · rw [partsAt_pathText fun part member => (settled part member).slash_not_mem, List.append_assoc]
    rfl
  · rw [parsePath_pathText (by simp) settled, List.append_assoc]
    rfl
  · intro other otherUrl otherNamed otherFound
    constructor
    · exact stripVanishing_eq_of_text_eq tidy named found otherNamed otherFound
    · intro same
      rw [urlFor_eq_of_stripVanishing_eq tidy named same, found] at otherFound
      rw [Except.ok.inj otherFound]

/-- A service at an address of version 6. -/
def localService : Service :=
  ⟨⟨.https, [], .ipv6 [0, 0, 0, 0, 0, 0, 0, 1], none, ["tenant".toList, []], none⟩, "2021-10-01"⟩

theorem parseEndpoint_localService :
    parseEndpoint "https://[::1]/tenant/?stale=1#top" = .ok localService.endpoint := by rfl

/-- Escaped dots stay the escapes that they are, and a tab between them does not count. -/
theorem segment_address_escapes :
    ∃ url, localService.urlFor ["enrollments", "%2e%2e"] = .ok url ∧
      parsePath (pathText url.path) = ["tenant", "enrollments", "%252e%252e"].map String.toList ∧
      ∀ otherUrl, localService.urlFor ["enrollments", "%2e\t%2e"] = .ok otherUrl →
        otherUrl.text = url.text := by
  have named : isUnaddressable (stripVanishing "%2e%2e") = false := by decide
  obtain ⟨url, _, found, _, _, _, _, _, shared⟩ :=
    segment_address_exact parseEndpoint_localService (by decide) named
  refine ⟨url, found, ?_, fun otherUrl otherFound => ?_⟩
  · rw [← Except.ok.inj found]
    rfl
  · exact (shared _ otherUrl (by decide) otherFound).2 (by decide)

end DeviceEnrollment.Registry
