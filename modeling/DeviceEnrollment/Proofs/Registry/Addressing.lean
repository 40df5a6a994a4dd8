import DeviceEnrollment.Proofs.Registry.Record
import DeviceEnrollment.Proofs.Registry.Segments

/-!
Where the record of a registration id lies. An id keeps its address to itself as long as it has
no tab and no line end; one of these vanishes from the address, and the id with it.
-/
namespace DeviceEnrollment.Registry

open Url

/-! ### Records -/

/-- Whether a text has no character that vanishes from an address. -/
def KeepsCharacters (text : String) : Prop := ∀ c ∈ text.toList, isVanishing c = false

instance (text : String) : Decidable (KeepsCharacters text) :=
  List.decidableBAll (isVanishing · = false) text.toList

/-- Whether the path of an address, cut at its slashes, is that of the endpoint with two segments
behind it: the collection of all enrollments, and one that reads as an id. -/
def AddressesRecord (endpoint url : WebUrl) (id : String) : Prop :=
  ∃ segment : List Char, segment ≠ [] ∧
    Text.partsAt '/' (pathText url.path) =
      [] :: (endpoint.stem ++ [enrollmentCollection.toList, segment]) ∧
    decodeBytes (Bytes.ofText (String.ofList segment)) = Bytes.ofText id

/-! ### The address of a record -/

/-- Whatever an id is, its address is that of the collection with the id added to it. -/
theorem urlFor_record {service : Service} {id : String} {place : List String}
    (tidy : service.endpoint.IsTidy) (addressable : enrollmentPath id = .ok place) :
    ∃ url, service.urlFor place = .ok url ∧
      url = { service.endpoint with
        path := addSegment (service.endpoint.stem ++ [enrollmentCollection.toList])
          (writeSegment id)
        query := some (formPair Service.versionName service.apiVersion) } := by
  obtain ⟨named, rfl⟩ := enrollmentPath_eq_ok_iff.1 addressable
  exact ⟨_, urlFor_collection tidy named, rfl⟩

/-- An id that keeps its characters is a name. -/
theorem isUnaddressable_stripVanishing {id : String} {place : List String}
    (addressable : enrollmentPath id = .ok place) (keeps : KeepsCharacters id) :
    isUnaddressable (stripVanishing id) = false := by
  rw [stripVanishing_eq_self_iff.2 keeps]
  exact (enrollmentPath_eq_ok_iff.1 addressable).1

/-- An id that keeps its characters is a segment of its own. -/
theorem addSegment_keepsCharacters {id : String} {place : List String}
    (addressable : enrollmentPath id = .ok place) (keeps : KeepsCharacters id)
    (done : List (List Char)) : addSegment done (writeSegment id) = done ++ [writeSegment id] :=
  addSegment_of_named (isUnaddressable_stripVanishing addressable keeps) done

theorem slash_not_mem_writeSegment (segment : String) : '/' ∉ writeSegment segment := by
  intro slash
  exact absurd (isSegmentChar_writeSegment segment '/' slash) (by decide)

theorem writeSegment_ne_nil {id : String} {place : List String}
    (addressable : enrollmentPath id = .ok place) (keeps : KeepsCharacters id) :
    writeSegment id ≠ [] :=
  writeSegment_ne_nil_of_named (isUnaddressable_stripVanishing addressable keeps)

theorem addressesRecord_iff_keepsCharacters {text : String} {service : Service} {id : String}
    {place : List String} {url : WebUrl}
    (accepted : parseEndpoint text = .ok service.endpoint) (tidy : service.endpoint.IsTidy)
    (addressable : enrollmentPath id = .ok place) (found : service.urlFor place = .ok url) :
    AddressesRecord service.endpoint url id ↔ KeepsCharacters id := by
  obtain ⟨_, built, rfl⟩ := urlFor_record tidy addressable
  cases Except.ok.inj (found.symm.trans built)
  have free : ∀ segment ∈ addSegment (service.endpoint.stem ++ [enrollmentCollection.toList])
      (writeSegment id), '/' ∉ segment := by
    intro segment member
    rcases mem_addSegment member with before | rfl | rfl
    · exact (isSettled_collection accepted segment before).slash_not_mem
    · exact slash_not_mem_writeSegment id
    · simp
  constructor
  · rintro ⟨segment, filled, parts, reads⟩
    rw [partsAt_pathText free] at parts
    have ends := congrArg List.getLast? (List.cons.inj parts).2
    have last : (service.endpoint.stem ++ [enrollmentCollection.toList, segment]).getLast? =
        some segment := by simp
    rw [last] at ends
    -- The path ends in nothing if the id became dots or nothing, and in the written id otherwise.
    rcases getLast?_addSegment (service.endpoint.stem ++ [enrollmentCollection.toList])
      (writeSegment id) with nothing | written
    · rw [nothing] at ends
      exact absurd (Option.some.inj ends).symm filled
    · rw [written] at ends
      rw [← Option.some.inj ends, decodeBytes_writeSegment] at reads
      exact stripVanishing_eq_self_iff.1 (Bytes.ofText_inj.1 reads)
  · intro keeps
    refine ⟨writeSegment id, writeSegment_ne_nil addressable keeps, ?_, ?_⟩
    · rw [partsAt_pathText free, addSegment_keepsCharacters addressable keeps, List.append_assoc]
      rfl
    · rw [decodeBytes_writeSegment, stripVanishing_eq_self_iff.2 keeps]

theorem pathText_length_le_of_prefix {above path : List (List Char)} (lies : above <+: path) :
    (pathText above).length ≤ (pathText path).length := by
  obtain ⟨below, rfl⟩ := lies
  rw [pathText_append, List.length_append]
  exact Nat.le_add_right _ _

/-- A filled segment below a path is not the path, nor anything above it. -/
theorem pathText_ne_of_prefix {above path : List (List Char)} (lies : above <+: path)
    {segment : List Char} (filled : segment ≠ []) :
    pathText (path ++ [segment]) ≠ pathText above ∧
      pathText (path ++ [segment]) ≠ pathText above ++ ['/'] := by
  have shorter := pathText_length_le_of_prefix lies
  have longer : (pathText (path ++ [segment])).length =
      (pathText path).length + (segment.length + 1) := by
    rw [pathText_append, List.length_append]
    simp [pathText]
  have positive := List.length_pos_iff.2 filled
  constructor
  · intro same
    have lengths := congrArg List.length same
    omega
  · intro same
    have lengths := congrArg List.length same
    rw [List.length_append, List.length_singleton] at lengths
    omega

/-- Ids that keep their characters share no address. -/
theorem eq_of_text_eq {service : Service} {id other : String} {place otherPlace : List String}
    {url otherUrl : WebUrl} (tidy : service.endpoint.IsTidy)
    (addressable : enrollmentPath id = .ok place) (keeps : KeepsCharacters id)
    (found : service.urlFor place = .ok url)
    (otherAddressable : enrollmentPath other = .ok otherPlace) (otherKeeps : KeepsCharacters other)
    (otherFound : service.urlFor otherPlace = .ok otherUrl) (same : otherUrl.text = url.text) :
    other = id := by
  obtain ⟨_, rfl⟩ := enrollmentPath_eq_ok_iff.1 addressable
  obtain ⟨_, rfl⟩ := enrollmentPath_eq_ok_iff.1 otherAddressable
  have stripped := stripVanishing_eq_of_text_eq tidy
    (isUnaddressable_stripVanishing addressable keeps) found
    (isUnaddressable_stripVanishing otherAddressable otherKeeps) otherFound same
  rwa [stripVanishing_eq_self_iff.2 keeps, stripVanishing_eq_self_iff.2 otherKeeps] at stripped

/-- A tab more changes nothing in the address. -/
theorem stripVanishing_append_tab (id : String) :
    stripVanishing (id ++ "\t") = stripVanishing id := by
  simp [stripVanishing, String.toList_append, isVanishing]

theorem exists_enrollmentPath_append_tab (id : String) :
    enrollmentPath (id ++ "\t") = .ok [enrollmentCollection, id ++ "\t"] := by
  refine enrollmentPath_eq_ok_iff.2 ⟨?_, rfl⟩
  have tab : '\t' ∈ (id ++ "\t").toList := by simp [String.toList_append]
  have differs : ∀ other : String, '\t' ∉ other.toList → ((id ++ "\t") == other) = false := by
    intro other free
    exact beq_false_of_ne fun same => free (same ▸ tab)
  simp [isUnaddressable, differs]

/-- Every accepted id has an address, which its requests go to. The address is that of the one
record exactly if the id has no character that vanishes. It is then neither the collection nor
above it, and no other such id shares it; any other id shares its address with a further id. -/
theorem record_address_exact {text : String} {service : Service} {id : String}
    {place : List String} (accepted : parseEndpoint text = .ok service.endpoint)
    (tidy : service.endpoint.IsTidy) (addressable : enrollmentPath id = .ok place) :
    ∃ url, service.urlFor place = .ok url ∧
      (∀ request, RecordRequest id request → service.urlFor request.segments = .ok url) ∧
      (AddressesRecord service.endpoint url id ↔ KeepsCharacters id) ∧
      (KeepsCharacters id →
        (∀ above, above <+: service.endpoint.stem ++ [enrollmentCollection.toList] →
          pathText url.path ≠ pathText above ∧ pathText url.path ≠ pathText above ++ ['/']) ∧
        ∀ other otherPlace otherUrl, enrollmentPath other = .ok otherPlace →
          KeepsCharacters other → service.urlFor otherPlace = .ok otherUrl →
          (otherUrl.text = url.text ↔ other = id)) ∧
      (¬KeepsCharacters id → ∃ other otherPlace, other ≠ id ∧
        enrollmentPath other = .ok otherPlace ∧ service.urlFor otherPlace = .ok url) := by
  obtain ⟨url, found, built⟩ := urlFor_record tidy addressable
  refine ⟨url, found, ?_,
    addressesRecord_iff_keepsCharacters accepted tidy addressable found, ?_, ?_⟩
  · intro request record
    cases Except.ok.inj (addressable.symm.trans (enrollmentPath_of_recordRequest record))
    exact found
  · intro keeps
    have path : url.path = service.endpoint.stem ++ [enrollmentCollection.toList] ++
        [writeSegment id] := by
      rw [built]
      exact addSegment_keepsCharacters addressable keeps _
    refine ⟨fun above lies => ?_, ?_⟩
    · rw [path]
      exact pathText_ne_of_prefix lies (writeSegment_ne_nil addressable keeps)
    · intro other otherPlace otherUrl otherAddressable otherKeeps otherFound
      constructor
      · exact eq_of_text_eq tidy addressable keeps found otherAddressable otherKeeps otherFound
      · intro same
        subst same
        cases Except.ok.inj (addressable.symm.trans otherAddressable)
        rw [Except.ok.inj (found.symm.trans otherFound)]
  · intro _
    have accepted := exists_enrollmentPath_append_tab id
    refine ⟨id ++ "\t", _, ?_, accepted, ?_⟩
    · intro same
      have lengths := congrArg String.length same
      rw [String.length_append] at lengths
      exact absurd lengths (by simp)
    · obtain ⟨other, otherFound, otherBuilt⟩ := urlFor_record tidy accepted
      rw [otherFound, otherBuilt, built, writeSegment_eq, writeSegment_eq,
        stripVanishing_append_tab]

/-- An id with separators and an escape of its own is one segment at its place. -/
theorem record_address_separators :
    ∃ url, localService.urlFor ["enrollments", "../a%2Fb?c"] = .ok url ∧
      AddressesRecord localService.endpoint url "../a%2Fb?c" := by
  have addressable : enrollmentPath "../a%2Fb?c" = .ok ["enrollments", "../a%2Fb?c"] := by rfl
  obtain ⟨url, found, _, record, _⟩ :=
    record_address_exact parseEndpoint_localService (by decide) addressable
  exact ⟨url, found, record.2 (by decide)⟩

/-- A tab vanishes, so that the record of another id is addressed. -/
theorem record_address_lost :
    ∃ url, enrollmentPath "dev\t1" = .ok ["enrollments", "dev\t1"] ∧
      localService.urlFor ["enrollments", "dev\t1"] = .ok url ∧
      localService.urlFor ["enrollments", "dev1"] = .ok url ∧
      ¬AddressesRecord localService.endpoint url "dev\t1" := by
  have addressable : enrollmentPath "dev\t1" = .ok ["enrollments", "dev\t1"] := by rfl
  have tidy : localService.endpoint.IsTidy := by decide
  obtain ⟨url, found, _⟩ := urlFor_record tidy addressable
  refine ⟨url, addressable, found, ?_, ?_⟩
  · rw [← found]
    rfl
  · rw [addressesRecord_iff_keepsCharacters parseEndpoint_localService tidy addressable found]
    decide

/-- Two dots with a tab between them go above the collection. -/
example : (localService.urlFor ["enrollments", ".\t."]).map WebUrl.text =
    .ok "https://[::1]/tenant/?api-version=2021-10-01" := by rfl

end DeviceEnrollment.Registry
