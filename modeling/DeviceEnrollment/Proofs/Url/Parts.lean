import DeviceEnrollment.Proofs.Url.Host

/-!
The parts of an address as its text shows them. The characters that end a part are escaped in the
part itself or do not occur there, so an address that was read falls into the parts that it was
written from (`ofText?_letters`).
-/
namespace DeviceEnrollment.Url

/-- The parts of an address as they stand in its text, without the marks between them. -/
structure AddressParts where
  scheme : List Char
  userinfo : List Char
  host : List Char
  port : Option (List Char)
  path : List Char
  query : Option (List Char)
  fragment : Option (List Char)
deriving DecidableEq, Repr

/-- A text before the first mark, and what follows the mark if there is one. -/
def cutOff (mark : Char) (text : List Char) : List Char × Option (List Char) :=
  match Text.cutAt? mark text with
  | none => (text, none)
  | some (before, after) => (before, some after)

namespace AddressParts

/-- The parts of a text with an authority: the fragment is cut off first, then the query. -/
def ofText? (text : List Char) : Option AddressParts :=
  let (address, fragment) := cutOff '#' text
  let (place, query) := cutOff '?' address
  match cutOff ':' place with
  | (scheme, some ('/' :: '/' :: rest)) =>
    let authority := rest.takeWhile (!endsAuthority true ·)
    let path := rest.dropWhile (!endsAuthority true ·)
    let (userinfo, location) := (Text.cutAt? '@' authority).getD ([], authority)
    let length := hostLength true false location
    let port := match location.drop length with
      | ':' :: digits => some digits
      | _ => none
    some ⟨scheme, userinfo, location.take length, port, path, query, fragment⟩
  | _ => none

end AddressParts

/-- The parts that an address is written from. -/
def WebUrl.parts (url : WebUrl) : AddressParts :=
  { scheme := url.scheme.text.toList
    userinfo := url.userinfo
    host := url.host.text
    port := url.port.map (Nat.toDigits 10)
    path := pathText url.path
    query := url.query
    fragment := none }

theorem cutOff_append {mark : Char} {front : List Char} (free : mark ∉ front) (rest : List Char) :
    cutOff mark (front ++ mark :: rest) = (front, some rest) := by
  rw [cutOff, Text.cutAt?_append free]

theorem cutOff_of_not_mem {mark : Char} {text : List Char} (free : mark ∉ text) :
    cutOff mark text = (text, none) := by
  rw [cutOff, Text.cutAt?_of_not_mem free]

/-! ### The characters of paths and queries -/

theorem mark_not_mem_parsePath {text segment : List Char} (member : segment ∈ parsePath text) :
    '?' ∉ segment ∧ '#' ∉ segment := by
  refine forall_mem_parsePath (fun part => '?' ∉ part ∧ '#' ∉ part) (by simp)
    (fun part _ => ?_) segment member
  have written : ∀ c ∈ encodeText .path part, c ≠ '?' ∧ c ≠ '#' :=
    forall_mem_encodeBytes_of_isWide EscapeSet.isWide_path (by decide) (by decide) _
  exact ⟨fun mark => (written '?' mark).1 rfl, fun mark => (written '#' mark).2 rfl⟩

theorem mark_not_mem_writeSegment (segment : String) :
    '?' ∉ writeSegment segment ∧ '#' ∉ writeSegment segment := by
  have plain := isSegmentChar_writeSegment segment
  exact ⟨fun mark => absurd (plain '?' mark) (by decide),
    fun mark => absurd (plain '#' mark) (by decide)⟩

/-- What holds of the segments of a path, of written segments and of nothing holds of the segments
of every path that is lengthened. -/
theorem forall_mem_foldl_extendPath {holds : List Char → Prop} (nothing : holds [])
    (written : ∀ segment, holds (writeSegment segment)) (segments : List String)
    {path : List (List Char)} (before : ∀ part ∈ path, holds part) :
    ∀ part ∈ segments.foldl extendPath path, holds part := by
  induction segments generalizing path with
  | nil => exact before
  | cons segment rest ih =>
    apply ih
    intro part member
    rcases mem_addSegment member with held | rfl | rfl
    · split at held
      · cases held
      · exact before part held
    · exact written segment
    · exact nothing

theorem mem_of_mem_dropFinalSlash {path : List (List Char)} {part : List Char}
    (member : part ∈ dropFinalSlash path) : part ∈ path := by
  unfold dropFinalSlash at member
  split at member
  · exact (List.dropLast_sublist _).subset member
  · exact member

/-- What holds of the segments of an address and of those that are written holds below it. -/
theorem WebUrl.forall_mem_extend {holds : List Char → Prop} (nothing : holds [])
    (written : ∀ segment, holds (writeSegment segment)) {url : WebUrl}
    (before : ∀ part ∈ url.path, holds part) (segments : List String) :
    ∀ part ∈ (url.extend segments).path, holds part :=
  forall_mem_foldl_extendPath nothing written segments fun part member =>
    before part (mem_of_mem_dropFinalSlash member)

theorem not_mem_pathText {mark : Char} (other : mark ≠ '/') {path : List (List Char)}
    (free : ∀ segment ∈ path, mark ∉ segment) : mark ∉ pathText path := by
  intro member
  obtain ⟨segment, among, written⟩ := List.mem_flatMap.1 member
  rcases List.mem_cons.1 written with slash | held
  · exact other slash
  · exact free segment among held

/-! ### Reading an address -/

/-- Whether no part of an address holds a character that begins another one. -/
structure WebUrl.IsSeparate (url : WebUrl) : Prop where
  userinfo : ∀ c ∈ url.userinfo, isAuthorityChar c = true
  host : IsHostText url.host.text
  path : ∀ segment ∈ url.path, '?' ∉ segment ∧ '#' ∉ segment
  query : ∀ query, url.query = some query → '#' ∉ query

theorem authorityText_eq (url : WebUrl) :
    url.authorityText = (if url.userinfo.isEmpty then [] else url.userinfo ++ ['@']) ++
      (url.host.text ++ portText url.port) := by
  rw [WebUrl.authorityText, List.append_assoc]
  cases url.port <;> rfl

namespace WebUrl.IsSeparate

variable {url : WebUrl}

/-- Host and port hold no mark of an authority. -/
theorem isAuthorityChar_location (separate : url.IsSeparate) :
    ∀ c ∈ url.host.text ++ portText url.port, isAuthorityChar c = true := by
  intro c member
  rcases List.mem_append.1 member with host | port
  · exact isAuthorityChar_of_isHostText separate.host c host
  · exact isAuthorityChar_portText url.port c port

theorem endsAuthority_authorityText (separate : url.IsSeparate) :
    ∀ c ∈ url.authorityText, endsAuthority true c = false := by
  have plain : ∀ {c}, isAuthorityChar c = true → endsAuthority true c = false := fun kept => by
    simp only [isAuthorityChar, Bool.and_eq_true, Bool.not_eq_true'] at kept
    exact kept.1
  intro c member
  rw [authorityText_eq] at member
  rcases List.mem_append.1 member with info | location
  · split at info
    · cases info
    · rcases List.mem_append.1 info with inner | sign
      · exact plain (separate.userinfo c inner)
      · rw [List.mem_singleton.1 sign]
        decide
  · exact plain (separate.isAuthorityChar_location c location)

/-- Neither a question mark nor a hash comes before the query. -/
theorem mark_not_mem_place (separate : url.IsSeparate) {mark : Char}
    (marks : mark = '?' ∨ mark = '#') :
    mark ∉ url.scheme.text.toList ++ "://".toList ++ url.authorityText ++ pathText url.path := by
  have ends : endsAuthority true mark = true := by
    rcases marks with rfl | rfl <;> decide
  have scheme : mark ∉ url.scheme.text.toList ++ "://".toList := by
    rcases marks with rfl | rfl <;> cases url.scheme <;> decide
  have path : mark ∉ pathText url.path := by
    rcases marks with rfl | rfl
    · exact not_mem_pathText (by decide) fun segment member => (separate.path segment member).1
    · exact not_mem_pathText (by decide) fun segment member => (separate.path segment member).2
  intro member
  rcases List.mem_append.1 member with front | back
  · rcases List.mem_append.1 front with front | authority
    · exact scheme front
    · rw [separate.endsAuthority_authorityText mark authority] at ends
      cases ends
  · exact path back

theorem cutOff_fragment (separate : url.IsSeparate) :
    cutOff '#' url.letters = (url.letters, none) := by
  apply cutOff_of_not_mem
  intro member
  rcases List.mem_append.1 member with place | rest
  · exact separate.mark_not_mem_place (.inr rfl) place
  · split at rest
    · cases rest
    · next query found =>
      rcases List.mem_cons.1 rest with mark | inner
      · exact absurd mark (by decide)
      · exact separate.query query found inner

theorem cutOff_query (separate : url.IsSeparate) :
    cutOff '?' url.letters =
      (url.scheme.text.toList ++ "://".toList ++ url.authorityText ++ pathText url.path,
        url.query) := by
  have free := separate.mark_not_mem_place (.inl rfl)
  unfold WebUrl.letters
  split
  · next found => rw [List.append_nil, cutOff_of_not_mem free, found]
  · next query found => rw [cutOff_append free, found]

/-- The user information is all that stands before the at sign. -/
theorem cutAt?_authorityText (separate : url.IsSeparate) :
    (Text.cutAt? '@' url.authorityText).getD ([], url.authorityText) =
      (url.userinfo, url.host.text ++ portText url.port) := by
  have free : ∀ {text : List Char}, (∀ c ∈ text, isAuthorityChar c = true) → '@' ∉ text :=
    fun plain sign => absurd (plain '@' sign) (by decide)
  rw [authorityText_eq]
  cases info : url.userinfo with
  | nil =>
    rw [List.isEmpty_nil, if_pos rfl, List.nil_append,
      Text.cutAt?_of_not_mem (free separate.isAuthorityChar_location)]
    rfl
  | cons first rest =>
    have plain : '@' ∉ first :: rest := info ▸ free separate.userinfo
    rw [List.isEmpty_cons, if_neg Bool.false_ne_true, List.append_assoc, List.singleton_append,
      Text.cutAt?_append plain]
    rfl

end WebUrl.IsSeparate

/-- An address none of whose parts runs into another reads as its own parts. -/
theorem AddressParts.ofText?_letters {url : WebUrl} (separate : url.IsSeparate) :
    ofText? url.letters = some url.parts := by
  have scheme : cutOff ':' (url.scheme.text.toList ++ "://".toList ++ url.authorityText ++
      pathText url.path) =
        (url.scheme.text.toList, some ('/' :: '/' :: (url.authorityText ++ pathText url.path))) := by
    have free : ':' ∉ url.scheme.text.toList := by
      cases url.scheme <;> decide
    have marks : "://".toList = [':', '/', '/'] := by decide
    rw [List.append_assoc, List.append_assoc, marks, List.cons_append, cutOff_append free]
    rfl
  have inside : ∀ c ∈ url.authorityText, (!endsAuthority true c) = true := fun c member => by
    rw [separate.endsAuthority_authorityText c member]
    rfl
  have ends : ∀ c ∈ (pathText url.path).head?, (!endsAuthority true c) = false := by
    intro c first
    cases path : url.path with
    | nil =>
      rw [path] at first
      cases first
    | cons segment rest =>
      rw [path] at first
      cases first
      decide
  have port : hostLength true false (portText url.port) = 0 := by
    cases url.port <;> simp [portText, hostLength]
  have digits : (match portText url.port with
      | ':' :: digits => some digits
      | _ => none) = url.port.map (Nat.toDigits 10) := by
    cases url.port <;> rfl
  unfold ofText?
  simp only [separate.cutOff_fragment, separate.cutOff_query, scheme,
    Text.takeWhile_run inside ends, Text.dropWhile_run inside ends, separate.cutAt?_authorityText,
    hostLength_host separate.host port, List.take_left, List.drop_left, digits]
  rfl

theorem hash_not_mem_parseQuery {text query : List Char} (read : parseQuery? text = some query) :
    '#' ∉ query := by
  have written : ∀ part, ∀ c ∈ encodeText .query part, c ≠ '#' := fun _ =>
    forall_mem_encodeBytes_of_isWide (EscapeSet.isWide_controls.adding _) (by decide) (by decide) _
  unfold parseQuery? at read
  split at read
  · cases Option.some.inj read
    exact fun mark => written _ '#' mark rfl
  · cases read

theorem of_parseAuthority {text : List Char} {authority : Authority}
    (read : parseAuthority text = .ok authority) :
    (∃ info, authority.userinfo = writeUserinfo info) ∧
      ∃ host, parseHost host = .ok authority.host := by
  unfold parseAuthority at read
  obtain ⟨⟨info, afterInfo⟩, _, read⟩ := exists_of_bind_ok read
  simp only at read
  split at read
  · cases read
  · obtain ⟨host, found, read⟩ := exists_of_bind_ok read
    obtain ⟨⟨port, rest⟩, _, read⟩ := exists_of_bind_ok read
    cases Except.ok.inj read
    exact ⟨⟨info, rfl⟩, _, found⟩

/-- Every address that is read has parts of its own. -/
theorem isSeparate_of_parse {text : String} {url : WebUrl}
    (parsed : parse text = .ok (some url)) : url.IsSeparate := by
  obtain ⟨scheme, rest, read⟩ := exists_parseWeb_of_parse parsed
  obtain ⟨authority, authorized, rfl⟩ := exists_authority_of_parseWeb read
  obtain ⟨⟨info, userinfo⟩, _, host⟩ := of_parseAuthority authorized
  constructor
  case userinfo =>
    intro c member
    rw [userinfo] at member
    exact isAuthorityChar_writeUserinfo info c member
  case host => exact isHostText_of_parseHost host
  case path => exact fun segment member => mark_not_mem_parsePath member
  case query => exact fun query found => hash_not_mem_parseQuery found

end DeviceEnrollment.Url
