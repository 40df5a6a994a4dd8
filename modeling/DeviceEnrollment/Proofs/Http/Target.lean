import DeviceEnrollment.Http.Target
import DeviceEnrollment.Proofs.Digits
import DeviceEnrollment.Proofs.Steps

/-!
Targets that are read from their parts. An address on a scheme of the web that is composed of parts
in characters of their own reads as these parts (`ofText_composed`), and it is refused if a character
in the name of its host is none of an authority (`ofText_of_stray`).
-/
namespace DeviceEnrollment.Http

namespace RequestTarget

/-! ### Marks of an authority -/

/-- The characters of an authority that mean nothing there. -/
def isNameChar (c : Char) : Bool := isAuthorityChar c && !([':', '[', ']', '@'].contains c)

/-- The characters that neither an authority holds nor what ends one. -/
def isStray (c : Char) : Bool := !isAuthorityChar c && c != '%' && !endsAuthority c

namespace AuthorityMarks

def start : AuthorityMarks := ⟨0, false, false, false, false⟩

/-- The marks behind a text in which nothing but colons and percent signs means anything. -/
def behind (marks : AuthorityMarks) (text : List Char) : AuthorityMarks :=
  { marks with
    colons := marks.colons + text.count ':'
    percent := marks.percent || text.contains '%'
    atEnd := marks.atEnd && text.isEmpty }

theorem take_name (marks : AuthorityMarks) {c : Char} (plain : isNameChar c = true) :
    marks.take c = .ok { marks with atEnd := false } := by
  simp only [isNameChar, Bool.and_eq_true, List.contains_cons, List.contains_nil,
    Bool.or_false, Bool.not_eq_true', Bool.or_eq_false_iff] at plain
  obtain ⟨letter, colon, opening, closing, sign⟩ := plain
  have percent : (c == '%') = false := by
    rw [beq_eq_false_iff_ne]
    rintro rfl
    exact absurd letter (by decide)
  simp [take, letter, colon, opening, closing, sign, percent]

theorem foldlM_take (marks : AuthorityMarks) {text : List Char}
    (plain : ∀ c ∈ text, isNameChar c = true ∨ c = ':' ∨ c = '%')
    (few : marks.colons + text.count ':' ≤ greatestColons) :
    text.foldlM take marks = .ok (marks.behind text) := by
  induction text generalizing marks with
  | nil =>
    show Except.ok marks = _
    simp [behind]
  | cons c rest ih =>
    have later (next : AuthorityMarks) (few : next.colons + rest.count ':' ≤ greatestColons) :
        rest.foldlM take next = .ok (next.behind rest) :=
      ih next (fun other member => plain other (List.mem_cons_of_mem _ member)) few
    rw [List.foldlM_cons]
    rcases plain c List.mem_cons_self with name | rfl | rfl
    · have colon : c ≠ ':' := ne_of_apply_ne isNameChar (by rw [name]; decide)
      have percent : c ≠ '%' := ne_of_apply_ne isNameChar (by rw [name]; decide)
      rw [List.count_cons_of_ne colon] at few
      rw [take_name marks name, ok_bind, later { marks with atEnd := false } few]
      simp [behind, colon, percent.symm]
    · rw [List.count_cons_self] at few
      have taken : marks.take ':' = .ok { marks with colons := marks.colons + 1, atEnd := false } := by
        simp [take]
        omega
      rw [taken, ok_bind, later { marks with colons := marks.colons + 1, atEnd := false }
        (by simp only; omega)]
      simp [behind]
      omega
    · have taken : marks.take '%' = .ok { marks with percent := true, atEnd := false } := rfl
      rw [List.count_cons_of_ne (by decide)] at few
      rw [taken, ok_bind, later { marks with percent := true, atEnd := false } few]
      simp [behind]

theorem count_colon_name {text : List Char} (plain : ∀ c ∈ text, isNameChar c = true) :
    text.count ':' = 0 :=
  List.count_eq_zero.2 fun member => absurd (plain ':' member) (by decide)

/-- A name is passed over. -/
theorem foldlM_take_name {text : List Char} (plain : ∀ c ∈ text, isNameChar c = true)
    (filled : text ≠ []) {marks : AuthorityMarks} (few : marks.colons ≤ greatestColons) :
    text.foldlM take marks = .ok { marks with atEnd := false } := by
  have percent : '%' ∉ text := fun member => absurd (plain '%' member) (by decide)
  have none := count_colon_name plain
  rw [foldlM_take marks (fun c member => .inl (plain c member)) (by omega)]
  simp [behind, none, percent, filled]

end AuthorityMarks

/-! ### Parts of an authority -/

/-- Whether a text is user information: there are few colons in it. -/
structure IsInfo (text : List Char) : Prop where
  plain : ∀ c ∈ text, isNameChar c = true ∨ c = ':' ∨ c = '%'
  few : text.count ':' ≤ greatestColons

/-- Whether a text is a host: a name, or pieces between brackets. -/
inductive IsHost : List Char → Prop
  | name {text : List Char} (filled : text ≠ []) (plain : ∀ c ∈ text, isNameChar c = true) :
    IsHost text
  | bracketed {pieces : List Char} (plain : ∀ c ∈ pieces, isNameChar c = true ∨ c = ':')
    (few : pieces.count ':' ≤ greatestColons) : IsHost ('[' :: pieces ++ [']'])

/-- Whether a text is a port behind its colon, or nothing. -/
inductive IsPort : List Char → Prop
  | none : IsPort []
  | behind {digits : List Char} (plain : ∀ c ∈ digits, c.isDigit = true) : IsPort (':' :: digits)

theorem isNameChar_of_isDigit {c : Char} (digit : c.isDigit = true) : isNameChar c = true :=
  Text.forall_of_isDigit (by decide) digit

theorem IsPort.plain {port : List Char} (fine : IsPort port) :
    ∀ c ∈ port, isNameChar c = true ∨ c = ':' := by
  intro c member
  cases fine with
  | none => cases member
  | behind digits =>
    rcases List.mem_cons.1 member with colon | digit
    · exact .inr colon
    · exact .inl (isNameChar_of_isDigit (digits c digit))

theorem IsHost.ne_nil {host : List Char} (fine : IsHost host) : host ≠ [] := by
  cases fine with
  | name filled _ => exact filled
  | bracketed _ _ => exact List.cons_ne_nil _ _

theorem IsHost.plain {host : List Char} (fine : IsHost host) :
    ∀ c ∈ host, isNameChar c = true ∨ c = ':' ∨ c = '[' ∨ c = ']' := by
  intro c member
  cases fine with
  | name _ plain => exact .inl (plain c member)
  | bracketed plain _ =>
    rcases List.mem_append.1 member with front | closing
    · rcases List.mem_cons.1 front with opening | inner
      · exact .inr (.inr (.inl opening))
      · exact (plain c inner).imp_right .inl
    · exact .inr (.inr (.inr (List.mem_singleton.1 closing)))

/-- User information as it stands before a host. -/
def infoText (info : List Char) : List Char := if info.isEmpty then [] else info ++ ['@']

def authorityText (info host port : List Char) : List Char := infoText info ++ (host ++ port)

namespace AuthorityMarks

/-- What user information holds is forgotten. -/
theorem foldlM_take_infoText {info : List Char} (fine : IsInfo info) :
    ∃ atEnd, (infoText info).foldlM take start = .ok { start with atEnd } := by
  unfold infoText
  split
  · exact ⟨false, rfl⟩
  · refine ⟨true, ?_⟩
    rw [List.foldlM_append, foldlM_take start fine.plain (by simpa [start] using fine.few), ok_bind]
    rfl

theorem foldlM_take_host {host : List Char} (fine : IsHost host) (atEnd : Bool) :
    ∃ bracketed, host.foldlM take { start with atEnd } =
      .ok { start with opened := bracketed, closed := bracketed } := by
  cases fine with
  | name filled plain =>
    exact ⟨false, foldlM_take_name plain filled (Nat.zero_le _)⟩
  | @bracketed pieces plain few =>
    refine ⟨true, ?_⟩
    have inner := foldlM_take { start with opened := true }
      (fun c member => (plain c member).imp_right .inl) (by simpa [start] using few)
    rw [List.cons_append, List.foldlM_cons]
    show (pieces ++ [']']).foldlM take { start with opened := true } = _
    rw [List.foldlM_append, inner, ok_bind]
    rfl

theorem foldlM_take_port {port : List Char} (fine : IsPort port) (bracketed : Bool) :
    ∃ marks, port.foldlM take { start with opened := bracketed, closed := bracketed } = .ok marks ∧
      marks.fits = true := by
  cases fine with
  | none => exact ⟨_, rfl, by cases bracketed <;> rfl⟩
  | @behind digits plain =>
    have colon : take { start with opened := bracketed, closed := bracketed } ':' =
        .ok { start with colons := 1, opened := bracketed, closed := bracketed } := rfl
    rw [List.foldlM_cons, colon, ok_bind]
    cases digits with
    | nil => exact ⟨_, rfl, by cases bracketed <;> rfl⟩
    | cons first rest =>
      have few : 1 ≤ greatestColons := by decide
      rw [foldlM_take_name (fun c member => isNameChar_of_isDigit (plain c member))
        (List.cons_ne_nil _ _) few]
      exact ⟨_, rfl, by cases bracketed <;> rfl⟩

/-- An authority of such parts may end with its marks. -/
theorem foldlM_take_authorityText {info host port : List Char} (infoFine : IsInfo info)
    (hostFine : IsHost host) (portFine : IsPort port) :
    ∃ marks, (authorityText info host port).foldlM take start = .ok marks ∧ marks.fits = true := by
  obtain ⟨atEnd, front⟩ := foldlM_take_infoText infoFine
  obtain ⟨bracketed, middle⟩ := foldlM_take_host hostFine atEnd
  obtain ⟨marks, back, fits⟩ := foldlM_take_port portFine bracketed
  refine ⟨marks, ?_, fits⟩
  rw [authorityText, List.foldlM_append, front, ok_bind, List.foldlM_append, middle, ok_bind, back]

theorem take_stray (marks : AuthorityMarks) {c : Char} (stray : isStray c = true) :
    marks.take c = .error .badCharacter := by
  simp only [isStray, Bool.and_eq_true, Bool.not_eq_true', bne_iff_ne, ne_eq] at stray
  obtain ⟨⟨letter, percent⟩, _⟩ := stray
  have differs {mark : Char} (marks : isAuthorityChar mark = true) : c ≠ mark :=
    ne_of_apply_ne isAuthorityChar (by rw [letter, marks]; decide)
  have colon := differs (show isAuthorityChar ':' = true by decide)
  have opening := differs (show isAuthorityChar '[' = true by decide)
  have closing := differs (show isAuthorityChar ']' = true by decide)
  have sign := differs (show isAuthorityChar '@' = true by decide)
  simp [take, letter, colon, opening, closing, sign, percent]

/-- A stray character behind a name is found, whatever stands before the name. -/
theorem foldlM_take_stray {info before : List Char} {stray : Char} (infoFine : IsInfo info)
    (plain : ∀ c ∈ before, isNameChar c = true) (strays : isStray stray = true)
    (after : List Char) :
    (infoText info ++ (before ++ stray :: after)).foldlM take start = .error .badCharacter := by
  obtain ⟨atEnd, front⟩ := foldlM_take_infoText infoFine
  have none := count_colon_name plain
  have inner := foldlM_take { start with atEnd } (fun c member => .inl (plain c member))
    (by simp [start, none])
  rw [List.foldlM_append, front, ok_bind, List.foldlM_append, inner, ok_bind, List.foldlM_cons,
    take_stray _ strays]
  rfl

end AuthorityMarks

/-! ### Parts of an address -/

theorem splitAuthority_append {authority rest : List Char}
    (inside : ∀ c ∈ authority, endsAuthority c = false)
    (ends : ∀ c ∈ rest.head?, endsAuthority c = true) :
    splitAuthority (authority ++ rest) = (do
      let marks ← authority.foldlM AuthorityMarks.take AuthorityMarks.start
      if marks.fits then return (authority, rest) else .error .badAuthority) := by
  have taken : ∀ c ∈ authority, (!endsAuthority c) = true := fun c member => by
    rw [inside c member]
    rfl
  have left : ∀ c ∈ rest.head?, (!endsAuthority c) = false := fun c first => by
    rw [ends c first]
    rfl
  rw [splitAuthority, Text.takeWhile_run taken left, Text.dropWhile_run taken left]
  rfl

/-- A query as it stands behind a path. -/
def queryText (query : Option (List Char)) : List Char :=
  match query with
  | none => []
  | some query => '?' :: query

theorem readPath_append {path : List Char} {query : Option (List Char)}
    (pathFine : ∀ c ∈ path, isPathChar c = true)
    (queryFine : ∀ text, query = some text → ∀ c ∈ text, isQueryChar c = true) :
    readPath (path ++ queryText query) = .ok (path, query) := by
  have inside : ∀ c ∈ path, (c != '?' && c != '#') = true := fun c member => by
    have plain := pathFine c member
    have question : c ≠ '?' := ne_of_apply_ne isPathChar (by rw [plain]; decide)
    have hash : c ≠ '#' := ne_of_apply_ne isPathChar (by rw [plain]; decide)
    simp [question, hash]
  have ends : ∀ c ∈ (queryText query).head?, (c != '?' && c != '#') = false := fun c first => by
    cases query with
    | none => cases first
    | some text =>
      cases first
      rfl
  rw [readPath, Text.takeWhile_run inside ends, List.drop_left]
  simp only [List.all_eq_true.2 pathFine, Bool.not_true, Bool.false_eq_true, if_false]
  cases query with
  | none => rfl
  | some text =>
    have whole : text.takeWhile (· != '#') = text := by
      rw [List.takeWhile_eq_self_iff]
      intro c member
      have plain := queryFine text rfl c member
      have hash : c ≠ '#' := ne_of_apply_ne isQueryChar (by rw [plain]; decide)
      simp [hash]
    simp only [queryText, whole, List.all_eq_true.2 (queryFine text rfl), if_true]

theorem splitScheme?_web {scheme : List Char}
    (web : scheme = "http".toList ∨ scheme = "https".toList) (rest : List Char) :
    splitScheme? (scheme ++ "://".toList ++ rest) = .ok (some (scheme, rest)) := by
  rcases web with rfl | rfl <;> rfl

/-! ### Addresses -/

/-- The parts of an address with a host. -/
structure AddressText where
  scheme : List Char
  info : List Char
  host : List Char
  port : List Char
  path : List Char
  query : Option (List Char)

namespace AddressText

variable (parts : AddressText)

def authority : List Char := authorityText parts.info parts.host parts.port

def letters : List Char :=
  parts.scheme ++ "://".toList ++ (parts.authority ++ (parts.path ++ queryText parts.query))

/-- Whether the parts around the host are on the web and in characters of their own. -/
structure IsFramed : Prop where
  web : parts.scheme = "http".toList ∨ parts.scheme = "https".toList
  info : IsInfo parts.info
  port : IsPort parts.port
  path : ∀ c ∈ parts.path, isPathChar c = true
  rooted : ∀ c ∈ parts.path.head?, c = '/'
  query : ∀ query, parts.query = some query → ∀ c ∈ query, isQueryChar c = true

variable {parts}

theorem IsFramed.splitAuthority_rest (framed : parts.IsFramed)
    (inside : ∀ c ∈ parts.authority, endsAuthority c = false) :
    splitAuthority (parts.authority ++ (parts.path ++ queryText parts.query)) = (do
      let marks ← parts.authority.foldlM AuthorityMarks.take AuthorityMarks.start
      if marks.fits then return (parts.authority, parts.path ++ queryText parts.query)
      else .error .badAuthority) := by
  apply splitAuthority_append inside
  intro c first
  cases path : parts.path with
  | nil =>
    rw [path, List.nil_append] at first
    cases query : parts.query with
    | none =>
      rw [query] at first
      cases first
    | some text =>
      rw [query] at first
      cases first
      rfl
  | cons slash rest =>
    rw [path] at first
    cases first
    rw [framed.rooted c (by rw [path]; rfl)]
    rfl

theorem IsFramed.ofText_eq (framed : parts.IsFramed) {text : String}
    (whole : text.toList = parts.letters) (short : text.utf8ByteSize ≤ greatestLength)
    (filled : parts.authority ≠ []) (inside : ∀ c ∈ parts.authority, endsAuthority c = false) :
    ofText text = (do
      let marks ← parts.authority.foldlM AuthorityMarks.take AuthorityMarks.start
      if marks.fits then return ⟨some parts.scheme, parts.authority, parts.path, parts.query⟩
      else .error .badAuthority) := by
  have absolute : ofText text = readAbsolute parts.letters := by
    rw [ofText, if_neg (Nat.not_lt.2 short), whole, letters]
    rcases framed.web with scheme | scheme <;> rw [scheme] <;> rfl
  have behind : (parts.authority ++ (parts.path ++ queryText parts.query)).isEmpty = false := by
    simp [filled]
  rw [absolute, readAbsolute, letters, splitScheme?_web framed.web, ok_bind]
  simp only [behind, framed.splitAuthority_rest inside]
  cases parts.authority.foldlM AuthorityMarks.take AuthorityMarks.start with
  | error fault => rfl
  | ok marks =>
    simp only [ok_bind]
    cases marks.fits with
    | false => rfl
    | true =>
      have named : parts.authority.isEmpty = false := by simpa using filled
      simp only [if_true, pure_bind, named, readPath_append framed.path framed.query, ok_bind]
      rfl

theorem endsAuthority_name {c : Char} (plain : isNameChar c = true) : endsAuthority c = false := by
  have slash : c ≠ '/' := ne_of_apply_ne isNameChar (by rw [plain]; decide)
  have question : c ≠ '?' := ne_of_apply_ne isNameChar (by rw [plain]; decide)
  have hash : c ≠ '#' := ne_of_apply_ne isNameChar (by rw [plain]; decide)
  simp [endsAuthority, slash, question, hash]

theorem IsFramed.endsAuthority_authority (framed : parts.IsFramed)
    (host : ∀ c ∈ parts.host, endsAuthority c = false) :
    ∀ c ∈ parts.authority, endsAuthority c = false := by
  intro c member
  rcases List.mem_append.1 member with info | location
  · unfold infoText at info
    split at info
    · cases info
    · rcases List.mem_append.1 info with inner | sign
      · rcases framed.info.plain c inner with name | rfl | rfl
        · exact endsAuthority_name name
        · rfl
        · rfl
      · rw [List.mem_singleton.1 sign]
        rfl
  · rcases List.mem_append.1 location with inner | port
    · exact host c inner
    · rcases framed.port.plain c port with name | rfl
      · exact endsAuthority_name name
      · rfl

/-- An address with a host is read as the parts that it is composed of. -/
theorem IsFramed.ofText_composed (framed : parts.IsFramed) {text : String}
    (whole : text.toList = parts.letters) (short : text.utf8ByteSize ≤ greatestLength)
    (host : IsHost parts.host) :
    ofText text = .ok ⟨some parts.scheme, parts.authority, parts.path, parts.query⟩ := by
  have filled : parts.authority ≠ [] := by
    simp [authority, authorityText, host.ne_nil]
  have inside : ∀ c ∈ parts.host, endsAuthority c = false := by
    intro c member
    rcases host.plain c member with name | rfl | rfl | rfl
    · exact endsAuthority_name name
    all_goals rfl
  obtain ⟨marks, taken, fits⟩ :=
    AuthorityMarks.foldlM_take_authorityText framed.info host framed.port
  rw [framed.ofText_eq whole short filled (framed.endsAuthority_authority inside), authority, taken,
    ok_bind, if_pos fits]
  rfl

theorem exists_first_stray {host : List Char}
    (plain : ∀ c ∈ host, isNameChar c = true ∨ isStray c = true)
    (stray : ∃ c ∈ host, isStray c = true) :
    ∃ before c after, host = before ++ c :: after ∧ (∀ c ∈ before, isNameChar c = true) ∧
      isStray c = true := by
  have odd : ¬∀ c ∈ host, isNameChar c = true := by
    intro names
    obtain ⟨c, member, strays⟩ := stray
    have name := names c member
    simp only [isNameChar, isStray, Bool.and_eq_true, Bool.not_eq_true'] at name strays
    rw [name.1] at strays
    cases strays.1.1
  obtain ⟨before, c, after, rfl, names, lost⟩ :=
    exists_first_failure (fun front => ∀ c ∈ front, isNameChar c = true) (by simp) odd
  have strays : isStray c = true := by
    refine (plain c (by simp)).resolve_left fun name => lost fun other member => ?_
    rcases List.mem_append.1 member with held | last
    · exact names other held
    · exact List.mem_singleton.1 last ▸ name
  exact ⟨before, c, after, rfl, names, strays⟩

/-- An address is refused if the name of its host holds a stray character. -/
theorem IsFramed.ofText_of_stray (framed : parts.IsFramed) {text : String}
    (whole : text.toList = parts.letters) (short : text.utf8ByteSize ≤ greatestLength)
    (plain : ∀ c ∈ parts.host, isNameChar c = true ∨ isStray c = true)
    (stray : ∃ c ∈ parts.host, isStray c = true) : ofText text = .error .badCharacter := by
  have inside : ∀ c ∈ parts.host, endsAuthority c = false := by
    intro c member
    rcases plain c member with name | strays
    · exact endsAuthority_name name
    · simp only [isStray, Bool.and_eq_true, Bool.not_eq_true'] at strays
      exact strays.2
  obtain ⟨before, c, after, host, names, strays⟩ := exists_first_stray plain stray
  have filled : parts.authority ≠ [] := by
    simp [authority, authorityText, host]
  have located : parts.authority = infoText parts.info ++ (before ++ c :: (after ++ parts.port)) := by
    rw [authority, authorityText, host, List.append_assoc, List.cons_append]
  rw [framed.ofText_eq whole short filled (framed.endsAuthority_authority inside), located,
    AuthorityMarks.foldlM_take_stray framed.info names strays]
  rfl

end AddressText

/-! ### Reading an authority back -/

section Authority

variable {info host port : List Char} {target : RequestTarget}

theorem hostAndPort_authorityText (written : target.authority = authorityText info host port)
    (hostFine : IsHost host) (portFine : IsPort port) : target.hostAndPort = host ++ port := by
  have free : ∀ c ∈ (host ++ port).reverse, (c != '@') = true := by
    intro c member
    rw [bne_iff_ne]
    rintro rfl
    rcases List.mem_append.1 (List.mem_reverse.1 member) with inner | digits
    · exact absurd (hostFine.plain '@' inner) (by decide)
    · exact absurd (portFine.plain '@' digits) (by decide)
  have cut (front : List Char) (ends : ∀ c ∈ front.reverse.head?, (c != '@') = false) :
      ((front ++ (host ++ port)).reverse.takeWhile (· != '@')).reverse = host ++ port := by
    rw [List.reverse_append, Text.takeWhile_run free ends, List.reverse_reverse]
  rw [hostAndPort, written, authorityText, infoText]
  split
  · exact cut [] (by simp)
  · exact cut (info ++ ['@']) (by simp)

theorem host_authorityText (written : target.authority = authorityText info host port)
    (hostFine : IsHost host) (portFine : IsPort port) : target.host = host := by
  have ends : ∀ c ∈ port.head?, (c != ':') = false := by
    intro c first
    cases portFine with
    | none => cases first
    | behind digits =>
      cases first
      rfl
  unfold RequestTarget.host
  simp only [hostAndPort_authorityText written hostFine portFine]
  cases hostFine with
  | name filled plain =>
    obtain ⟨first, rest, rfl⟩ := List.exists_cons_of_ne_nil filled
    have opening : first ≠ '[' :=
      ne_of_apply_ne isNameChar (by rw [plain first List.mem_cons_self]; decide)
    have inside : ∀ c ∈ first :: rest, (c != ':') = true := fun c member =>
      bne_iff_ne.2 (ne_of_apply_ne isNameChar (by rw [plain c member]; decide))
    rw [if_neg (by simpa using opening), Text.takeWhile_run inside ends]
  | @bracketed pieces plain few =>
    have inside : ∀ c ∈ '[' :: pieces, (c != ']') = true := by
      intro c member
      rw [bne_iff_ne]
      rintro rfl
      rcases List.mem_cons.1 member with same | inner
      · exact absurd same (by decide)
      · exact absurd (plain ']' inner) (by decide)
    have whole : '[' :: pieces ++ [']'] ++ port = ('[' :: pieces) ++ (']' :: port) := by simp
    rw [whole, if_pos (by rfl), Text.takeWhile_run inside (by simp)]

/-- The port is read without its colon. -/
theorem port_authorityText (written : target.authority = authorityText info host port)
    (hostFine : IsHost host) (portFine : IsPort port) : target.port = port.tail := by
  rw [RequestTarget.port, host_authorityText written hostFine portFine,
    hostAndPort_authorityText written hostFine portFine, ← List.drop_drop, List.drop_left,
    List.drop_one]

end Authority

end RequestTarget

end DeviceEnrollment.Http
