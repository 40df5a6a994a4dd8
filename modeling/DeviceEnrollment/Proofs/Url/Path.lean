import DeviceEnrollment.Proofs.Steps
import DeviceEnrollment.Proofs.Url.Escaping
import DeviceEnrollment.Url.Parser

/-!
Paths and the segments that are added to them. A segment that is no dots stands at the end of the
path as it is written (`addSegment_writeSegment`), and it reads back as the text without its tabs
and line ends (`decodeBytes_writeSegment`).
-/
namespace DeviceEnrollment.Url

/-! ### Written segments -/

/-- The characters of a segment that is added whole. -/
def isSegmentChar (c : Char) : Bool :=
  0x20 < c.toNat && c.toNat < 0x7F && !(['/', '?', '#', '\\'].contains c)

/-- A text without the tabs and line ends that vanish from an address. -/
def stripVanishing (text : String) : String :=
  String.ofList (text.toList.filter (!isVanishing ·))

theorem stripVanishing_eq_self_iff {text : String} :
    stripVanishing text = text ↔ ∀ c ∈ text.toList, isVanishing c = false := by
  rw [stripVanishing, ← String.toList_inj, String.toList_ofList, List.filter_eq_self]
  simp

theorem writeSegment_eq (segment : String) :
    writeSegment segment = encodeBytes .segment (Bytes.ofText (stripVanishing segment)) := rfl

theorem isSegmentChar_writeSegment (segment : String) :
    ∀ c ∈ writeSegment segment, isSegmentChar c = true :=
  forall_mem_encodeBytes_of_isWide EscapeSet.isWide_segment (by decide) (by decide) _

theorem decodeBytes_writeSegment (segment : String) :
    decodeBytes (Bytes.ofText (String.ofList (writeSegment segment))) =
      Bytes.ofText (stripVanishing segment) :=
  decodeBytes_encodeBytes EscapeSet.isWide_segment (by decide) _

theorem stripVanishing_eq_of_writeSegment {segment other : String}
    (same : writeSegment segment = writeSegment other) :
    stripVanishing segment = stripVanishing other := by
  have bytes := decodeBytes_writeSegment segment
  rw [same, decodeBytes_writeSegment other] at bytes
  exact (Bytes.ofText_inj.1 bytes).symm

theorem writeSegment_eq_nil_iff {segment : String} :
    writeSegment segment = [] ↔ stripVanishing segment = "" := by
  constructor
  · intro nothing
    have same : writeSegment segment = writeSegment "" := nothing
    exact stripVanishing_eq_of_writeSegment same
  · intro nothing
    rw [writeSegment_eq, nothing]
    rfl

/-! ### Dots -/

theorem eq_of_toLower_eq {c plain : Char} (small : plain.toNat < 97) (same : c.toLower = plain) :
    c = plain := by
  unfold Char.toLower at same
  split at same
  · next upper =>
    subst same
    have low := UInt32.le_iff_toNat_le.1 upper.1
    have high := UInt32.le_iff_toNat_le.1 upper.2
    simp only [Char.toNat, UInt32.toNat_add] at small low high
    simp at small low high
    omega
  · exact same

theorem eq_of_toLower_eq_e {c : Char} (same : c.toLower = 'e') : c = 'e' ∨ c = 'E' := by
  unfold Char.toLower at same
  split at same
  · right
    have points : c.val + 32 = 'E'.val + 32 := congrArg Char.val same
    exact Char.ext (UInt32.add_left_inj 32 |>.1 points)
  · exact .inl same

/-- A dot in front of a text that is written in small letters is read as a dot. -/
theorem decodeBytes_of_lower_dot {mark letters rest : List Char}
    (dot : mark = ['.'] ∨ mark = "%2e".toList) (lower : letters.map Char.toLower = mark ++ rest) :
    ∃ tail : List Char, tail.map Char.toLower = rest ∧
      decodeBytes (letters.flatMap String.utf8EncodeChar) =
        0x2E :: decodeBytes (tail.flatMap String.utf8EncodeChar) := by
  rcases dot with rfl | rfl
  · obtain ⟨first, tail, rfl, point, tails⟩ := List.map_eq_cons_iff.1 lower
    refine ⟨tail, tails, ?_⟩
    rw [eq_of_toLower_eq (by decide) point]
    exact decodeBytes_cons_of_ne (by decide) _
  · obtain ⟨first, tail, rfl, percent, tails⟩ := List.map_eq_cons_iff.1 lower
    obtain ⟨second, tail, rfl, two, tails⟩ := List.map_eq_cons_iff.1 tails
    obtain ⟨third, tail, rfl, letter, tails⟩ := List.map_eq_cons_iff.1 tails
    refine ⟨tail, tails, ?_⟩
    rw [eq_of_toLower_eq (by decide) percent, eq_of_toLower_eq (by decide) two]
    rcases eq_of_toLower_eq_e letter with rfl | rfl <;> rfl

theorem decodeBytes_of_isSingleDot {letters : List Char} (dot : isSingleDot letters = true) :
    decodeBytes (Bytes.ofText (String.ofList letters)) = Bytes.ofText "." := by
  rw [Bytes.ofText_ofList]
  have lower : ∃ mark : List Char, (mark = ['.'] ∨ mark = "%2e".toList) ∧
      letters.map Char.toLower = mark ++ [] := by
    simpa [isSingleDot] using dot
  obtain ⟨mark, marks, lower⟩ := lower
  obtain ⟨tail, tails, decoded⟩ := decodeBytes_of_lower_dot marks lower
  rw [List.map_eq_nil_iff.1 tails] at decoded
  exact decoded

theorem decodeBytes_of_isDoubleDot {letters : List Char} (dots : isDoubleDot letters = true) :
    decodeBytes (Bytes.ofText (String.ofList letters)) = Bytes.ofText ".." := by
  rw [Bytes.ofText_ofList]
  have lower : ∃ first second : List Char, (first = ['.'] ∨ first = "%2e".toList) ∧
      (second = ['.'] ∨ second = "%2e".toList) ∧
      letters.map Char.toLower = first ++ (second ++ []) := by
    simp only [isDoubleDot, List.contains_cons, List.contains_nil, Bool.or_eq_true,
      beq_iff_eq, Bool.false_eq_true, or_false] at dots
    rcases dots with same | same | same | same
    · exact ⟨['.'], ['.'], .inl rfl, .inl rfl, same⟩
    · exact ⟨['.'], "%2e".toList, .inl rfl, .inr rfl, same⟩
    · exact ⟨"%2e".toList, ['.'], .inr rfl, .inl rfl, same⟩
    · exact ⟨"%2e".toList, "%2e".toList, .inr rfl, .inr rfl, same⟩
  obtain ⟨first, second, firstDot, secondDot, lower⟩ := lower
  obtain ⟨middle, middles, decoded⟩ := decodeBytes_of_lower_dot firstDot lower
  obtain ⟨tail, tails, rest⟩ := decodeBytes_of_lower_dot secondDot middles
  rw [List.map_eq_nil_iff.1 tails] at rest
  rw [decoded, rest]
  rfl

theorem isSingleDot_writeSegment_iff {segment : String} :
    isSingleDot (writeSegment segment) = true ↔ stripVanishing segment = "." := by
  constructor
  · intro dot
    have decoded := decodeBytes_of_isSingleDot dot
    rw [decodeBytes_writeSegment] at decoded
    exact Bytes.ofText_inj.1 decoded
  · intro dot
    rw [writeSegment_eq, dot]
    rfl

theorem isDoubleDot_writeSegment_iff {segment : String} :
    isDoubleDot (writeSegment segment) = true ↔ stripVanishing segment = ".." := by
  constructor
  · intro dots
    have decoded := decodeBytes_of_isDoubleDot dots
    rw [decodeBytes_writeSegment] at decoded
    exact Bytes.ofText_inj.1 decoded
  · intro dots
    rw [writeSegment_eq, dots]
    rfl

/-! ### Paths -/

/-- A segment that is no dots stands behind the path as it is written. -/
theorem addSegment_writeSegment {segment : String} (single : stripVanishing segment ≠ ".")
    (double : stripVanishing segment ≠ "..") (done : List (List Char)) :
    addSegment done (writeSegment segment) = done ++ [writeSegment segment] := by
  rw [addSegment, if_neg (mt isDoubleDot_writeSegment_iff.1 double),
    if_neg (mt isSingleDot_writeSegment_iff.1 single)]

/-- What ends a path that a segment was added to: nothing, or the segment. -/
theorem getLast?_addSegment (done : List (List Char)) (segment : List Char) :
    (addSegment done segment).getLast? = some [] ∨
      (addSegment done segment).getLast? = some segment := by
  unfold addSegment
  split
  · simp
  · split <;> simp

/-- The path of an address without the slash at its end. -/
def WebUrl.stem (url : WebUrl) : List (List Char) :=
  if url.path.getLast? = some [] then url.path.dropLast else url.path

/-- Whether no segment of an address but a last one is empty. -/
def WebUrl.IsTidy (url : WebUrl) : Prop := ∀ segment ∈ url.path.dropLast, segment ≠ []

instance (url : WebUrl) : Decidable url.IsTidy :=
  List.decidableBAll (· ≠ []) url.path.dropLast

theorem dropFinalSlash_slash {front : List (List Char)} (filled : front ≠ []) :
    dropFinalSlash (front ++ [[]]) = front := by
  rw [dropFinalSlash, List.getLast?_concat, List.dropLast_concat]
  simp [filled]

theorem dropFinalSlash_filled (front : List (List Char)) {last : List Char} (filled : last ≠ []) :
    dropFinalSlash (front ++ [last]) = front ++ [last] := by
  rw [dropFinalSlash, List.getLast?_concat]
  simp [filled]

/-- The first segment that is added to an address stands behind its stem. -/
theorem extendPath_dropFinalSlash {url : WebUrl} (tidy : url.IsTidy) {segment : String}
    (single : stripVanishing segment ≠ ".") (double : stripVanishing segment ≠ "..") :
    extendPath (dropFinalSlash url.path) segment = url.stem ++ [writeSegment segment] := by
  rw [extendPath, addSegment_writeSegment single double]
  congr 1
  rcases List.eq_nil_or_concat url.path with nothing | ⟨front, last, whole⟩
  · simp [nothing, WebUrl.stem, dropFinalSlash]
  · rw [List.concat_eq_append] at whole
    have inner : ∀ segment ∈ front, segment ≠ [] := by
      simpa [WebUrl.IsTidy, whole] using tidy
    rw [WebUrl.stem, whole, List.getLast?_concat, List.dropLast_concat]
    by_cases slash : last = []
    · subst slash
      cases front with
      | nil => rfl
      | cons first front =>
        have filled : first :: front ≠ [[]] := by
          intro bare
          exact inner [] (bare ▸ List.mem_singleton_self _) rfl
        rw [dropFinalSlash_slash (List.cons_ne_nil _ _), if_neg filled, if_pos rfl]
    · have filled : front ++ [last] ≠ [[]] := by
        intro bare
        have ends := congrArg List.getLast? bare
        rw [List.getLast?_concat] at ends
        exact slash (Option.some.inj ends)
      rw [dropFinalSlash_filled front slash, if_neg filled, if_neg (by simpa using slash)]

/-! ### Paths as texts -/

theorem pathText_cons (segment : List Char) (rest : List (List Char)) :
    pathText (segment :: rest) = '/' :: (segment ++ pathText rest) := rfl

/-- A path text cut at its slashes gives the segments back, behind the nothing in front of the
first slash. -/
theorem partsWhere_pathText (isMark : Char → Bool) (slash : isMark '/' = true)
    {path : List (List Char)} (free : ∀ segment ∈ path, ∀ c ∈ segment, isMark c = false) :
    Text.partsWhere isMark (pathText path) = [] :: path := by
  induction path with
  | nil => rfl
  | cons segment rest ih =>
    have plain := free segment List.mem_cons_self
    have parts := ih fun other member => free other (List.mem_cons_of_mem _ member)
    rw [pathText_cons, Text.partsWhere, if_pos slash, Text.partsWhere_append plain parts,
      List.append_nil]

theorem partsAt_pathText {path : List (List Char)} (free : ∀ segment ∈ path, '/' ∉ segment) :
    Text.partsAt '/' (pathText path) = [] :: path :=
  partsWhere_pathText (· == '/') rfl fun segment member _ held =>
    beq_false_of_ne fun same => free segment member (same ▸ held)

theorem pathText_append (front back : List (List Char)) :
    pathText (front ++ back) = pathText front ++ pathText back := List.flatMap_append

theorem mem_of_mem_goUp {done : List (List Char)} {part : List Char} (member : part ∈ goUp done) :
    part ∈ done := by
  unfold goUp at member
  split at member
  · simp at member
  · split at member
    · exact member
    · exact (List.dropLast_sublist done).subset member

theorem mem_addSegment {done : List (List Char)} {segment part : List Char}
    (member : part ∈ addSegment done segment) : part ∈ done ∨ part = segment ∨ part = [] := by
  unfold addSegment at member
  split at member
  · rcases List.mem_append.1 member with held | nothing
    · exact .inl (mem_of_mem_goUp held)
    · exact .inr (.inr (List.mem_singleton.1 nothing))
  · split at member
    · rcases List.mem_append.1 member with held | nothing
      · exact .inl held
      · exact .inr (.inr (List.mem_singleton.1 nothing))
    · rcases List.mem_append.1 member with held | same
      · exact .inl held
      · exact .inr (.inl (List.mem_singleton.1 same))

/-- Resolving dots invents no segment but the empty one. -/
theorem mem_resolveDots {done segments : List (List Char)} {part : List Char}
    (member : part ∈ resolveDots done segments) : part ∈ done ∨ part ∈ segments ∨ part = [] := by
  fun_induction resolveDots done segments with
  | case1 done => exact .inl member
  | case2 done last =>
    rcases mem_addSegment member with held | same | nothing
    · exact .inl held
    · exact .inr (.inl (List.mem_singleton.2 same))
    · exact .inr (.inr nothing)
  | case3 done segment rest _ double ih =>
    rcases ih member with held | later | nothing
    · exact .inl (mem_of_mem_goUp held)
    · exact .inr (.inl (List.mem_cons_of_mem _ later))
    · exact .inr (.inr nothing)
  | case4 done segment rest _ _ single ih =>
    rcases ih member with held | later | nothing
    · exact .inl held
    · exact .inr (.inl (List.mem_cons_of_mem _ later))
    · exact .inr (.inr nothing)
  | case5 done segment rest _ _ _ ih =>
    rcases ih member with held | later | nothing
    · rcases List.mem_append.1 held with before | same
      · exact .inl before
      · exact .inr (.inl (List.mem_singleton.1 same ▸ List.mem_cons_self))
    · exact .inr (.inl (List.mem_cons_of_mem _ later))
    · exact .inr (.inr nothing)

/-- What holds of nothing and of every escaped text without slashes holds of the segments of every
path that is read. -/
theorem forall_mem_parsePath (holds : List Char → Prop) (nothing : holds [])
    (escaped : ∀ part, (∀ c ∈ part, isSlash c = false) → holds (encodeText .path part))
    {text : List Char} : ∀ segment ∈ parsePath text, holds segment := by
  intro segment member
  rcases mem_resolveDots member with none | written | rfl
  · cases none
  · obtain ⟨part, piece, rfl⟩ := List.mem_map.1 written
    exact escaped part (Text.not_mark_of_mem_partsWhere piece)
  · exact nothing

theorem isSlash_parsePath {text segment : List Char} (member : segment ∈ parsePath text) :
    ∀ c ∈ segment, isSlash c = false := by
  refine forall_mem_parsePath (fun part => ∀ c ∈ part, isSlash c = false) (by simp)
    (fun part plain => ?_) segment member
  refine forall_mem_encodeBytes (by decide) fun byte held free => ?_
  exact plain _ (Bytes.mem_of_mem_ofText held (EscapeSet.isWide_path byte free))

/-! ### Addresses that were read -/

theorem exists_parseWeb_of_parse {text : String} {url : WebUrl}
    (parsed : parse text = .ok (some url)) :
    ∃ scheme rest, parseWeb scheme rest = .ok url := by
  unfold parse at parsed
  split at parsed
  · cases parsed
  · next rest _ =>
    obtain ⟨found, read, same⟩ := exists_of_map_ok parsed
    exact ⟨.http, rest, Option.some.inj same ▸ read⟩
  · next rest _ =>
    obtain ⟨found, read, same⟩ := exists_of_map_ok parsed
    exact ⟨.https, rest, Option.some.inj same ▸ read⟩
  · split at parsed
    all_goals
      obtain ⟨_, _, foreign⟩ := exists_of_bind_ok parsed
      cases foreign

theorem exists_authority_of_parseWeb {scheme : WebScheme} {text : List Char} {url : WebUrl}
    (read : parseWeb scheme text = .ok url) :
    ∃ authority, parseAuthority (text.dropWhile isSlash) = .ok authority ∧
      url = ⟨scheme, authority.userinfo, authority.host,
        authority.port.filter (· != scheme.defaultPort), parsePath authority.rest,
        parseQuery? authority.rest⟩ := by
  obtain ⟨authority, parsed, whole⟩ := exists_of_bind_ok read
  exact ⟨authority, parsed, (Except.ok.inj whole).symm⟩

theorem exists_parsePath_of_parse {text : String} {url : WebUrl}
    (parsed : parse text = .ok (some url)) : ∃ rest, url.path = parsePath rest := by
  obtain ⟨scheme, rest, read⟩ := exists_parseWeb_of_parse parsed
  obtain ⟨authority, _, rfl⟩ := exists_authority_of_parseWeb read
  exact ⟨authority.rest, rfl⟩

end DeviceEnrollment.Url
