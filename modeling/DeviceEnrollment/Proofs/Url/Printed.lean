import DeviceEnrollment.Proofs.Http.Target
import DeviceEnrollment.Proofs.Url.Address
import DeviceEnrollment.Proofs.Url.Form
import DeviceEnrollment.Proofs.Url.Parts

/-!
Addresses as the texts of targets. Every part of an address is printed in characters that a target
has there, but for the name of a host, which may hold four characters that no authority of a target
has (`ofText_of_isPlain`, `ofText_of_not_isPlain`).
-/
namespace DeviceEnrollment.Url

open Http.RequestTarget

/-! ### Hosts -/

/-- The characters that a domain name may hold, and that no authority of a target has. -/
def oddChars : List Char := ['"', '\u0060', '\x7b', '\x7d']

/-- Whether a host is written without them. -/
def Host.IsPlain (host : Host) : Prop := ∀ c ∈ host.text, c ∉ oddChars

instance (host : Host) : Decidable host.IsPlain :=
  List.decidableBAll (· ∉ oddChars) host.text

/-- Whether a host is written as one of a target, or as a name with odd characters. -/
def Host.IsPrinted (host : Host) : Prop :=
  IsHost host.text ∨ (host.text ≠ [] ∧ ∀ c ∈ host.text, isNameChar c = true ∨ c ∈ oddChars)

theorem isStray_of_mem_oddChars : ∀ c ∈ oddChars, isStray c = true :=
  List.all_eq_true.1 (by decide)

theorem isNameChar_or_mem_oddChars {c : Char} (ascii : Domain.isAscii c = true)
    (plain : Domain.isForbidden c = false) : isNameChar c = true ∨ c ∈ oddChars := by
  have points : ∀ point < 0x80, Domain.isForbidden (Char.ofNat point) = false →
      isNameChar (Char.ofNat point) = true ∨ Char.ofNat point ∈ oddChars := by decide
  have below : c.toNat < 0x80 := by simpa [Domain.isAscii] using ascii
  exact Text.forall_of_toNat_lt
    (fun c => Domain.isForbidden c = false → isNameChar c = true ∨ c ∈ oddChars) points below plain

namespace Host

variable {host : Host}

theorem isPlain_of_isHost (written : IsHost host.text) : host.IsPlain := by
  intro c member odd
  simp only [oddChars, List.mem_cons, List.not_mem_nil, or_false] at odd
  rcases odd with rfl | rfl | rfl | rfl <;> exact absurd (written.plain _ member) (by decide)

theorem IsPrinted.isHost (printed : host.IsPrinted) (plain : host.IsPlain) : IsHost host.text := by
  rcases printed with written | ⟨filled, chars⟩
  · exact written
  · exact .name filled fun c member => (chars c member).resolve_right (plain c member)

theorem IsPrinted.exists_stray (printed : host.IsPrinted) (odd : ¬host.IsPlain) :
    (∀ c ∈ host.text, isNameChar c = true ∨ isStray c = true) ∧
      ∃ c ∈ host.text, isStray c = true := by
  rcases printed with written | ⟨_, chars⟩
  · exact absurd (isPlain_of_isHost written) odd
  · obtain ⟨c, member, among⟩ : ∃ c ∈ host.text, c ∈ oddChars := by
      simpa [IsPlain] using odd
    exact ⟨fun other held => (chars other held).imp_right (isStray_of_mem_oddChars other),
      c, member, isStray_of_mem_oddChars c among⟩

/-- A host that was read is printed so. -/
theorem isPrinted_of_parseHost {text : List Char} (read : parseHost text = .ok host) :
    host.IsPrinted := by
  rcases cases_of_parseHost read with ⟨_, pieces, found, rfl⟩ | ⟨address, rfl⟩ |
    ⟨_, name, domain, filled, rfl⟩
  · have colons := count_colon_ipv6Text_le pieces
    rw [length_of_parseIpv6 found] at colons
    exact .inl (.bracketed (forall_mem_ipv6Text (by decide) (.inr rfl) pieces) colons)
  · refine .inl (.name ?_ (forall_mem_ipv4Text (fun _ => isNameChar_of_isDigit) (by decide) address))
    simp [Host.text, ipv4Text]
  · refine .inr ⟨filled, fun c member => ?_⟩
    obtain ⟨ascii, plain⟩ := Domain.of_ofBytes domain c member
    exact isNameChar_or_mem_oddChars ascii plain

end Host

/-! ### Addresses -/

/-- Whether every part of an address is printed in characters that a target has there, odd ones in
the name of the host apart. -/
structure WebUrl.IsPrinted (url : WebUrl) : Prop where
  userinfo : IsInfo url.userinfo
  host : url.host.IsPrinted
  path : ∀ segment ∈ url.path, ∀ c ∈ segment, isPathChar c = true
  query : ∀ query, url.query = some query → ∀ c ∈ query, isQueryChar c = true

theorem isInfo_writeUserinfo (info : List Char) : IsInfo (writeUserinfo info) := by
  have written : ∀ text, ∀ c ∈ encodeText .userinfo text, isNameChar c = true ∨ c = '%' := fun _ =>
    forall_mem_encodeBytes_of_isWide (EscapeSet.isWide_path.adding _) (by decide) (by decide) _
  have free : ∀ text, (encodeText .userinfo text).count ':' = 0 := fun text =>
    List.count_eq_zero.2 fun member => absurd (written text ':' member) (by decide)
  unfold writeUserinfo
  constructor
  · intro c member
    rcases List.mem_append.1 member with name | password
    · exact (written _ c name).imp_right .inr
    · split at password
      · cases password
      · rcases List.mem_cons.1 password with colon | secret
        · exact .inr (.inl colon)
        · exact (written _ c secret).imp_right .inr
  · simp only [List.count_append, free]
    split
    · decide
    · rw [List.count_cons_self, free]
      decide

theorem isPathChar_parsePath {text segment : List Char} (member : segment ∈ parsePath text) :
    ∀ c ∈ segment, isPathChar c = true :=
  forall_mem_parsePath (fun part => ∀ c ∈ part, isPathChar c = true) (by simp)
    (fun _ _ => forall_mem_encodeBytes_of_isWide EscapeSet.isWide_path (by decide) (by decide) _)
    segment member

theorem isPathChar_writeSegment (segment : String) :
    ∀ c ∈ writeSegment segment, isPathChar c = true :=
  forall_mem_encodeBytes_of_isWide EscapeSet.isWide_segment (by decide) (by decide) _

theorem isQueryChar_formPair (name value : String) :
    ∀ c ∈ formPair name value, isQueryChar c = true := by
  have written : ∀ text, ∀ c ∈ formEncode text, isQueryChar c = true :=
    forall_mem_formEncode (by decide) (by decide)
  intro c member
  rcases List.mem_append.1 member with named | rest
  · exact written name c named
  · rcases List.mem_cons.1 rest with rfl | valued
    · decide
    · exact written value c valued

theorem isPort_portText (port : Option Nat) : IsPort (portText port) := by
  cases port with
  | none => exact .none
  | some port => exact .behind fun c member => Text.isDigit_of_mem_toDigits member

/-- An address as the text of a target. -/
def WebUrl.composed (url : WebUrl) : AddressText :=
  ⟨url.scheme.text.toList, url.userinfo, url.host.text, portText url.port, pathText url.path,
    url.query⟩

namespace WebUrl

variable {url : WebUrl}

theorem authority_composed : url.composed.authority = url.authorityText :=
  (authorityText_eq url).symm

theorem letters_composed : url.text.toList = url.composed.letters := by
  rw [text, String.toList_ofList, letters, AddressText.letters, authority_composed]
  simp only [List.append_assoc, composed]
  cases url.query <;> rfl

theorem IsPrinted.isFramed (printed : url.IsPrinted) : url.composed.IsFramed := by
  constructor
  case web => cases scheme : url.scheme <;> simp [composed, scheme, WebScheme.text]
  case info => exact printed.userinfo
  case port => exact isPort_portText url.port
  case path =>
    intro c member
    obtain ⟨segment, among, written⟩ := List.mem_flatMap.1 member
    rcases List.mem_cons.1 written with rfl | held
    · decide
    · exact printed.path segment among c held
  case rooted =>
    intro c first
    cases path : url.path with
    | nil => simp [composed, path, pathText] at first
    | cons segment rest => simpa [composed, path, pathText, eq_comm] using first
  case query => exact printed.query

/-- A printed address with a plain host is read as its parts. -/
theorem IsPrinted.ofText_of_isPlain (printed : url.IsPrinted) (plain : url.host.IsPlain)
    (short : url.text.utf8ByteSize ≤ greatestLength) :
    ofText url.text = .ok
      ⟨some url.scheme.text.toList, url.authorityText, pathText url.path, url.query⟩ := by
  rw [printed.isFramed.ofText_composed letters_composed short (printed.host.isHost plain),
    authority_composed]
  rfl

/-- An odd character in its host is one that no target has. -/
theorem IsPrinted.ofText_of_not_isPlain (printed : url.IsPrinted) (odd : ¬url.host.IsPlain)
    (short : url.text.utf8ByteSize ≤ greatestLength) : ofText url.text = .error .badCharacter := by
  obtain ⟨chars, stray⟩ := printed.host.exists_stray odd
  exact printed.isFramed.ofText_of_stray letters_composed short chars stray

/-- Whether a target is that of an address: it is on the same scheme, its host and port are read as
those of the address, and path and query are the same. -/
structure IsTarget (url : WebUrl) (target : Http.RequestTarget) : Prop where
  scheme : target.scheme = some url.scheme.text.toList
  authority : target.authority = url.authorityText
  host : target.host = url.host.text
  port : target.port = (url.port.map (Nat.toDigits 10)).getD []
  path : target.path = pathText url.path
  query : target.query = url.query

theorem IsPrinted.isTarget (printed : url.IsPrinted) (plain : url.host.IsPlain) :
    url.IsTarget ⟨some url.scheme.text.toList, url.authorityText, pathText url.path, url.query⟩ := by
  have host := printed.host.isHost plain
  have port := isPort_portText url.port
  refine ⟨rfl, rfl, host_authorityText (authorityText_eq url) host port, ?_, rfl, rfl⟩
  rw [port_authorityText (authorityText_eq url) host port]
  cases url.port <;> rfl

end WebUrl

end DeviceEnrollment.Url
