import DeviceEnrollment.Proofs.Digits
import DeviceEnrollment.Proofs.Url.Path

/-!
Authorities as they are written. User names, hosts and ports hold none of the characters that end
them (`isHostText_of_parseHost`), so the length of a host is found again in front of its port
(`hostLength_host`).
-/
namespace DeviceEnrollment.Url

/-! ### Characters -/

/-- What an authority is written in, apart from the sign behind its user information. -/
def isAuthorityChar (c : Char) : Bool := !endsAuthority true c && c != '@'

/-- What names, numbers and pieces of hosts are written in. -/
def isHostChar (c : Char) : Bool := isAuthorityChar c && !([':', '[', ']'].contains c)

theorem isAuthorityChar_writeUserinfo (info : List Char) :
    ∀ c ∈ writeUserinfo info, isAuthorityChar c = true := by
  have written : ∀ text, ∀ c ∈ encodeText .userinfo text, isAuthorityChar c = true := fun _ =>
    forall_mem_encodeBytes_of_isWide (EscapeSet.isWide_path.adding _) (by decide) (by decide) _
  intro c member
  simp only [writeUserinfo] at member
  rcases List.mem_append.1 member with name | password
  · exact written _ c name
  · split at password
    · cases password
    · rcases List.mem_cons.1 password with rfl | secret
      · decide
      · exact written _ c secret

theorem isHostChar_of_isDigit {c : Char} (digit : c.isDigit = true) : isHostChar c = true :=
  Text.forall_of_isDigit (by decide) digit

/-! ### Hosts -/

/-- A host as it is written: a name or a number, or pieces between brackets. -/
inductive IsHostText : List Char → Prop
  | plain {text : List Char} (free : ∀ c ∈ text, isHostChar c = true) : IsHostText text
  | bracketed {pieces : List Char} (free : ∀ c ∈ pieces, isHostChar c = true ∨ c = ':') :
    IsHostText ('[' :: pieces ++ [']'])

/-- A domain name is only given if all its characters are of ASCII and none is forbidden. -/
theorem Domain.of_ofBytes {bytes : Bytes} {name : List Char} (read : ofBytes bytes = .ok name) :
    ∀ c ∈ name, isAscii c = true ∧ isForbidden c = false := by
  unfold ofBytes at read
  split at read
  · next whole =>
    cases Except.ok.inj read
    obtain ⟨text, _, mapped⟩ := Option.bind_eq_some_iff.1 whole
    have kept := List.all_eq_true.1 (Option.filter_eq_some_iff.1 mapped).2
    intro c member
    simpa only [Bool.and_eq_true, Bool.not_eq_true'] using kept c member
  · cases read

theorem isHostChar_of_isForbidden {c : Char} (plain : Domain.isForbidden c = false) :
    isHostChar c = true := by
  have forbidden : ['/', '?', '#', '\\', '@', ':', '[', ']'].all Domain.isForbidden = true := by
    decide
  have differs : ∀ mark ∈ ['/', '?', '#', '\\', '@', ':', '[', ']'], c ≠ mark := by
    rintro mark member rfl
    rw [List.all_eq_true.1 forbidden c member] at plain
    cases plain
  simp only [List.forall_mem_cons] at differs
  simp [isHostChar, isAuthorityChar, endsAuthority, differs]

/-- What digits and dots satisfy holds of every character of a number. -/
theorem forall_mem_ipv4Text {holds : Char → Prop} (digit : ∀ c, c.isDigit = true → holds c)
    (dot : holds '.') (address : Nat) : ∀ c ∈ ipv4Text address, holds c := by
  have byte : ∀ value, ∀ c ∈ Nat.toDigits 10 value, holds c := fun value c member =>
    digit c (Text.isDigit_of_mem_toDigits member)
  intro c member
  simp only [ipv4Text, List.mem_append, List.mem_cons] at member
  rcases member with ((first | rfl | second) | rfl | third) | rfl | fourth
  all_goals first | exact dot | exact byte _ c ‹_›

theorem forall_mem_toDigits {holds : Char → Prop}
    (digit : ∀ value < 16, holds (Nat.digitChar value)) (value : Nat) :
    ∀ c ∈ Nat.toDigits 16 value, holds c := by
  induction value using Nat.strongRecOn with
  | ind value ih =>
    intro c member
    by_cases small : value < 16
    · rw [Nat.toDigits_of_lt_base small, List.mem_singleton] at member
      exact member ▸ digit value small
    · rw [Nat.toDigits_of_base_le (by decide) (by omega)] at member
      rcases List.mem_append.1 member with front | last
      · exact ih (value / 16) (by omega) c front
      · exact List.mem_singleton.1 last ▸ digit _ (Nat.mod_lt _ (by decide))

theorem mem_intercalate {α : Type} {separator : List α} {parts : List (List α)} {a : α}
    (member : a ∈ separator.intercalate parts) :
    a ∈ separator ∨ ∃ part ∈ parts, a ∈ part := by
  induction parts with
  | nil => simp at member
  | cons first rest ih =>
    cases rest with
    | nil => exact .inr ⟨first, List.mem_cons_self, by simpa using member⟩
    | cons second rest =>
      rw [List.intercalate_cons_cons, List.append_assoc] at member
      rcases List.mem_append.1 member with here | later
      · exact .inr ⟨first, List.mem_cons_self, here⟩
      · rcases List.mem_append.1 later with between | behind
        · exact .inl between
        · rcases ih behind with between | ⟨part, among, held⟩
          · exact .inl between
          · exact .inr ⟨part, List.mem_cons_of_mem _ among, held⟩

theorem forall_mem_piecesText {holds : Char → Prop}
    (digit : ∀ value < 16, holds (Nat.digitChar value)) (colon : holds ':') (pieces : List Nat) :
    ∀ c ∈ piecesText pieces, holds c := by
  intro c member
  rcases mem_intercalate member with separator | ⟨digits, written, held⟩
  · exact List.mem_singleton.1 separator ▸ colon
  · obtain ⟨piece, _, rfl⟩ := List.mem_map.1 written
    exact forall_mem_toDigits digit piece c held

/-- What digits and colons satisfy holds of every character between brackets. -/
theorem forall_mem_ipv6Text {holds : Char → Prop}
    (digit : ∀ value < 16, holds (Nat.digitChar value)) (colon : holds ':') (pieces : List Nat) :
    ∀ c ∈ ipv6Text pieces, holds c := by
  intro c member
  simp only [ipv6Text] at member
  split at member
  · exact forall_mem_piecesText digit colon _ c member
  · rcases List.mem_append.1 member with front | back
    · rcases List.mem_append.1 front with front | gap
      · exact forall_mem_piecesText digit colon _ c front
      · obtain rfl : c = ':' := by simpa using gap
        exact colon
    · exact forall_mem_piecesText digit colon _ c back

/-- A host is read as the pieces between brackets, as a number, or as a domain name. -/
theorem cases_of_parseHost {text : List Char} {host : Host} (read : parseHost text = .ok host) :
    (∃ inner pieces, parseIpv6 inner = .ok pieces ∧ host = .ipv6 pieces) ∨
      (∃ address, host = .ipv4 address) ∨
      ∃ bytes name, Domain.ofBytes bytes = .ok name ∧ name ≠ [] ∧ host = .name name := by
  unfold parseHost at read
  split at read
  · next result bracketed =>
    unfold parseBracketed? at bracketed
    split at bracketed
    · cases Option.some.inj bracketed
      split at read
      · obtain ⟨pieces, found, rfl⟩ := exists_of_map_ok read
        exact .inl ⟨_, pieces, found, rfl⟩
      · cases read
    · cases bracketed
  · obtain ⟨name, domain, read⟩ := exists_of_bind_ok read
    split at read
    · cases read
    · next filled =>
      split at read
      · obtain ⟨address, _, rfl⟩ := exists_of_map_ok read
        exact .inr (.inl ⟨address, rfl⟩)
      · cases Except.ok.inj read
        exact .inr (.inr ⟨_, name, domain, by simpa using filled, rfl⟩)

/-- Whatever a host is read from, it is written as one. -/
theorem isHostText_of_parseHost {text : List Char} {host : Host}
    (read : parseHost text = .ok host) : IsHostText host.text := by
  rcases cases_of_parseHost read with ⟨_, pieces, _, rfl⟩ | ⟨address, rfl⟩ | ⟨_, name, domain, _, rfl⟩
  · exact .bracketed (forall_mem_ipv6Text (by decide) (.inr rfl) pieces)
  · exact .plain (forall_mem_ipv4Text (fun _ => isHostChar_of_isDigit) (by decide) address)
  · exact .plain fun c member => isHostChar_of_isForbidden (Domain.of_ofBytes domain c member).2

/-- The length of a host goes over its characters, and over colons if they are between brackets. -/
theorem hostLength_append {bracketed : Bool} {front : List Char}
    (free : ∀ c ∈ front, isHostChar c = true ∨ (bracketed = true ∧ c = ':')) (rest : List Char) :
    hostLength true bracketed (front ++ rest) =
      front.length + hostLength true bracketed rest := by
  induction front with
  | nil => simp
  | cons c front ih =>
    have later := ih fun other member => free other (List.mem_cons_of_mem _ member)
    rw [List.cons_append, hostLength]
    rcases free c List.mem_cons_self with plain | ⟨rfl, rfl⟩
    · simp only [isHostChar, isAuthorityChar, Bool.and_eq_true, Bool.not_eq_true',
        List.contains_cons, List.contains_nil, Bool.or_eq_false_iff] at plain
      simp [plain, later]
      omega
    · simp [endsAuthority, later]
      omega

/-- Behind the host there is its port or nothing. -/
theorem hostLength_host {host : List Char} (written : IsHostText host) {rest : List Char}
    (ends : hostLength true false rest = 0) :
    hostLength true false (host ++ rest) = host.length := by
  cases written with
  | plain free =>
    rw [hostLength_append fun c member => .inl (free c member), ends]
    rfl
  | @bracketed pieces free =>
    have colons : ∀ c ∈ pieces, isHostChar c = true ∨ (true = true ∧ c = ':') := fun c member =>
      (free c member).imp_right fun colon => ⟨rfl, colon⟩
    have inner := hostLength_append colons (']' :: rest)
    have closed : hostLength true true (']' :: rest) = 1 := by
      simp [hostLength, endsAuthority, ends]
    rw [List.append_assoc, List.cons_append, hostLength, List.singleton_append]
    simp [endsAuthority]
    omega

/-! ### Around a host -/

theorem isAuthorityChar_of_isHostText {host : List Char} (written : IsHostText host) :
    ∀ c ∈ host, isAuthorityChar c = true := by
  have kept : ∀ {c}, isHostChar c = true → isAuthorityChar c = true := fun plain =>
    (Bool.and_eq_true_iff.1 plain).1
  intro c member
  cases written with
  | plain free => exact kept (free c member)
  | bracketed free =>
    rcases List.mem_append.1 member with front | last
    · rcases List.mem_cons.1 front with rfl | inner
      · decide
      · rcases free c inner with plain | rfl
        · exact kept plain
        · decide
    · rw [List.mem_singleton.1 last]
      decide

/-- The port with its colon. -/
def portText (port : Option Nat) : List Char :=
  match port with
  | none => []
  | some port => ':' :: Nat.toDigits 10 port

theorem isAuthorityChar_portText (port : Option Nat) :
    ∀ c ∈ portText port, isAuthorityChar c = true := by
  intro c member
  cases port with
  | none => cases member
  | some port =>
    rcases List.mem_cons.1 member with rfl | digit
    · decide
    · exact (Bool.and_eq_true_iff.1
        (isHostChar_of_isDigit (Text.isDigit_of_mem_toDigits digit))).1

end DeviceEnrollment.Url
