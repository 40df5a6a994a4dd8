import DeviceEnrollment.Json.Decode

/-!
How lists and objects are scanned. They begin with their bracket (`Reading.exists_of_isNested`), and
an object that is closed has only whole values in it (`Document.whole_of_member`).
-/
namespace DeviceEnrollment.Json

namespace Reading

/-- Whether a value is a list or an object. -/
def isNested : Reading → Bool
  | .list _ _ | .object _ _ => true
  | _ => false

theorem isNested_scanLiteral {meaning : Reading} {broken : Fault → Reading}
    (plain : meaning.isNested = false) (plainBroken : ∀ fault, (broken fault).isNested = false)
    (letters bytes : Bytes) : (scanLiteral meaning broken letters bytes).1.isNested = false := by
  induction letters generalizing bytes with
  | nil => exact plain
  | cons letter letters ih =>
    cases bytes with
    | nil => exact plainBroken _
    | cons byte rest =>
      unfold scanLiteral
      split
      · exact ih rest
      · exact plainBroken _

theorem isNested_ofNumber (scanned : Except Fault WrittenNumber × Bytes) :
    (ofNumber scanned).1.isNested = false := by
  obtain ⟨written | fault, rest⟩ := scanned <;> rfl

/-- A list or an object is scanned behind its bracket. -/
theorem scan_cases (fuel : Nat) (bytes : Bytes) :
    (scan (fuel + 1) bytes).1.isNested = false ∨
    (∃ rest, skipBlanks bytes = 0x5B :: rest ∧ (scan (fuel + 1) bytes).1 =
      .list (scanElements fuel true rest).1 (scanElements fuel true rest).2.1) ∨
    ∃ rest, skipBlanks bytes = 0x7B :: rest ∧ (scan (fuel + 1) bytes).1 =
      .object (scanMembers fuel true rest).1 (scanMembers fuel true rest).2.1 := by
  unfold scan
  split
  · exact .inl rfl
  next first rest front =>
  split
  · exact .inl (isNested_scanLiteral rfl (fun _ => rfl) _ _)
  split
  · exact .inl (isNested_scanLiteral rfl (fun _ => rfl) _ _)
  split
  · exact .inl (isNested_scanLiteral rfl (fun _ => rfl) _ _)
  split
  · exact .inl (isNested_ofNumber _)
  split
  · exact .inl (isNested_ofNumber _)
  split
  · exact .inl rfl
  by_cases list : first = 0x5B
  · subst list
    exact .inr (.inl ⟨rest, front, rfl⟩)
  by_cases object : first = 0x7B
  · subst object
    exact .inr (.inr ⟨rest, front, rfl⟩)
  · rw [if_neg (by simpa using list), if_neg (by simpa using object)]
    exact .inl rfl

/-- A document of a list or an object has its bracket in it. -/
theorem exists_bracket_of_isNested {fuel : Nat} {bytes : Bytes}
    (nested : (scan fuel bytes).1.isNested = true) :
    ∃ byte ∈ bytes, byte = 0x7B ∨ byte = 0x5B := by
  have held {byte : UInt8} {rest : Bytes} (front : skipBlanks bytes = byte :: rest) :
      byte ∈ bytes :=
    (List.dropWhile_sublist isBlank).mem (show byte ∈ skipBlanks bytes by simp [front])
  cases fuel with
  | zero => cases nested
  | succ fuel =>
    rcases scan_cases fuel bytes with plain | ⟨rest, front, _⟩ | ⟨rest, front, _⟩
    · exact absurd nested (Bool.eq_false_iff.1 plain)
    · exact ⟨0x5B, held front, .inr rfl⟩
    · exact ⟨0x7B, held front, .inl rfl⟩

/-- Whatever stands in front of the end of an object does not break off. -/
theorem whole_of_scanMembers (fuel : Nat) :
    (∀ first bytes members rest, scanMembers fuel first bytes = (members, .closed, rest) →
      ∀ member ∈ members, member.2.fault? = none) ∧
    ∀ bytes members rest, scanMember fuel bytes = (members, .closed, rest) →
      ∀ member ∈ members, member.2.fault? = none := by
  induction fuel with
  | zero =>
    refine ⟨fun first bytes members rest scanned => ?_, fun bytes members rest scanned => ?_⟩
    · cases scanned
    · cases scanned
  | succ fuel ih =>
    obtain ⟨later, one⟩ := ih
    refine ⟨fun first bytes members rest scanned => ?_, fun bytes members rest scanned => ?_⟩
    · unfold scanMembers at scanned
      split at scanned
      · cases scanned
      split at scanned
      · cases scanned
        simp
      split at scanned
      · split at scanned
        · exact one _ _ _ scanned
        · cases scanned
      split at scanned
      · split at scanned
        · cases scanned
        split at scanned
        · exact one _ _ _ scanned
        split at scanned
        · cases scanned
        · cases scanned
      · cases scanned
    · unfold scanMember at scanned
      split at scanned
      split at scanned
      · cases scanned
      split at scanned
      · cases scanned
      split at scanned
      · split at scanned
        split at scanned
        · cases scanned
        · next whole =>
          split at scanned
          next behind =>
            cases scanned
            exact List.forall_mem_cons.2 ⟨whole, later _ _ _ _ behind⟩
      · cases scanned

end Reading

/-- The values in an object that is closed do not break off. -/
theorem Document.whole_of_member {bytes : Bytes} {members : List (WrittenText × Reading)}
    (object : (ofBytes bytes).value = .object members .closed) {member : WrittenText × Reading}
    (held : member ∈ members) : member.2.fault? = none := by
  have scanned : (Reading.scan (3 * bytes.length + 2 + 1) bytes).1 = .object members .closed :=
    object
  rcases Reading.scan_cases (3 * bytes.length + 2) bytes with plain | ⟨rest, _, is⟩ | ⟨rest, _, is⟩
  · rw [scanned] at plain
    cases plain
  · rw [scanned] at is
    cases is
  · rw [scanned] at is
    obtain ⟨same, closed⟩ := Reading.object.inj is
    let fuel := 3 * bytes.length + 2
    have ends : Reading.scanMembers fuel true rest =
        (members, .closed, (Reading.scanMembers fuel true rest).2.2) := by
      rw [same, closed]
    exact (Reading.whole_of_scanMembers fuel).1 true rest members _ ends member held

end DeviceEnrollment.Json
