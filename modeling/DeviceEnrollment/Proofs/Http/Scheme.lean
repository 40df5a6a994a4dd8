import DeviceEnrollment.Proofs.Http.Admission

/-!
What an address has to say so that a request may go to it: a scheme of the web, in any letter case,
and an authority behind it. Without leave for plain text the scheme is the encrypted one
(`Executor.of_target`).
-/
namespace DeviceEnrollment.Http

namespace RequestTarget

theorem of_splitScheme? {text scheme rest : List Char}
    (cut : splitScheme? text = .ok (some (scheme, rest))) :
    ∃ letters, text = letters ++ "://".toList ++ rest ∧
      (scheme = letters.map Char.toLower ∨ scheme = letters) := by
  have whole : text.takeWhile isSchemeChar ++ text.drop (text.takeWhile isSchemeChar).length =
      text := List.prefix_iff_eq_append.1 (List.takeWhile_prefix _)
  unfold splitScheme? at cut
  simp only at cut
  split at cut
  · next found behind =>
    rw [behind] at whole
    split at cut
    · cases cut
    · split at cut
      · cases cut
        exact ⟨_, by rw [List.append_assoc]; exact whole.symm, .inl rfl⟩
      · split at cut
        · cases cut
        · cases cut
          exact ⟨_, by rw [List.append_assoc]; exact whole.symm, .inr rfl⟩
  · cases cut

theorem of_splitAuthority {text authority rest : List Char}
    (cut : splitAuthority text = .ok (authority, rest)) :
    authority = text.takeWhile (!endsAuthority ·) := by
  obtain ⟨marks, _, fits⟩ := exists_of_bind_ok cut
  split at fits
  · exact (congrArg Prod.fst (Except.ok.inj fits)).symm
  · cases fits

theorem of_readAbsolute {text : List Char} {target : RequestTarget} {scheme : List Char}
    (read : readAbsolute text = .ok target) (named : target.scheme = some scheme) :
    ∃ letters rest, text = letters ++ "://".toList ++ rest ∧
      (scheme = letters.map Char.toLower ∨ scheme = letters) ∧
      target.authority = rest.takeWhile (!endsAuthority ·) := by
  obtain ⟨cut, split, read⟩ := exists_of_bind_ok read
  cases cut with
  | none =>
    obtain ⟨parts, _, made⟩ := exists_of_bind_ok read
    simp only at made
    split at made
    · cases made
      cases named
    · cases made
  | some parts =>
    obtain ⟨letters, whole, written⟩ := of_splitScheme? split
    simp only at read
    split at read
    · cases read
    · obtain ⟨authority, cutOff, read⟩ := exists_of_bind_ok read
      split at read
      · cases read
      · obtain ⟨_, _, made⟩ := exists_of_bind_ok read
        cases made
        cases named
        exact ⟨letters, parts.2, whole, written, of_splitAuthority cutOff⟩

/-- A target with a scheme comes of a text in which the scheme stands before its authority. -/
theorem of_ofText {text : String} {target : RequestTarget} {scheme : List Char}
    (read : ofText text = .ok target) (named : target.scheme = some scheme) :
    ∃ letters rest, text.toList = letters ++ "://".toList ++ rest ∧
      (scheme = letters.map Char.toLower ∨ scheme = letters) ∧
      target.authority = rest.takeWhile (!endsAuthority ·) := by
  unfold ofText at read
  split at read
  · cases read
  · split at read
    case h_6 => exact of_readAbsolute read named
    case h_1 => cases read
    case h_2 | h_3 =>
      cases read
      cases named
    case h_4 =>
      obtain ⟨_, _, made⟩ := exists_of_bind_ok read
      cases made
      cases named
    case h_5 =>
      obtain ⟨_, _, made⟩ := exists_of_bind_ok read
      simp only at made
      split at made
      · cases made
        cases named
      · cases made

end RequestTarget

/-- Whether an address begins with a scheme, in any letter case, and names this authority. -/
def IsOn (scheme : String) (authority : List Char) (url : String) : Prop :=
  ∃ letters rest, url.toList = letters ++ "://".toList ++ rest ∧
    letters.map Char.toLower = scheme.toList ∧
    rest.takeWhile (!RequestTarget.endsAuthority ·) = authority

namespace Executor

variable {security : TransportSecurity} {url : String} {found : RequestTarget}

theorem isOn_of_ofText {scheme : String} (lower : scheme.toList.map Char.toLower = scheme.toList)
    (read : RequestTarget.ofText url = .ok found) (named : found.scheme = some scheme.toList) :
    IsOn scheme found.authority url := by
  obtain ⟨letters, rest, whole, written, authority⟩ := RequestTarget.of_ofText read named
  refine ⟨letters, rest, whole, ?_, authority.symm⟩
  rcases written with same | same
  · exact same.symm
  · rw [← same, lower]

/-- Whether a request may go to an address: it names an authority behind the encrypted scheme, or
behind the other scheme of the web where that is allowed. -/
def IsAllowed (security : TransportSecurity) (url : String) (found : RequestTarget) : Prop :=
  found.authority ≠ [] ∧
    ((found.scheme = some "https".toList ∧ IsOn "https" found.authority url) ∨
      (security = .allowInsecureHttp ∧ found.scheme = some "http".toList ∧
        IsOn "http" found.authority url))

/-- Whether a request fails before it gets to those who take requests up: alone it changes nothing,
and among others it takes no place from them. -/
def TurnsAway (executor : Executor) (request : Outgoing) (failure : Failure) : Prop :=
  (∀ network, executor.execute network request = ⟨[], .error failure, network⟩) ∧
    ∀ network before after, executor.executeTogether network (before ++ request :: after) =
      let others := executor.executeTogether network (before ++ after)
      (others.1.insertIdx before.length (.error failure), others.2)

theorem of_target (accepted : target security url = .ok found) :
    IsAllowed security url found := by
  unfold target at accepted
  split at accepted
  · cases accepted
  · next checked read =>
    split at accepted
    · cases accepted
    · next filled =>
      have authority : checked.authority ≠ [] := by simpa using filled
      split at accepted
      · cases accepted
      · next scheme named =>
        split at accepted
        · next encrypted =>
          cases accepted
          rw [encrypted] at named
          exact ⟨authority, .inl ⟨named, isOn_of_ofText (by decide) read named⟩⟩
        · split at accepted
          · next plain =>
            split at accepted
            · next allowed =>
              cases accepted
              rw [plain] at named
              exact ⟨authority, .inr ⟨allowed, named, isOn_of_ofText (by decide) read named⟩⟩
            · cases accepted
          · cases accepted

theorem turnsAway_of_refused {executor : Executor} {request : Outgoing} {failure : Failure}
    (refused : target executor.security request.url = .error failure) :
    executor.TurnsAway request failure := by
  refine ⟨fun network => by rw [execute, refused], fun network before after => ?_⟩
  have placed {α : Type} (f : Outgoing → Except Failure α) (here : f request = .error failure) :
      (before ++ request :: after).map f =
        ((before ++ after).map f).insertIdx before.length (.error failure) := by
    induction before with
    | nil => simp [here]
    | cons first rest ih => simpa using ih
  unfold executeTogether
  simp only [letThrough_eq_takeUp]
  rw [placed _ (by rw [refused]; rfl), takeUp_insertIdx, sendAdmitted_insertIdx]

end Executor

end DeviceEnrollment.Http
