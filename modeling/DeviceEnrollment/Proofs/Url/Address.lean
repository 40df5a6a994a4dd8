import DeviceEnrollment.Proofs.Url.Host

/-!
Addresses of version 6 as they are read and written. Eight pieces are read, whatever a double colon
stands for (`length_of_parseIpv6`), and pieces are written with as many colons at most
(`count_colon_ipv6Text_le`).
-/
namespace DeviceEnrollment.Url

/-! ### Reading -/

theorem length_embeddedIpv4? {text : List Char} {pair : List Nat}
    (read : embeddedIpv4? text = some pair) : pair.length = 2 := by
  unfold embeddedIpv4? at read
  split at read
  · cases read
    rfl
  · cases read

namespace PieceState

theorem count_append (state : PieceState) (more : List Nat) :
    count { state with pieces := state.pieces ++ more } = state.count + more.length := by
  simp only [count, List.length_append]
  exact Nat.add_right_comm _ _ _

theorem count_gap {state : PieceState} (closed : ¬state.gap.isSome = true) (before : Nat) :
    count { state with gap := some before } = state.count + 1 := by
  simp [count, closed]

/-- A double colon counts as a piece, and there is no room for a ninth one. -/
theorem count_read?_le {fuel : Nat} {state final : PieceState} {text : List Char}
    (room : state.count ≤ 8) (read : read? fuel state text = some final) : final.count ≤ 8 := by
  induction fuel generalizing state text with
  | zero =>
    cases text with
    | nil =>
      cases read
      exact room
    | cons first rest => cases read
  | succ fuel ih =>
    cases text with
    | nil =>
      cases read
      exact room
    | cons first rest =>
      simp only [read?] at read
      split at read
      · cases read
      · next free =>
        have pushed (piece : Nat) : (state.push piece).count ≤ 8 := by
          have grown := state.count_append [piece]
          rw [List.length_singleton] at grown
          show count { state with pieces := state.pieces ++ [piece] } ≤ 8
          omega
        split at read
        · split at read
          · cases read
          · next closed =>
            have grown := count_gap closed state.pieces.length
            exact ih (by omega) read
        · split at read
          · cases read
            exact pushed _
          · split at read
            · cases read
            · next few =>
              obtain ⟨pair, embedded, rfl⟩ := Option.map_eq_some_iff.1 read
              have grown := state.count_append pair
              rw [length_embeddedIpv4? embedded] at grown
              simp only [Bool.or_eq_true, decide_eq_true_eq, not_or] at few
              omega
          · split at read
            · cases read
            · exact ih (pushed _) read
          · cases read

theorem length_fill? {state : PieceState} {pieces : List Nat} (room : state.count ≤ 8)
    (filled : state.fill? = some pieces) : pieces.length = 8 := by
  unfold fill? at filled
  split at filled
  · split at filled
    · next eight =>
      cases filled
      exact eight
    · cases filled
  · next before gap =>
    cases filled
    simp only [count, gap, Option.isSome_some, if_true] at room
    simp only [List.length_append, List.length_take, List.length_replicate, List.length_drop]
    omega

end PieceState

theorem length_of_parseIpv6 {text : List Char} {pieces : List Nat}
    (read : parseIpv6 text = .ok pieces) : pieces.length = 8 := by
  unfold parseIpv6 at read
  simp only at read
  split at read
  · next whole =>
    cases read
    obtain ⟨state, found, filled⟩ := Option.bind_eq_some_iff.1 whole
    refine PieceState.length_fill? ?_ filled
    split at found
    · exact PieceState.count_read?_le (by decide) found
    · cases found
    · cases found
    · cases found
    · exact PieceState.count_read?_le (by decide) found
  · cases read

/-! ### Writing -/

/-- The run of zeros at a place ends within the pieces. -/
theorem add_le_of_getElem?_zeroRuns {pieces : List Nat} {place run : Nat}
    (found : (zeroRuns pieces)[place]? = some run) : place + run ≤ pieces.length := by
  induction pieces generalizing place run with
  | nil => simp [zeroRuns] at found
  | cons piece rest ih =>
    cases place with
    | zero =>
      have next : (zeroRuns rest).headD 0 ≤ rest.length := by
        cases runs : zeroRuns rest with
        | nil => exact Nat.zero_le _
        | cons first later =>
          have first : (zeroRuns rest)[0]? = some first := by rw [runs]; rfl
          simpa using ih first
      simp only [zeroRuns, List.getElem?_cons_zero, Option.some.injEq] at found
      rw [List.length_cons]
      split at found <;> omega
    | succ place =>
      have later : place + run ≤ rest.length := ih found
      rw [List.length_cons]
      omega

theorem count_colon_piecesText_le (pieces : List Nat) :
    (piecesText pieces).count ':' ≤ pieces.length := by
  have digits (piece : Nat) : (Nat.toDigits 16 piece).count ':' = 0 := by
    have plain : ∀ c ∈ Nat.toDigits 16 piece, c ≠ ':' := forall_mem_toDigits (by decide) piece
    exact List.count_eq_zero.2 fun member => plain ':' member rfl
  induction pieces with
  | nil => exact Nat.zero_le _
  | cons piece rest ih =>
    cases rest with
    | nil => simp [piecesText, digits]
    | cons second rest =>
      have whole : piecesText (piece :: second :: rest) =
          Nat.toDigits 16 piece ++ [':'] ++ piecesText (second :: rest) := by
        simp [piecesText, List.intercalate_cons_cons]
      rw [whole, List.count_append, List.count_append, digits]
      simp only [List.count_singleton_self, List.length_cons] at ih ⊢
      omega

theorem getElem?_findIdx {runs : List Nat} {run : Nat} (held : run ∈ runs) :
    runs[runs.findIdx (· = run)]? = some run := by
  have inside : runs.findIdx (fun other => decide (other = run)) < runs.length :=
    List.findIdx_lt_length_of_exists ⟨run, held, by simp⟩
  rw [List.getElem?_eq_getElem inside]
  exact congrArg some (of_decide_eq_true (List.findIdx_getElem (w := inside)))

theorem foldl_max_mem {runs : List Nat} (positive : 0 < runs.foldl max 0) :
    runs.foldl max 0 ∈ runs := by
  rw [List.foldl_max] at positive ⊢
  cases greatest : runs.max? with
  | none => simp [greatest] at positive
  | some run =>
    rw [Option.getD_some, Nat.zero_max]
    exact List.max?_mem greatest

/-- The two colons that stand for a run of zeros are no more than its pieces. -/
theorem count_colon_ipv6Text_le (pieces : List Nat) :
    (ipv6Text pieces).count ':' ≤ pieces.length := by
  simp only [ipv6Text]
  generalize runs : (zeroRuns pieces).foldl max 0 = longest
  split
  · exact count_colon_piecesText_le pieces
  · next long =>
    have held : longest ∈ zeroRuns pieces := runs ▸ foldl_max_mem (by omega)
    have inside := add_le_of_getElem?_zeroRuns (getElem?_findIdx held)
    generalize (zeroRuns pieces).findIdx (· = longest) = start at inside
    have front := count_colon_piecesText_le (pieces.take start)
    have back := count_colon_piecesText_le (pieces.drop (start + longest))
    have gap : [':', ':'].count ':' = 2 := rfl
    rw [List.length_take] at front
    rw [List.length_drop] at back
    rw [List.count_append, List.count_append, gap]
    omega

end DeviceEnrollment.Url
