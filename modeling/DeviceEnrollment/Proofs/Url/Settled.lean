import DeviceEnrollment.Proofs.Url.Path
import Mathlib.Data.List.TakeWhile

/-!
Paths that are read once more. A settled segment has no separator, nothing that has to be escaped,
and it is no dots; every segment that was read is settled. A path of settled segments is read as
itself (`parsePath_pathText`), so no escape in it turns into a separator or into dots.
-/
namespace DeviceEnrollment.Url

/-! ### Characters that are kept -/

/-- Whether a character is written as itself. -/
def EscapeSet.Keeps (set : EscapeSet) (c : Char) : Prop :=
  c.toNat < 0x80 ∧ set c.toNat.toUInt8 = false

instance (set : EscapeSet) (c : Char) : Decidable (set.Keeps c) :=
  inferInstanceAs (Decidable (_ ∧ _))

variable {set : EscapeSet} {letters segment : List Char}

theorem EscapeSet.Keeps.encodeByte_eq {c : Char} (kept : set.Keeps c) :
    encodeByte set c.toNat.toUInt8 = [c] := by
  have point : c.toNat.toUInt8.toNat = c.toNat :=
    UInt8.toNat_ofNat_of_lt' (Nat.lt_trans kept.1 (by decide))
  rw [encodeByte, kept.2, point, Char.ofNat_toNat]
  rfl

/-- A text of characters that are kept is written as it is. -/
theorem encodeText_eq_self (kept : ∀ c ∈ letters, set.Keeps c) :
    encodeText set letters = letters := by
  rw [encodeText, Bytes.ofText_ascii fun c member => (kept c member).1, encodeBytes]
  induction letters with
  | nil => rfl
  | cons c rest ih =>
    have first := (kept c List.mem_cons_self).encodeByte_eq
    have later := ih fun other member => kept other (List.mem_cons_of_mem _ member)
    rw [List.map_cons, List.flatMap_cons, first, later]
    rfl

/-! ### Dots -/

/-- Whether a written segment stands for a place instead of naming one. -/
def isDots (segment : List Char) : Bool := isSingleDot segment || isDoubleDot segment

theorem isDots_addSegment {done : List (List Char)} (before : ∀ part ∈ done, isDots part = false)
    (segment : List Char) : ∀ part ∈ addSegment done segment, isDots part = false := by
  intro part member
  unfold addSegment at member
  split at member
  · rcases List.mem_append.1 member with held | nothing
    · exact before part (mem_of_mem_goUp held)
    · exact List.mem_singleton.1 nothing ▸ rfl
  · next double =>
    split at member
    · rcases List.mem_append.1 member with held | nothing
      · exact before part held
      · exact List.mem_singleton.1 nothing ▸ rfl
    · next single =>
      rcases List.mem_append.1 member with held | same
      · exact before part held
      · rw [List.mem_singleton.1 same, isDots]
        simp [single, double]

/-- Once dots are resolved there are none. -/
theorem isDots_resolveDots {done segments : List (List Char)}
    (before : ∀ part ∈ done, isDots part = false) :
    ∀ part ∈ resolveDots done segments, isDots part = false := by
  fun_induction resolveDots done segments with
  | case1 done => exact before
  | case2 done last => exact isDots_addSegment before last
  | case3 done segment rest _ double ih =>
    exact ih fun part held => before part (mem_of_mem_goUp held)
  | case4 done segment rest _ _ single ih => exact ih before
  | case5 done segment rest _ double single ih =>
    refine ih fun part member => ?_
    rcases List.mem_append.1 member with held | same
    · exact before part held
    · rw [List.mem_singleton.1 same, isDots]
      simp [single, double]

/-- Segments without dots among them are taken over. -/
theorem resolveDots_eq_append {segments : List (List Char)}
    (named : ∀ segment ∈ segments, isDots segment = false) (done : List (List Char)) :
    resolveDots done segments = done ++ segments := by
  simp only [isDots, Bool.or_eq_false_iff] at named
  fun_induction resolveDots done segments with
  | case1 done => rw [List.append_nil]
  | case2 done last =>
    obtain ⟨single, double⟩ := named last List.mem_cons_self
    simp [addSegment, single, double]
  | case3 done segment rest _ double ih => simp [named segment List.mem_cons_self] at double
  | case4 done segment rest _ _ single ih => simp [named segment List.mem_cons_self] at single
  | case5 done segment rest _ _ _ ih =>
    rw [ih fun other member => named other (List.mem_cons_of_mem _ member), List.append_assoc]
    rfl

/-! ### Settled segments -/

/-- Whether a segment is read as it is written. -/
structure IsSettled (segment : List Char) : Prop where
  kept : ∀ c ∈ segment, EscapeSet.path.Keeps c
  whole : ∀ c ∈ segment, isSlash c = false
  named : isDots segment = false

theorem IsSettled.slash_not_mem (settled : IsSettled segment) : '/' ∉ segment :=
  fun slash => absurd (settled.whole '/' slash) (by decide)

/-- Every segment that was read is settled. -/
theorem isSettled_of_mem_parsePath {text : List Char} (member : segment ∈ parsePath text) :
    IsSettled segment where
  kept := forall_mem_parsePath (fun part => ∀ c ∈ part, EscapeSet.path.Keeps c) (by simp)
    (fun _ _ => forall_mem_encodeBytes_of_isWide EscapeSet.isWide_path (by decide) (by decide) _)
    segment member
  whole := isSlash_parsePath member
  named := isDots_resolveDots (by simp) segment member

/-- A written segment is settled unless it is dots. -/
theorem isSettled_writeSegment {segment : String} (single : stripVanishing segment ≠ ".")
    (double : stripVanishing segment ≠ "..") : IsSettled (writeSegment segment) where
  kept := forall_mem_encodeBytes_of_isWide EscapeSet.isWide_segment (by decide) (by decide) _
  whole := forall_mem_encodeBytes_of_isWide EscapeSet.isWide_segment (by decide) (by decide) _
  named := by
    rw [isDots, Bool.or_eq_false_iff, ← Bool.not_eq_true, ← Bool.not_eq_true,
      isSingleDot_writeSegment_iff, isDoubleDot_writeSegment_iff]
    exact ⟨single, double⟩

/-- Nothing in a settled path ends it. -/
theorem takeWhile_pathText {path : List (List Char)}
    (settled : ∀ segment ∈ path, IsSettled segment) :
    (pathText path).takeWhile (fun c => c != '?' && c != '#') = pathText path := by
  rw [List.takeWhile_eq_self_iff]
  intro c member
  obtain ⟨segment, among, written⟩ := List.mem_flatMap.1 member
  rcases List.mem_cons.1 written with rfl | held
  · rfl
  · have kept := (settled segment among).kept c held
    rw [Bool.and_eq_true, bne_iff_ne, bne_iff_ne]
    constructor <;> rintro rfl <;> exact absurd kept (by decide)

/-- A path of settled segments is read as itself. -/
theorem parsePath_pathText {path : List (List Char)} (filled : path ≠ [])
    (settled : ∀ segment ∈ path, IsSettled segment) : parsePath (pathText path) = path := by
  obtain ⟨first, rest, rfl⟩ := List.exists_cons_of_ne_nil filled
  -- The slash in front is dropped, and the others fall between the segments.
  have parts : Text.partsWhere isSlash (first ++ pathText rest) = first :: rest := by
    have behind := partsWhere_pathText isSlash rfl fun segment member =>
      (settled segment member).whole
    rw [pathText_cons, Text.partsWhere, if_pos (by decide)] at behind
    exact (List.cons.inj behind).2
  have same : (first :: rest).map (encodeText .path) = first :: rest := by
    rw [List.map_congr_left fun segment member => encodeText_eq_self (settled segment member).kept,
      List.map_id']
  rw [parsePath, takeWhile_pathText settled, pathText_cons]
  simp only [show isSlash '/' = true from rfl, if_true]
  rw [parts, same, resolveDots_eq_append fun segment member => (settled segment member).named,
    List.nil_append]

end DeviceEnrollment.Url
