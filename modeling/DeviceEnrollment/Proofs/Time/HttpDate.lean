import DeviceEnrollment.Proofs.Digits
import DeviceEnrollment.Time.HttpDate
import Mathlib.Data.List.DropRight

/-!
Dates of headers, and the blanks around them. A date in any of its forms begins with a day of the
week (`isAlpha_of_ofText?`), and what is trimmed does not count (`ofText?_trimWhere`).
-/
namespace DeviceEnrollment

/-! ### Trimming -/

namespace Text

variable {drop : Char → Bool} {text before core after : List Char}

theorem trimWhere_eq (drop : Char → Bool) (text : List Char) :
    trimWhere drop text = (text.dropWhile drop).rdropWhile drop := rfl

theorem exists_trimWhere (drop : Char → Bool) (text : List Char) :
    ∃ before after, text = before ++ trimWhere drop text ++ after ∧
      ∀ c ∈ before ++ after, drop c = true := by
  refine ⟨text.takeWhile drop, (text.dropWhile drop).rtakeWhile drop, ?_, ?_⟩
  · rw [List.append_assoc, trimWhere_eq, List.rdropWhile_append_rtakeWhile,
      List.takeWhile_append_dropWhile]
  · intro c member
    rcases List.mem_append.1 member with front | back
    · exact List.mem_takeWhile_imp front
    · exact List.mem_rtakeWhile_imp back

/-- What stands behind dropped characters is the first thing that is kept. -/
theorem exists_trimWhere_cons {first : Char} (dropped : ∀ c ∈ before, drop c = true)
    (kept : drop first = false) :
    ∃ rest, trimWhere drop (before ++ first :: after) = first :: rest := by
  have front : (before ++ first :: after).dropWhile drop = first :: after :=
    dropWhile_run dropped fun c here => Option.some.inj here ▸ kept
  rw [trimWhere_eq, front]
  cases remains : (first :: after).rdropWhile drop with
  | nil =>
    have all := List.rdropWhile_eq_nil_iff.1 remains first List.mem_cons_self
    rw [kept] at all
    cases all
  | cons head rest =>
    have lies : head :: rest <+: first :: after := remains ▸ List.rdropWhile_prefix drop _
    exact ⟨rest, by rw [(List.cons_prefix_cons.1 lies).1]⟩

theorem trimWhere_append (dropped : ∀ c ∈ before ++ after, drop c = true) (filled : core ≠ [])
    (kept : ∀ c ∈ core, drop c = false) : trimWhere drop (before ++ core ++ after) = core := by
  obtain ⟨front, back⟩ := List.forall_mem_append.1 dropped
  obtain ⟨first, rest, rfl⟩ := List.exists_cons_of_ne_nil filled
  have start : (before ++ (first :: rest ++ after)).dropWhile drop = first :: rest ++ after :=
    dropWhile_run front fun c here => Option.some.inj here ▸ kept first List.mem_cons_self
  have finish : (after.reverse ++ (first :: rest).reverse).dropWhile drop =
      (first :: rest).reverse := by
    refine dropWhile_run (fun c member => back c (List.mem_reverse.1 member)) fun c here => ?_
    exact kept c (List.mem_reverse.1 (List.mem_of_mem_head? here))
  rw [trimWhere, List.append_assoc, start, List.reverse_append, finish, List.reverse_reverse]

theorem trimWhere_trimWhere (drop : Char → Bool) (text : List Char) :
    trimWhere drop (trimWhere drop text) = trimWhere drop text := by
  have front : (trimWhere drop text).dropWhile drop = trimWhere drop text := by
    rw [List.dropWhile_eq_self_iff]
    intro filled dropped
    have lies : trimWhere drop text <+: text.dropWhile drop := List.rdropWhile_prefix drop _
    rw [lies.getElem filled] at dropped
    exact List.dropWhile_get_zero_not drop text (Nat.lt_of_lt_of_le filled lies.length_le) dropped
  rw [trimWhere_eq drop (trimWhere drop text), front, trimWhere_eq, List.rdropWhile_idempotent]

end Text

/-! ### Dates -/

namespace Time.HttpDate

variable {text : List Char} {date : HttpDate}

theorem mem_of_numberOf? {names : List (List Char)} {number : Nat}
    (found : numberOf? names text = some number) : text ∈ names := by
  obtain ⟨index, place, _⟩ := Option.map_eq_some_iff.1 found
  obtain ⟨inside, same, _⟩ := List.findIdx?_eq_some_iff_getElem.1 place
  exact eq_of_beq same ▸ List.getElem_mem inside

theorem take_mem_of_ofFixed? (read : ofFixed? text = some date) : text.take 3 ∈ shortWeekdays := by
  simp only [ofFixed?, Option.bind_eq_bind, Option.bind_eq_some_iff] at read
  obtain ⟨_, _, _, _, _, _, _, _, _, named, _⟩ := read
  exact mem_of_numberOf? named

theorem takeWhile_mem_of_ofLongWeekday? (read : ofLongWeekday? text = some date) :
    text.takeWhile (· ≠ ',') ∈ weekdayNames.map String.toList := by
  simp only [ofLongWeekday?, Option.bind_eq_bind, Option.bind_eq_some_iff] at read
  obtain ⟨_, named, _⟩ := read
  exact mem_of_numberOf? named

theorem take_mem_of_ofTimestamp? (read : ofTimestamp? text = some date) :
    text.take 3 ∈ shortWeekdays := by
  simp only [ofTimestamp?, Option.bind_eq_bind, Option.bind_eq_some_iff] at read
  obtain ⟨_, _, _, _, _, _, _, named, _⟩ := read
  exact mem_of_numberOf? named

/-- In each of its forms a date has a day of the week in front. -/
theorem exists_weekday_of_ofText? (read : ofText? text = some date) :
    ∃ weekday ∈ shortWeekdays ++ weekdayNames.map String.toList,
      weekday <+: Text.trimWhere Text.isBlank text := by
  simp only [ofText?, Option.bind_eq_bind, Option.bind_eq_some_iff, Option.orElse_eq_some] at read
  obtain ⟨_, _, _, fixed | ⟨_, long | ⟨_, stamp⟩⟩, _⟩ := read
  · exact ⟨_, List.mem_append_left _ (take_mem_of_ofFixed? fixed), List.take_prefix _ _⟩
  · exact ⟨_, List.mem_append_right _ (takeWhile_mem_of_ofLongWeekday? long),
      List.takeWhile_prefix _⟩
  · exact ⟨_, List.mem_append_left _ (take_mem_of_ofTimestamp? stamp), List.take_prefix _ _⟩

/-- What begins with no letter is no date. -/
theorem isAlpha_of_ofText? (read : ofText? text = some date) {first : Char} {rest : List Char}
    (trimmed : Text.trimWhere Text.isBlank text = first :: rest) : first.isAlpha = true := by
  have letters : ∀ weekday ∈ shortWeekdays ++ weekdayNames.map String.toList,
      weekday.head?.any Char.isAlpha = true := by decide
  obtain ⟨weekday, named, lies⟩ := exists_weekday_of_ofText? read
  have letter := letters weekday named
  cases weekday with
  | nil => cases letter
  | cons head tail =>
    rw [trimmed, List.cons_prefix_cons] at lies
    exact lies.1 ▸ letter

/-- Blanks around a date do not count. -/
theorem ofText?_trimWhere (ascii : ∀ c ∈ text, c.toNat < 0x80) :
    ofText? (Text.trimWhere Text.isBlank text) = ofText? text := by
  obtain ⟨before, after, whole, _⟩ := Text.exists_trimWhere Text.isBlank text
  have whole' : text.all (fun c => decide (c.toNat < 0x80)) = true := by simpa using ascii
  have part : (Text.trimWhere Text.isBlank text).all (fun c => decide (c.toNat < 0x80)) = true := by
    rw [whole, List.all_append, List.all_append, Bool.and_eq_true, Bool.and_eq_true] at whole'
    exact whole'.1.2
  rw [ofText?, ofText?, part, whole', Text.trimWhere_trimWhere]

end Time.HttpDate

end DeviceEnrollment
