import DeviceEnrollment.Proofs.Digits
import DeviceEnrollment.Proofs.Steps
import DeviceEnrollment.Time.Instant

/-!
Instants as text. What is written of an instant, whatever its year, its fraction of a second and
whether it is a leap second, is read as this instant (`Instant.parse_text`).
-/
namespace DeviceEnrollment.Time

namespace Date

variable (date : Date)

theorem month_mem : 1 ≤ date.month ∧ date.month ≤ 12 := by
  have days : daysInMonth date.year date.month ≠ 0 := by
    have held := date.day_mem
    omega
  constructor
  · refine Nat.pos_of_ne_zero fun none => days ?_
    rw [none]
    rfl
  · by_contra beyond
    apply days
    unfold daysInMonth
    split <;> omega

theorem daysInMonth_le (year : Int) (month : Nat) : daysInMonth year month ≤ 31 := by
  have february : (if isLeapYear year then 29 else 28) ≤ 31 := by split <;> decide
  unfold daysInMonth
  split <;> omega

end Date

namespace Instant

/-! ### Digits -/

theorem isDigit_of_mem_padded {width value : Nat} {c : Char} (member : c ∈ padded width value) :
    c.isDigit = true := by
  rcases List.mem_append.1 member with zero | significant
  · rw [(List.mem_replicate.1 zero).2]
    rfl
  · exact Text.isDigit_of_mem_toDigits significant

theorem decimalValue_padded (width value : Nat) :
    Text.decimalValue (padded width value) = value := by
  rw [padded, Text.decimalValue_replicate_append, Text.decimalValue_toDigits]

theorem length_padded {width value : Nat} (positive : 0 < width) (fits : value < 10 ^ width) :
    (padded width value).length = width := by
  have short := (Nat.length_toDigits_le_iff (by decide : 1 < 10) positive).2 fits
  rw [padded, List.length_append, List.length_replicate]
  omega

theorem padded_ne_nil (width value : Nat) : padded width value ≠ [] := by
  simp [padded, Nat.toDigits_ne_nil]

theorem exists_digit_cons_padded (width value : Nat) :
    ∃ first more, padded width value = first :: more ∧ first.isDigit = true := by
  obtain ⟨first, more, begins⟩ := List.exists_cons_of_ne_nil (padded_ne_nil width value)
  exact ⟨first, more, begins, isDigit_of_mem_padded (begins ▸ List.mem_cons_self)⟩

theorem skipBlanks_cons {first : Char} (plain : Text.isBlank first = false) (rest : List Char) :
    skipBlanks (first :: rest) = first :: rest := by
  rw [skipBlanks, List.dropWhile_cons_of_neg]
  simp [plain]

theorem skipBlanks_padded (width value : Nat) (rest : List Char) :
    skipBlanks (padded width value ++ rest) = padded width value ++ rest := by
  obtain ⟨first, more, begins, digit⟩ := exists_digit_cons_padded width value
  rw [begins, List.cons_append, skipBlanks_cons (Text.isBlank_of_isDigit digit)]

/-- A number is read up to the limit, or up to what is no digit. -/
theorem scanNumber_padded {width limit value : Nat} {rest : List Char}
    (bounded : value < Number.twoTo63) (fits : (padded width value).length ≤ limit)
    (ends : ∀ c ∈ (rest.take (limit - (padded width value).length)).head?, c.isDigit = false) :
    scanNumber limit (padded width value ++ rest) = .ok (value, rest) := by
  have taken : ((padded width value ++ rest).take limit).takeWhile Char.isDigit =
      padded width value := by
    rw [List.take_append, List.take_of_length_le fits]
    exact Text.takeWhile_run (fun _ => isDigit_of_mem_padded) ends
  have number := decimalValue_padded width value
  obtain ⟨first, more, begins⟩ := List.exists_cons_of_ne_nil (padded_ne_nil width value)
  rw [begins] at taken number ⊢
  rw [scanNumber.eq_def]
  simp only [taken]
  simp [number, bounded]

theorem scanWithin_padded {least greatest value : Nat} (low : least ≤ value)
    (high : value ≤ greatest) (fits : value < 100) (rest : List Char) :
    scanWithin least greatest (padded 2 value ++ rest) = .ok (value, rest) := by
  have width := length_padded (by decide : 0 < 2) fits
  have number : scanNumber 2 (padded 2 value ++ rest) = .ok (value, rest) := by
    apply scanNumber_padded
    · exact Nat.lt_trans fits (by decide)
    · exact Nat.le_of_eq width
    · simp [width]
  rw [scanWithin, skipBlanks_padded, number]
  simp [bind, Except.bind, low, high, pure, Except.pure]

theorem scanMark_cons {mark : Char} (plain : Text.isBlank mark = false) (rest : List Char) :
    scanMark mark (mark :: rest) = .ok ((), rest) := by
  simp [scanMark, skipBlanks_cons plain]

/-! ### Years -/

/-- Without a sign a year has four digits, whatever stands behind them. -/
theorem scanYear_padded {year : Nat} (fits : year < 10 ^ 4) (rest : List Char) :
    scanYear (padded 4 year ++ rest) = .ok ((year : Int), rest) := by
  have width := length_padded (by decide : 0 < 4) fits
  have number : scanNumber 4 (padded 4 year ++ rest) = .ok (year, rest) :=
    scanNumber_padded (Nat.lt_trans fits (by decide)) (Nat.le_of_eq width) (by simp [width])
  obtain ⟨first, more, begins, digit⟩ := exists_digit_cons_padded 4 year
  rw [scanYear.eq_def, skipBlanks_padded]
  -- A digit is no sign.
  split
  · next same =>
    rw [begins] at same
    rw [(List.cons.inj same).1] at digit
    cases digit
  · next same =>
    rw [begins] at same
    rw [(List.cons.inj same).1] at digit
    cases digit
  · rw [number]
    rfl

section Signed

variable {year : Nat} {rest : List Char} (bounded : year < Number.twoTo63)
  (ends : ∀ c ∈ rest.head?, c.isDigit = false)
include bounded ends

/-- Behind a sign a year may have any number of digits. -/
theorem scanNumber_behindSign :
    scanNumber (padded 4 year ++ rest).length (padded 4 year ++ rest) = .ok (year, rest) := by
  apply scanNumber_padded bounded
  · simp
  · simpa using ends

theorem scanYear_minus :
    scanYear ('-' :: padded 4 year ++ rest) = .ok (-(year : Int), rest) := by
  rw [scanYear.eq_def, List.cons_append, skipBlanks_cons rfl]
  simp only [scanNumber_behindSign bounded ends]
  rfl

theorem scanYear_plus : scanYear ('+' :: padded 4 year ++ rest) = .ok ((year : Int), rest) := by
  rw [scanYear.eq_def, List.cons_append, skipBlanks_cons rfl]
  simp only [scanNumber_behindSign bounded ends]
  rfl

end Signed

theorem scanYear_text {year : Int} (least : firstYear ≤ year) (greatest : year ≤ lastYear)
    {rest : List Char} (ends : ∀ c ∈ rest.head?, c.isDigit = false) :
    scanYear (yearText year ++ rest) = .ok (year, rest) := by
  rw [firstYear] at least
  rw [lastYear] at greatest
  have bounded : year.natAbs < Number.twoTo63 := by
    rw [Number.twoTo63]
    omega
  unfold yearText
  split
  · next plain =>
    simp only [Bool.and_eq_true, decide_eq_true_eq] at plain
    have value : (year.toNat : Int) = year := by omega
    rw [scanYear_padded (by omega), value]
  · split
    · next negative =>
      have value : -(year.natAbs : Int) = year := by omega
      rw [scanYear_minus bounded ends, value]
    · next positive =>
      have value : (year.natAbs : Int) = year := by omega
      rw [scanYear_plus bounded ends, value]

/-! ### Fractions -/

theorem scanFraction_padded {width value nano : Nat} {rest : List Char} (positive : 0 < width)
    (small : width ≤ 9) (fits : value < 10 ^ width) (whole : value * 10 ^ (9 - width) = nano)
    (ends : ∀ c ∈ rest.head?, c.isDigit = false ∧ c ≠ '.') :
    scanFraction ('.' :: padded width value ++ rest) = .ok (nano, rest) := by
  have inside : ∀ c ∈ padded width value, c.isDigit = true := fun _ => isDigit_of_mem_padded
  have length := length_padded positive fits
  have nanos : fractionNanos (padded width value) = nano := by
    rw [fractionNanos, List.take_of_length_le (by omega), decimalValue_padded, length, ← whole]
    rfl
  have taken := Text.takeWhile_run inside fun c member => (ends c member).1
  have dropped := Text.dropWhile_run inside fun c member => (ends c member).1
  obtain ⟨first, more, begins⟩ := List.exists_cons_of_ne_nil (padded_ne_nil width value)
  rw [begins] at taken dropped nanos ⊢
  rw [scanFraction.eq_def]
  simp only [List.cons_append] at taken dropped ⊢
  simp only [taken, dropped, nanos]

theorem scanFraction_text {nano : Nat} (bounded : nano < nanosPerSecond) {rest : List Char}
    (ends : ∀ c ∈ rest.head?, c.isDigit = false ∧ c ≠ '.') :
    scanFraction (nanoText nano ++ rest) = .ok (nano, rest) := by
  rw [nanosPerSecond] at bounded
  unfold nanoText
  split
  · next none =>
    rw [none, List.nil_append]
    cases rest with
    | nil => rfl
    | cons c rest =>
      have other := (ends c rfl).2
      rw [scanFraction.eq_def]
      split
      · next same => exact absurd (List.cons.inj same).1 other
      · next same => exact absurd (List.cons.inj same).1 other
      · rfl
  · split
    · next whole =>
      exact scanFraction_padded (by decide) (by decide) (by omega) (by omega) ends
    · split
      · next whole =>
        exact scanFraction_padded (by decide) (by decide) (by omega) (by omega) ends
      · exact scanFraction_padded (by decide) (by decide) (by omega) (by omega) ends

/-! ### Whole instants -/

/-- A leap second is written as the second after the last one of its minute. -/
def shownSecond (clock : Clock) : Nat × Nat :=
  if nanosPerSecond ≤ clock.nano then (clock.second + 1, clock.nano - nanosPerSecond)
  else (clock.second, clock.nano)

theorem shownSecond_mem (clock : Clock) :
    (shownSecond clock).1 ≤ 60 ∧ (shownSecond clock).2 < nanosPerSecond := by
  have second := clock.second_lt
  have nano := clock.nano_lt
  unfold shownSecond
  split <;> simp only <;> omega

/-- What the text of an instant says. -/
def fields (instant : Instant) : Fields :=
  { year := instant.date.year
    month := instant.date.month
    day := instant.date.day
    hour := instant.clock.minute / 60
    minute := instant.clock.minute % 60
    second := (shownSecond instant.clock).1
    nano := (shownSecond instant.clock).2
    offset := 0 }

theorem scanFields_render (instant : Instant) :
    scanFields instant.render = .ok (instant.fields, []) := by
  obtain ⟨date, clock⟩ := instant
  have dayBound := Nat.le_trans date.day_mem.2 (Date.daysInMonth_le _ _)
  have minuteBound := clock.minute_lt
  have secondBound := shownSecond_mem clock
  have rendered : render ⟨date, clock⟩ = yearText date.year ++ '-' :: (padded 2 date.month ++
      '-' :: (padded 2 date.day ++ 'T' :: (padded 2 (clock.minute / 60) ++
      ':' :: (padded 2 (clock.minute % 60) ++ ':' :: (padded 2 (shownSecond clock).1 ++
      (nanoText (shownSecond clock).2 ++ ['Z'])))))) := by
    simp [render, shownSecond]
  have year (rest : List Char) :
      scanYear (yearText date.year ++ '-' :: rest) = .ok (date.year, '-' :: rest) :=
    scanYear_text date.year_mem.1 date.year_mem.2 (by rintro c ⟨⟩; rfl)
  have inRange : (date.year < -(Number.twoTo31 : Int) || (Number.twoTo31 : Int) ≤ date.year) =
      false := by
    have held := date.year_mem
    simp only [firstYear, lastYear] at held
    simp only [Bool.or_eq_false_iff, decide_eq_false_iff_not]
    simp only [Number.twoTo31]
    omega
  have month := scanWithin_padded date.month_mem.1 date.month_mem.2
    (Nat.lt_of_le_of_lt date.month_mem.2 (by decide))
  have day := scanWithin_padded date.day_mem.1 dayBound (by omega)
  have hour := scanWithin_padded (Nat.zero_le (clock.minute / 60))
    (show clock.minute / 60 ≤ 23 by omega) (by omega)
  have minute := scanWithin_padded (Nat.zero_le (clock.minute % 60))
    (show clock.minute % 60 ≤ 59 by omega) (by omega)
  have second := scanWithin_padded (Nat.zero_le (shownSecond clock).1) secondBound.1 (by omega)
  have fraction : scanFraction (nanoText (shownSecond clock).2 ++ ['Z']) =
      .ok ((shownSecond clock).2, ['Z']) := by
    apply scanFraction_text secondBound.2
    rintro c ⟨⟩
    exact ⟨rfl, by decide⟩
  have separator (rest : List Char) : scanSeparator ('T' :: rest) = .ok ((), rest) := rfl
  have offset : scanOffset ['Z'] = .ok (0, []) := by decide
  have dash := fun rest => scanMark_cons (show Text.isBlank '-' = false from rfl) rest
  have colon := fun rest => scanMark_cons (show Text.isBlank ':' = false from rfl) rest
  -- Each scanner stops where the next one begins.
  rw [rendered, scanFields]
  simp only [year, month, day, hour, minute, second, fraction, separator, offset, dash, colon,
    inRange, ok_bind]
  rfl

theorem ofLocal?_universal (date : Date) (clock : Clock) :
    ofLocal? date clock 0 = some ⟨date, clock⟩ := by
  have minute := clock.minute_lt
  have same : (((clock.minute : Int) - 0) % 1440).toNat = clock.minute := by omega
  have early : ¬(clock.minute : Int) - 0 < 0 := by omega
  have late : ¬1440 ≤ (clock.minute : Int) - 0 := by omega
  simp only [ofLocal?, same, if_neg early, if_neg late, dif_pos minute]
  rfl

theorem resolve_fields (instant : Instant) : instant.fields.resolve = .ok instant := by
  obtain ⟨date, clock⟩ := instant
  have minute : clock.minute / 60 * 60 + clock.minute % 60 = clock.minute := by omega
  have shown : (if (shownSecond clock).1 = 60
      then (59, (shownSecond clock).2 + nanosPerSecond)
      else ((shownSecond clock).1, (shownSecond clock).2)) =
      (clock.second, clock.nano) := by
    -- A leap second is shown as second 60, which is read as 59 and a second more of nanoseconds.
    by_cases leap : nanosPerSecond ≤ clock.nano
    · have last := clock.leap leap
      have restored : clock.nano - nanosPerSecond + nanosPerSecond = clock.nano := by omega
      simp [shownSecond, leap, last, restored]
    · have plain := Nat.ne_of_lt clock.second_lt
      simp [shownSecond, leap, plain]
  have offset : ¬(0 : Int).natAbs ≥ 1440 := by decide
  rw [fields, Fields.resolve]
  simp only
  rw [shown]
  simp only [minute, Date.of?_self, Clock.of?_self, if_neg offset, ofLocal?_universal]

/-- An instant that is written is read as it was. -/
theorem parse_text (instant : Instant) : parse instant.text = .ok instant := by
  rw [parse, text, String.toList_ofList, scanFields_render]
  exact resolve_fields instant

end Instant

end DeviceEnrollment.Time
