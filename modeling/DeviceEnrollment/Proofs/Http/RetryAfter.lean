import DeviceEnrollment.Http.RetryAfter
import DeviceEnrollment.Proofs.Http.Header
import DeviceEnrollment.Proofs.Time.HttpDate

/-!
What a `Retry-After` header is taken for. A count of seconds is digits between blanks, and a plus
sign in front of the digits is let through as well; everything else has to be a date
(`retry_after_exact`). A date begins with a day of the week, so that no number is one.
-/
namespace DeviceEnrollment.Http

/-! ### Counts -/

/-- Whether digits write a number below `2 ^ 64`. -/
structure WritesCount (digits : List Char) (count : Nat) : Prop where
  filled : digits ≠ []
  decimal : ∀ c ∈ digits, c.isDigit = true
  value : Nat.ofDigitChars 10 digits 0 = count
  small : count < 2 ^ 64

theorem writesCount_iff {digits : List Char} {count : Nat} :
    WritesCount digits count ↔
      (if !digits.isEmpty && digits.all Char.isDigit &&
        Text.decimalValue digits < Number.twoTo64 then some (Text.decimalValue digits)
      else none) = some count := by
  rw [Option.ite_none_right_eq_some, Text.decimalValue_eq_ofDigitChars]
  simp only [Bool.and_eq_true, Bool.not_eq_true', List.isEmpty_eq_false_iff, List.all_eq_true,
    decide_eq_true_eq, Option.some.injEq]
  constructor
  · rintro ⟨filled, decimal, rfl, small⟩
    exact ⟨⟨⟨filled, decimal⟩, small⟩, rfl⟩
  · rintro ⟨⟨⟨filled, decimal⟩, small⟩, rfl⟩
    exact ⟨filled, decimal, rfl, small⟩

/-- A number is read with a plus sign or without one. -/
theorem wholeNumber?_eq_some_iff {text : List Char} {count : Nat} :
    wholeNumber? text = some count ↔ ∃ sign digits, (sign = [] ∨ sign = ['+']) ∧
      text = sign ++ digits ∧ WritesCount digits count := by
  constructor
  · intro read
    unfold wholeNumber? at read
    split at read
    · next rest => exact ⟨['+'], rest, .inr rfl, rfl, writesCount_iff.2 read⟩
    · exact ⟨[], _, .inl rfl, rfl, writesCount_iff.2 read⟩
  · rintro ⟨sign, digits, rfl | rfl, rfl, writes⟩
    · unfold wholeNumber?
      split
      · exact absurd (writes.decimal '+' List.mem_cons_self) (by decide)
      · exact writesCount_iff.1 writes
    · exact writesCount_iff.1 writes

/-- Whether a text is a count of seconds behind a sign, with nothing around it but blanks. -/
def IsCount (sign : List Char) (text : String) (count : Nat) : Prop :=
  ∃ before digits after, text.toList = before ++ (sign ++ digits) ++ after ∧
    (∀ c ∈ before ++ after, c = ' ' ∨ c = '\t') ∧ WritesCount digits count

/-- Whether a text begins, behind blanks, as numbers do: with a digit, a sign or a point. -/
def IsNumeric (text : String) : Prop :=
  ∃ before first after, text.toList = before ++ first :: after ∧
    (∀ c ∈ before, c = ' ' ∨ c = '\t') ∧ first ∈ "+-.0123456789".toList

/-! ### Texts of header values -/

theorem isBlank_of_spaceOrTab {c : Char} (blank : c = ' ' ∨ c = '\t') : Text.isBlank c = true := by
  rcases blank with rfl | rfl <;> rfl

/-- A count is what remains of its text when the blanks are gone. -/
theorem IsCount.trimWhere {sign : List Char} {text : String} {count : Nat}
    (signed : sign = [] ∨ sign = ['+']) (counted : IsCount sign text count) :
    ∃ digits, Text.trimWhere Text.isBlank text.toList = sign ++ digits ∧
      WritesCount digits count := by
  obtain ⟨before, digits, after, whole, blanks, writes⟩ := counted
  refine ⟨digits, ?_, writes⟩
  rw [whole]
  apply Text.trimWhere_append
  · exact fun c member => isBlank_of_spaceOrTab (blanks c member)
  · exact fun nothing => writes.filled (List.append_eq_nil_iff.1 nothing).2
  · intro c member
    rcases List.mem_append.1 member with mark | digit
    · rcases signed with rfl | rfl
      · cases mark
      · rw [List.mem_singleton.1 mark]
        rfl
    · exact Text.isBlank_of_isDigit (writes.decimal c digit)

/-- What counts with a plus sign does not count without one. -/
theorem IsCount.not_unsigned {text : String} {count other : Nat}
    (signed : IsCount ['+'] text count) : ¬IsCount [] text other := by
  intro unsigned
  obtain ⟨digits, trimmed, _⟩ := signed.trimWhere (.inr rfl)
  obtain ⟨others, same, writes⟩ := unsigned.trimWhere (.inl rfl)
  have plus : others = '+' :: digits := same.symm.trans trimmed
  exact absurd (writes.decimal '+' (plus ▸ List.mem_cons_self)) (by decide)

namespace HeaderValue

/-- The characters of a value that reads as text. -/
theorem bounds_of_toText? {value : HeaderValue} {text : String} (read : value.toText? = some text)
    {c : Char} (member : c ∈ text.toList) : c.toNat = 9 ∨ 32 ≤ c.toNat ∧ c.toNat ≤ 126 := by
  obtain ⟨same, printed⟩ := of_toText? read
  obtain ⟨byte, part⟩ : ∃ byte, byte ∈ String.utf8EncodeChar c := by
    refine List.exists_mem_of_length_pos ?_
    rw [String.length_utf8EncodeChar]
    exact c.utf8Size_pos
  have held : byte ∈ value.bytes := by
    rw [← same, ← String.ofList_toList (s := text), Bytes.ofText_ofList]
    exact List.mem_flatMap.2 ⟨c, member, part⟩
  have bounds := isTextByte_iff.1 (List.all_eq_true.1 printed byte held)
  rw [Bytes.eq_of_mem_utf8EncodeChar part (by omega)]
  exact bounds

theorem spaceOrTab_of_isBlank {value : HeaderValue} {text : String}
    (read : value.toText? = some text) {c : Char} (member : c ∈ text.toList)
    (blank : Text.isBlank c = true) : c = ' ' ∨ c = '\t' := by
  have bounds := bounds_of_toText? read member
  have all : ∀ point < 0x7F, point = 9 ∨ 32 ≤ point → Text.isBlank (Char.ofNat point) = true →
      Char.ofNat point = ' ' ∨ Char.ofNat point = '\t' := by decide
  rw [← Char.ofNat_toNat c] at blank ⊢
  exact all c.toNat (by omega) (by omega) blank

theorem wholeNumber?_trimWhere_iff {value : HeaderValue} {text : String} {count : Nat}
    (read : value.toText? = some text) :
    wholeNumber? (Text.trimWhere Text.isBlank text.toList) = some count ↔
      IsCount [] text count ∨ IsCount ['+'] text count := by
  constructor
  · intro found
    obtain ⟨sign, digits, signed, trimmed, writes⟩ := wholeNumber?_eq_some_iff.1 found
    obtain ⟨before, after, whole, dropped⟩ := Text.exists_trimWhere Text.isBlank text.toList
    have counted : IsCount sign text count := by
      refine ⟨before, digits, after, trimmed ▸ whole, fun c member => ?_, writes⟩
      refine spaceOrTab_of_isBlank read ?_ (dropped c member)
      rw [whole]
      simp only [List.mem_append] at member ⊢
      exact member.imp_left .inl
    rcases signed with rfl | rfl
    · exact .inl counted
    · exact .inr counted
  · intro counted
    obtain ⟨sign, signed, counted⟩ : ∃ sign, (sign = [] ∨ sign = ['+']) ∧ IsCount sign text count :=
      counted.elim (fun counted => ⟨_, .inl rfl, counted⟩) (fun counted => ⟨_, .inr rfl, counted⟩)
    obtain ⟨digits, trimmed, writes⟩ := counted.trimWhere signed
    exact wholeNumber?_eq_some_iff.2 ⟨sign, digits, signed, trimmed, writes⟩

end HeaderValue

/-! ### Hints -/

/-- A text that begins like a number is no date. -/
theorem IsNumeric.ofText?_eq_none {text : String} (numeric : IsNumeric text) :
    Time.HttpDate.ofText? text.toList = none := by
  obtain ⟨before, first, after, whole, blanks, begins⟩ := numeric
  have marks : ∀ c ∈ "+-.0123456789".toList, (!Text.isBlank c && !c.isAlpha) = true :=
    List.all_eq_true.1 (by decide)
  obtain ⟨kept, letterless⟩ : Text.isBlank first = false ∧ first.isAlpha = false := by
    simpa using marks first begins
  obtain ⟨rest, trimmed⟩ : ∃ rest, Text.trimWhere Text.isBlank (before ++ first :: after) =
      first :: rest :=
    Text.exists_trimWhere_cons (fun c member => isBlank_of_spaceOrTab (blanks c member)) kept
  cases read : Time.HttpDate.ofText? text.toList with
  | none => rfl
  | some date =>
    have letter := Time.HttpDate.isAlpha_of_ofText? read (whole ▸ trimmed)
    rw [letterless] at letter
    cases letter

theorem IsCount.isNumeric {text : String} {count : Nat}
    (counted : IsCount [] text count ∨ IsCount ['+'] text count) : IsNumeric text := by
  have digits : ∀ point < 0x3A, 0x30 ≤ point → Char.ofNat point ∈ "+-.0123456789".toList := by
    decide
  rcases counted with ⟨before, figures, after, whole, blanks, writes⟩ |
    ⟨before, figures, after, whole, blanks, _⟩
  · obtain ⟨first, rest, rfl⟩ := List.exists_cons_of_ne_nil writes.filled
    have bounds := Text.isDigit_iff.1 (writes.decimal first List.mem_cons_self)
    refine ⟨before, first, rest ++ after, by simpa using whole,
      fun c member => blanks c (List.mem_append_left _ member), ?_⟩
    rw [← Char.ofNat_toNat first]
    exact digits first.toNat (by omega) bounds.1
  · exact ⟨before, '+', figures ++ after, by simpa using whole,
      fun c member => blanks c (List.mem_append_left _ member), by decide⟩

namespace RetryHint

theorem ofText?_eq_seconds_iff {value : HeaderValue} {text : String} {count : Nat}
    (read : value.toText? = some text) :
    ofText? text = some (.seconds count) ↔ IsCount [] text count ∨ IsCount ['+'] text count := by
  rw [← HeaderValue.wholeNumber?_trimWhere_iff read, ofText?]
  cases wholeNumber? (Text.trimWhere Text.isBlank text.toList) with
  | some found => simp
  | none => simp

theorem ofText?_eq_untilDate_iff {value : HeaderValue} {text : String} {date : Time.HttpDate}
    (read : value.toText? = some text) :
    ofText? text = some (.untilDate date) ↔ Time.HttpDate.ofText? text.toList = some date := by
  have ascii : ∀ c ∈ text.toList, c.toNat < 0x80 := by
    intro c member
    have bounds := HeaderValue.bounds_of_toText? read member
    omega
  rw [ofText?]
  cases counted : wholeNumber? (Text.trimWhere Text.isBlank text.toList) with
  | some count =>
    -- A number is looked for before a date, which loses no date.
    have numeric := IsCount.isNumeric ((HeaderValue.wholeNumber?_trimWhere_iff read).1 counted)
    simp [numeric.ofText?_eq_none]
  | none => simp [Time.HttpDate.ofText?_trimWhere ascii]

theorem ofHeaders?_eq_some_iff {headers : HeaderMap} {hint : RetryHint} :
    ofHeaders? headers = some hint ↔
      ∃ text, headers.text? .retryAfter = some text ∧ ofText? text = some hint :=
  Option.bind_eq_some_iff

theorem ofHeaders?_eq_seconds_iff {headers : HeaderMap} {count : Nat} :
    ofHeaders? headers = some (.seconds count) ↔
      ∃ text, headers.text? .retryAfter = some text ∧
        (IsCount [] text count ∨ IsCount ['+'] text count) := by
  rw [ofHeaders?_eq_some_iff]
  refine exists_congr fun text => and_congr_right fun found => ?_
  obtain ⟨value, _, read⟩ := Option.bind_eq_some_iff.1 found
  exact ofText?_eq_seconds_iff read

theorem ofHeaders?_eq_untilDate_iff {headers : HeaderMap} {date : Time.HttpDate} :
    ofHeaders? headers = some (.untilDate date) ↔
      ∃ text, headers.text? .retryAfter = some text ∧
        Time.HttpDate.ofText? text.toList = some date := by
  rw [ofHeaders?_eq_some_iff]
  refine exists_congr fun text => and_congr_right fun found => ?_
  obtain ⟨value, _, read⟩ := Option.bind_eq_some_iff.1 found
  exact ofText?_eq_untilDate_iff read

theorem delay?_untilDate_eq_some_iff {date : Time.HttpDate} {now : Nat} {delay : Time.Duration} :
    (untilDate date).delay? now = some delay ↔
      delay.nanos + now = (Time.Duration.ofSeconds date.epochSeconds).nanos := by
  obtain ⟨nanos⟩ := delay
  simp only [delay?, Option.ite_none_right_eq_some, Option.some.injEq, Time.Duration.mk.injEq]
  omega

/-- A header is taken for a number of seconds exactly if its first value is digits between blanks
that write a number below `2 ^ 64`, with or without a plus sign in front of them; so the digits
alone decide unless there is this sign. There is a delay for such a number and for a date that is
not over yet, and for nothing else. A text that begins like a number is never a date, so that no
other number, whether signed, fractional or too great, makes a delay. -/
theorem retry_after_exact (headers : HeaderMap) :
    (∀ count, ofHeaders? headers = some (.seconds count) ↔
      ∃ text, headers.text? .retryAfter = some text ∧
        (IsCount [] text count ∨ IsCount ['+'] text count)) ∧
    ((∀ count, ofHeaders? headers = some (.seconds count) ↔
        ∃ text, headers.text? .retryAfter = some text ∧ IsCount [] text count) ↔
      ∀ text count, headers.text? .retryAfter = some text → ¬IsCount ['+'] text count) ∧
    (∀ now delay, (ofHeaders? headers).bind (·.delay? now) = some delay ↔
      ∃ text, headers.text? .retryAfter = some text ∧
        ((∃ count, (IsCount [] text count ∨ IsCount ['+'] text count) ∧
            delay = .ofSeconds count) ∨
          ∃ date, Time.HttpDate.ofText? text.toList = some date ∧
            delay.nanos + now = (Time.Duration.ofSeconds date.epochSeconds).nanos)) ∧
    ∀ text, headers.text? .retryAfter = some text → IsNumeric text →
      Time.HttpDate.ofText? text.toList = none := by
  refine ⟨fun _ => ofHeaders?_eq_seconds_iff, ⟨?_, ?_⟩, ?_, fun _ _ => IsNumeric.ofText?_eq_none⟩
  · intro unsigned text count found signed
    obtain ⟨other, same, counted⟩ :=
      (unsigned count).1 (ofHeaders?_eq_seconds_iff.2 ⟨text, found, .inr signed⟩)
    cases Option.some.inj (found.symm.trans same)
    exact signed.not_unsigned counted
  · intro unsigned count
    rw [ofHeaders?_eq_seconds_iff]
    refine exists_congr fun text => and_congr_right fun found => ?_
    exact or_iff_left (unsigned text count found)
  · intro now delay
    rw [Option.bind_eq_some_iff]
    constructor
    · rintro ⟨hint, hinted, delayed⟩
      cases hint with
      | seconds count =>
        obtain ⟨text, found, counted⟩ := ofHeaders?_eq_seconds_iff.1 hinted
        exact ⟨text, found, .inl ⟨count, counted, (Option.some.inj delayed).symm⟩⟩
      | untilDate date =>
        obtain ⟨text, found, read⟩ := ofHeaders?_eq_untilDate_iff.1 hinted
        exact ⟨text, found, .inr ⟨date, read, delay?_untilDate_eq_some_iff.1 delayed⟩⟩
    · rintro ⟨text, found, ⟨count, counted, rfl⟩ | ⟨date, read, delayed⟩⟩
      · exact ⟨.seconds count, ofHeaders?_eq_seconds_iff.2 ⟨text, found, counted⟩, rfl⟩
      · exact ⟨.untilDate date, ofHeaders?_eq_untilDate_iff.2 ⟨text, found, read⟩,
          delay?_untilDate_eq_some_iff.2 delayed⟩

/-- Headers that ask for patience. -/
def waiting (text : String) : HeaderMap := .append .empty .retryAfter (.ofVisible text)

/-- Blanks and leading zeros do not matter to a count, there are five seconds left until a date, and
a fraction is neither. -/
theorem retry_after_exact_patient :
    (ofHeaders? (waiting " 007\t")).bind (·.delay? 0) = some (.ofSeconds 7) ∧
      (ofHeaders? (waiting "Sun, 06 Nov 1994 08:49:37 GMT")).bind
        (·.delay? (Time.Duration.ofSeconds 784111772).nanos) = some (.ofSeconds 5) ∧
      Time.HttpDate.ofText? "1.5".toList = none := by
  have seven : IsCount [] " 007\t" 7 :=
    ⟨[' '], ['0', '0', '7'], ['\t'], rfl, by simp, by simp, by simp, rfl, by decide⟩
  have sunday : Time.HttpDate.ofText? "Sun, 06 Nov 1994 08:49:37 GMT".toList =
      some ⟨1994, 11, 6, 8, 49, 37, 7⟩ := by rfl
  have numeric : IsNumeric "1.5" := ⟨[], '1', ['.', '5'], rfl, by simp, by decide⟩
  obtain ⟨_, _, counts, _⟩ := retry_after_exact (waiting " 007\t")
  obtain ⟨_, _, dates, _⟩ := retry_after_exact (waiting "Sun, 06 Nov 1994 08:49:37 GMT")
  obtain ⟨_, _, _, dateless⟩ := retry_after_exact (waiting "1.5")
  exact ⟨(counts _ _).2 ⟨_, rfl, .inl ⟨7, .inl seven, rfl⟩⟩,
    (dates _ _).2 ⟨_, rfl, .inr ⟨_, sunday, rfl⟩⟩, dateless _ rfl numeric⟩

/-- A plus sign in front of the digits is let through, which no count of seconds has. -/
theorem retry_after_signed :
    ofHeaders? (waiting "+120") = some (.seconds 120) ∧
      ¬∃ text, (waiting "+120").text? .retryAfter = some text ∧ IsCount [] text 120 := by
  have signed : IsCount ['+'] "+120" 120 :=
    ⟨[], ['1', '2', '0'], [], rfl, by simp, by simp, by simp, rfl, by decide⟩
  refine ⟨rfl, ?_⟩
  rintro ⟨text, found, counted⟩
  cases Option.some.inj (found.symm.trans (rfl : _ = some "+120"))
  exact signed.not_unsigned counted

end RetryHint

end DeviceEnrollment.Http
