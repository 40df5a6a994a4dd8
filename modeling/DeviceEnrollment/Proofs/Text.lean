import DeviceEnrollment.Bytes
import DeviceEnrollment.Text.Parts

/-!
Texts and their bytes: a text is known by its bytes, and a byte of ASCII in it is one of its
characters. `cutAt?_append`, `partsWhere_append` and `not_mark_of_mem_partsWhere` say how a text falls
into parts.
-/
namespace DeviceEnrollment.Bytes

theorem ofText_inj {first second : String} : ofText first = ofText second ↔ first = second := by
  refine ⟨fun same => ?_, fun same => same ▸ rfl⟩
  have texts := congrArg toText? same
  rw [toText?_ofText, toText?_ofText] at texts
  exact Option.some.inj texts

theorem ofText_ne_nil_iff {text : String} : ofText text ≠ [] ↔ text.isEmpty = false := by
  rw [← Bool.not_eq_true, String.isEmpty_iff, ← ofText_inj]
  rfl

/-- A text that bytes read as has those bytes. -/
theorem ofText_of_toText? {bytes : Bytes} {text : String} (read : toText? bytes = some text) :
    ofText text = bytes := by
  unfold toText? String.fromUTF8? at read
  split at read
  · cases read
    rfl
  · cases read

theorem ofText_ofList (letters : List Char) :
    ofText (String.ofList letters) = letters.flatMap String.utf8EncodeChar := by
  simp [ofText, List.utf8Encode]

/-- A character of ASCII is one byte. -/
theorem utf8EncodeChar_ascii {c : Char} (ascii : c.toNat < 0x80) :
    String.utf8EncodeChar c = [c.toNat.toUInt8] := by
  have small : c.val ≤ 127 := by
    rw [UInt32.le_iff_toNat_le]
    exact Nat.le_of_lt_succ ascii
  rw [String.utf8EncodeChar_eq_singleton (Char.utf8Size_eq_one_iff.2 small)]
  rfl

theorem ofText_ascii {letters : List Char} (ascii : ∀ c ∈ letters, c.toNat < 0x80) :
    ofText (String.ofList letters) = letters.map fun c => c.toNat.toUInt8 := by
  rw [ofText_ofList]
  induction letters with
  | nil => rfl
  | cons c rest ih =>
    rw [List.flatMap_cons, utf8EncodeChar_ascii (ascii c List.mem_cons_self),
      ih fun other member => ascii other (List.mem_cons_of_mem _ member)]
    rfl

/-- Bytes of ASCII are those of a text. -/
theorem exists_toText?_of_ascii {bytes : Bytes} (ascii : ∀ byte ∈ bytes, byte.toNat < 0x80) :
    ∃ text, toText? bytes = some text := by
  have point : ∀ point < 0x80, (Char.ofNat point).toNat = point := by decide
  have letters : ∀ c ∈ bytes.map fun byte => Char.ofNat byte.toNat, c.toNat < 0x80 := by
    intro c member
    obtain ⟨byte, among, rfl⟩ := List.mem_map.1 member
    rw [point _ (ascii byte among)]
    exact ascii byte among
  have same : ∀ byte ∈ bytes, (Char.ofNat byte.toNat).toNat.toUInt8 = byte := by
    intro byte member
    rw [point _ (ascii byte member)]
    exact UInt8.ofNat_toNat
  have written := calc
    ofText (String.ofList (bytes.map fun byte => Char.ofNat byte.toNat))
    _ = (bytes.map fun byte => Char.ofNat byte.toNat).map fun c => c.toNat.toUInt8 :=
      ofText_ascii letters
    _ = bytes.map id := by
      rw [List.map_map]
      exact List.map_congr_left same
    _ = bytes := List.map_id _
  exact ⟨_, written ▸ toText?_ofText _⟩

/-- The bytes of a character beyond ASCII are beyond ASCII. -/
theorem eq_of_mem_utf8EncodeChar {c : Char} {byte : UInt8}
    (member : byte ∈ String.utf8EncodeChar c) (ascii : byte.toNat < 0x80) :
    c.toNat = byte.toNat := by
  have point : c.toNat = c.val.toNat := rfl
  simp only [String.utf8EncodeChar] at member
  split at member
  · simp only [List.mem_singleton] at member
    subst member
    simp only [UInt8.toNat_ofNat'] at ascii ⊢
    omega
  · exfalso
    split at member
    · simp only [List.mem_cons, List.not_mem_nil, or_false] at member
      rcases member with same | same <;>
        simp only [same, UInt8.toNat_ofNat'] at ascii <;> omega
    · split at member
      · simp only [List.mem_cons, List.not_mem_nil, or_false] at member
        rcases member with same | same | same <;>
          simp only [same, UInt8.toNat_ofNat'] at ascii <;> omega
      · simp only [List.mem_cons, List.not_mem_nil, or_false] at member
        rcases member with same | same | same | same <;>
          simp only [same, UInt8.toNat_ofNat'] at ascii <;> omega

/-- A byte of ASCII in a text is one of its characters. -/
theorem mem_of_mem_ofText {letters : List Char} {byte : UInt8}
    (member : byte ∈ ofText (String.ofList letters)) (ascii : byte.toNat < 0x80) :
    Char.ofNat byte.toNat ∈ letters := by
  rw [ofText_ofList, List.mem_flatMap] at member
  obtain ⟨c, held, part⟩ := member
  rw [← eq_of_mem_utf8EncodeChar part ascii, Char.ofNat_toNat]
  exact held

end DeviceEnrollment.Bytes

namespace DeviceEnrollment.Text

theorem cutAt?_append {mark : Char} {front : List Char} (free : mark ∉ front) (rest : List Char) :
    cutAt? mark (front ++ mark :: rest) = some (front, rest) := by
  have plain : ∀ c ∈ front, (c != mark) = true := fun c member =>
    bne_iff_ne.2 fun same => free (same ▸ member)
  rw [cutAt?, List.dropWhile_append_of_pos plain, List.takeWhile_append_of_pos plain]
  simp

theorem cutAt?_of_not_mem {mark : Char} {text : List Char} (free : mark ∉ text) :
    cutAt? mark text = none := by
  have plain : ∀ c ∈ text, (c != mark) = true := fun c member =>
    bne_iff_ne.2 fun same => free (same ▸ member)
  have rest : text.dropWhile (· != mark) = [] := by
    rw [← List.append_nil text, List.dropWhile_append_of_pos plain]
    rfl
  rw [cutAt?, rest]

theorem partsWhere_append {isMark : Char → Bool} {front rest : List Char}
    (free : ∀ c ∈ front, isMark c = false) {head : List Char} {tail : List (List Char)}
    (parts : partsWhere isMark rest = head :: tail) :
    partsWhere isMark (front ++ rest) = (front ++ head) :: tail := by
  induction front with
  | nil => exact parts
  | cons c front ih =>
    have later := ih fun other member => free other (List.mem_cons_of_mem _ member)
    rw [List.cons_append, partsWhere, if_neg (by simp [free c List.mem_cons_self]), later]
    rfl

theorem not_mark_of_mem_partsWhere {isMark : Char → Bool} {text part : List Char}
    (member : part ∈ partsWhere isMark text) : ∀ c ∈ part, isMark c = false := by
  induction text generalizing part with
  | nil => simp_all [partsWhere]
  | cons first rest ih =>
    rw [partsWhere] at member
    split at member
    · rcases List.mem_cons.1 member with rfl | later
      · simp
      · exact ih later
    · next plain =>
      split at member
      · next none => exact absurd none (partsWhere_ne_nil isMark rest)
      · next head tail parts =>
        rcases List.mem_cons.1 member with rfl | later
        · intro c held
          rcases List.mem_cons.1 held with rfl | inner
          · simpa using plain
          · exact ih (parts ▸ List.mem_cons_self) c inner
        · exact ih (parts ▸ List.mem_cons_of_mem _ later)

end DeviceEnrollment.Text
