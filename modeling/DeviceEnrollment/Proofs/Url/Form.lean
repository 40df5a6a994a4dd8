import DeviceEnrollment.Proofs.Url.Escaping

/-!
Queries as forms. A pair that is written reads back as the one pair of its query, whatever name and
value hold (`formPairs_formPair`).
-/
namespace DeviceEnrollment.Url

/-- The name and the value of a pair. Without an equals sign there is no value. -/
def readPair (pair : List Char) : Bytes × Bytes :=
  let (name, value) := (Text.cutAt? '=' pair).getD (pair, [])
  (formDecode (Bytes.ofText (String.ofList name)), formDecode (Bytes.ofText (String.ofList value)))

/-- The pairs of a query, ampersands being between them. -/
def formPairs (query : List Char) : List (Bytes × Bytes) :=
  ((Text.partsAt '&' query).filter (!·.isEmpty)).map readPair

/-! ### The characters of a form -/

/-- The characters that names and values are written in. -/
def isFormChar (c : Char) : Bool :=
  c.toNat < 0x80 && !(['&', '=', '#', '?'].contains c)

/-- A byte that stands for itself is a character of a form, and means nothing else there. -/
theorem of_isFormByte {byte : UInt8} (kept : isFormByte byte = true) :
    byte.toNat < 0x80 ∧ isFormChar (Char.ofNat byte.toNat) = true ∧ byte ≠ 0x2B ∧ byte ≠ 0x25 := by
  have small : byte.toNat < 0x80 := by
    simp only [isFormByte, Bool.or_eq_true, Bool.and_eq_true, decide_eq_true_eq, beq_iff_eq,
      UInt8.le_iff_toNat_le, ← UInt8.toNat_inj] at kept
    simp at kept
    omega
  have points : ∀ point < 0x80, isFormByte point.toUInt8 = true →
      isFormChar (Char.ofNat point) = true ∧ point.toUInt8 ≠ 0x2B ∧ point.toUInt8 ≠ 0x25 := by
    decide
  have whole : byte.toNat.toUInt8 = byte := UInt8.ofNat_toNat
  have plain := points byte.toNat small (by rwa [whole])
  rw [whole] at plain
  exact ⟨small, plain⟩

/-- What a plus sign and escapes satisfy, and all bytes that stand for themselves, holds of every
character that is written. -/
theorem forall_mem_formEncode {holds : Char → Prop} [DecidablePred holds]
    (escapes : "+%0123456789ABCDEF".toList.all (decide <| holds ·) = true)
    (kept : ∀ point < 0x80, isFormByte point.toUInt8 = true → holds (Char.ofNat point))
    (text : String) : ∀ c ∈ formEncode text, holds c := by
  have escape : ∀ c ∈ "+%0123456789ABCDEF".toList, holds c := by
    simpa only [List.all_eq_true, decide_eq_true_eq] using escapes
  intro c member
  obtain ⟨byte, _, written⟩ := List.mem_flatMap.1 member
  unfold formByte at written
  split at written
  · rw [List.mem_singleton.1 written]
    exact escape _ (by decide)
  · split at written
    · next plain =>
      rw [List.mem_singleton.1 written]
      exact kept byte.toNat (of_isFormByte plain).1
        (by rwa [show byte.toNat.toUInt8 = byte from UInt8.ofNat_toNat])
    · exact escape c (List.mem_cons_of_mem _ (mem_of_mem_escaped written))

theorem isFormChar_formEncode (text : String) : ∀ c ∈ formEncode text, isFormChar c = true :=
  forall_mem_formEncode (by decide) (by decide) text

theorem ne_of_isFormChar {c mark : Char} (plain : isFormChar c = true)
    (marks : isFormChar mark = false) : c ≠ mark := by
  rintro rfl
  rw [plain] at marks
  cases marks

theorem not_mem_formEncode {mark : Char} (marks : isFormChar mark = false) (text : String) :
    mark ∉ formEncode text := fun member =>
  ne_of_isFormChar (isFormChar_formEncode text mark member) marks rfl

theorem not_mem_formPair {mark : Char} (marks : isFormChar mark = false) (other : mark ≠ '=')
    (name value : String) : mark ∉ formPair name value := by
  intro member
  rcases List.mem_append.1 member with named | rest
  · exact not_mem_formEncode marks name named
  · rcases List.mem_cons.1 rest with same | valued
    · exact other same
    · exact not_mem_formEncode marks value valued

/-! ### Reading back -/

theorem formDecode_cons_of_ne {first : UInt8} (plus : first ≠ 0x2B) (percent : first ≠ 0x25)
    (rest : Bytes) : formDecode (first :: rest) = first :: formDecode rest := by
  rw [formDecode, List.map_cons, if_neg (by simpa using plus), decodeBytes_cons_of_ne percent]
  rfl

/-- A byte that is not kept stands as an escape, in which there is no plus sign. -/
theorem formDecode_escaped (byte : UInt8) (rest : Bytes) :
    formDecode ((escaped byte).map (fun c => c.toNat.toUInt8) ++ rest) =
      byte :: formDecode rest := by
  have digit : ∀ value < 16, (upperHex value).toNat.toUInt8 ≠ 0x2B := by decide
  have bound := byte.toNat_lt
  have plain : ((escaped byte).map fun c => c.toNat.toUInt8).map
      (fun letter => if letter == 0x2B then 0x20 else letter) =
        (escaped byte).map fun c => c.toNat.toUInt8 := by
    have high := digit (byte.toNat / 16) (by omega)
    have low := digit (byte.toNat % 16) (by omega)
    simp [escaped, high, low]
  rw [formDecode, List.map_append, plain, decodeBytes_escaped]
  rfl

theorem formDecode_formByte (byte : UInt8) (rest : Bytes) :
    formDecode ((formByte byte).map (fun c => c.toNat.toUInt8) ++ rest) =
      byte :: formDecode rest := by
  unfold formByte
  split
  · next space =>
    rw [eq_of_beq space]
    exact decodeBytes_cons_of_ne (by decide) _
  · split
    · next kept =>
      obtain ⟨small, _, plus, percent⟩ := of_isFormByte kept
      rw [List.map_cons, List.map_nil, toNat_ofNat_of_lt small,
        show byte.toNat.toUInt8 = byte from UInt8.ofNat_toNat]
      exact formDecode_cons_of_ne plus percent rest
    · exact formDecode_escaped byte rest

/-- What is written in a form reads back as it was. -/
theorem formDecode_formEncode (text : String) :
    formDecode (Bytes.ofText (String.ofList (formEncode text))) = Bytes.ofText text := by
  have ascii : ∀ c ∈ formEncode text, c.toNat < 0x80 := by
    intro c member
    have plain := isFormChar_formEncode text c member
    simp only [isFormChar, Bool.and_eq_true, decide_eq_true_eq] at plain
    exact plain.1
  rw [Bytes.ofText_ascii ascii, formEncode]
  induction Bytes.ofText text with
  | nil => rfl
  | cons byte rest ih => rw [List.flatMap_cons, List.map_append, formDecode_formByte, ih]

theorem readPair_formPair (name value : String) :
    readPair (formPair name value) = (Bytes.ofText name, Bytes.ofText value) := by
  have cut : Text.cutAt? '=' (formPair name value) = some (formEncode name, formEncode value) :=
    Text.cutAt?_append (not_mem_formEncode (by decide) name) _
  simp only [readPair, cut, Option.getD_some, formDecode_formEncode]

/-- A query that is one written pair holds this pair and no other. -/
theorem formPairs_formPair (name value : String) :
    formPairs (formPair name value) = [(Bytes.ofText name, Bytes.ofText value)] := by
  have free : '&' ∉ formPair name value := not_mem_formPair (by decide) (by decide) name value
  have plain : ∀ c ∈ formPair name value, (c == '&') = false := fun c member =>
    beq_false_of_ne fun same => free (same ▸ member)
  have whole : Text.partsAt '&' (formPair name value) = [formPair name value] := by
    have none : Text.partsWhere (· == '&') [] = [[]] := rfl
    have parts := Text.partsWhere_append plain none
    rw [List.append_nil] at parts
    exact parts
  have filled : (formPair name value).isEmpty = false := by
    simp [formPair]
  rw [formPairs, whole, List.filter_cons_of_pos (by simp [filled]), List.filter_nil, List.map_cons,
    List.map_nil, readPair_formPair]

end DeviceEnrollment.Url
