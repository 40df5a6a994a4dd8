import DeviceEnrollment.Proofs.Text
import DeviceEnrollment.Url.Percent

/-!
Percent escapes: which characters they write, and that they read back as the bytes they stand
for (`decodeBytes_encodeBytes`).
-/
namespace DeviceEnrollment.Url

/-! ### The characters of escaped text -/

theorem mem_of_mem_escaped {byte : UInt8} {c : Char} (written : c ∈ escaped byte) :
    c ∈ "%0123456789ABCDEF".toList := by
  have digit : ∀ value < 16, upperHex value ∈ "%0123456789ABCDEF".toList := by decide
  have bound := byte.toNat_lt
  simp only [escaped, List.mem_cons, List.not_mem_nil, or_false] at written
  rcases written with rfl | rfl | rfl
  · decide
  · exact digit _ (by omega)
  · exact digit _ (by omega)

/-- What a percent sign and hexadecimal digits satisfy, and all bytes that are kept, holds of
every character that is written. -/
theorem forall_mem_encodeBytes {set : EscapeSet} {holds : Char → Prop} [DecidablePred holds]
    (escapes : "%0123456789ABCDEF".toList.all (decide <| holds ·) = true) {bytes : Bytes}
    (kept : ∀ byte ∈ bytes, set byte = false → holds (Char.ofNat byte.toNat)) :
    ∀ c ∈ encodeBytes set bytes, holds c := by
  have escape : ∀ c ∈ "%0123456789ABCDEF".toList, holds c := by
    simpa only [List.all_eq_true, decide_eq_true_eq] using escapes
  intro c member
  obtain ⟨byte, held, written⟩ := List.mem_flatMap.1 member
  unfold encodeByte at written
  split at written
  · exact escape c (mem_of_mem_escaped written)
  · next free =>
    rw [List.mem_singleton.1 written]
    exact kept byte held (by simpa using free)

/-- Whether a set escapes every byte beyond ASCII. -/
def EscapeSet.IsWide (set : EscapeSet) : Prop := ∀ byte, set byte = false → byte.toNat < 0x80

theorem EscapeSet.isWide_controls : controls.IsWide := by
  intro byte free
  simp only [controls, ge_iff_le, Bool.or_eq_false_iff, decide_eq_false_iff_not,
    UInt8.not_le] at free
  exact Nat.lt_trans (UInt8.lt_iff_toNat_lt.1 free.2) (by decide)

theorem EscapeSet.IsWide.adding {set : EscapeSet} (wide : set.IsWide) (more : List Char) :
    (set.adding more).IsWide := by
  intro byte free
  simp only [EscapeSet.adding, Bool.or_eq_false_iff] at free
  exact wide byte free.1

theorem EscapeSet.isWide_path : path.IsWide := (isWide_controls.adding _).adding _

theorem EscapeSet.isWide_segment : segment.IsWide := isWide_path.adding _

/-- If the kept bytes are of ASCII, it is enough to look at the characters of ASCII. -/
theorem forall_mem_encodeBytes_of_isWide {set : EscapeSet} (wide : set.IsWide)
    {holds : Char → Prop} [DecidablePred holds]
    (escapes : "%0123456789ABCDEF".toList.all (decide <| holds ·) = true)
    (kept : ∀ point < 0x80, set point.toUInt8 = false → holds (Char.ofNat point)) (bytes : Bytes) :
    ∀ c ∈ encodeBytes set bytes, holds c :=
  forall_mem_encodeBytes escapes fun byte _ free => by
    apply kept byte.toNat (wide byte free)
    rw [show byte.toNat.toUInt8 = byte from UInt8.ofNat_toNat]
    exact free

theorem toNat_ofNat_of_lt {point : Nat} (ascii : point < 0x80) :
    (Char.ofNat point).toNat = point := by
  have valid : point.isValidChar := .inl (by omega)
  rw [Char.ofNat, dif_pos valid]
  rfl

theorem ascii_encodeBytes {set : EscapeSet} (wide : set.IsWide) (bytes : Bytes) :
    ∀ c ∈ encodeBytes set bytes, c.toNat < 0x80 :=
  forall_mem_encodeBytes (by decide) fun byte _ free => by
    rw [toNat_ofNat_of_lt (wide byte free)]
    exact wide byte free

/-! ### Reading back -/

theorem decodeBytes_cons_of_ne {first : UInt8} (plain : first ≠ 0x25) (rest : Bytes) :
    decodeBytes (first :: rest) = first :: decodeBytes rest := by
  rw [decodeBytes.eq_def]
  simp [plain]

theorem decodeBytes_escaped (byte : UInt8) (rest : Bytes) :
    decodeBytes ((escaped byte).map (fun c => c.toNat.toUInt8) ++ rest) =
      byte :: decodeBytes rest := by
  have digit : ∀ value < 16, Bytes.hexValue? (upperHex value).toNat.toUInt8 = some value := by
    decide
  have bound := byte.toNat_lt
  have high := digit (byte.toNat / 16) (by omega)
  have low := digit (byte.toNat % 16) (by omega)
  have whole : (byte.toNat / 16 * 16 + byte.toNat % 16).toUInt8 = byte := by
    rw [Nat.div_add_mod']
    exact UInt8.ofNat_toNat
  simp only [escaped, List.map_cons, List.map_nil, List.cons_append, List.nil_append]
  rw [decodeBytes.eq_def]
  simp [high, low, whole]

/-- Bytes are read back from their escaped form if the percent sign is escaped itself. -/
theorem decodeBytes_encodeBytes {set : EscapeSet} (wide : set.IsWide) (percent : set 0x25 = true)
    (bytes : Bytes) :
    decodeBytes (Bytes.ofText (String.ofList (encodeBytes set bytes))) = bytes := by
  rw [Bytes.ofText_ascii (ascii_encodeBytes wide bytes)]
  induction bytes with
  | nil => rfl
  | cons byte rest ih =>
    simp only [encodeBytes, List.flatMap_cons, List.map_append] at ih ⊢
    cases free : set byte with
    | true =>
      have written : encodeByte set byte = escaped byte := by simp [encodeByte, free]
      rw [written, decodeBytes_escaped, ih]
    | false =>
      have written : encodeByte set byte = [Char.ofNat byte.toNat] := by simp [encodeByte, free]
      have plain : byte ≠ 0x25 := fun same => by simp [same, percent] at free
      simp only [written, List.map_cons, List.map_nil, List.cons_append, List.nil_append,
        toNat_ofNat_of_lt (wide byte free)]
      rw [show byte.toNat.toUInt8 = byte from UInt8.ofNat_toNat, decodeBytes_cons_of_ne plain, ih]

end DeviceEnrollment.Url
