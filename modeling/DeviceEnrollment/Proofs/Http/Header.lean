import DeviceEnrollment.Http.Header
import DeviceEnrollment.Proofs.Text

/-!
Header values that texts are written as, and header maps with a value put in.
-/
namespace DeviceEnrollment.Http

theorem isTextByte_iff {byte : UInt8} :
    isTextByte byte = true ↔ byte.toNat = 9 ∨ 32 ≤ byte.toNat ∧ byte.toNat ≤ 126 := by
  simp only [isTextByte, Bool.or_eq_true, Bool.and_eq_true, decide_eq_true_eq, beq_iff_eq,
    ge_iff_le, UInt8.le_iff_toNat_le, UInt8.lt_iff_toNat_lt, ← UInt8.toNat_inj]
  change (32 ≤ byte.toNat ∧ byte.toNat < 127) ∨ byte.toNat = 9 ↔ _
  omega

namespace HeaderValue

/-- A value that reads as text has the bytes of that text, and each of them may stand in one. -/
theorem of_toText? {value : HeaderValue} {text : String} (read : value.toText? = some text) :
    Bytes.ofText text = value.bytes ∧ value.bytes.all isTextByte = true := by
  unfold toText? at read
  split at read
  · next printed => exact ⟨Bytes.ofText_of_toText? read, printed⟩
  · cases read

/-- A value of nothing but printed characters and tabs reads as text. -/
theorem exists_toText? {value : HeaderValue} (printed : value.bytes.all isTextByte = true) :
    ∃ text, value.toText? = some text := by
  rw [toText?, if_pos printed]
  apply Bytes.exists_toText?_of_ascii
  intro byte member
  have bounds := isTextByte_iff.1 (List.all_eq_true.1 printed byte member)
  omega

/-- A text whose bytes a header may hold can be sent as a value. -/
theorem exists_ofText? {text : String} (legal : (Bytes.ofText text).all isHeaderByte = true) :
    ∃ value, ofText? text = some value ∧ value.bytes = Bytes.ofText text := by
  refine ⟨⟨Bytes.ofText text, legal, false⟩, ?_, rfl⟩
  rw [ofText?, ofBytes?, dif_pos legal]

end HeaderValue

theorem all_isHeaderByte_of_isTextByte {bytes : Bytes} (printed : bytes.all isTextByte = true) :
    bytes.all isHeaderByte = true := by
  rw [List.all_eq_true] at printed ⊢
  exact fun byte member => isHeaderByte_of_isTextByte byte (printed byte member)

namespace HeaderMap

theorem first?_eq_head?_values (headers : HeaderMap) (name : HeaderName) :
    headers.first? name = (headers.values name).head? := by
  rw [first?, values, List.head?_map, List.head?_filter]

theorem values_insert (headers : HeaderMap) (name : HeaderName) (value : HeaderValue) :
    (headers.insert name value).values name = [value] := by
  simp [insert, values, List.filter_filter]

theorem values_insert_of_ne (headers : HeaderMap) {name other : HeaderName} (differs : name ≠ other)
    (value : HeaderValue) : (headers.insert name value).values other = headers.values other := by
  have kept : headers.entries.filter (fun entry =>
      decide (entry.1 = other) && !decide (entry.1 = name)) =
        headers.entries.filter fun entry => decide (entry.1 = other) := by
    apply List.filter_congr
    intro entry _
    by_cases same : entry.1 = other
    · simp [same, differs.symm]
    · simp [same]
  simp [insert, values, List.filter_filter, kept, differs]

end HeaderMap

end DeviceEnrollment.Http
