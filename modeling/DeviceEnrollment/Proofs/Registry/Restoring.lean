import DeviceEnrollment.Proofs.Enrollment.Printing
import DeviceEnrollment.Proofs.Registry.Body
import DeviceEnrollment.Registry.Query

/-!
What is sent reads as what was meant. Enrollments that came from a body, batches of them and
queries are taken back from what is printed of them (`reading_undoes_printing`).
-/
namespace DeviceEnrollment

open Json

/-! ### Bodies of requests -/

/-- What the body of a bulk operation asks for. -/
structure BulkRequest where
  mode : BulkMode
  enrollments : List Enrollment

namespace BulkRequest

def shape : RecordShape BulkRequest :=
  { name := "BulkRequest"
    empty := ⟨.create, []⟩
    fields := [
      requiredField "mode" BulkMode.decode fun request value => { request with mode := value },
      requiredField "enrollments"
        (fun depth reading => reading.decodeList Enrollment.shape.decode depth)
        fun request value => { request with enrollments := value }] }

/-- Reads the body of a bulk operation. -/
def ofBytes (body : Bytes) : Decoded BulkRequest := decodeDocument shape.decode body

/-- The object that is printed of a bulk operation. -/
def toValue (request : BulkRequest) : Value :=
  .object (stated shape.fields
    [ some (.text request.mode.wireName),
      some (.list (request.enrollments.map Enrollment.toValue)) ])

theorem print_toValue (mode : BulkMode) (batch : List Enrollment) :
    (toValue ⟨mode, batch⟩).print = mode.printRequest batch := by
  have items : (batch.map Enrollment.toValue).map Value.print = batch.map Enrollment.print := by
    rw [List.map_map]
    exact List.map_congr_left fun item _ => item.print_toValue
  rw [toValue, print_stated, BulkMode.printRequest, ← items, ← Value.printElements_eq_map]
  rfl

theorem isNamed_shape : shape.IsNamed where
  finds := by
    simp only [shape, List.forall_mem_cons]
    exact ⟨rfl, rfl, by simp⟩
  distinct := by decide

theorem decode_toValue {mode : BulkMode} {batch : List Enrollment} {depth : Nat} (deep : 1 < depth)
    (printable : ∀ item ∈ batch, item.IsPrintable depth ∧ item.HasOnlyIntegers) :
    shape.decode (depth + 3) (toValue ⟨mode, batch⟩).reading = .ok ⟨mode, batch⟩ := by
  refine RecordShape.decode_stated isNamed_shape (by omega) ?_
  have name : BulkMode.decode (depth + 2) (Value.text mode.wireName).reading = .ok mode :=
    decodeVariant_reading (by cases mode <;> rfl)
  have items : (Value.list (batch.map Enrollment.toValue)).reading.decodeList
      Enrollment.shape.decode (depth + 2) = .ok batch :=
    decodeList_reading (by omega) fun item member =>
      Enrollment.decode_toValue deep (printable item member).1 (printable item member).2
  exact .required name <| .required items <| .done _

theorem hasReadableNumbers_toValue {mode : BulkMode} {batch : List Enrollment} {depth : Nat}
    (printable : ∀ item ∈ batch, item.IsPrintable depth ∧ item.HasOnlyIntegers) :
    (toValue ⟨mode, batch⟩).HasReadableNumbers := by
  refine hasReadableNumbers_stated fun value entry => ?_
  simp only [List.mem_cons, List.not_mem_nil, or_false, Option.some.injEq] at entry
  rcases entry with is | is <;> rw [is]
  · exact Value.hasReadableNumbers_text _
  · refine Value.hasReadableNumbers_list fun value among => ?_
    obtain ⟨item, member, rfl⟩ := List.mem_map.1 among
    exact (printable item member).1.hasReadableNumbers (printable item member).2

end BulkRequest

namespace QuerySpecification

/-- Reads the body of a query. -/
def ofBytes (body : Bytes) : Decoded QuerySpecification := decodeDocument shape.decode body

theorem ofBytes_print (specification : QuerySpecification) :
    ofBytes specification.print = .ok specification := by
  let value : Value := .object (stated shape.fields [some (.text specification.text)])
  have printed : value.print = specification.print := print_stated _ _
  have readable : value.HasReadableNumbers := by
    refine hasReadableNumbers_stated fun value entry => ?_
    cases Option.some.inj (List.mem_singleton.1 entry)
    exact Value.hasReadableNumbers_text specification.text
  have named : shape.IsNamed := ⟨by simp [shape]; rfl, by decide⟩
  rw [ofBytes, ← printed, decodeDocument_print readable]
  exact RecordShape.decode_stated named (by decide : 0 < 127)
    (.required (decodeText_reading 127 specification.text) (.done _))

end QuerySpecification

namespace Registry

theorem isPrintable_of_readEnrollment {body : Bytes} {enrollment : Enrollment}
    (read : readEnrollment body = .ok enrollment) : enrollment.IsPrintable 127 :=
  Enrollment.isPrintable_of_decode (by decide)
    (decode_of_decodeDocument (ofBytes_of_readEnrollment read).1)

/-- What is printed of an enrollment that was read is read as this enrollment again. A bulk
operation on such items, nested at most 125 deep, is read as its mode and its items, and a query as
its text. -/
theorem reading_undoes_printing :
    (∀ body enrollment, readEnrollment body = .ok enrollment → enrollment.HasOnlyIntegers →
      readEnrollment enrollment.print = .ok enrollment) ∧
    (∀ (mode : BulkMode) (batch : List Enrollment),
      (∀ item ∈ batch, (∃ body, readEnrollment body = .ok item) ∧ item.HasOnlyIntegers ∧
        item.toValue.nesting ≤ 125) →
      BulkRequest.ofBytes (mode.printRequest batch) = .ok ⟨mode, batch⟩) ∧
    ∀ (cursor : Cursor) headers,
      QuerySpecification.ofBytes (cursor.request headers).body = .ok cursor.specification := by
  refine ⟨?_, ?_, fun cursor _ => cursor.specification.ofBytes_print⟩
  · intro body enrollment read integral
    have printable := isPrintable_of_readEnrollment read
    have decoded : Enrollment.ofBytes enrollment.print = .ok enrollment := by
      rw [← enrollment.print_toValue, Enrollment.ofBytes,
        decodeDocument_print (printable.hasReadableNumbers integral)]
      exact Enrollment.decode_toValue (by decide) printable integral
    exact readEnrollment_of_ofBytes (isMissing_printObject _) decoded
      (ofBytes_of_readEnrollment read).2
  · intro mode batch items
    have printable : ∀ item ∈ batch, item.IsPrintable 125 ∧ item.HasOnlyIntegers := by
      intro item member
      obtain ⟨⟨body, read⟩, integral, nested⟩ := items item member
      exact ⟨(isPrintable_of_readEnrollment read).of_nesting nested, integral⟩
    rw [← BulkRequest.print_toValue, BulkRequest.ofBytes,
      decodeDocument_print (BulkRequest.hasReadableNumbers_toValue printable)]
    exact BulkRequest.decode_toValue (by decide) printable

/-- A body with escaped characters, integers at both ends of their range, unsorted members and a
leap second of a far year in another time zone. -/
def unusualBody : Bytes :=
  Bytes.ofText ("\x7b\"provisioningStatus\":\"disabled\"," ++
    "\"registrationId\":\"\\uD83D\\uDE00\\u0001ü\"," ++
    "\"attestation\":\x7b\"b\":[18446744073709551615,-9223372036854775808],\"a\":null\x7d," ++
    "\"createdDateTimeUtc\":\"+10000-12-31t23:59:60.5-00:30\"," ++
    "\"registrationState\":\x7b\"status\":\"new\",\"errorCode\":-1\x7d\x7d")

/-- The enrollment of that body. -/
def unusual : Enrollment :=
  { Enrollment.ofId "😀\u0001ü" with
    attestation := some (.object [
      ("a", .null),
      ("b", .list [.number (.integer 18446744073709551615),
        .number (.integer (-9223372036854775808))])])
    provisioningStatus := some .disabled
    registrationState := some { RegistrationState.empty with
      status := some .unknown
      errorCode := some (-1) }
    createdTime := some
      { date := ⟨10001, 1, 1, by decide, by decide⟩
        clock := ⟨29, 59, 1500000000, by decide, by decide, by decide, by decide⟩ } }

theorem reading_undoes_printing_unusual :
    readEnrollment unusualBody = .ok unusual ∧ readEnrollment unusual.print = .ok unusual ∧
      BulkRequest.ofBytes (BulkMode.updateIfMatchETag.printRequest [unusual, .ofId "a"]) =
        .ok ⟨.updateIfMatchETag, [unusual, .ofId "a"]⟩ := by
  have read : readEnrollment unusualBody = .ok unusual := by
    set_option maxRecDepth 40000 in rfl
  have short : readEnrollment (Bytes.ofText "[\"a\"]") = .ok (.ofId "a") := by
    set_option maxRecDepth 40000 in rfl
  have integral : unusual.HasOnlyIntegers := by
    refine ⟨?_, by rintro _ ⟨⟩⟩
    rintro value ⟨⟩ part member
    simp only [Value.inside, Value.insideMembers, Value.insideElements, List.mem_append,
      List.mem_cons, List.not_mem_nil, or_false] at member
    rcases member with rfl | rfl | rfl | rfl | rfl
    all_goals simp [Value.IsIntegral, Number.twoTo63, Number.twoTo64]
  obtain ⟨again, bulk, _⟩ := reading_undoes_printing
  refine ⟨read, again unusualBody unusual read integral, bulk .updateIfMatchETag _ ?_⟩
  simp only [List.forall_mem_cons]
  exact ⟨⟨⟨_, read⟩, integral, by decide⟩,
    ⟨⟨_, short⟩, ⟨by rintro _ ⟨⟩, by rintro _ ⟨⟩⟩, by decide⟩, by simp⟩

end Registry

end DeviceEnrollment
