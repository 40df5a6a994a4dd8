import DeviceEnrollment.Proofs.Json.Escapes
import DeviceEnrollment.Proofs.Json.Nested
import DeviceEnrollment.Proofs.Json.Numbers
import DeviceEnrollment.Proofs.Json.Rearranging
import DeviceEnrollment.Proofs.Registry.Body
import DeviceEnrollment.Registry.Client
import Mathlib.Data.List.TakeWhile

/-!
Bodies that say the same in another form. What is read from a body does not depend on the order of
members, on members with unknown keys, or on options that are `null`, and a body with a known key
twice is not read at all (`tolerance_of_bodies`).
-/
namespace DeviceEnrollment

open Json

/-! ### Optional members -/

namespace Json

variable {draft α β : Type}

@[simp]
theorem commute_optionalField {name other : String} {decode : Nat → Reading → Decoded α}
    {set : draft → Option α → draft} {decodeOther : Nat → Reading → Decoded β}
    {setOther : draft → Option β → draft}
    (apart : ∀ current value held,
      setOther (set current value) held = set (setOther current held) value) :
    Commute (optionalField name decode set).decode
      (optionalField other decodeOther setOther).decode :=
  commute_of_set apart

@[simp]
theorem commute_requiredField {name other : String} {decode : Nat → Reading → Decoded α}
    {set : draft → α → draft} {decodeOther : Nat → Reading → Decoded β}
    {setOther : draft → Option β → draft}
    (apart : ∀ current value held,
      setOther (set current value) held = set (setOther current held) value) :
    Commute (requiredField name decode set).decode
      (optionalField other decodeOther setOther).decode :=
  commute_of_set apart

@[simp]
theorem absence_requiredField {name : String} {decode : Nat → Reading → Decoded α}
    {set : draft → α → draft} : (requiredField name decode set).absence = .refused := rfl

@[simp]
theorem decode_null_optionalField {name : String} {decode : Nat → Reading → Decoded α}
    {set : draft → Option α → draft} (depth : Nat) (current : draft) :
    (optionalField name decode set).decode depth .null current = .ok (set current none) := rfl

theorem toOption_map {γ : Type} (f : β → γ) (result : Decoded β) :
    (f <$> result).toOption = result.toOption.map f := by
  cases result <;> rfl

/-- Whether a value is there and does not break off. -/
structure Reading.IsFilled (value : Reading) : Prop where
  present : value.isNull = false
  whole : value.fault? = none

theorem Reading.IsFilled.decodeOption {decode : Reading → Decoded α} {value : Reading}
    (filled : value.IsFilled) : value.decodeOption decode = some <$> decode value := by
  cases value with
  | null => cases filled.present
  | brokenNull fault => cases filled.whole
  | _ => rfl

/-- Whether a way to read a value is the same for two values, also where it may be `null`. -/
structure SameFor (decode : Nat → Reading → Decoded α) (value other : Reading) : Prop where
  null : value.isNull = other.isNull
  option : ∀ depth, (value.decodeOption (decode depth)).toOption =
    (other.decodeOption (decode depth)).toOption

theorem SameFor.refl (decode : Nat → Reading → Decoded α) (value : Reading) :
    SameFor decode value value :=
  ⟨rfl, fun _ => rfl⟩

theorem SameFor.of_filled {decode : Nat → Reading → Decoded α} {value other : Reading}
    (filled : value.IsFilled) (filledOther : other.IsFilled)
    (same : ∀ depth, (decode depth value).toOption = (decode depth other).toOption) :
    SameFor decode value other := by
  refine ⟨filled.present.trans filledOther.present.symm, fun depth => ?_⟩
  rw [filled.decodeOption, filledOther.decodeOption, toOption_map, toOption_map, same]

/-- An optional field is read alike from values that are. -/
theorem SameFor.optionalField {name : String} {decode : Nat → Reading → Decoded α}
    {set : draft → Option α → draft} {value other : Reading} (same : SameFor decode value other)
    (depth : Nat) (current : draft) :
    ((optionalField name decode set).decode depth value current).toOption =
      ((optionalField name decode set).decode depth other current).toOption := by
  show (set current <$> value.decodeOption (decode depth)).toOption =
    (set current <$> other.decodeOption (decode depth)).toOption
  rw [toOption_map, toOption_map, same.option]

/-- An optional field is not read from what its value is never read from. -/
theorem ne_ok_optionalField {name : String} {decode : Nat → Reading → Decoded α}
    {set : draft → Option α → draft} {value : Reading} (present : value ≠ .null)
    (never : ∀ depth found, decode depth value ≠ .ok found) (depth : Nat) (current next : draft) :
    (optionalField name decode set).decode depth value current ≠ .ok next := by
  intro read
  obtain ⟨held, decoded, _⟩ := exists_of_bind_ok read
  cases held with
  | none => exact present (Reading.eq_null_of_decodeOption decoded)
  | some found => exact never depth found (Reading.ne_null_of_decodeOption decoded).2

end Json

/-! ### The fields of each record -/

theorem RegistrationState.isIndependent_shape : shape.IsIndependent where
  distinct := by decide
  commute := by simp [shape]
  null := by simp [shape, empty]

theorem Enrollment.isIndependent_shape : shape.IsIndependent where
  distinct := by decide
  commute := by simp [shape]
  null := by simp [shape, ofId]

namespace RegistrationState

/-- Whether values are the same, but for how the members of a state are rearranged. -/
abbrev Alike : Reading → Reading → Prop := shape.Like fun _ => Eq

/-- Whether a state has a known key twice. -/
abbrev Repeats : Reading → Prop := shape.Repeats fun _ _ => False

end RegistrationState

namespace Enrollment

/-- Whether values are the same, but for how the members of an enrollment, and those of the state in
it, are rearranged. -/
abbrev Alike : Reading → Reading → Prop :=
  shape.Like (RecordShape.Within "registrationState" RegistrationState.Alike)

/-- Whether an enrollment, or the state in it, has a known key twice. -/
abbrev Repeats : Reading → Prop :=
  shape.Repeats fun name value => name = "registrationState" ∧ RegistrationState.Repeats value

theorem sameFor_of_alike {value other : Reading} (alike : RegistrationState.Alike value other) :
    SameFor RegistrationState.shape.decode value other := by
  have same := alike.toOption_decode RegistrationState.isIndependent_shape
    (RecordShape.respects_eq _)
  cases alike with
  | same value => exact .refl _ value
  | rearranged => exact .of_filled ⟨rfl, rfl⟩ ⟨rfl, rfl⟩ same

/-- The field that holds a state. -/
theorem eq_of_name_state {field : Json.Field Enrollment} (among : field ∈ shape.fields)
    (named : field.name = "registrationState") :
    field = optionalField "registrationState" RegistrationState.shape.decode
      fun enrollment value => { enrollment with registrationState := value } := by
  simp only [shape, List.mem_cons, List.not_mem_nil, or_false] at among
  rcases among with rfl | rfl | rfl | rfl | rfl | rfl | rfl | rfl | rfl | rfl
  case inr.inr.inr.inr.inr.inr.inl => rfl
  all_goals exact absurd named (by decide)

theorem toOption_decode_of_alike {value other : Reading} (alike : Alike value other) (depth : Nat) :
    (shape.decode depth value).toOption = (shape.decode depth other).toOption := by
  refine alike.toOption_decode isIndependent_shape (RecordShape.respects_within ?_) depth
  intro field among named value other inner
  cases eq_of_name_state among named
  have same := sameFor_of_alike inner
  exact ⟨same.null, same.optionalField⟩

theorem ne_ok_of_repeats {value : Reading} (repeats : Repeats value) (depth : Nat)
    (enrollment : Enrollment) : shape.decode depth value ≠ .ok enrollment := by
  refine RecordShape.ne_ok_of_repeats ?_ repeats enrollment
  rintro field among value ⟨named, inner⟩
  cases eq_of_name_state among named
  have present : value ≠ .null := by
    rintro rfl
    cases inner
  have never (depth : Nat) (state : RegistrationState) :
      RegistrationState.shape.decode depth value ≠ .ok state :=
    RecordShape.ne_ok_of_repeats (fun _ _ _ nowhere => nowhere.elim) inner state
  exact ne_ok_optionalField present never

end Enrollment

namespace Registry

theorem ReportedError.isIndependent_shape : shape.IsIndependent where
  distinct := by decide
  commute := by simp [shape]
  null := by simp [shape, empty]

theorem BulkReport.isIndependent_shape : shape.IsIndependent where
  distinct := by decide
  commute := by simp [shape]
  null := by simp [shape]

theorem ErrorReport.isIndependent_shape : shape.IsIndependent where
  distinct := by decide
  commute := by simp [shape]
  null := by simp [shape, empty]

namespace ReportedError

/-- Whether values are the same, but for how the members of an entry are rearranged. -/
abbrev Alike : Reading → Reading → Prop := shape.Like fun _ => Eq

/-- Whether an entry has a known key twice. -/
abbrev Repeats : Reading → Prop := shape.Repeats fun _ _ => False

theorem toOption_decode_of_alike {value other : Reading} (alike : Alike value other) (depth : Nat) :
    (shape.decode depth value).toOption = (shape.decode depth other).toOption :=
  alike.toOption_decode isIndependent_shape (RecordShape.respects_eq _) depth

theorem ne_ok_of_repeats {value : Reading} (repeats : Repeats value) (depth : Nat)
    (entry : ReportedError) : shape.decode depth value ≠ .ok entry :=
  RecordShape.ne_ok_of_repeats (fun _ _ _ nowhere => nowhere.elim) repeats entry

end ReportedError

namespace BulkReport

/-- Whether values are the same, but for how the members of a report, and those of its entries, are
rearranged. -/
abbrev Alike : Reading → Reading → Prop :=
  shape.Like (RecordShape.Within "errors" (ListLike ReportedError.Alike))

/-- Whether a report, or an entry of it, has a known key twice. -/
abbrev Repeats : Reading → Prop :=
  shape.Repeats fun name value => name = "errors" ∧ ListHas ReportedError.Repeats value

/-- The field that holds the entries. -/
theorem eq_of_name_errors {field : Json.Field BulkReport} (among : field ∈ shape.fields)
    (named : field.name = "errors") :
    field = optionalField "errors"
      (fun depth reading => reading.decodeList ReportedError.shape.decode depth)
      fun report value => { report with errors := value } := by
  simp only [shape, List.mem_cons, List.not_mem_nil, or_false] at among
  rcases among with rfl | rfl
  · exact absurd named (by decide)
  · rfl

theorem toOption_decode_of_alike {value other : Reading} (alike : Alike value other) (depth : Nat) :
    (shape.decode depth value).toOption = (shape.decode depth other).toOption := by
  refine alike.toOption_decode isIndependent_shape (RecordShape.respects_within ?_) depth
  intro field among named value other inner
  cases eq_of_name_errors among named
  have same : SameFor (fun depth reading => reading.decodeList ReportedError.shape.decode depth)
      value other := by
    have lists := inner.toOption_decodeList fun _ _ => ReportedError.toOption_decode_of_alike
    cases inner with
    | same value => exact .refl _ value
    | elements => exact .of_filled ⟨rfl, rfl⟩ ⟨rfl, rfl⟩ lists
  exact ⟨same.null, same.optionalField⟩

theorem ne_ok_of_repeats {value : Reading} (repeats : Repeats value) (depth : Nat)
    (report : BulkReport) : shape.decode depth value ≠ .ok report := by
  refine RecordShape.ne_ok_of_repeats ?_ repeats report
  rintro field among value ⟨named, inner⟩
  cases eq_of_name_errors among named
  have present : value ≠ .null := by
    rintro rfl
    cases inner
  have never := inner.ne_ok fun _ => ReportedError.ne_ok_of_repeats
  exact ne_ok_optionalField present never

end BulkReport

namespace ErrorReport

/-- Whether values are the same, but for how the members of a report are rearranged. -/
abbrev Alike : Reading → Reading → Prop := shape.Like fun _ => Eq

/-- Whether a report has a known key twice. -/
abbrev Repeats : Reading → Prop := shape.Repeats fun _ _ => False

theorem ofBytes_eq (body : Bytes) :
    ofBytes body = (decodeDocument shape.decode body).toOption.getD empty := by
  unfold ofBytes
  cases decodeDocument shape.decode body <;> rfl

theorem ofBytes_of_alike {first second : Bytes} (alike : Document.Alike Alike first second) :
    ofBytes first = ofBytes second := by
  rw [ofBytes_eq, ofBytes_eq, alike.toOption_decodeDocument fun _ _ like =>
    like.toOption_decode isIndependent_shape (RecordShape.respects_eq _)]

theorem ofBytes_of_repeats {body : Bytes} (repeats : Repeats (Document.ofBytes body).value) :
    ofBytes body = empty := by
  have never (depth : Nat) (found : ErrorReport) :
      shape.decode depth (Document.ofBytes body).value ≠ .ok found :=
    RecordShape.ne_ok_of_repeats (fun _ _ _ nowhere => nowhere.elim) repeats found
  unfold ofBytes
  split
  · next report decoded => exact absurd decoded (Document.ne_ok_of_value never report)
  · rfl

end ErrorReport

/-! ### Bodies -/

theorem mem_dropWhile {drop : UInt8 → Bool} {bytes : Bytes} {byte : UInt8} (held : byte ∈ bytes)
    (solid : drop byte = false) : byte ∈ bytes.dropWhile drop := by
  rw [← List.takeWhile_append_dropWhile (p := drop) (l := bytes)] at held
  rcases List.mem_append.1 held with front | behind
  · exact absurd (List.mem_takeWhile_imp front) (Bool.eq_false_iff.1 solid)
  · exact behind

theorem mem_trimAscii {bytes : Bytes} {byte : UInt8} (held : byte ∈ bytes)
    (solid : Bytes.isAsciiBlank byte = false) : byte ∈ Bytes.trimAscii bytes := by
  have front := mem_dropWhile held solid
  exact List.mem_reverse.2 (mem_dropWhile (List.mem_reverse.2 front) solid)

/-- A body with a bracket in it is not missing. -/
theorem isMissing_of_mem {body : Bytes} {byte : UInt8} (held : byte ∈ body)
    (bracket : byte = 0x7B ∨ byte = 0x5B) : isMissing body = false := by
  have solid : Bytes.isAsciiBlank byte = false := by rcases bracket with rfl | rfl <;> rfl
  have foreign : byte ∉ nullBody := by rcases bracket with rfl | rfl <;> decide
  have kept := mem_trimAscii held solid
  rw [isMissing, Bool.or_eq_false_iff]
  constructor
  · exact List.isEmpty_eq_false_iff.2 (List.ne_nil_of_mem kept)
  · exact beq_eq_false_iff_ne.2 fun same => foreign (same ▸ kept)

theorem isMissing_of_isNested {body : Bytes}
    (nested : (Document.ofBytes body).value.isNested = true) : isMissing body = false := by
  have scanned : (Reading.scan (3 * body.length + 3) body).1.isNested = true := nested
  obtain ⟨byte, held, bracket⟩ := Reading.exists_bracket_of_isNested scanned
  exact isMissing_of_mem held bracket

/-- What is read from a body that only lists and objects can be is what its document says. -/
theorem toOption_readBody {α : Type} (kind : BodyKind) {decode : Nat → Reading → Decoded α}
    (nested : ∀ depth value found, decode depth value = .ok found → value.isNested = true)
    (body : Bytes) :
    (readBody kind (decodeDocument decode) body).toOption =
      (decodeDocument decode body).toOption := by
  cases read : decodeDocument decode body with
  | error fault =>
    unfold readBody
    rw [read]
    split <;> rfl
  | ok value =>
    obtain ⟨found, decoded, _⟩ := exists_of_bind_ok read
    have present := isMissing_of_isNested (nested _ _ _ decoded)
    rw [readBody, if_neg (Bool.eq_false_iff.1 present), read]
    rfl

theorem isNested_of_decode {draft : Type} {shape : RecordShape draft} {depth : Nat}
    {value : Reading} {record : draft} (decoded : shape.decode depth value = .ok record) :
    value.isNested = true := by
  cases value <;> first | rfl | cases decoded

theorem isNested_of_decodeList {α : Type} {decode : Nat → Reading → Decoded α} {depth : Nat}
    {value : Reading} {values : List α} (decoded : value.decodeList decode depth = .ok values) :
    value.isNested = true := by
  cases value <;> first | rfl | cases decoded

theorem readBody_of_never {α : Type} (kind : BodyKind) {decode : Bytes → Decoded α} {body : Bytes}
    (never : ∀ value, decode body ≠ .ok value) :
    ∃ fault, readBody kind decode body = .error (.protocol fault) := by
  cases read : readBody kind decode body with
  | ok value => exact absurd (decode_of_readBody read) (never value)
  | error error =>
    obtain ⟨fault, rfl⟩ := exists_fault_of_readBody read
    exact ⟨fault, rfl⟩

theorem toOption_readEnrollment (body : Bytes) :
    (readEnrollment body).toOption = (Enrollment.ofBytes body).toOption.filter fun enrollment =>
      !enrollment.registrationId.isEmpty := by
  rw [Enrollment.ofBytes, ← toOption_readBody .enrollment (fun _ _ _ => isNested_of_decode) body]
  unfold readEnrollment Enrollment.ofBytes
  cases readBody .enrollment (decodeDocument Enrollment.shape.decode) body with
  | error fault => rfl
  | ok enrollment =>
    rw [ok_bind]
    by_cases nameless : enrollment.registrationId.isEmpty = true
    · rw [if_pos nameless]
      simp only [Except.toOption, Option.filter, nameless, Bool.not_true, Bool.false_eq_true,
        if_false]
    · rw [if_neg nameless]
      simp only [Except.toOption, Option.filter, Bool.eq_false_iff.2 nameless, Bool.not_false,
        if_true]
      rfl

theorem readEnrollment_of_alike {first second : Bytes}
    (alike : Document.Alike Enrollment.Alike first second) :
    (readEnrollment first).toOption = (readEnrollment second).toOption := by
  rw [toOption_readEnrollment, toOption_readEnrollment, Enrollment.ofBytes, Enrollment.ofBytes,
    alike.toOption_decodeDocument fun _ _ => Enrollment.toOption_decode_of_alike]

theorem readPage_of_alike {first second : Bytes}
    (alike : Document.Alike (ListLike Enrollment.Alike) first second) :
    (readPage first).toOption = (readPage second).toOption := by
  unfold readPage Enrollment.listOfBytes
  rw [toOption_readBody _ (fun _ _ _ => isNested_of_decodeList),
    toOption_readBody _ (fun _ _ _ => isNested_of_decodeList),
    alike.toOption_decodeDocument fun _ _ lists =>
      lists.toOption_decodeList fun _ _ => Enrollment.toOption_decode_of_alike]

/-- What a bulk operation gives back depends on what is read from the body. -/
theorem toOption_bulkResultOf (mode : BulkMode) (batch : List Enrollment)
    (response : Http.Response) :
    (bulkResultOf mode batch response).result.toOption =
      ((BulkReport.ofBytes response.body).toOption >>= fun report =>
        report.settle.toOption).map fun settled =>
          ⟨settled.1, alignErrors
            (collectErrors (batch.map Enrollment.registrationId) .empty settled.2).1 batch⟩ := by
  rw [BulkReport.ofBytes,
    ← toOption_readBody .bulkResult (fun _ _ _ => isNested_of_decode) response.body]
  unfold bulkResultOf readBulkReport BulkReport.ofBytes
  cases readBody .bulkResult (decodeDocument BulkReport.shape.decode) response.body with
  | error fault => rfl
  | ok report =>
    show _ = report.settle.toOption.map _
    rw [ok_bind]
    cases report.settle <;> rfl

theorem bulkResultOf_of_alike (mode : BulkMode) (batch : List Enrollment) (status : Http.Status)
    (headers : Http.HeaderMap) {first second : Bytes}
    (alike : Document.Alike BulkReport.Alike first second) :
    (bulkResultOf mode batch ⟨status, headers, first⟩).result.toOption =
      (bulkResultOf mode batch ⟨status, headers, second⟩).result.toOption := by
  rw [toOption_bulkResultOf, toOption_bulkResultOf, BulkReport.ofBytes, BulkReport.ofBytes,
    alike.toOption_decodeDocument fun _ _ => BulkReport.toOption_decode_of_alike]

theorem ofResponse_of_alike (status : Http.Status) (headers : Http.HeaderMap)
    {first second : Bytes} (alike : Document.Alike ErrorReport.Alike first second) :
    ServiceError.ofResponse ⟨status, headers, first⟩ =
      ServiceError.ofResponse ⟨status, headers, second⟩ := by
  simp only [ServiceError.ofResponse, ErrorReport.ofBytes_of_alike alike]

theorem readEnrollment_of_repeats {body : Bytes}
    (repeats : Enrollment.Repeats (Document.ofBytes body).value) :
    ∃ fault, readEnrollment body = .error (.protocol fault) := by
  have never : ∀ enrollment, Enrollment.ofBytes body ≠ .ok enrollment :=
    Document.ne_ok_of_value (Enrollment.ne_ok_of_repeats repeats)
  obtain ⟨fault, refused⟩ := readBody_of_never .enrollment never
  exact ⟨fault, by rw [readEnrollment, refused]; rfl⟩

theorem readPage_of_repeats {body : Bytes}
    (repeats : ListHas Enrollment.Repeats (Document.ofBytes body).value) :
    ∃ fault, readPage body = .error (.protocol fault) :=
  readBody_of_never _
    (Document.ne_ok_of_value (repeats.ne_ok fun _ => Enrollment.ne_ok_of_repeats))

theorem bulkResultOf_of_repeats (mode : BulkMode) (batch : List Enrollment)
    {response : Http.Response}
    (repeats : BulkReport.Repeats (Document.ofBytes response.body).value) :
    ∃ fault, bulkResultOf mode batch response = ⟨[], .error (.protocol fault)⟩ := by
  have never : ∀ report, BulkReport.ofBytes response.body ≠ .ok report :=
    Document.ne_ok_of_value (BulkReport.ne_ok_of_repeats repeats)
  obtain ⟨fault, refused⟩ := readBody_of_never .bulkResult never
  exact ⟨fault, by rw [bulkResultOf, readBulkReport, refused]; rfl⟩

theorem ofResponse_of_repeats {response : Http.Response}
    (repeats : ErrorReport.Repeats (Document.ofBytes response.body).value) :
    ServiceError.ofResponse response = ⟨response.status, none, response.status.line, none,
      Http.RetryHint.ofHeaders? response.headers⟩ := by
  rw [ServiceError.ofResponse, ErrorReport.ofBytes_of_repeats repeats]
  rfl

/-- Bodies that are objects without repeated keys say the same however their members are rearranged:
whether something is read from them, what it is, and what is reported of a failure. From a body that
repeats a known key nothing is read, and what it reports of a failure is its status alone. -/
theorem tolerance_of_bodies :
    (∀ first second, Document.Alike Enrollment.Alike first second →
      (readEnrollment first).toOption = (readEnrollment second).toOption) ∧
    (∀ first second, Document.Alike (ListLike Enrollment.Alike) first second →
      (readPage first).toOption = (readPage second).toOption) ∧
    (∀ mode batch status headers first second, Document.Alike BulkReport.Alike first second →
      (bulkResultOf mode batch ⟨status, headers, first⟩).result.toOption =
        (bulkResultOf mode batch ⟨status, headers, second⟩).result.toOption) ∧
    (∀ status headers first second, Document.Alike ErrorReport.Alike first second →
      ServiceError.ofResponse ⟨status, headers, first⟩ =
        ServiceError.ofResponse ⟨status, headers, second⟩) ∧
    (∀ body, Enrollment.Repeats (Document.ofBytes body).value →
      ∃ fault, readEnrollment body = .error (.protocol fault)) ∧
    (∀ body, ListHas Enrollment.Repeats (Document.ofBytes body).value →
      ∃ fault, readPage body = .error (.protocol fault)) ∧
    (∀ mode batch response, BulkReport.Repeats (Document.ofBytes response.body).value →
      ∃ fault, bulkResultOf mode batch response = ⟨[], .error (.protocol fault)⟩) ∧
    ∀ response : Http.Response, ErrorReport.Repeats (Document.ofBytes response.body).value →
      ServiceError.ofResponse response = ⟨response.status, none, response.status.line, none,
        Http.RetryHint.ofHeaders? response.headers⟩ :=
  ⟨fun _ _ => readEnrollment_of_alike, fun _ _ => readPage_of_alike,
    fun mode batch status headers _ _ => bulkResultOf_of_alike mode batch status headers,
    fun status headers _ _ => ofResponse_of_alike status headers,
    fun _ => readEnrollment_of_repeats, fun _ => readPage_of_repeats,
    fun mode batch _ => bulkResultOf_of_repeats mode batch, fun _ => ofResponse_of_repeats⟩

/-- An enrollment with a state. -/
def plainBody : Bytes :=
  Bytes.ofText ("\x7b\"registrationId\":\"dev-1\",\"registrationState\":" ++
    "\x7b\"errorCode\":7,\"assignedHub\":\"hub\"\x7d\x7d")

/-- The enrollment of `plainBody` with more members and in another order. -/
def roundaboutBody : Bytes :=
  Bytes.ofText ("\x7b\"extra\":[1],\"registrationState\":" ++
    "\x7b\"assignedHub\":\"hub\",\"deviceId\":null,\"errorCode\":7\x7d,\"etag\":null," ++
    "\"registrationId\":\"dev-1\"\x7d")

/-- The report of a failure with a message under each of the two names that it may have. -/
def twiceBody : Bytes :=
  Bytes.ofText "\x7b\"errorMessage\":\"no such device\",\"Message\":\"no such device\"\x7d"

def hubMember : WrittenText × Reading := (.ofText "assignedHub", .text (.ofText "hub"))

def codeMember : WrittenText × Reading := (.ofText "errorCode", .number (.ofInteger 7))

def idMember : WrittenText × Reading := (.ofText "registrationId", .text (.ofText "dev-1"))

/-- A member with a state. -/
def stateMember (members : List (WrittenText × Reading)) : WrittenText × Reading :=
  (.ofText "registrationState", .object members .closed)

theorem alike_states : RegistrationState.Alike (.object [codeMember, hubMember] .closed)
    (.object [hubMember, (.ofText "deviceId", .null), codeMember] .closed) := by
  refine .rearranged (by decide +kernel) (by decide +kernel) ?_
  have added : RegistrationState.shape.Rearranged (fun _ => Eq) [codeMember, hubMember]
      [(.ofText "deviceId", .null), codeMember, hubMember] := .null _ rfl rfl (by decide)
  exact added.trans (.permuted (@List.perm_middle _ hubMember [_, _] []))

theorem alike_bodies : Document.Alike Enrollment.Alike plainBody roundaboutBody := by
  let fewer : List (WrittenText × Reading) := [codeMember, hubMember]
  let more : List (WrittenText × Reading) := [hubMember, (.ofText "deviceId", .null), codeMember]
  let extra : WrittenText × Reading := (.ofText "extra", .list [.number (.ofInteger 1)] none)
  let version : WrittenText × Reading := (.ofText "etag", .null)
  have plain : Document.ofBytes plainBody =
      ⟨.object [idMember, stateMember fewer] .closed, false⟩ := by
    set_option maxRecDepth 20000 in rfl
  have roundabout : Document.ofBytes roundaboutBody =
      ⟨.object [extra, stateMember more, version, idMember] .closed, false⟩ := by
    set_option maxRecDepth 20000 in rfl
  let within := RecordShape.Within "registrationState" RegistrationState.Alike
  have rearranged : Enrollment.shape.Rearranged within
      [idMember, stateMember fewer] [extra, stateMember more, version, idMember] := by
    have first : Enrollment.shape.Rearranged within [idMember, stateMember fewer]
        [stateMember fewer, idMember] := .permuted (.swap _ _ [])
    have inside : Enrollment.shape.Rearranged within [stateMember fewer, idMember]
        [stateMember more, idMember] := .inside _ rfl rfl rfl alike_states
    have null : Enrollment.shape.Rearranged within [stateMember more, idMember]
        [version, stateMember more, idMember] := .null _ rfl rfl (by decide)
    have second : Enrollment.shape.Rearranged within [version, stateMember more, idMember]
        [stateMember more, version, idMember] := .permuted (.swap _ _ [idMember])
    exact first.trans (inside.trans (null.trans (second.trans (.unknown _ rfl rfl rfl))))
  constructor
  · rw [plain]
  · rw [roundabout]
  · rw [plain, roundabout]
    exact .rearranged (by decide +kernel) (by decide +kernel) rearranged

theorem tolerance_of_roundabout :
    (∃ enrollment, readEnrollment roundaboutBody = .ok enrollment ∧
      (readEnrollment plainBody).toOption = some enrollment) ∧
    ∀ status headers,
      (ServiceError.ofResponse ⟨status, headers, twiceBody⟩).message = status.line := by
  obtain ⟨enrollments, _, _, _, _, _, _, repeats⟩ := tolerance_of_bodies
  constructor
  · have read : ∃ enrollment, readEnrollment roundaboutBody = .ok enrollment := by
      set_option maxRecDepth 20000 in
      exact ⟨_, rfl⟩
    obtain ⟨enrollment, read⟩ := read
    refine ⟨enrollment, read, ?_⟩
    rw [enrollments _ _ alike_bodies, read]
    rfl
  · intro status headers
    have twice : ErrorReport.Repeats (Document.ofBytes twiceBody).value := by
      set_option maxRecDepth 20000 in
      exact .own (by decide +kernel)
    rw [repeats ⟨status, headers, twiceBody⟩ twice]

end Registry

end DeviceEnrollment
