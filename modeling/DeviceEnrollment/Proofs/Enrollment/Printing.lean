import DeviceEnrollment.Proofs.Json.Records

/-!
Enrollments that are printed and read again. What is read of an enrollment is fit to be printed
(`Enrollment.isPrintable_of_decode`), and what is fit to be printed is read as it was
(`Enrollment.decode_toValue`).
-/
namespace DeviceEnrollment

open Json

theorem ETag.decode_reading (depth : Nat) (etag : ETag) :
    ETag.decode depth (Value.text etag.text).reading = .ok etag := by
  rw [ETag.decode, decodeText_reading]
  rfl

/-! ### Registration states -/

namespace RegistrationState

/-- What is printed of each field, in the order of the fields. -/
def entries (state : RegistrationState) : List (Option Value) :=
  [ state.registrationId.map .text,
    state.createdTime.map fun instant => .text instant.text,
    state.assignedHub.map .text,
    state.deviceId.map .text,
    state.status.map fun status => .text status.wireName,
    state.errorCode.map fun code => .number (.integer code),
    state.errorMessage.map .text,
    state.lastUpdatedTime.map fun instant => .text instant.text,
    state.etag.map fun etag => .text etag.text ]

/-- The object that is printed of a state. -/
def toValue (state : RegistrationState) : Value := .object (stated shape.fields state.entries)

theorem print_toValue (state : RegistrationState) : state.toValue.print = state.print := by
  rw [toValue, print_stated]
  simp only [shape, entries, optionalField, optionalMember, List.zip_cons_cons, List.zip_nil_left,
    List.map_cons, List.map_nil, Option.map_map]
  rfl

theorem isNamed_shape : shape.IsNamed where
  finds := by
    simp only [shape, List.forall_mem_cons]
    exact ⟨rfl, rfl, rfl, rfl, rfl, rfl, rfl, rfl, rfl, by simp⟩
  distinct := by decide

/-- Whether the error code fits in 64 bits. -/
def IsPrintable (state : RegistrationState) : Prop :=
  ∀ code, state.errorCode = some code → Reading.fitsInt64 code = true

theorem isPrintable_of_decode {depth : Nat} {reading : Reading} {state : RegistrationState}
    (decoded : shape.decode depth reading = .ok state) : state.IsPrintable := by
  have kept : ∀ field ∈ shape.fields, field.KeepsAt (depth - 1) IsPrintable := by
    simp only [shape, List.forall_mem_cons, List.not_mem_nil, false_implies, implies_true, and_true]
    refine ⟨?_, ?_, ?_, ?_, ?_, ?errorCode, ?_, ?_, ?_⟩
    case errorCode =>
      apply Field.keepsAt_optionalField
      rintro reading value current read _ code rfl
      exact (Reading.of_decodeInt (Reading.ne_null_of_decodeOption read).2).1
    all_goals
      apply Field.Keeps.keepsAt
      exact Field.keeps_optionalField fun _ _ held => held
  exact RecordShape.invariant_of_decode (by simp [IsPrintable, shape, empty]) kept decoded

theorem fills_entries {state : RegistrationState} (printable : state.IsPrintable) (depth : Nat) :
    Fills depth shape.empty shape.fields state.entries state := by
  have text (value : String) := decodeOption_text (decodeText_reading depth value)
  have instant (value : Time.Instant) := decodeOption_text (decodeInstant_reading depth value)
  have status (value : RegistrationStatus) : RegistrationStatus.decode depth
      (Value.text value.wireName).reading = .ok value :=
    decodeVariant_reading (by cases value <;> rfl)
  refine .optional rfl rfl (fun value _ => text value) <|
    .optional rfl rfl (fun value _ => instant value) <|
    .optional rfl rfl (fun value _ => text value) <|
    .optional rfl rfl (fun value _ => text value) <|
    .optional rfl rfl (fun value _ => decodeOption_text (status value)) <|
    .optional rfl rfl (fun code is => ?errorCode) <|
    .optional rfl rfl (fun value _ => text value) <|
    .optional rfl rfl (fun value _ => instant value) <|
    .optional rfl rfl (fun value _ => decodeOption_text (ETag.decode_reading depth value)) <|
    .done state
  have fits := printable code is
  exact decodeOption_reading (hasReadableNumbers_integer fits) (by simp) (decodeInt_reading fits)

theorem hasReadableNumbers_toValue {state : RegistrationState} (printable : state.IsPrintable) :
    state.toValue.HasReadableNumbers := by
  refine hasReadableNumbers_stated fun value entry => ?_
  simp only [entries, List.mem_cons, List.not_mem_nil, or_false, @eq_comm _ (some value),
    Option.map_eq_some_iff] at entry
  rcases entry with ⟨_, _, is⟩ | ⟨_, _, is⟩ | ⟨_, _, is⟩ | ⟨_, _, is⟩ | ⟨_, _, is⟩ |
    ⟨code, states, is⟩ | ⟨_, _, is⟩ | ⟨_, _, is⟩ | ⟨_, _, is⟩ <;> rw [← is]
  case inr.inr.inr.inr.inr.inl => exact hasReadableNumbers_integer (printable code states)
  all_goals exact Value.hasReadableNumbers_text _

end RegistrationState

/-! ### Enrollments -/

namespace Enrollment

/-- What is printed of each field, in the order of the fields. -/
def entries (enrollment : Enrollment) : List (Option Value) :=
  [ some (.text enrollment.registrationId),
    enrollment.deviceId.map .text,
    enrollment.attestation,
    enrollment.iotHubHostName.map .text,
    enrollment.initialTwin,
    enrollment.provisioningStatus.map fun status => .text status.wireName,
    enrollment.registrationState.map RegistrationState.toValue,
    enrollment.etag.map fun etag => .text etag.text,
    enrollment.createdTime.map fun instant => .text instant.text,
    enrollment.lastUpdatedTime.map fun instant => .text instant.text ]

/-- The object that is printed of an enrollment. -/
def toValue (enrollment : Enrollment) : Value := .object (stated shape.fields enrollment.entries)

theorem print_toValue (enrollment : Enrollment) : enrollment.toValue.print = enrollment.print := by
  rw [toValue, print_stated]
  simp only [shape, entries, requiredField, optionalField, optionalMember, List.zip_cons_cons,
    List.zip_nil_left, List.map_cons, List.map_nil, Option.map_map, Function.comp_def,
    RegistrationState.print_toValue]
  rfl

theorem isNamed_shape : shape.IsNamed where
  finds := by
    simp only [shape, List.forall_mem_cons]
    exact ⟨rfl, rfl, rfl, rfl, rfl, rfl, rfl, rfl, rfl, rfl, by simp⟩
  distinct := by decide

/-- Whether an enrollment can be printed so that a reader of this depth takes it back. -/
structure IsPrintable (depth : Nat) (enrollment : Enrollment) : Prop where
  attestation : ∀ value, enrollment.attestation = some value → value ≠ .null ∧ value.FitsIn depth
  initialTwin : ∀ value, enrollment.initialTwin = some value → value ≠ .null ∧ value.FitsIn depth
  registrationState : ∀ state, enrollment.registrationState = some state → state.IsPrintable

/-- Whether every number inside the attestation and the twin is an integer of 64 bits. -/
structure HasOnlyIntegers (enrollment : Enrollment) : Prop where
  attestation : ∀ value, enrollment.attestation = some value → value.HasOnlyIntegers
  initialTwin : ∀ value, enrollment.initialTwin = some value → value.HasOnlyIntegers

/-- What a reader of this depth takes from what is printed of an opaque value, if one is. -/
structure ReadsAs (depth : Nat) (entry found : Option Value) : Prop where
  absent : entry = none → found = none
  read : ∀ value, entry = some value →
    value.reading.decodeOption (decodeValue depth) = .ok found

theorem readsAs_self {depth : Nat} {entry : Option Value}
    (printable : ∀ value, entry = some value → value ≠ .null ∧ value.FitsIn depth)
    (integral : ∀ value, entry = some value → value.HasOnlyIntegers) :
    ReadsAs depth entry entry where
  absent := id
  read value is := by
    obtain ⟨stated, fits⟩ := printable value is
    have numbers := integral value is
    rw [is]
    exact decodeOption_reading numbers.hasReadableNumbers stated (decodeValue_reading numbers fits)

theorem fills_entries {enrollment : Enrollment} {depth : Nat}
    {attestation initialTwin : Option Value}
    (deep : ∀ state, enrollment.registrationState = some state → state.IsPrintable ∧ 1 < depth)
    (readsAttestation : ReadsAs depth enrollment.attestation attestation)
    (readsTwin : ReadsAs depth enrollment.initialTwin initialTwin) :
    Fills depth shape.empty shape.fields enrollment.entries
      { enrollment with attestation, initialTwin } := by
  have text (value : String) := decodeOption_text (decodeText_reading depth value)
  have instant (value : Time.Instant) := decodeOption_text (decodeInstant_reading depth value)
  have status (value : ProvisioningStatus) : ProvisioningStatus.decode depth
      (Value.text value.wireName).reading = .ok value :=
    decodeVariant_reading (by cases value <;> rfl)
  refine .required (decodeText_reading depth enrollment.registrationId) <|
    .optional rfl rfl (fun value _ => text value) <|
    .found (fun absent => readsAttestation.absent absent ▸ rfl) readsAttestation.read <|
    .optional rfl rfl (fun value _ => text value) <|
    .found (fun absent => readsTwin.absent absent ▸ rfl) readsTwin.read <|
    .optional rfl rfl (fun value _ => decodeOption_text (status value)) <|
    .optional rfl rfl (fun state is => ?registrationState) <|
    .optional rfl rfl (fun value _ => decodeOption_text (ETag.decode_reading depth value)) <|
    .optional rfl rfl (fun value _ => instant value) <|
    .optional rfl rfl (fun value _ => instant value) <| .done _
  obtain ⟨inner, above⟩ := deep state is
  obtain ⟨depth, rfl⟩ := Nat.exists_eq_add_of_le' (Nat.le_of_lt above)
  have read := RecordShape.decode_stated RegistrationState.isNamed_shape (by omega)
    (RegistrationState.fills_entries inner depth)
  exact decodeOption_reading (RegistrationState.hasReadableNumbers_toValue inner)
    (by simp [RegistrationState.toValue]) read

theorem hasReadableNumbers_toValue {enrollment : Enrollment}
    (attestation : ∀ value, enrollment.attestation = some value → value.HasReadableNumbers)
    (initialTwin : ∀ value, enrollment.initialTwin = some value → value.HasReadableNumbers)
    (registrationState : ∀ state, enrollment.registrationState = some state →
      state.IsPrintable) :
    enrollment.toValue.HasReadableNumbers := by
  refine hasReadableNumbers_stated fun value entry => ?_
  simp only [entries, List.mem_cons, List.not_mem_nil, or_false, @eq_comm _ (some value),
    Option.map_eq_some_iff, Option.some.injEq] at entry
  rcases entry with is | ⟨_, _, is⟩ | states | ⟨_, _, is⟩ | states | ⟨_, _, is⟩ | ⟨_, states, is⟩ |
    ⟨_, _, is⟩ | ⟨_, _, is⟩ | ⟨_, _, is⟩
  case inr.inr.inl => exact attestation _ states
  case inr.inr.inr.inr.inl => exact initialTwin _ states
  case inr.inr.inr.inr.inr.inr.inl =>
    rw [← is]
    exact RegistrationState.hasReadableNumbers_toValue (registrationState _ states)
  all_goals
    rw [← is]
    exact Value.hasReadableNumbers_text _

theorem IsPrintable.hasReadableNumbers {enrollment : Enrollment} {depth : Nat}
    (printable : enrollment.IsPrintable depth) (integral : enrollment.HasOnlyIntegers) :
    enrollment.toValue.HasReadableNumbers :=
  hasReadableNumbers_toValue
    (fun value is => (integral.attestation value is).hasReadableNumbers)
    (fun value is => (integral.initialTwin value is).hasReadableNumbers)
    printable.registrationState

/-- An enrollment that is fit to be printed is read as it was. -/
theorem decode_toValue {enrollment : Enrollment} {depth : Nat} (deep : 1 < depth)
    (printable : enrollment.IsPrintable depth) (integral : enrollment.HasOnlyIntegers) :
    shape.decode (depth + 1) enrollment.toValue.reading = .ok enrollment :=
  RecordShape.decode_stated isNamed_shape (by omega) <|
    fills_entries (fun state is => ⟨printable.registrationState state is, deep⟩)
      (readsAs_self printable.attestation integral.attestation)
      (readsAs_self printable.initialTwin integral.initialTwin)

/-- An enrollment that was read is fit to be printed. -/
theorem isPrintable_of_decode {depth : Nat} (positive : 0 < depth) {reading : Reading}
    {enrollment : Enrollment} (decoded : shape.decode (depth + 1) reading = .ok enrollment) :
    enrollment.IsPrintable depth := by
  -- Only three fields touch what makes an enrollment printable.
  have kept : ∀ field ∈ shape.fields, field.KeepsAt depth (IsPrintable depth) := by
    simp only [shape, List.forall_mem_cons, List.not_mem_nil, false_implies, implies_true, and_true]
    refine ⟨?_, ?_, ?attestation, ?_, ?initialTwin, ?_, ?registrationState, ?_, ?_, ?_⟩
    case attestation =>
      refine Field.keepsAt_optionalField fun reading value current read held => ⟨?_, held.2, held.3⟩
      rintro found rfl
      exact Reading.fitsIn_of_decodeValue positive read
    case initialTwin =>
      refine Field.keepsAt_optionalField fun reading value current read held => ⟨held.1, ?_, held.3⟩
      rintro found rfl
      exact Reading.fitsIn_of_decodeValue positive read
    case registrationState =>
      refine Field.keepsAt_optionalField fun reading value current read held => ⟨held.1, held.2, ?_⟩
      rintro found rfl
      exact RegistrationState.isPrintable_of_decode (Reading.ne_null_of_decodeOption read).2
    · apply Field.Keeps.keepsAt
      exact Field.keeps_requiredField fun _ _ held => ⟨held.1, held.2, held.3⟩
    all_goals
      apply Field.Keeps.keepsAt
      exact Field.keeps_optionalField fun _ _ held => ⟨held.1, held.2, held.3⟩
  have start : (shape.empty).IsPrintable depth := by
    constructor <;> rintro _ ⟨⟩
  refine RecordShape.invariant_of_decode start ?_ decoded
  exact kept

/-- An enrollment that is nested less deep is fit for a reader that allows less. -/
theorem IsPrintable.of_nesting {enrollment : Enrollment} {depth allowed : Nat}
    (printable : enrollment.IsPrintable allowed) (nested : enrollment.toValue.nesting ≤ depth) :
    enrollment.IsPrintable depth := by
  have inner {value : Value} (index : Nat) {field : Json.Field Enrollment}
      (place : shape.fields[index]? = some field)
      (entry : enrollment.entries[index]? = some (some value)) : value.nesting < depth :=
    Nat.lt_of_lt_of_le (Value.nesting_lt_of_mem (mem_stated place entry)) nested
  refine ⟨fun value is => ?_, fun value is => ?_, printable.registrationState⟩
  · obtain ⟨states, fits⟩ := printable.attestation value is
    exact ⟨states, fits.sorted, inner 2 rfl (congrArg some is)⟩
  · obtain ⟨states, fits⟩ := printable.initialTwin value is
    exact ⟨states, fits.sorted, inner 4 rfl (congrArg some is)⟩

end Enrollment

end DeviceEnrollment
