import DeviceEnrollment.Proofs.Enrollment.Printing
import DeviceEnrollment.Proofs.Json.Doubles

/-!
What is read from any printed enrollment: the same enrollment but for its opaque values, whose
doubles may be rounded and whose members may be put in order (`Enrollment.exists_copy`).
-/
namespace DeviceEnrollment

open Json

/-- Whether every number inside a value is one that a document can hold. -/
def Json.Value.IsRepresentable (value : Value) : Prop :=
  ∀ held, .number held ∈ value.inside → held.IsRepresentable

theorem Json.Value.IsRepresentable.hasReadableNumbers {value : Value}
    (representable : value.IsRepresentable) : value.HasReadableNumbers := by
  intro part among
  cases part with
  | number held => exact (representable held among).isReadable
  | _ => trivial

namespace Enrollment

/-- Whether an enrollment is one that a program can hold: every number inside its attestation and
its twin is an integer of 64 bits or a finite double, and the error code fits in 64 bits. -/
structure IsRepresentable (enrollment : Enrollment) : Prop where
  attestation : ∀ value, enrollment.attestation = some value → value.IsRepresentable
  initialTwin : ∀ value, enrollment.initialTwin = some value → value.IsRepresentable
  registrationState : ∀ state, enrollment.registrationState = some state → state.IsPrintable

variable {enrollment : Enrollment}

theorem IsRepresentable.hasReadableNumbers (representable : enrollment.IsRepresentable) :
    enrollment.toValue.HasReadableNumbers :=
  hasReadableNumbers_toValue
    (fun value is => (representable.attestation value is).hasReadableNumbers)
    (fun value is => (representable.initialTwin value is).hasReadableNumbers)
    representable.registrationState

/-- An opaque value is read as one value, or as none, by all readers that allow its nesting. -/
theorem exists_readsAs {entry : Option Value}
    (representable : ∀ value, entry = some value → value.IsRepresentable) :
    ∃ found, ∀ {depth : Nat}, (∀ value, entry = some value → value.nesting < depth) →
      ReadsAs depth entry found := by
  cases entry with
  | none => exact ⟨none, fun _ => ⟨fun _ => rfl, fun _ absent => by cases absent⟩⟩
  | some value =>
    have readable := (representable value rfl).hasReadableNumbers
    have reads {depth : Nat} {found : Option Value}
        (read : value.reading.decodeOption (decodeValue depth) = .ok found) :
        ReadsAs depth (some value) found := by
      refine ⟨fun absent => absurd absent (by simp), ?_⟩
      rintro _ ⟨⟩
      exact read
    by_cases stated : value = .null
    · subst stated
      exact ⟨none, fun _ => reads rfl⟩
    · obtain ⟨found, read⟩ := value.exists_value_reading readable
      refine ⟨some found, fun fits => reads (decodeOption_reading readable stated ?_)⟩
      rw [decodeValue, read (fits value rfl)]
      rfl

/-- An enrollment that is printed is read as itself but for its opaque values, by every reader that
allows its nesting. -/
theorem exists_copy (representable : enrollment.IsRepresentable) :
    ∃ copy : Enrollment, copy = { enrollment with
        attestation := copy.attestation, initialTwin := copy.initialTwin } ∧
      ∀ {depth : Nat}, enrollment.toValue.nesting < depth →
        shape.decode depth enrollment.toValue.reading = .ok copy := by
  obtain ⟨attestation, readsAttestation⟩ := exists_readsAs representable.attestation
  obtain ⟨initialTwin, readsTwin⟩ := exists_readsAs representable.initialTwin
  refine ⟨{ enrollment with attestation, initialTwin }, rfl, fun {depth} fits => ?_⟩
  obtain ⟨depth, rfl⟩ := Nat.exists_eq_add_of_le' (Nat.succ_le_of_lt (Nat.zero_lt_of_lt fits))
  have inner {value : Value} (index : Nat) {field : Json.Field Enrollment}
      (place : shape.fields[index]? = some field)
      (entry : enrollment.entries[index]? = some (some value)) : value.nesting < depth :=
    Nat.lt_of_lt_of_le (Value.nesting_lt_of_mem (mem_stated place entry)) (Nat.le_of_lt_succ fits)
  refine RecordShape.decode_stated isNamed_shape (Nat.zero_lt_of_lt (inner 0 rfl rfl)) <|
    fills_entries (fun state is => ⟨representable.registrationState state is, ?_⟩)
      (readsAttestation fun value is => inner 2 rfl (congrArg some is))
      (readsTwin fun value is => inner 4 rfl (congrArg some is))
  -- The state is an object of its own.
  have state : state.toValue.nesting < depth :=
    inner 6 rfl (congrArg some (congrArg (Option.map RegistrationState.toValue) is))
  exact Nat.lt_of_le_of_lt (Nat.le_add_left 1 _) state

end Enrollment

end DeviceEnrollment
