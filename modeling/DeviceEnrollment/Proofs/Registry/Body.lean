import DeviceEnrollment.Proofs.Steps
import DeviceEnrollment.Registry.Body

/-!
Bodies that were read: what a success says about the document, and that a printed object is never
taken for a missing body.
-/
namespace DeviceEnrollment.Registry

open Json

theorem decode_of_readBody {α : Type} {kind : BodyKind} {decode : Bytes → Decoded α} {body : Bytes}
    {value : α} (read : readBody kind decode body = .ok value) : decode body = .ok value := by
  unfold readBody at read
  split at read
  · cases read
  · split at read
    · next found decoded => rw [decoded, Except.ok.inj read]
    · cases read

theorem exists_fault_of_readBody {α : Type} {kind : BodyKind} {decode : Bytes → Decoded α}
    {body : Bytes} {error : RegistryError} (refused : readBody kind decode body = .error error) :
    ∃ fault, error = .protocol fault := by
  unfold readBody at refused
  split at refused
  · exact ⟨_, (Except.error.inj refused).symm⟩
  · split at refused
    · cases refused
    · exact ⟨_, (Except.error.inj refused).symm⟩

theorem ofBytes_of_readEnrollment {body : Bytes} {enrollment : Enrollment}
    (read : readEnrollment body = .ok enrollment) :
    Enrollment.ofBytes body = .ok enrollment ∧ enrollment.registrationId.isEmpty = false := by
  obtain ⟨found, decoded, checked⟩ := exists_of_bind_ok read
  split at checked
  · cases checked
  · next named =>
    cases Except.ok.inj checked
    exact ⟨decode_of_readBody decoded, Bool.eq_false_iff.2 named⟩

theorem readEnrollment_of_ofBytes {body : Bytes} {enrollment : Enrollment}
    (present : isMissing body = false) (decoded : Enrollment.ofBytes body = .ok enrollment)
    (named : enrollment.registrationId.isEmpty = false) :
    readEnrollment body = .ok enrollment := by
  have read : readBody .enrollment Enrollment.ofBytes body = .ok enrollment := by
    rw [readBody, if_neg (Bool.eq_false_iff.1 present), decoded]
  rw [readEnrollment, read, ok_bind, if_neg (Bool.eq_false_iff.1 named)]
  rfl

theorem isMissing_printObject (members : List (String × Bytes)) :
    isMissing (printObject members) = false := by
  have first : Bytes.isAsciiBlank 0x7B = false := rfl
  have last : Bytes.isAsciiBlank 0x7D = false := rfl
  have trimmed : Bytes.trimAscii (printObject members) = printObject members := by
    simp [Bytes.trimAscii, Bytes.trimWhere, printObject, first, last]
  rw [isMissing, trimmed]
  rfl

end DeviceEnrollment.Registry
