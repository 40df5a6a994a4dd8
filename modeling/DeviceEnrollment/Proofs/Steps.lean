/-!
Sequences of steps that may fail: what a success went through, and where a failure begins.
-/
namespace DeviceEnrollment

variable {ε α β : Type}

theorem ok_bind (value : α) (next : α → Except ε β) : (.ok value >>= next) = next value := rfl

theorem exists_of_bind_ok {first : Except ε α} {next : α → Except ε β} {result : β}
    (done : (first >>= next) = .ok result) :
    ∃ value, first = .ok value ∧ next value = .ok result := by
  cases first with
  | error fault => cases done
  | ok value => exact ⟨value, rfl, done⟩

theorem cases_of_bind_error {first : Except ε α} {next : α → Except ε β} {fault : ε}
    (failed : (first >>= next) = .error fault) :
    first = .error fault ∨ ∃ value, first = .ok value ∧ next value = .error fault := by
  cases first with
  | error other => exact .inl (congrArg _ (Except.error.inj failed))
  | ok value => exact .inr ⟨value, rfl, failed⟩

theorem exists_of_map_ok {f : α → β} {first : Except ε α} {result : β}
    (done : f <$> first = .ok result) : ∃ value, first = .ok value ∧ f value = result := by
  cases first with
  | error fault => cases done
  | ok value => exact ⟨value, rfl, Except.ok.inj done⟩

/-- What holds of nothing and not of a list is lost behind some first element. -/
theorem exists_first_failure (holds : List α → Prop) {items : List α} (start : holds [])
    (fails : ¬holds items) : ∃ front item back,
      items = front ++ item :: back ∧ holds front ∧ ¬holds (front ++ [item]) := by
  induction items generalizing holds with
  | nil => exact absurd start fails
  | cons first rest ih =>
    by_cases kept : holds [first]
    · obtain ⟨front, item, back, rfl, before, lost⟩ := ih (holds <| first :: ·) kept fails
      exact ⟨first :: front, item, back, rfl, before, lost⟩
    · exact ⟨[], first, rest, rfl, start, kept⟩

end DeviceEnrollment
