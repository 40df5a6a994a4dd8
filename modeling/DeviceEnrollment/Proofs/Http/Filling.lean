import DeviceEnrollment.Http.Executor

/-!
Headers that are filled in one after another. A name that has values keeps them, a name without any
gets the one that is meant for it, and all other names are left alone (`Injection.fillsGaps`). What
comes of it does not depend on the order of injections for different names, nor on whether they are
done again.
-/
namespace DeviceEnrollment.Http

namespace Injection

/-- Fills in one value after the other. -/
def fillAll (injections : List Injection) (headers : HeaderMap) : HeaderMap :=
  injections.foldl (fun headers injection => injection.fill headers) headers

/-- The value that is meant for a name. -/
def valueFor? (injections : List Injection) (name : HeaderName) : Option HeaderValue :=
  (injections.find? fun injection => injection.name = name).map Injection.value

variable {injections : List Injection} {headers : HeaderMap} {name : HeaderName}

theorem fillAll_cons (injection : Injection) (rest : List Injection) (headers : HeaderMap) :
    fillAll (injection :: rest) headers = fillAll rest (injection.fill headers) := rfl

theorem fillAll_append (first second : List Injection) (headers : HeaderMap) :
    fillAll (first ++ second) headers = fillAll second (fillAll first headers) :=
  List.foldl_append

/-- A name has the values that it had, or else the one that is meant for it. -/
theorem values_fillAll (injections : List Injection) (headers : HeaderMap) (name : HeaderName) :
    (fillAll injections headers).values name =
      if headers.values name = [] then (valueFor? injections name).toList
      else headers.values name := by
  induction injections generalizing headers with
  | nil =>
    show headers.values name = if headers.values name = [] then [] else headers.values name
    split
    · assumption
    · rfl
  | cons injection rest ih =>
    rw [fillAll_cons, ih, fill, HeaderMap.values_insertNew]
    by_cases own : injection.name = name
    · subst own
      by_cases absent : headers.values injection.name = []
      · simp [absent, valueFor?]
      · simp [absent]
    · simp [own, valueFor?]

theorem fill_of_values {injection : Injection} (held : headers.values injection.name ≠ []) :
    injection.fill headers = headers := by
  rw [fill, HeaderMap.insertNew, if_pos ((HeaderMap.contains_iff_values_ne_nil _ _).2 held)]

theorem fillAll_of_values (held : ∀ injection ∈ injections, headers.values injection.name ≠ []) :
    fillAll injections headers = headers := by
  induction injections with
  | nil => rfl
  | cons injection rest ih =>
    obtain ⟨own, others⟩ := List.forall_mem_cons.1 held
    rw [fillAll_cons, fill_of_values own, ih others]

theorem exists_valueFor? {injection : Injection} (among : injection ∈ injections) :
    ∃ value, valueFor? injections injection.name = some value := by
  have found : (injections.find? fun other => other.name = injection.name).isSome := by
    rw [List.find?_isSome]
    exact ⟨injection, among, by simp⟩
  obtain ⟨first, is⟩ := Option.isSome_iff_exists.1 found
  exact ⟨first.value, by rw [valueFor?, is]; rfl⟩

/-- Filling in again changes nothing. -/
theorem fillAll_fillAll (injections : List Injection) (headers : HeaderMap) :
    fillAll injections (fillAll injections headers) = fillAll injections headers := by
  refine fillAll_of_values fun injection among => ?_
  obtain ⟨value, meant⟩ := exists_valueFor? among
  rw [values_fillAll, meant]
  split
  · simp
  · assumption

theorem valueFor?_of_mem (distinct : (injections.map Injection.name).Nodup) {injection : Injection}
    (among : injection ∈ injections) :
    valueFor? injections injection.name = some injection.value := by
  induction injections with
  | nil => cases among
  | cons first rest ih =>
    obtain ⟨own, others⟩ := List.nodup_cons.1 distinct
    rcases List.mem_cons.1 among with rfl | behind
    · simp [valueFor?]
    · have differs : first.name ≠ injection.name :=
        fun same => own (same ▸ List.mem_map_of_mem behind)
      have later := ih others behind
      simp only [valueFor?] at later ⊢
      rw [List.find?_cons_of_neg (by simpa using differs), later]

theorem valueFor?_eq_none (foreign : ∀ injection ∈ injections, injection.name ≠ name) :
    valueFor? injections name = none := by
  rw [valueFor?, Option.map_eq_none_iff, List.find?_eq_none]
  simpa using foreign

/-- Injections for different names can be done in either order. -/
theorem values_fillAll_comm {first second : List Injection}
    (apart : ∀ injection ∈ first, ∀ other ∈ second, injection.name ≠ other.name)
    (headers : HeaderMap) (name : HeaderName) :
    (fillAll first (fillAll second headers)).values name =
      (fillAll second (fillAll first headers)).values name := by
  have either : valueFor? first name = none ∨ valueFor? second name = none := by
    by_cases among : ∃ injection ∈ first, injection.name = name
    · obtain ⟨injection, held, rfl⟩ := among
      refine .inr (valueFor?_eq_none fun other heldOther => ?_)
      exact (apart injection held other heldOther).symm
    · exact .inl (valueFor?_eq_none fun injection held same => among ⟨injection, held, same⟩)
  simp only [values_fillAll]
  by_cases held : headers.values name = []
  · rcases either with nothing | nothing
    · cases valueFor? second name <;> simp [held, nothing]
    · cases valueFor? first name <;> simp [held, nothing]
  · simp [held]

/-- How headers that were filled in go with those that were there before. -/
structure FillsGaps (injections : List Injection) (before after : HeaderMap) : Prop where
  /-- Nothing is put in front of what was there, or between. -/
  ahead : before.entries <+: after.entries
  kept : ∀ name, before.values name ≠ [] → after.values name = before.values name
  filled : ∀ injection ∈ injections, before.values injection.name = [] →
    after.values injection.name = [injection.value]
  untouched : ∀ name, (∀ injection ∈ injections, injection.name ≠ name) →
    after.values name = before.values name

theorem entries_prefix_fillAll (injections : List Injection) (headers : HeaderMap) :
    headers.entries <+: (fillAll injections headers).entries := by
  induction injections generalizing headers with
  | nil => exact List.prefix_rfl
  | cons injection rest ih =>
    refine List.IsPrefix.trans ?_ (ih (injection.fill headers))
    rw [fill, HeaderMap.insertNew]
    split
    · exact List.prefix_rfl
    · exact List.prefix_append _ _

theorem fillsGaps (distinct : (injections.map Injection.name).Nodup) (headers : HeaderMap) :
    FillsGaps injections headers (fillAll injections headers) where
  ahead := entries_prefix_fillAll injections headers
  kept name held := by rw [values_fillAll, if_neg held]
  filled injection among absent := by
    rw [values_fillAll, if_pos absent, valueFor?_of_mem distinct among]
    rfl
  untouched name foreign := by
    rw [values_fillAll, valueFor?_eq_none foreign]
    split
    · next absent => rw [absent]; rfl
    · rfl

end Injection

end DeviceEnrollment.Http
