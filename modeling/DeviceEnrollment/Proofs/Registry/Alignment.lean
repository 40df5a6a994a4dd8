import DeviceEnrollment.Proofs.Registry.Batches
import DeviceEnrollment.Proofs.Registry.Body
import DeviceEnrollment.Proofs.Registry.Plan
import DeviceEnrollment.Registry.Client

/-!
Bulk results beside the reports that they are made of. A batch that is accepted names each id once,
so that taking errors out of a table gives every item the first error that names it, and every
error of a report is found again in an outcome or in the log (`bulk_alignment`).
-/
namespace DeviceEnrollment.Registry

/-! ### Tables of errors -/

/-- The first error that names an id. -/
def firstError? (errors : List ReportedError) (id : String) : Option ItemError :=
  (errors.find? (·.registrationId == id)).map ReportedError.error

namespace ErrorTable

theorem get?_empty (id : String) : empty.get? id = none := rfl

theorem get?_eq_none_of_not_mem {table : ErrorTable} {id : String} (free : id ∉ table.ids) :
    table.get? id = none := by
  rw [get?, Option.map_eq_none_iff, List.find?_eq_none]
  intro entry member same
  exact free (List.mem_map.2 ⟨entry, member, eq_of_beq same⟩)

theorem exists_get?_of_mem {table : ErrorTable} {id : String} (held : id ∈ table.ids) :
    ∃ error, table.get? id = some error := by
  obtain ⟨entry, member, same⟩ := List.mem_map.1 held
  have found : (table.entries.find? (·.registrationId == id)).isSome := by
    rw [List.find?_isSome]
    exact ⟨entry, member, by simp [same]⟩
  obtain ⟨first, here⟩ := Option.isSome_iff_exists.1 found
  exact ⟨first.error, by rw [get?, here]; rfl⟩

/-- An error that is put in is found under its id, unless there was one before. -/
theorem get?_insertNew (table : ErrorTable) (entry : ReportedError) (id : String) :
    (table.insertNew entry).get? id =
      (table.get? id).or (if entry.registrationId = id then some entry.error else none) := by
  unfold insertNew
  split
  · next held =>
    by_cases same : entry.registrationId = id
    · obtain ⟨error, found⟩ := exists_get?_of_mem (same ▸ held)
      rw [found]
      rfl
    · rw [if_neg same, Option.or_none]
  · next free =>
    by_cases same : entry.registrationId = id
    · have unnamed := get?_eq_none_of_not_mem (same ▸ free : id ∉ table.ids)
      rw [unnamed]
      simp [get?, same]
    · simp [get?, same]

/-- Taking the error of one id out leaves those of the others. -/
theorem get?_take_of_ne (table : ErrorTable) {id other : String} (differs : other ≠ id) :
    (table.take id).2.get? other = table.get? other := by
  simp only [take, get?, List.find?_filter]
  congr 2
  funext entry
  by_cases same : entry.registrationId = other
  · simp [same, differs]
  · simp [same]

end ErrorTable

/-! ### Going through a report and through a batch -/

/-- Under a known id stands what stood there before, else the first error that names it. -/
theorem get?_collectErrors (known : List String) (table : ErrorTable)
    (errors : List ReportedError) {id : String} (submitted : id ∈ known) :
    (collectErrors known table errors).1.get? id =
      (table.get? id).or (firstError? errors id) := by
  induction errors generalizing table with
  | nil => simp [collectErrors, firstError?]
  | cons entry rest ih =>
    rw [collectErrors]
    split
    · rw [ih, ErrorTable.get?_insertNew, Option.or_assoc]
      by_cases same : entry.registrationId = id
      · simp [firstError?, same]
      · simp [firstError?, same]
    · next stray =>
      have differs : entry.registrationId ≠ id := by
        rintro rfl
        simp [submitted] at stray
      simp only [ih]
      simp [firstError?, differs]

theorem dropped_collectErrors (known : List String) (table : ErrorTable)
    (errors : List ReportedError) :
    (collectErrors known table errors).2 =
      (errors.map ReportedError.registrationId).filter (· ∉ known) := by
  induction errors generalizing table with
  | nil => rfl
  | cons entry rest ih =>
    rw [collectErrors]
    by_cases submitted : entry.registrationId ∈ known
    · simp only [List.contains_iff_mem, if_pos submitted, ih]
      simp [submitted]
    · simp only [List.contains_iff_mem, if_neg submitted, ih]
      simp [submitted]

/-- As long as no id comes twice, every item finds the error that stood in the table from the
beginning. -/
theorem alignErrors_eq_map {batch : List Enrollment}
    (distinct : (batch.map Enrollment.registrationId).Nodup) (table : ErrorTable) :
    alignErrors table batch =
      batch.map fun item => ⟨item.registrationId, table.get? item.registrationId⟩ := by
  induction batch generalizing table with
  | nil => rfl
  | cons item rest ih =>
    obtain ⟨apart, later⟩ := List.nodup_cons.1 distinct
    -- No item behind this one has its id, so its error is taken from none of them.
    have kept : ∀ other ∈ rest, (table.take item.registrationId).2.get? other.registrationId =
        table.get? other.registrationId := by
      intro other member
      apply ErrorTable.get?_take_of_ne
      exact fun same => apart (same ▸ List.mem_map_of_mem member)
    calc
      _ = ⟨item.registrationId, table.get? item.registrationId⟩ ::
          alignErrors (table.take item.registrationId).2 rest := rfl
      _ = _ := by
        rw [ih later, List.map_cons]
        congr 1
        apply List.map_congr_left
        intro other member
        rw [kept other member]

/-! ### Results -/

/-- The id that an event says was dropped. -/
def droppedId? : Event → Option String
  | .errorDropped id => some id
  | _ => none

/-- How a result and the events of its making go with a batch and the errors of a report. -/
structure IsAligned (batch : List Enrollment) (errors : List ReportedError) (result : BulkResult)
    (events : List Event) : Prop where
  /-- One outcome for each item, in the order of the batch. -/
  ids : result.outcomes.map ItemOutcome.registrationId = batch.map Enrollment.registrationId
  /-- An outcome has an error exactly if one names its id. -/
  failed : ∀ outcome ∈ result.outcomes, outcome.error.isSome = true ↔
    ∃ entry ∈ errors, entry.registrationId = outcome.registrationId
  /-- The error of an outcome is the first one that names its id. -/
  first : ∀ outcome ∈ result.outcomes, ∀ error, outcome.error = some error ↔
    ∃ before entry after, errors = before ++ entry :: after ∧
      (∀ other ∈ before, other.registrationId ≠ outcome.registrationId) ∧
      entry.registrationId = outcome.registrationId ∧ entry.error = error
  /-- The outcome of an id is found exactly if the id was submitted. -/
  found : ∀ id, (∃ outcome, result.outcome? id = some outcome) ↔
    id ∈ batch.map Enrollment.registrationId
  /-- What is found under an id is the outcome of this id. -/
  own : ∀ id outcome, result.outcome? id = some outcome →
    outcome ∈ result.outcomes ∧ outcome.registrationId = id
  /-- The failures are the outcomes with an error, in the order of the batch. -/
  failures : result.failures.Sublist result.outcomes ∧ ∀ outcome,
    outcome ∈ result.failures ↔ outcome ∈ result.outcomes ∧ outcome.error.isSome = true
  /-- An error belongs to an outcome, or comes behind another one for its id, or names an id that
  was not submitted. -/
  accounted : ∀ before entry after, errors = before ++ entry :: after →
    ⟨entry.registrationId, some entry.error⟩ ∈ result.outcomes ∨
      (∃ other ∈ before, other.registrationId = entry.registrationId) ∨
      entry.registrationId ∉ batch.map Enrollment.registrationId
  /-- Each error for an id that was not submitted is logged once, in order, and no other one is. -/
  logged : events.filterMap droppedId? =
    (errors.map ReportedError.registrationId).filter
      (· ∉ batch.map Enrollment.registrationId)

/-- The result of an accepted batch: each item has the first error that names it. -/
theorem outcomes_eq {batch : List Enrollment}
    (accepted : checkBatch batch = .ok ()) (errors : List ReportedError) :
    alignErrors (collectErrors (batch.map Enrollment.registrationId) .empty errors).1 batch =
      batch.map fun item =>
        ⟨item.registrationId, firstError? errors item.registrationId⟩ := by
  rw [alignErrors_eq_map (checkBatch_eq_ok_iff.1 accepted).2.distinct]
  apply List.map_congr_left
  intro item member
  rw [get?_collectErrors _ _ _ (List.mem_map_of_mem member), ErrorTable.get?_empty, Option.none_or]

theorem firstError?_eq_some_iff {errors : List ReportedError} {id : String} {error : ItemError} :
    firstError? errors id = some error ↔
      ∃ before entry after, errors = before ++ entry :: after ∧
        (∀ other ∈ before, other.registrationId ≠ id) ∧
        entry.registrationId = id ∧ entry.error = error := by
  simp only [firstError?, Option.map_eq_some_iff, List.find?_eq_some_iff_append]
  constructor
  · rintro ⟨entry, ⟨same, before, after, split, fresh⟩, rfl⟩
    exact ⟨before, entry, after, split, by simpa using fresh, by simpa using same, rfl⟩
  · rintro ⟨before, entry, after, split, fresh, same, rfl⟩
    exact ⟨entry, ⟨by simpa using same, before, after, split, by simpa using fresh⟩, rfl⟩

theorem isSome_firstError?_iff {errors : List ReportedError} {id : String} :
    (firstError? errors id).isSome = true ↔ ∃ entry ∈ errors, entry.registrationId = id := by
  simp [firstError?, List.find?_isSome]

/-- A response that gives a bulk result holds a report, and the result is made of its errors. -/
theorem of_bulkResultOf {mode : BulkMode} {batch : List Enrollment} {response : Http.Response}
    {result : BulkResult} (got : (bulkResultOf mode batch response).result = .ok result) :
    ∃ report, BulkReport.ofBytes response.body = .ok report ∧
      let collected := collectErrors (batch.map Enrollment.registrationId) .empty
        (report.errors.getD [])
      result.outcomes = alignErrors collected.1 batch ∧
        (bulkResultOf mode batch response).events =
          collected.2.map .errorDropped ++
            [.bulkCompleted mode batch.length result.failures.length result.isSuccessful] := by
  unfold bulkResultOf at got ⊢
  split at got
  · cases got
  · next isSuccessful errors read =>
    obtain ⟨report, stated, settled⟩ := exists_of_bind_ok read
    refine ⟨report, decode_of_readBody stated, ?_⟩
    have same : errors = report.errors.getD [] := by
      obtain ⟨verdict, listed⟩ := report
      unfold BulkReport.settle at settled
      rcases verdict with _ | _ | _ <;> rcases listed with _ | _ <;> simp at settled
      all_goals simp [← settled]
    cases Except.ok.inj got
    subst same
    exact ⟨rfl, rfl⟩

theorem filterMap_droppedId? (ids : List String) (mode : BulkMode) (items failed : Nat)
    (isSuccessful : Bool) :
    (ids.map Event.errorDropped ++
      [Event.bulkCompleted mode items failed isSuccessful]).filterMap droppedId? = ids := by
  induction ids with
  | nil => rfl
  | cons id rest ih =>
    rw [List.map_cons, List.cons_append, List.filterMap_cons, droppedId?, ih]

/-- Outcomes that are the first errors of their ids are aligned with a batch. -/
theorem isAligned_of_outcomes {batch : List Enrollment} {errors : List ReportedError}
    {result : BulkResult} {events : List Event}
    (outcomes : result.outcomes = batch.map fun item =>
      ⟨item.registrationId, firstError? errors item.registrationId⟩)
    (logged : events.filterMap droppedId? =
      (errors.map ReportedError.registrationId).filter
        (· ∉ batch.map Enrollment.registrationId)) : IsAligned batch errors result events := by
  have stated : ∀ outcome ∈ result.outcomes,
      outcome.error = firstError? errors outcome.registrationId := by
    intro outcome member
    rw [outcomes] at member
    obtain ⟨item, _, rfl⟩ := List.mem_map.1 member
    rfl
  have ids : result.outcomes.map ItemOutcome.registrationId =
      batch.map Enrollment.registrationId := by
    rw [outcomes, List.map_map]
    rfl
  constructor
  case ids => exact ids
  case failed =>
    intro outcome member
    rw [stated outcome member, isSome_firstError?_iff]
  case first =>
    intro outcome member error
    rw [stated outcome member, firstError?_eq_some_iff]
  case found =>
    intro id
    rw [← ids, ← Option.isSome_iff_exists, BulkResult.outcome?, List.find?_isSome]
    simp
  case own =>
    intro id outcome found
    exact ⟨List.mem_of_find?_eq_some found, by simpa using List.find?_some found⟩
  case failures =>
    refine ⟨List.filter_sublist, fun outcome => ?_⟩
    simp [BulkResult.failures, ItemOutcome.isSuccess, List.mem_filter]
  case accounted =>
    intro before entry after split
    by_cases submitted : entry.registrationId ∈ batch.map Enrollment.registrationId
    · by_cases repeated : ∃ other ∈ before, other.registrationId = entry.registrationId
      · exact .inr (.inl repeated)
      · left
        obtain ⟨item, member, same⟩ := List.mem_map.1 submitted
        have first : firstError? errors item.registrationId = some entry.error := by
          rw [firstError?_eq_some_iff]
          refine ⟨before, entry, after, split, fun other held named => ?_, same.symm, rfl⟩
          exact repeated ⟨other, held, named.trans same⟩
        rw [outcomes]
        exact List.mem_map.2 ⟨item, member, by rw [first, same]⟩
    · exact .inr (.inr submitted)
  case logged => exact logged

/-- A bulk operation that gives a result got a response of success, and the result is aligned with
the batch by the errors that the body of this response reports. What the operation logs behind the
events of the transport says which errors were dropped. -/
theorem bulk_alignment {σ : Type} (transport : Transport σ) (state : σ) (mode : BulkMode)
    (batch : List Enrollment) {result : BulkResult}
    (done : ((bulkOperation mode batch).run transport state).result = .ok result) :
    ∃ request response report events,
      (bulkOperation mode batch).request? = some request ∧
        (transport.send state request).answer = .ok response ∧
        response.status.isSuccess = true ∧
        BulkReport.ofBytes response.body = .ok report ∧
        ((bulkOperation mode batch).run transport state).events =
          (transport.send state request).events ++ events ∧
        IsAligned batch (report.errors.getD []) result events := by
  unfold bulkOperation Plan.withArgument at done ⊢
  split at done
  · cases done
  · next accepted =>
    obtain ⟨response, answer, success, read, events⟩ := Plan.of_run_send done
    obtain ⟨report, stated, outcomes, logs⟩ := of_bulkResultOf read
    refine ⟨_, response, report, _, rfl, answer, success, stated, events, ?_⟩
    apply isAligned_of_outcomes
    · rw [outcomes]
      exact outcomes_eq accepted _
    · rw [logs, List.filterMap_cons]
      simp only [droppedId?]
      rw [filterMap_droppedId?]
      exact dropped_collectErrors _ _ _

/-- A report of two errors about `c` and one about an id that nobody submitted. -/
def repeatedReport : Http.Response :=
  { status := .ok
    headers := .empty
    body := Bytes.ofText ("\x7b\"isSuccessful\":false,\"errors\":[" ++
      "\x7b\"registrationId\":\"c\",\"errorCode\":409201\x7d," ++
      "\x7b\"registrationId\":\"zz\"\x7d," ++
      "\x7b\"registrationId\":\"c\",\"errorStatus\":\"Later\"\x7d]\x7d") }

/-- The first error about `c` is the one that counts, and the stray one is logged. -/
theorem bulk_alignment_repeated :
    let result : BulkResult :=
      ⟨false, [⟨"a", none⟩, ⟨"c", some ⟨some "409201", none, none⟩⟩]⟩
    ((bulkOperation .create [.ofId "a", .ofId "c"]).run Script.transport
        (.ofAnswers [.ok repeatedReport])).result = .ok result ∧
      ∃ report events, BulkReport.ofBytes repeatedReport.body = .ok report ∧
        IsAligned [.ofId "a", .ofId "c"] (report.errors.getD []) result events ∧
        events.filterMap droppedId? = ["zz"] := by
  intro result
  have done : ((bulkOperation .create [.ofId "a", .ofId "c"]).run Script.transport
      (.ofAnswers [.ok repeatedReport])).result = .ok result := by
    set_option maxRecDepth 20000 in rfl
  obtain ⟨request, response, report, events, _, answer, _, stated, _, aligned⟩ :=
    bulk_alignment Script.transport (.ofAnswers [.ok repeatedReport]) .create
      [.ofId "a", .ofId "c"] done
  cases answer
  have errors : BulkReport.ofBytes repeatedReport.body = .ok ⟨some false, some [
      ⟨"c", some "409201", none, none⟩, ⟨"zz", none, none, none⟩,
      ⟨"c", none, some "Later", none⟩]⟩ := by
    set_option maxRecDepth 20000 in rfl
  cases Except.ok.inj (stated.symm.trans errors)
  exact ⟨done, _, events, stated, aligned, aligned.logged⟩

end DeviceEnrollment.Registry
