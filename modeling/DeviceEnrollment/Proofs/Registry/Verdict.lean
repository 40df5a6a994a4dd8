import DeviceEnrollment.Proofs.Registry.Alignment

/-!
The verdict of a bulk operation beside its items. The flag of a result is the one that the body
reports, and its failures are the items of the batch that an error of the body names; nothing
compares the two (`bulk_verdict`). So they agree exactly if the body agrees with itself.
-/
namespace DeviceEnrollment.Registry

/-- A report lists an error about an item of a batch. -/
def BulkReport.Blames (report : BulkReport) (batch : List Enrollment) : Prop :=
  ∃ entry ∈ report.errors.getD [], entry.registrationId ∈ batch.map Enrollment.registrationId

/-! ### Reports -/

/-- A report is settled by its own flag and its own errors, unless it has no flag, or is one of
failure and lists nothing at all. -/
theorem BulkReport.settle_eq_ok_iff {report : BulkReport} {verdict : Bool}
    {errors : List ReportedError} :
    report.settle = .ok (verdict, errors) ↔
      report.isSuccessful = some verdict ∧ report.errors.getD [] = errors ∧
        (verdict = false → report.errors ≠ none) := by
  obtain ⟨flag, listed⟩ := report
  rcases flag with _ | _ | _ <;> rcases listed with _ | listed <;> cases verdict <;>
    simp [settle]

/-! ### Results -/

section Response

variable {mode : BulkMode} {batch : List Enrollment} {response : Http.Response}
  {report : BulkReport}

theorem bulkResultOf_of_refused {error : RegistryError}
    (refused : readBody .bulkResult BulkReport.ofBytes response.body = .error error) :
    (bulkResultOf mode batch response).result = .error error := by
  have unread : readBulkReport response.body = .error error := by
    rw [readBulkReport, refused]
    rfl
  rw [bulkResultOf, unread]

theorem bulkResultOf_of_fault {fault : ProtocolFault}
    (read : readBody .bulkResult BulkReport.ofBytes response.body = .ok report)
    (unsettled : report.settle = .error fault) :
    (bulkResultOf mode batch response).result = .error (.protocol fault) := by
  have unread : readBulkReport response.body = .error (.protocol fault) := by
    rw [readBulkReport, read, ok_bind, unsettled]
  rw [bulkResultOf, unread]

theorem bulkResultOf_of_settle (accepted : checkBatch batch = .ok ()) {verdict : Bool}
    {errors : List ReportedError}
    (read : readBody .bulkResult BulkReport.ofBytes response.body = .ok report)
    (settled : report.settle = .ok (verdict, errors)) :
    (bulkResultOf mode batch response).result = .ok ⟨verdict, batch.map fun item =>
      ⟨item.registrationId, firstError? errors item.registrationId⟩⟩ := by
  have stated : readBulkReport response.body = .ok (verdict, errors) := by
    rw [readBulkReport, read, ok_bind, settled]
  rw [bulkResultOf, stated]
  simp only [outcomes_eq accepted]

end Response

/-- The items that fail are the ones that an error names. -/
theorem ids_failures (batch : List Enrollment) (verdict : Bool) (errors : List ReportedError) :
    (BulkResult.mk verdict (batch.map fun item =>
        ⟨item.registrationId, firstError? errors item.registrationId⟩)).failures.map
      ItemOutcome.registrationId =
      (batch.map Enrollment.registrationId).filter
        (· ∈ errors.map ReportedError.registrationId) := by
  have named : ∀ id, (firstError? errors id).isSome =
      decide (id ∈ errors.map ReportedError.registrationId) := by
    intro id
    rw [Bool.eq_iff_iff, isSome_firstError?_iff, decide_eq_true_iff, List.mem_map]
  simp only [BulkResult.failures, ItemOutcome.isSuccess, List.filter_map, List.map_map,
    Function.comp_def, Option.not_isNone, named]

theorem blames_iff_of_ids {batch : List Enrollment} {report : BulkReport}
    {failures : List ItemOutcome}
    (ids : failures.map ItemOutcome.registrationId =
      (batch.map Enrollment.registrationId).filter
        (· ∈ (report.errors.getD []).map ReportedError.registrationId)) :
    report.Blames batch ↔ failures ≠ [] := by
  have unfailed : failures = [] ↔ failures.map ItemOutcome.registrationId = [] :=
    List.map_eq_nil_iff.symm
  rw [Ne, unfailed, ids, List.filter_eq_nil_iff]
  simp only [decide_eq_true_eq, Classical.not_forall, Classical.not_not]
  constructor
  · rintro ⟨entry, listed, submitted⟩
    exact ⟨_, submitted, List.mem_map_of_mem listed⟩
  · rintro ⟨id, submitted, named⟩
    obtain ⟨entry, listed, rfl⟩ := List.mem_map.1 named
    exact ⟨entry, listed, submitted⟩

/-- How the outcome of a bulk operation goes with the body of a response of success. Left open is
whether a report of failure whose list names no item of the batch gives a result or breaks the
protocol. -/
structure IsVerdict (batch : List Enrollment) (body : Bytes) (outcome : Outcome BulkResult) :
    Prop where
  /-- There is a result, or else the body broke the protocol. -/
  settled : (∃ result, outcome = .ok result) ∨ ∃ fault, outcome = .error (.protocol fault)
  /-- A result has the flag of the report. Its failures are the items that the report blames, in
  the order of the batch, and flag and failures agree exactly if they do so in the report. -/
  reported : ∀ result, outcome = .ok result → ∃ report,
    readBody .bulkResult BulkReport.ofBytes body = .ok report ∧
      report.isSuccessful = some result.isSuccessful ∧
      result.failures.map ItemOutcome.registrationId =
        (batch.map Enrollment.registrationId).filter
          (· ∈ (report.errors.getD []).map ReportedError.registrationId) ∧
      ((result.isSuccessful = true ↔ result.failures = []) ↔
        (report.isSuccessful = some true ↔ ¬ report.Blames batch))
  undecided : ∀ report, readBody .bulkResult BulkReport.ofBytes body = .ok report →
    report.isSuccessful = none → outcome = .error (.protocol .missingVerdict)
  unexplained : ∀ report, readBody .bulkResult BulkReport.ofBytes body = .ok report →
    report.isSuccessful = some false → report.errors = none →
      outcome = .error (.protocol .unexplainedFailure)
  /-- A success stands as it is reported, whatever errors are listed beside it. -/
  passed : ∀ report, readBody .bulkResult BulkReport.ofBytes body = .ok report →
    report.isSuccessful = some true → ∃ result, outcome = .ok result ∧ result.isSuccessful = true
  /-- A failure stands if it blames an item. -/
  blamed : ∀ report, readBody .bulkResult BulkReport.ofBytes body = .ok report →
    report.isSuccessful = some false → report.Blames batch →
      ∃ result, outcome = .ok result ∧ result.isSuccessful = false

theorem isVerdict_bulkResultOf {batch : List Enrollment} (accepted : checkBatch batch = .ok ())
    (mode : BulkMode) (response : Http.Response) :
    IsVerdict batch response.body (bulkResultOf mode batch response).result := by
  cases read : readBody .bulkResult BulkReport.ofBytes response.body with
  | error error =>
    obtain ⟨fault, rfl⟩ := exists_fault_of_readBody read
    rw [bulkResultOf_of_refused read]
    constructor <;> simp [read]
  | ok report =>
    cases settle : report.settle with
    | error fault =>
      rw [bulkResultOf_of_fault read settle]
      obtain ⟨flag, listed⟩ := report
      rcases flag with _ | _ | _ <;> rcases listed with _ | listed <;> cases settle <;>
        constructor <;> simp [read, BulkReport.Blames]
    | ok settled =>
      obtain ⟨verdict, errors⟩ := settled
      obtain ⟨flag, rfl, listed⟩ := BulkReport.settle_eq_ok_iff.1 settle
      have ids := ids_failures batch verdict (report.errors.getD [])
      have blames := blames_iff_of_ids ids
      rw [bulkResultOf_of_settle accepted read settle]
      constructor
      case settled => exact .inl ⟨_, rfl⟩
      case reported =>
        rintro result same
        cases Except.ok.inj same
        refine ⟨report, read, flag, ids, ?_⟩
        rw [flag, blames, Classical.not_not]
        simp
      case undecided =>
        intro other same missing
        cases Except.ok.inj (read.symm.trans same)
        simp [flag] at missing
      case unexplained =>
        intro other same failed nothing
        cases Except.ok.inj (read.symm.trans same)
        exact absurd nothing (listed (by simpa [flag] using failed))
      case passed =>
        intro other same success
        cases Except.ok.inj (read.symm.trans same)
        exact ⟨_, rfl, by simpa [flag] using success⟩
      case blamed =>
        intro other same failed _
        cases Except.ok.inj (read.symm.trans same)
        exact ⟨_, rfl, by simpa [flag] using failed⟩

/-- An accepted batch makes a request, and a response of success to it decides about flag and items
as its body reports them. -/
theorem bulk_verdict {σ : Type} (transport : Transport σ) (state : σ) (mode : BulkMode)
    {batch : List Enrollment} (accepted : checkBatch batch = .ok ()) :
    ∃ request, (bulkOperation mode batch).request? = some request ∧
      ∀ response, (transport.send state request).answer = .ok response →
        response.status.isSuccess = true →
          IsVerdict batch response.body ((bulkOperation mode batch).run transport state).result := by
  refine ⟨⟨.post, [enrollmentCollection], .empty, mode.printRequest batch⟩, ?_, ?_⟩
  · rw [bulkOperation, accepted]
    rfl
  · intro response answer success
    have result : ((bulkOperation mode batch).run transport state).result =
        (bulkResultOf mode batch response).result := by
      rw [Plan.result_run, bulkOperation, accepted]
      simp only [Plan.withArgument, Plan.settledBy_send, answer, success, if_true]
    rw [result]
    exact isVerdict_bulkResultOf accepted mode response

/-- A report of success that lists a failed item. -/
def contradictoryReport : Http.Response :=
  { status := .ok
    headers := .empty
    body := Bytes.ofText
      "\x7b\"isSuccessful\":true,\"errors\":[\x7b\"registrationId\":\"a\"\x7d]\x7d" }

/-- The result succeeds although its only item failed. -/
theorem bulk_verdict_contradicted :
    checkBatch [.ofId "a"] = .ok () ∧
      ∃ result, ((bulkOperation .create [.ofId "a"]).run Script.transport
          (.ofAnswers [.ok contradictoryReport])).result = .ok result ∧
        result.isSuccessful = true ∧ result.failures = [⟨"a", some ⟨none, none, none⟩⟩] := by
  refine ⟨rfl, ⟨true, [⟨"a", some ⟨none, none, none⟩⟩]⟩, ?_, rfl, rfl⟩
  set_option maxRecDepth 20000 in rfl

/-- A report of failure that lists a failed item and one that nobody submitted. -/
def strayReport : Http.Response :=
  { status := .ok
    headers := .empty
    body := Bytes.ofText ("\x7b\"isSuccessful\":false,\"errors\":[" ++
      "\x7b\"registrationId\":\"zz\"\x7d,\x7b\"registrationId\":\"b\"\x7d]\x7d") }

theorem bulk_verdict_stray :
    checkBatch [.ofId "a", .ofId "b"] = .ok () ∧
      ∃ result, ((bulkOperation .create [.ofId "a", .ofId "b"]).run Script.transport
          (.ofAnswers [.ok strayReport])).result = .ok result ∧
        result.isSuccessful = false ∧
        result.failures = [⟨"b", some ⟨none, none, none⟩⟩] ∧
        IsVerdict [.ofId "a", .ofId "b"] strayReport.body (.ok result) := by
  have accepted : checkBatch [.ofId "a", .ofId "b"] = .ok () := rfl
  have done : ((bulkOperation .create [.ofId "a", .ofId "b"]).run Script.transport
      (.ofAnswers [.ok strayReport])).result =
        .ok ⟨false, [⟨"a", none⟩, ⟨"b", some ⟨none, none, none⟩⟩]⟩ := by
    set_option maxRecDepth 20000 in rfl
  obtain ⟨request, asked, decided⟩ := bulk_verdict Script.transport
    (.ofAnswers [.ok strayReport]) .create accepted
  have verdict := decided strayReport rfl rfl
  rw [done] at verdict
  exact ⟨accepted, _, done, rfl, rfl, verdict⟩

end DeviceEnrollment.Registry
