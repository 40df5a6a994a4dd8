import DeviceEnrollment.Event
import DeviceEnrollment.Registry.Body

/-!
Bulk operations: which batches the service could report on, and its report brought into line
with the batch, one outcome for each item.
-/
namespace DeviceEnrollment.Registry

open Json

/-! ### Batches -/

/-- Looks through ids behind others that were seen already. -/
def checkIds (seen : List String) (index : Nat) : List String → Except InvalidArgument Unit
  | [] => .ok ()
  | id :: rest =>
    if id.isEmpty then .error (.emptyIdAt index)
    else if seen.contains id then .error (.repeatedId id)
    else checkIds (id :: seen) (index + 1) rest

/-- Batches have items, and each item an id of its own. -/
def checkBatch (batch : List Enrollment) : Except InvalidArgument Unit :=
  if batch.isEmpty then .error .emptyBatch
  else checkIds [] 0 (batch.map Enrollment.registrationId)

/-! ### Results -/

/-- Why an item failed, as far as the service says. -/
structure ItemError where
  code : Option String
  status : Option String
  message : Option String
deriving DecidableEq, Repr

structure ItemOutcome where
  registrationId : String
  error : Option ItemError
deriving DecidableEq, Repr

def ItemOutcome.isSuccess (outcome : ItemOutcome) : Bool := outcome.error.isNone

structure BulkResult where
  isSuccessful : Bool
  outcomes : List ItemOutcome
deriving DecidableEq, Repr

namespace BulkResult

def failures (result : BulkResult) : List ItemOutcome :=
  result.outcomes.filter (!·.isSuccess)

def outcome? (result : BulkResult) (registrationId : String) : Option ItemOutcome :=
  result.outcomes.find? (·.registrationId == registrationId)

end BulkResult

/-! ### Reports -/

/-- An item that the service reports as failed. -/
structure ReportedError where
  registrationId : String
  error : ItemError
deriving DecidableEq, Repr

namespace ReportedError

def empty : ReportedError := ⟨"", none, none, none⟩

def shape : RecordShape ReportedError :=
  { name := "WireItemError"
    empty
    fields := [
      requiredField "registrationId" decodeTextAt fun entry value =>
        { entry with registrationId := value },
      optionalField "errorCode" decodeErrorCode fun entry value =>
        { entry with error.code := value },
      optionalField "errorStatus" decodeTextAt fun entry value =>
        { entry with error.status := value },
      optionalField "errorMessage" decodeTextAt fun entry value =>
        { entry with error.message := value }] }

end ReportedError

/-- The body of a bulk response. -/
structure BulkReport where
  isSuccessful : Option Bool
  errors : Option (List ReportedError)
deriving DecidableEq, Repr

namespace BulkReport

def shape : RecordShape BulkReport :=
  { name := "WireResult"
    empty := ⟨none, none⟩
    fields := [
      { optionalField "isSuccessful" (fun _ reading => reading.decodeBool) fun report value =>
          { report with isSuccessful := value } with
        absence := .refusedInList },
      optionalField "errors"
        (fun depth reading => reading.decodeList ReportedError.shape.decode depth)
        fun report value => { report with errors := value }] }

def ofBytes (body : Bytes) : Decoded BulkReport := decodeDocument shape.decode body

/-- The verdict and the errors. A failure has to say which items failed. -/
def settle (report : BulkReport) : Except ProtocolFault (Bool × List ReportedError) :=
  match report.isSuccessful, report.errors with
  | none, _ => .error .missingVerdict
  | some isSuccessful, some errors => .ok (isSuccessful, errors)
  | some true, none => .ok (true, [])
  | some false, none => .error .unexplainedFailure

end BulkReport

/-! ### Alignment -/

/-- Errors that are looked for by id. No id has two of them. -/
structure ErrorTable where
  entries : List ReportedError
  distinct : (entries.map ReportedError.registrationId).Nodup

namespace ErrorTable

def empty : ErrorTable := ⟨[], List.nodup_nil⟩

def ids (table : ErrorTable) : List String := table.entries.map ReportedError.registrationId

def get? (table : ErrorTable) (id : String) : Option ItemError :=
  (table.entries.find? (·.registrationId == id)).map ReportedError.error

/-- Puts an error in unless its id has one already. -/
def insertNew (table : ErrorTable) (entry : ReportedError) : ErrorTable :=
  if held : entry.registrationId ∈ table.ids then table
  else
    { entries := entry :: table.entries
      distinct := List.nodup_cons.2 ⟨held, table.distinct⟩ }

/-- Takes the error of an id out. -/
def take (table : ErrorTable) (id : String) : Option ItemError × ErrorTable :=
  (table.get? id,
    { entries := table.entries.filter (·.registrationId != id)
      distinct := table.distinct.sublist (List.filter_sublist.map _) })

end ErrorTable

/-- Goes through the errors of a report: the first one for each known id is kept, and the ids that
are not known are dropped. -/
def collectErrors (known : List String) (table : ErrorTable) :
    List ReportedError → ErrorTable × List String
  | [] => (table, [])
  | entry :: rest =>
    if known.contains entry.registrationId then collectErrors known (table.insertNew entry) rest
    else
      let (collected, dropped) := collectErrors known table rest
      (collected, entry.registrationId :: dropped)

/-- One outcome for each item of a batch, in its order. Whoever comes first takes the error. -/
def alignErrors (table : ErrorTable) : List Enrollment → List ItemOutcome
  | [] => []
  | item :: rest =>
    let (error, left) := table.take item.registrationId
    ⟨item.registrationId, error⟩ :: alignErrors left rest

/-- The report of a body on a batch. -/
def readBulkReport (body : Bytes) : Outcome (Bool × List ReportedError) := do
  let report ← readBody .bulkResult BulkReport.ofBytes body
  match report.settle with
  | .ok settled => .ok settled
  | .error fault => .error (.protocol fault)

end DeviceEnrollment.Registry
