import DeviceEnrollment.Enrollment.Wire
import DeviceEnrollment.Http.Message
import DeviceEnrollment.Registry.Error

/-!
What the bodies of responses say: enrollments, pages of them, and the reasons of failures.
-/
namespace DeviceEnrollment.Registry

open Json

def nullBody : Bytes := Bytes.ofText "null"

/-- Whether there is nothing in a body but blanks or `null`. -/
def isMissing (body : Bytes) : Bool :=
  let trimmed := Bytes.trimAscii body
  trimmed.isEmpty || trimmed == nullBody

/-- Reads a body that has to be there. -/
def readBody {α : Type} (kind : BodyKind) (decode : Bytes → Decoded α) (body : Bytes) :
    Outcome α :=
  if isMissing body then .error (.protocol (.missingBody kind))
  else
    match decode body with
    | .ok value => .ok value
    | .error error => .error (.protocol (.malformed kind error))

/-- Reads one enrollment, which has to have its key. -/
def readEnrollment (body : Bytes) : Outcome Enrollment := do
  let enrollment ← readBody .enrollment Enrollment.ofBytes body
  if enrollment.registrationId.isEmpty then .error (.protocol .emptyRegistrationId)
  else return enrollment

/-- Reads a page of enrollments. -/
def readPage (body : Bytes) : Outcome (List Enrollment) :=
  readBody .queryPage Enrollment.listOfBytes body

/-! ### Failures -/

/-- Codes are numbers or texts, and kept as texts. -/
def decodeErrorCode (depth : Nat) (reading : Reading) : Decoded String := do
  match ← decodeValue depth reading with
  | .text text => return text
  | .number (.integer value) =>
    if Reading.fitsInt64 value then return String.ofList (Number.text (.integer value))
    else .error unknownCode
  | _ => .error unknownCode
where
  unknownCode : DecodeError :=
    .refused "data did not match any variant of untagged enum Code"

/-- The body of a failure, all of it optional. -/
structure ErrorReport where
  code : Option String
  message : Option String
  errorMessage : Option String
  trackingId : Option String
deriving DecidableEq, Repr

namespace ErrorReport

def empty : ErrorReport := ⟨none, none, none, none⟩

def shape : RecordShape ErrorReport :=
  { name := "ErrorBody"
    empty
    fields := [
      optionalField "errorCode" decodeErrorCode fun report value => { report with code := value },
      optionalField "message" decodeTextAt fun report value => { report with message := value },
      { optionalField "errorMessage" decodeTextAt fun report value =>
          { report with errorMessage := value } with
        aliases := ["Message"] },
      optionalField "trackingId" decodeTextAt fun report value =>
        { report with trackingId := value }] }

/-- The report of a body, and an empty one for any other body. -/
def ofBytes (body : Bytes) : ErrorReport :=
  match decodeDocument shape.decode body with
  | .ok report => report
  | .error _ => empty

/-- The first message that is there, unless it is empty. -/
def message? (report : ErrorReport) : Option String :=
  (report.message.or report.errorMessage).filter (!·.isEmpty)

end ErrorReport

/-- What a response of failure says. Without a message it is its status line that speaks. -/
def ServiceError.ofResponse (response : Http.Response) : ServiceError :=
  let report := ErrorReport.ofBytes response.body
  { status := response.status
    code := report.code
    message := report.message?.getD response.status.line
    trackingId := report.trackingId
    retryAfter := Http.RetryHint.ofHeaders? response.headers }

end DeviceEnrollment.Registry
