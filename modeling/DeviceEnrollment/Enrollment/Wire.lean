import DeviceEnrollment.Enrollment.Basic
import DeviceEnrollment.Json.Decode

/-!
Enrollments as JSON. Fields are written in one order, absent ones left out; they are read in any
order, `null` standing for an absent field and unknown members being passed over.
-/
namespace DeviceEnrollment

open Json

/-! ### Names on the wire -/

def ProvisioningStatus.wireName : ProvisioningStatus → String
  | enabled => "enabled"
  | disabled => "disabled"

def ProvisioningStatus.variants : List (String × ProvisioningStatus) :=
  [enabled, disabled].map fun status => (status.wireName, status)

def RegistrationStatus.wireName : RegistrationStatus → String
  | unassigned => "unassigned"
  | assigning => "assigning"
  | assigned => "assigned"
  | failed => "failed"
  | disabled => "disabled"
  | unknown => "unknown"

def RegistrationStatus.variants : List (String × RegistrationStatus) :=
  [unassigned, assigning, assigned, failed, disabled, unknown].map fun status =>
    (status.wireName, status)

def BulkMode.wireName : BulkMode → String
  | create => "create"
  | update => "update"
  | updateIfMatchETag => "updateIfMatchETag"
  | delete => "delete"

def BulkMode.variants : List (String × BulkMode) :=
  [create, update, updateIfMatchETag, delete].map fun mode => (mode.wireName, mode)

/-! ### Reading -/

namespace Json

variable {draft α : Type}

/-- A field that may be absent or `null`. -/
def optionalField (name : String) (decode : Nat → Reading → Decoded α)
    (set : draft → Option α → draft) : Field draft :=
  { name, aliases := [], absence := .allowed
    decode := fun depth reading current => do
      return set current (← reading.decodeOption (decode depth)) }

/-- A field that has to be there. -/
def requiredField (name : String) (decode : Nat → Reading → Decoded α)
    (set : draft → α → draft) : Field draft :=
  { name, aliases := [], absence := .refused
    decode := fun depth reading current => do return set current (← decode depth reading) }

def decodeTextAt (_ : Nat) (reading : Reading) : Decoded String := reading.decodeText

def decodeValue (depth : Nat) (reading : Reading) : Decoded Value := faulty (reading.value depth)

def decodeInstant (_ : Nat) (reading : Reading) : Decoded Time.Instant :=
  match reading with
  | .text written => do
    match Time.Instant.parse (← faulty written.read) with
    | .ok instant => .ok instant
    | .error error => .error (.refused error.message)
  | other => .error (mismatch other.shape "an RFC 3339 formatted date and time string")

end Json

def ETag.decode (depth : Nat) (reading : Reading) : Decoded ETag :=
  ETag.mk <$> decodeTextAt depth reading

def ProvisioningStatus.decode (depth : Nat) (reading : Reading) : Decoded ProvisioningStatus :=
  reading.decodeVariant variants none depth

/-- Names that are not known stand for an unknown status. -/
def RegistrationStatus.decode (depth : Nat) (reading : Reading) : Decoded RegistrationStatus :=
  reading.decodeVariant variants (some unknown) depth

def BulkMode.decode (depth : Nat) (reading : Reading) : Decoded BulkMode :=
  reading.decodeVariant variants none depth

def QuerySpecification.shape : RecordShape QuerySpecification :=
  { name := "QuerySpecification"
    empty := ⟨""⟩
    fields := [requiredField "query" decodeTextAt fun _ text => ⟨text⟩] }

def RegistrationState.shape : RecordShape RegistrationState :=
  { name := "RegistrationState"
    empty := .empty
    fields := [
      optionalField "registrationId" decodeTextAt fun state value =>
        { state with registrationId := value },
      optionalField "createdDateTimeUtc" decodeInstant fun state value =>
        { state with createdTime := value },
      optionalField "assignedHub" decodeTextAt fun state value =>
        { state with assignedHub := value },
      optionalField "deviceId" decodeTextAt fun state value => { state with deviceId := value },
      optionalField "status" RegistrationStatus.decode fun state value =>
        { state with status := value },
      optionalField "errorCode" (fun _ => Reading.decodeInt) fun state value =>
        { state with errorCode := value },
      optionalField "errorMessage" decodeTextAt fun state value =>
        { state with errorMessage := value },
      optionalField "lastUpdatedDateTimeUtc" decodeInstant fun state value =>
        { state with lastUpdatedTime := value },
      optionalField "etag" ETag.decode fun state value => { state with etag := value }] }

def Enrollment.shape : RecordShape Enrollment :=
  { name := "Enrollment"
    empty := .ofId ""
    fields := [
      requiredField "registrationId" decodeTextAt fun enrollment value =>
        { enrollment with registrationId := value },
      optionalField "deviceId" decodeTextAt fun enrollment value =>
        { enrollment with deviceId := value },
      optionalField "attestation" decodeValue fun enrollment value =>
        { enrollment with attestation := value },
      optionalField "iotHubHostName" decodeTextAt fun enrollment value =>
        { enrollment with iotHubHostName := value },
      optionalField "initialTwin" decodeValue fun enrollment value =>
        { enrollment with initialTwin := value },
      optionalField "provisioningStatus" ProvisioningStatus.decode fun enrollment value =>
        { enrollment with provisioningStatus := value },
      optionalField "registrationState" RegistrationState.shape.decode fun enrollment value =>
        { enrollment with registrationState := value },
      optionalField "etag" ETag.decode fun enrollment value => { enrollment with etag := value },
      optionalField "createdDateTimeUtc" decodeInstant fun enrollment value =>
        { enrollment with createdTime := value },
      optionalField "lastUpdatedDateTimeUtc" decodeInstant fun enrollment value =>
        { enrollment with lastUpdatedTime := value }] }

/-- Reads the document of one enrollment. -/
def Enrollment.ofBytes (bytes : Bytes) : Decoded Enrollment :=
  decodeDocument Enrollment.shape.decode bytes

/-- Reads the document of a list of enrollments. -/
def Enrollment.listOfBytes (bytes : Bytes) : Decoded (List Enrollment) :=
  decodeDocument (fun depth reading => reading.decodeList Enrollment.shape.decode depth) bytes

/-! ### Writing -/

/-- A member that is written if it has a value. -/
def Json.optionalMember {α : Type} (name : String) (print : α → Bytes) (value : Option α) :
    Option (String × Bytes) :=
  value.map fun value => (name, print value)

def Json.printInstant (instant : Time.Instant) : Bytes := printText instant.text

def Json.printInt (value : Int) : Bytes := printNumber (.integer value)

def ETag.print (etag : ETag) : Bytes := printText etag.text

def QuerySpecification.print (specification : QuerySpecification) : Bytes :=
  printObject [("query", printText specification.text)]

def RegistrationState.members (state : RegistrationState) : List (String × Bytes) :=
  [ optionalMember "registrationId" printText state.registrationId,
    optionalMember "createdDateTimeUtc" printInstant state.createdTime,
    optionalMember "assignedHub" printText state.assignedHub,
    optionalMember "deviceId" printText state.deviceId,
    optionalMember "status" (fun status => printText status.wireName) state.status,
    optionalMember "errorCode" printInt state.errorCode,
    optionalMember "errorMessage" printText state.errorMessage,
    optionalMember "lastUpdatedDateTimeUtc" printInstant state.lastUpdatedTime,
    optionalMember "etag" ETag.print state.etag ].filterMap id

def RegistrationState.print (state : RegistrationState) : Bytes := printObject state.members

def Enrollment.members (enrollment : Enrollment) : List (String × Bytes) :=
  [ some ("registrationId", printText enrollment.registrationId),
    optionalMember "deviceId" printText enrollment.deviceId,
    optionalMember "attestation" Value.print enrollment.attestation,
    optionalMember "iotHubHostName" printText enrollment.iotHubHostName,
    optionalMember "initialTwin" Value.print enrollment.initialTwin,
    optionalMember "provisioningStatus" (fun status => printText status.wireName)
      enrollment.provisioningStatus,
    optionalMember "registrationState" RegistrationState.print enrollment.registrationState,
    optionalMember "etag" ETag.print enrollment.etag,
    optionalMember "createdDateTimeUtc" printInstant enrollment.createdTime,
    optionalMember "lastUpdatedDateTimeUtc" printInstant enrollment.lastUpdatedTime ].filterMap id

def Enrollment.print (enrollment : Enrollment) : Bytes := printObject enrollment.members

/-- The body of a bulk operation. -/
def BulkMode.printRequest (mode : BulkMode) (enrollments : List Enrollment) : Bytes :=
  printObject [
    ("mode", printText mode.wireName),
    ("enrollments", printList (enrollments.map Enrollment.print))]

end DeviceEnrollment
