import DeviceEnrollment.Json.Value
import DeviceEnrollment.Time.Instant

/-!
Enrollments: how one device identity is admitted by the provisioning service. The registration
id is the key of a record; versions, times and the registration state belong to the service, and
attestation and twin are carried as they are.
-/
namespace DeviceEnrollment

/-- The version of a record. Only equality and emptiness mean anything. -/
structure ETag where
  text : String
deriving DecidableEq, Repr

def ETag.isEmpty (etag : ETag) : Bool := etag.text.isEmpty

/-- Where a query goes on. -/
structure ContinuationToken where
  text : String
deriving DecidableEq, Repr

structure QuerySpecification where
  text : String
deriving DecidableEq, Repr

/-- What the owner of a device wants. -/
inductive ProvisioningStatus where
  | enabled
  | disabled
deriving DecidableEq, Repr

/-- How far a registration has come. -/
inductive RegistrationStatus where
  | unassigned
  | assigning
  | assigned
  | failed
  | disabled
  | unknown
deriving DecidableEq, Repr

/-- What the service last saw of a device. -/
structure RegistrationState where
  registrationId : Option String
  createdTime : Option Time.Instant
  assignedHub : Option String
  deviceId : Option String
  status : Option RegistrationStatus
  errorCode : Option Int
  errorMessage : Option String
  lastUpdatedTime : Option Time.Instant
  etag : Option ETag
deriving DecidableEq, Repr

def RegistrationState.empty : RegistrationState :=
  ⟨none, none, none, none, none, none, none, none, none⟩

structure Enrollment where
  registrationId : String
  deviceId : Option String
  attestation : Option Json.Value
  iotHubHostName : Option String
  initialTwin : Option Json.Value
  provisioningStatus : Option ProvisioningStatus
  registrationState : Option RegistrationState
  etag : Option ETag
  createdTime : Option Time.Instant
  lastUpdatedTime : Option Time.Instant
deriving Repr, BEq

namespace Enrollment

/-- An enrollment with its key alone. -/
def ofId (registrationId : String) : Enrollment :=
  ⟨registrationId, none, none, none, none, none, none, none, none, none⟩

def withAttestation (enrollment : Enrollment) (attestation : Json.Value) : Enrollment :=
  { enrollment with attestation := some attestation }

def withETag (enrollment : Enrollment) (etag : ETag) : Enrollment :=
  { enrollment with etag := some etag }

def withStatus (enrollment : Enrollment) (status : ProvisioningStatus) : Enrollment :=
  { enrollment with provisioningStatus := some status }

/-- The version that a write insists on. An empty one counts as none. -/
def conditionalETag? (enrollment : Enrollment) : Option ETag :=
  enrollment.etag.filter fun etag => !etag.isEmpty

end Enrollment

/-- What a bulk operation does to each of its items. -/
inductive BulkMode where
  | create
  | update
  | updateIfMatchETag
  | delete
deriving DecidableEq, Repr

def BulkMode.name : BulkMode → String
  | create => "Create"
  | update => "Update"
  | updateIfMatchETag => "UpdateIfMatchETag"
  | delete => "Delete"

end DeviceEnrollment
