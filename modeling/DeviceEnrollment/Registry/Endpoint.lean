import DeviceEnrollment.Registry.Client
import DeviceEnrollment.Url.Parser

/-!
The endpoint of the service, and the addresses of the resources below it.
-/
namespace DeviceEnrollment.Registry

/-- Reads an endpoint. Query and fragment are dropped. -/
def parseEndpoint (endpoint : String) : Except InvalidArgument Url.WebUrl :=
  let trimmed := Text.trim endpoint
  if trimmed.isEmpty then .error .emptyEndpoint
  else
    match Url.parse trimmed with
    | .error error => .error (.badEndpoint trimmed error)
    | .ok none => .error (.foreignEndpoint trimmed)
    | .ok (some url) => .ok { url with query := none }

/-- The service as it is reached over the web. -/
structure Service where
  endpoint : Url.WebUrl
  apiVersion : String
deriving DecidableEq, Repr

namespace Service

def versionName : String := "api-version"

def unaddressableSegment (segment : String) : TransportFailure :=
  .ofText s!"path segment '{segment}' cannot be addressed"

/-- The address of a resource. Each segment stays one segment, so those that cannot are
refused. -/
def urlFor (service : Service) (segments : List String) : Except TransportFailure Url.WebUrl :=
  match segments.find? isUnaddressable with
  | some segment => .error (unaddressableSegment segment)
  | none => .ok ((service.endpoint.extend segments).withPair versionName service.apiVersion)

end Service

end DeviceEnrollment.Registry
