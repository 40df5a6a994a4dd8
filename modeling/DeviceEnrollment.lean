import DeviceEnrollment.Configuration.Load
import DeviceEnrollment.Registry.Session
import DeviceEnrollment.Registry.Web
import DeviceEnrollment.Proofs.Registry.Segments
import DeviceEnrollment.Proofs.Registry.Addressing
import DeviceEnrollment.Proofs.Registry.Cursor
import DeviceEnrollment.Proofs.Registry.Accounting
import DeviceEnrollment.Proofs.Registry.Paging
import DeviceEnrollment.Proofs.Json.Members
import DeviceEnrollment.Proofs.Registry.Versioning
import DeviceEnrollment.Proofs.Registry.Exhaustion
import DeviceEnrollment.Proofs.Registry.Streaming
import DeviceEnrollment.Proofs.Registry.Alignment
import DeviceEnrollment.Proofs.Digits
import DeviceEnrollment.Proofs.Enrollment.Printing
import DeviceEnrollment.Proofs.Registry.Transparency
import DeviceEnrollment.Proofs.Registry.Restoring
import DeviceEnrollment.Proofs.Registry.Keys
import DeviceEnrollment.Proofs.Registry.Verdict
import DeviceEnrollment.Proofs.Registry.Frame
import DeviceEnrollment.Proofs.Registry.Secrecy
import DeviceEnrollment.Proofs.Enrollment.Echo
import DeviceEnrollment.Proofs.Registry.Retrying
import DeviceEnrollment.Proofs.Http.Admission
import DeviceEnrollment.Proofs.Http.Scheme
import DeviceEnrollment.Proofs.Registry.PlainText
import DeviceEnrollment.Proofs.Registry.Trust
import DeviceEnrollment.Proofs.Http.Target
import DeviceEnrollment.Proofs.Url.Address
import DeviceEnrollment.Proofs.Url.Printed
import DeviceEnrollment.Proofs.Registry.Reach
import DeviceEnrollment.Proofs.Registry.Messages
import DeviceEnrollment.Proofs.Registry.Dressing
import DeviceEnrollment.Proofs.Registry.Conditions
import DeviceEnrollment.Proofs.Http.BodyLimit
import DeviceEnrollment.Proofs.Http.RetryAfter
import DeviceEnrollment.Proofs.Registry.Batches
