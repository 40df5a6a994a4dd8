import DeviceEnrollment.Http.Failure
import DeviceEnrollment.Http.Header

/-!
Bodies of responses as they arrive, frame by frame, and their collection up to a limit.
-/
namespace DeviceEnrollment.Http

inductive Frame where
  | data (chunk : Bytes)
  | trailers (headers : HeaderMap)
  /-- The connection broke. -/
  | broken (reason : String)
deriving DecidableEq, Repr

/-- Collects the data of frames behind what was collected before. -/
def collectFrames (limit : Nat) (collected : Bytes) : List Frame → Except Failure Bytes
  | [] => .ok collected
  | .broken reason :: _ => .error (.transport reason)
  | .trailers _ :: rest => collectFrames limit collected rest
  | .data chunk :: rest =>
    let total := collected.length + chunk.length
    if total > limit then .error (.bodyTooLarge limit total)
    else collectFrames limit (collected ++ chunk) rest

end DeviceEnrollment.Http
