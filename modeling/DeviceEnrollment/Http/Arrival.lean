import DeviceEnrollment.Http.Executor

/-!
How the reply of a server arrives at an executor. A server writes a head, which says where the body
ends, and the body in one piece or in chunks. The head is read within limits, the body comes in
frames, and an encoding that is understood is undone on the way.
-/
namespace DeviceEnrollment.Http

namespace HeaderName

def connection : HeaderName := ⟨"connection"⟩
def contentEncoding : HeaderName := ⟨"content-encoding"⟩
def transferEncoding : HeaderName := ⟨"transfer-encoding"⟩

/-- Whether a header is about the connection or about the end of the body. -/
def isFraming (name : HeaderName) : Bool :=
  name = connection || name = contentLength || name = transferEncoding

end HeaderName

/-- Whether a response with this status has no body, whatever its head says. -/
def Status.isBodiless (status : Status) : Bool := status.code = 204 || status.code = 304

/-! ### What a server writes -/

/-- A body as it is written. A chunk without bytes would be the end of the body. -/
inductive Payload where
  | whole (body : Bytes)
  | chunked (chunks : List Bytes) (filled : ∀ chunk ∈ chunks, chunk ≠ [])

namespace Payload

def pieces : Payload → List Bytes
  | whole body => [body]
  | chunked chunks _ => chunks

def bytes (payload : Payload) : Bytes := payload.pieces.flatten

end Payload

structure Reply where
  status : Status
  /-- What comes before the final response is no reply yet. -/
  final : 200 ≤ status.code
  headers : HeaderMap
  payload : Payload

namespace Reply

def response (reply : Reply) : Response := ⟨reply.status, reply.headers, reply.payload.bytes⟩

/-- The headers that a server adds. The connection is not used again. -/
def framing (reply : Reply) : HeaderMap :=
  let closing := HeaderMap.empty.append .connection (.ofVisible "close")
  match reply.payload with
  | .whole body =>
    if reply.status.isBodiless then closing else closing.append .contentLength (.ofNat body.length)
  | .chunked _ _ => closing.append .transferEncoding (.ofVisible "chunked")

def written (reply : Reply) : HeaderMap := ⟨reply.headers.entries ++ reply.framing.entries⟩

end Reply

/-! ### What a client reads -/

def isPadding (byte : UInt8) : Bool := byte == 0x20 || byte == 0x09

def HeaderValue.unpadded (value : HeaderValue) : HeaderValue :=
  { value with
    bytes := Bytes.trimWhere isPadding value.bytes
    legal := by
      rw [List.all_eq_true]
      intro byte member
      exact List.all_eq_true.1 value.legal byte (Bytes.mem_of_mem_trimWhere member) }

def HeaderMap.unpadded (headers : HeaderMap) : HeaderMap :=
  ⟨headers.entries.map fun entry => (entry.1, entry.2.unpadded)⟩

def HeaderMap.without (headers : HeaderMap) (name : HeaderName) : HeaderMap :=
  ⟨headers.entries.filter fun entry => entry.1 ≠ name⟩

/-- The encodings of bodies that are understood. -/
inductive Coding where
  | gzip
  | deflate
  | br
deriving DecidableEq, Repr

namespace Coding

def name : Coding → String
  | gzip => "gzip"
  | deflate => "deflate"
  | br => "br"

/-- The coding of exactly this name. -/
def ofValue? (value : HeaderValue) : Option Coding :=
  [gzip, deflate, br].find? fun coding => Bytes.ofText coding.name == value.bytes

end Coding

/-- What lies between a server and an executor. -/
structure Connection where
  /-- Whether a head is within the limits of those who read it. -/
  admits : HeaderMap → Bool
  /-- The parts in which bytes arrive. -/
  cut : Bytes → List Bytes
  flatten_cut : ∀ bytes, (cut bytes).flatten = bytes
  /-- The frames of an encoded body when they are decoded. -/
  decode : Coding → List Frame → List Frame

namespace Connection

/-- Undoes the encoding of a body. Its headers go with it. -/
def decompress (connection : Connection) (headers : HeaderMap) (frames : List Frame) :
    HeaderMap × List Frame :=
  match headers.first? .contentEncoding >>= Coding.ofValue? with
  | none => (headers, frames)
  | some coding =>
    ((headers.without .contentEncoding).without .contentLength, connection.decode coding frames)

def frames (connection : Connection) (reply : Reply) : List Frame :=
  if reply.status.isBodiless then []
  else (reply.payload.pieces.flatMap connection.cut).map .data

def headRefused : String := "client error (SendRequest)"

/-- What comes of a reply that is there in time. -/
def arrival (connection : Connection) (reply : Reply) : WireAnswer :=
  if connection.admits reply.written then
    let (headers, frames) := connection.decompress reply.written.unpadded (connection.frames reply)
    .response reply.status headers frames
  else .failed headRefused

end Connection

end DeviceEnrollment.Http
