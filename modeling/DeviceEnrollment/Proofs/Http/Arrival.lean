import DeviceEnrollment.Proofs.Http.BodyLimit
import DeviceEnrollment.Proofs.Http.Header

/-!
Replies that arrive as they were written: their headers keep their values, and however a body is cut
on its way, an executor collects the bytes that were sent (`conclude_arrival`).
-/
namespace DeviceEnrollment

theorem Bytes.trimWhere_eq_self {drop : UInt8 → Bool} {bytes : Bytes}
    (first : ∀ byte, bytes.head? = some byte → drop byte = false)
    (last : ∀ byte, bytes.getLast? = some byte → drop byte = false) :
    trimWhere drop bytes = bytes := by
  have stays : ∀ part : Bytes, (∀ byte, part.head? = some byte → drop byte = false) →
      part.dropWhile drop = part := by
    intro part kept
    cases part with
    | nil => rfl
    | cons byte rest => simp [kept byte rfl]
  rw [trimWhere, stays bytes first, stays, List.reverse_reverse]
  rw [List.head?_reverse]
  exact last

namespace Http

/-! ### Bodies -/

theorem Connection.flatten_flatMap_cut (connection : Connection) (pieces : List Bytes) :
    (pieces.flatMap connection.cut).flatten = pieces.flatten := by
  induction pieces with
  | nil => rfl
  | cons piece rest ih =>
    rw [List.flatMap_cons, List.flatten_append, connection.flatten_cut, ih, List.flatten_cons]

/-! ### Headers -/

theorem HeaderMap.values_unpadded (headers : HeaderMap) (name : HeaderName) :
    headers.unpadded.values name = (headers.values name).map HeaderValue.unpadded := by
  simp [unpadded, values, List.filter_map, Function.comp_def]

/-- Whether there is no padding around a value. -/
def HeaderValue.IsBare (value : HeaderValue) : Prop :=
  ∀ byte, value.bytes.head? = some byte ∨ value.bytes.getLast? = some byte → isPadding byte = false

instance (value : HeaderValue) : Decidable value.IsBare :=
  let ends := value.bytes.head?.toList ++ value.bytes.getLast?.toList
  decidable_of_iff (ends.all fun byte => !isPadding byte)
    (by simp [ends, HeaderValue.IsBare, or_imp, forall_and])

theorem HeaderValue.IsBare.unpadded {value : HeaderValue} (bare : value.IsBare) :
    value.unpadded = value := by
  have same : Bytes.trimWhere isPadding value.bytes = value.bytes :=
    Bytes.trimWhere_eq_self (fun byte first => bare byte (.inl first))
      fun byte last => bare byte (.inr last)
  obtain ⟨bytes, legal, sensitive⟩ := value
  simp only [HeaderValue.unpadded] at same ⊢
  simp [same]

namespace Reply

theorem values_framing {name : HeaderName} (spoken : name.isFraming = false) (reply : Reply) :
    reply.framing.values name = [] := by
  simp only [HeaderName.isFraming, Bool.or_eq_false_iff, decide_eq_false_iff_not] at spoken
  obtain ⟨⟨connection, length⟩, encoding⟩ := spoken
  have closing : (HeaderMap.empty.append .connection (.ofVisible "close")).values name = [] := by
    rw [HeaderMap.values_append, if_neg (Ne.symm connection)]
    rfl
  unfold framing
  cases reply.payload with
  | whole body =>
    simp only
    split
    · exact closing
    · rw [HeaderMap.values_append, closing, if_neg (Ne.symm length)]
      rfl
  | chunked chunks filled =>
    simp only
    rw [HeaderMap.values_append, closing, if_neg (Ne.symm encoding)]
    rfl

/-- A reply that says nothing about framing and encoding, and a body where its status allows one. -/
structure IsPlain (reply : Reply) : Prop where
  bare : ∀ entry ∈ reply.headers.entries, entry.2.IsBare
  unframed : ∀ entry ∈ reply.headers.entries, entry.1.isFraming = false
  uncoded : reply.headers.values .contentEncoding = []
  bodiless : reply.status.isBodiless = true → reply.payload.bytes = []

/-- The headers of a reply are read as they were given. -/
theorem IsPlain.values_unpadded {reply : Reply} (plain : reply.IsPlain) {name : HeaderName}
    (spoken : name.isFraming = false) :
    reply.written.unpadded.values name = reply.headers.values name := by
  have written : reply.written.values name = reply.headers.values name := by
    have added := values_framing spoken reply
    unfold HeaderMap.values at added ⊢
    rw [Reply.written, List.filter_append, List.map_append, added, List.append_nil]
  have kept : ∀ value ∈ reply.headers.values name, value.unpadded = value := by
    intro value member
    obtain ⟨entry, among, rfl⟩ := List.mem_map.1 member
    exact (plain.bare entry (List.mem_filter.1 among).1).unpadded
  rw [HeaderMap.values_unpadded, written]
  calc (reply.headers.values name).map HeaderValue.unpadded
    _ = (reply.headers.values name).map id := List.map_congr_left kept
    _ = reply.headers.values name := List.map_id _

end Reply

/-! ### Replies -/

namespace Connection

/-- Whether a reply is one that arrives whole: its head is within the limits of who reads it, and
its body within those of the executor. -/
structure Carries (connection : Connection) (limit : Nat) (reply : Reply) : Prop where
  plain : reply.IsPlain
  admitted : connection.admits reply.written = true
  fits : reply.payload.bytes.length ≤ limit

variable {connection : Connection} {limit : Nat} {reply : Reply}

theorem Carries.arrival_eq (carries : connection.Carries limit reply) :
    connection.arrival reply =
      .response reply.status reply.written.unpadded (connection.frames reply) := by
  have uncoded : reply.written.unpadded.first? .contentEncoding = none := by
    rw [HeaderMap.first?_eq_head?_values, carries.plain.values_unpadded (by decide),
      carries.plain.uncoded]
    rfl
  rw [arrival, if_pos carries.admitted, decompress, uncoded]
  rfl

/-- The frames of a reply are its body, in parts. -/
theorem Carries.join_frames (carries : connection.Carries limit reply) :
    Frame.join (connection.frames reply) = reply.payload.bytes := by
  unfold frames
  cases bodiless : reply.status.isBodiless with
  | true => simp [Frame.join, carries.plain.bodiless bodiless]
  | false => rw [if_neg (by simp), Frame.join_data, connection.flatten_flatMap_cut, Payload.bytes]

theorem Carries.fit (carries : connection.Carries limit reply) :
    Frame.Fit limit (connection.frames reply) where
  whole frame member := by
    unfold frames at member
    split at member
    · cases member
    · obtain ⟨_, _, rfl⟩ := List.mem_map.1 member
      rfl
  within := carries.join_frames ▸ carries.fits

/-- What an executor makes of the arrival of a reply is the response in it. -/
theorem conclude_arrival {executor : Executor}
    (carries : connection.Carries executor.maxBodySize reply) :
    executor.conclude (connection.arrival reply) =
      .ok ⟨reply.status, reply.written.unpadded, reply.payload.bytes⟩ := by
  rw [carries.arrival_eq, Executor.conclude_eq_ok_iff, carries.join_frames]
  exact ⟨carries.fit, rfl⟩

end Connection

end Http

end DeviceEnrollment
