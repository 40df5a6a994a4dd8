import DeviceEnrollment.Http.Arrival
import DeviceEnrollment.Proofs.Steps

/-!
How much of a body is read. Frames are collected as long as they are whole and within a limit all
together, and the first frame that is not so decides what the response fails with (`body_limit`).
-/
namespace DeviceEnrollment.Http

/-! ### Frames -/

namespace Frame

/-- The part of the body that a frame carries. -/
def bytes : Frame → Bytes
  | data chunk => chunk
  | trailers _ => []
  | broken _ => []

/-- The part of the body that frames carry together. -/
def join (frames : List Frame) : Bytes := frames.flatMap bytes

def isWhole : Frame → Bool
  | broken _ => false
  | _ => true

theorem join_append (front back : List Frame) : join (front ++ back) = join front ++ join back :=
  List.flatMap_append

theorem join_singleton (frame : Frame) : join [frame] = frame.bytes := List.flatMap_singleton _ _

/-- Whether frames came through without a break and stay within a limit. -/
structure Fit (limit : Nat) (frames : List Frame) : Prop where
  whole : ∀ frame ∈ frames, frame.isWhole = true
  within : (join frames).length ≤ limit

variable {limit : Nat} {front : List Frame}

theorem fit_nil (limit : Nat) : Fit limit [] := ⟨by simp, Nat.zero_le _⟩

theorem Fit.concat (fit : Fit limit front) {frame : Frame} (whole : frame.isWhole = true)
    (within : (join (front ++ [frame])).length ≤ limit) : Fit limit (front ++ [frame]) where
  whole other member := by
    rcases List.mem_append.1 member with before | last
    · exact fit.whole other before
    · rw [List.mem_singleton.1 last]
      exact whole
  within := within

theorem join_data (parts : List Bytes) : join (parts.map data) = parts.flatten := by
  rw [join, List.flatMap_map, ← List.flatMap_id]
  rfl

/-- How a frame that does not fit any more ends the reading of what is in front of it. -/
inductive Ends (limit : Nat) (front : List Frame) : Frame → Failure → Prop
  | broken (reason : String) : Ends limit front (.broken reason) (.transport reason)
  | tooLarge (chunk : Bytes) (exceeds : limit < (join (front ++ [.data chunk])).length) :
    Ends limit front (.data chunk) (.bodyTooLarge limit (join (front ++ [.data chunk])).length)

/-- Frames that do not fit have a first one behind which they do not. -/
theorem exists_ends {frames : List Frame} (unfit : ¬Fit limit frames) :
    ∃ front frame back failure,
      frames = front ++ frame :: back ∧ Fit limit front ∧ Ends limit front frame failure := by
  obtain ⟨front, frame, back, split, fit, lost⟩ := exists_first_failure (Fit limit) (fit_nil limit) unfit
  cases frame with
  | broken reason => exact ⟨front, _, back, _, split, fit, .broken reason⟩
  | trailers headers =>
    -- Trailers carry nothing, so they cannot be the first that does not fit.
    refine absurd (fit.concat rfl ?_) lost
    simpa [join_append, join_singleton, bytes] using fit.within
  | data chunk =>
    have exceeds := Nat.lt_of_not_le fun within => lost (fit.concat rfl within)
    exact ⟨front, _, back, _, split, fit, .tooLarge chunk exceeds⟩

end Frame

/-! ### Collecting -/

open Http.Frame

variable {limit : Nat} {front : List Frame}

/-- One frame that fits is collected, and the others are collected behind it. -/
theorem collectFrames_cons {collected : Bytes} {frame : Frame} (whole : frame.isWhole = true)
    (within : collected.length + frame.bytes.length ≤ limit) (rest : List Frame) :
    collectFrames limit collected (frame :: rest) =
      collectFrames limit (collected ++ frame.bytes) rest := by
  cases frame with
  | broken reason => cases whole
  | trailers headers => rw [collectFrames, bytes, List.append_nil]
  | data chunk =>
    have fits : ¬collected.length + chunk.length > limit := Nat.not_lt.2 within
    rw [collectFrames, if_neg fits]
    rfl

/-- Frames that fit are collected, and the others are collected behind them. -/
theorem collectFrames_append {collected : Bytes} (whole : ∀ frame ∈ front, frame.isWhole = true)
    (within : collected.length + (join front).length ≤ limit) (rest : List Frame) :
    collectFrames limit collected (front ++ rest) =
      collectFrames limit (collected ++ join front) rest := by
  induction front generalizing collected with
  | nil => rw [List.nil_append, join, List.flatMap_nil, List.append_nil]
  | cons frame front ih =>
    have parts : join (frame :: front) = frame.bytes ++ join front := List.flatMap_cons
    rw [parts, List.length_append] at within
    rw [List.cons_append, collectFrames_cons (whole frame List.mem_cons_self) (by omega),
      ih (fun other member => whole other (List.mem_cons_of_mem _ member))
        (by rw [List.length_append]; omega), parts, List.append_assoc]

theorem collectFrames_of_fit {frames : List Frame} (fit : Fit limit frames) :
    collectFrames limit [] frames = .ok (join frames) := by
  have within : ([] : Bytes).length + (join frames).length ≤ limit := by simpa using fit.within
  simpa [collectFrames] using collectFrames_append fit.whole within []

theorem collectFrames_of_ends {frame : Frame} {failure : Failure} (fit : Fit limit front)
    (ends : Ends limit front frame failure) (back : List Frame) :
    collectFrames limit [] (front ++ frame :: back) = .error failure := by
  rw [collectFrames_append fit.whole (by simpa using fit.within)]
  cases ends with
  | broken reason => rfl
  | tooLarge chunk exceeds =>
    rw [join_append, join_singleton, bytes, List.length_append] at exceeds ⊢
    rw [List.nil_append, collectFrames, if_pos exceeds]

theorem collectFrames_eq_ok_iff {frames : List Frame} {body : Bytes} :
    collectFrames limit [] frames = .ok body ↔ Fit limit frames ∧ body = join frames := by
  constructor
  · intro collected
    by_cases fit : Fit limit frames
    · exact ⟨fit, Except.ok.inj (collected.symm.trans (collectFrames_of_fit fit))⟩
    · obtain ⟨front, frame, back, failure, rfl, before, ends⟩ := exists_ends fit
      cases collected.symm.trans (collectFrames_of_ends before ends back)
  · rintro ⟨fit, rfl⟩
    exact collectFrames_of_fit fit

theorem collectFrames_eq_error_iff {frames : List Frame} {failure : Failure} :
    collectFrames limit [] frames = .error failure ↔ ∃ front frame back,
      frames = front ++ frame :: back ∧ Fit limit front ∧ Ends limit front frame failure := by
  constructor
  · intro refused
    by_cases fit : Fit limit frames
    · cases refused.symm.trans (collectFrames_of_fit fit)
    · obtain ⟨front, frame, back, found, rfl, before, ends⟩ := exists_ends fit
      cases refused.symm.trans (collectFrames_of_ends before ends back)
      exact ⟨front, frame, back, rfl, before, ends⟩
  · rintro ⟨front, frame, back, rfl, before, ends⟩
    exact collectFrames_of_ends before ends back

/-! ### Responses -/

namespace Executor

variable {executor : Executor}

theorem conclude_eq_ok_iff {status : Status} {headers : HeaderMap} {frames : List Frame}
    {response : Response} :
    executor.conclude (.response status headers frames) = .ok response ↔
      Fit executor.maxBodySize frames ∧ response = ⟨status, headers, join frames⟩ := by
  constructor
  · intro concluded
    obtain ⟨body, collected, whole⟩ := exists_of_bind_ok concluded
    obtain ⟨fit, rfl⟩ := collectFrames_eq_ok_iff.1 collected
    exact ⟨fit, (Except.ok.inj whole).symm⟩
  · rintro ⟨fit, rfl⟩
    rw [conclude, collectFrames_of_fit fit]
    rfl

theorem conclude_eq_error_iff {status : Status} {headers : HeaderMap} {frames : List Frame}
    {failure : Failure} :
    executor.conclude (.response status headers frames) = .error failure ↔
      ∃ front frame back, frames = front ++ frame :: back ∧
        Fit executor.maxBodySize front ∧ Ends executor.maxBodySize front frame failure := by
  rw [← collectFrames_eq_error_iff, conclude]
  cases collectFrames executor.maxBodySize [] frames with
  | ok body =>
    constructor
    · intro never
      cases never
    · intro never
      cases never
  | error found =>
    constructor
    · exact fun same => congrArg Except.error (Except.error.inj same)
    · exact fun same => congrArg Except.error (Except.error.inj same)

/-- Whatever the network answers, no response comes of it with a body beyond the limit. -/
theorem length_body_le {answer : WireAnswer} {response : Response}
    (concluded : executor.conclude answer = .ok response) :
    response.body.length ≤ executor.maxBodySize := by
  cases answer with
  | failed reason => cases concluded
  | late => cases concluded
  | response status headers frames =>
    obtain ⟨fit, rfl⟩ := conclude_eq_ok_iff.1 concluded
    exact fit.within

/-- A request that got a response was sent, and the response is made of the answer to it. -/
theorem exists_conclude_of_execute {network : Network} {request : Outgoing} {response : Response}
    (got : (executor.execute network request).result = .ok response) :
    ∃ answer, executor.conclude answer = .ok response := by
  unfold execute at got
  split at got
  · cases got
  · split at got
    · exact ⟨_, got⟩
    · cases got

/-- A response whose head is there is passed on with its status, its headers and the data of its
frames exactly if all frames came through and fit the limit together; otherwise the first frame
that does not fit decides. The parts in which a whole body comes do not matter. What a request gets
is never longer than the limit, which is one on the data behind any encoding. -/
theorem body_limit (executor : Executor) (status : Status) (headers : HeaderMap)
    (frames : List Frame) :
    (∀ response, executor.conclude (.response status headers frames) = .ok response ↔
      Fit executor.maxBodySize frames ∧ response = ⟨status, headers, join frames⟩) ∧
    (∀ failure, executor.conclude (.response status headers frames) = .error failure ↔
      ∃ front frame back, frames = front ++ frame :: back ∧
        Fit executor.maxBodySize front ∧ Ends executor.maxBodySize front frame failure) ∧
    (∀ others, (∀ frame ∈ frames ++ others, frame.isWhole = true) → join others = join frames →
      ∀ response, executor.conclude (.response status headers others) = .ok response ↔
        executor.conclude (.response status headers frames) = .ok response) ∧
    (∀ network request response, (executor.execute network request).result = .ok response →
      response.body.length ≤ executor.maxBodySize) ∧
    ∀ (connection : Connection) reply response,
      executor.conclude (connection.arrival reply) = .ok response →
        response.body = join (connection.decompress reply.written.unpadded
          (connection.frames reply)).2 ∧
        response.body.length ≤ executor.maxBodySize := by
  refine ⟨fun _ => conclude_eq_ok_iff, fun _ => conclude_eq_error_iff, ?_, ?_, ?_⟩
  · intro others whole same response
    have fits : Fit executor.maxBodySize others ↔ Fit executor.maxBodySize frames :=
      ⟨fun fit => ⟨fun frame member => whole frame (List.mem_append_left _ member),
          same ▸ fit.within⟩,
        fun fit => ⟨fun frame member => whole frame (List.mem_append_right _ member),
          same ▸ fit.within⟩⟩
    rw [conclude_eq_ok_iff, conclude_eq_ok_iff, fits, same]
  · intro network request response got
    obtain ⟨answer, concluded⟩ := exists_conclude_of_execute got
    exact length_body_le concluded
  · intro connection reply response concluded
    refine ⟨?_, length_body_le concluded⟩
    unfold Connection.arrival at concluded
    split at concluded
    · exact (conclude_eq_ok_iff.1 concluded).2 ▸ rfl
    · cases concluded

/-- An executor that reads four bytes at most. -/
def scant : Executor where
  requestTimeout := .ofSeconds 30
  maxBodySize := 4
  security := .tlsOnly
  userAgent := ⟨.userAgent, .ofVisible "dps"⟩
  credential := none
  concurrencyLimit := none
  bufferCapacity := 1
  workerAlive := true

/-- Four bytes are read in any parts, and a fifth one counts before the connection breaks. -/
theorem body_limit_brimful :
    let parts : List Frame := [.data [1, 2], .data [], .trailers .empty, .data [3, 4]]
    scant.conclude (.response .ok .empty parts) = .ok ⟨.ok, .empty, [1, 2, 3, 4]⟩ ∧
      scant.conclude (.response .ok .empty [.data [1, 2, 3, 4]]) =
        .ok ⟨.ok, .empty, [1, 2, 3, 4]⟩ ∧
      scant.conclude (.response .ok .empty (parts ++ [.data [5], .broken "reset"])) =
        .error (.bodyTooLarge 4 5) := by
  intro parts
  have fit : Fit 4 parts := ⟨by decide, by decide⟩
  obtain ⟨accepted, _, parted, _⟩ := body_limit scant .ok .empty parts
  have passed := (accepted _).2 ⟨fit, rfl⟩
  obtain ⟨_, refused, _⟩ :=
    body_limit scant .ok .empty (parts ++ [.data [5], .broken "reset"])
  exact ⟨passed, (parted [.data [1, 2, 3, 4]] (by decide) rfl _).2 passed,
    (refused _).2 ⟨parts, _, _, rfl, fit, .tooLarge [5] (by decide)⟩⟩

end Executor

end DeviceEnrollment.Http
