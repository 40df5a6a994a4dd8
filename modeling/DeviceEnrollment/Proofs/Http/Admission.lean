import DeviceEnrollment.Http.Executor
import DeviceEnrollment.Proofs.Steps
import Mathlib.Data.List.InsertIdx

/-!
Requests that are started together. The first ones that have a target get through, as many as both
the buffer and the limit allow, and they are sent as if one came after the other (`admission_exact`).
-/
namespace DeviceEnrollment.Http

namespace Executor

/-! ### Places -/

section Places

variable {α : Type}

/-- Of two stages the narrower one decides. -/
theorem takeUp_takeUp (outer inner : Nat) (requests : List (Except Failure α)) :
    takeUp outer (takeUp inner requests) = takeUp (min outer inner) requests := by
  induction requests generalizing outer inner with
  | nil => rfl
  | cons request rest ih =>
    cases request with
    | error failure => simp only [takeUp, ih]
    | ok value =>
      cases inner with
      | zero => simp only [takeUp, ih, Nat.min_zero]
      | succ inner =>
        cases outer with
        | zero => simp only [takeUp, ih, Nat.zero_min]
        | succ outer => simp only [takeUp, ih, Nat.add_min_add_right]

/-- What failed before goes past the others. -/
theorem takeUp_insertIdx (places index : Nat) (failure : Failure)
    (requests : List (Except Failure α)) :
    takeUp places (requests.insertIdx index (.error failure)) =
      (takeUp places requests).insertIdx index (.error failure) := by
  induction requests generalizing places index with
  | nil => cases index <;> rfl
  | cons request rest ih =>
    cases index with
    | zero => rfl
    | succ index =>
      rw [List.insertIdx_succ_cons]
      cases request with
      | error other => simp only [takeUp, ih, List.insertIdx_succ_cons]
      | ok value => cases places <;> simp only [takeUp, ih, List.insertIdx_succ_cons]

end Places

/-- How many requests get through when all are started together. -/
def room (executor : Executor) : Nat :=
  match executor.concurrencyLimit with
  | none => executor.bufferCapacity
  | some limit => min limit.maxInFlight executor.bufferCapacity

theorem letThrough_eq_takeUp {α : Type} (executor : Executor)
    (requests : List (Except Failure α)) :
    executor.letThrough requests = takeUp executor.room requests := by
  unfold letThrough room
  cases executor.concurrencyLimit with
  | none => rfl
  | some limit => exact takeUp_takeUp _ _ requests

end Executor

/-! ### Requests one after the other -/

namespace Network

variable (network : Network)

/-- The answer to the request that comes after so many others. -/
def answerTo (earlier : Nat) : WireAnswer := network.answers.getD earlier (.failed connectFailure)

/-- What these requests leave of a network. Those that come after the last answer get nowhere. -/
def after (requests : List WireRequest) : Network :=
  ⟨network.answers.drop requests.length,
    network.received ++ requests.take network.answers.length⟩

theorem exchange_eq (request : WireRequest) :
    network.exchange request = (network.answerTo 0, network.after [request]) := by
  obtain ⟨answers, received⟩ := network
  cases answers with
  | nil => simp [exchange, answerTo, after]
  | cons answer rest => simp [exchange, answerTo, after]

theorem after_nil : network.after [] = network := by
  simp [after]

theorem after_cons (request : WireRequest) (rest : List WireRequest) :
    (network.after [request]).after rest = network.after (request :: rest) := by
  obtain ⟨answers, received⟩ := network
  cases answers with
  | nil => simp [after]
  | cons answer later => simp [after]

theorem answerTo_after (request : WireRequest) (earlier : Nat) :
    (network.after [request]).answerTo earlier = network.answerTo (earlier + 1) := by
  obtain ⟨answers, received⟩ := network
  cases answers with
  | nil => simp [after, answerTo]
  | cons answer later => simp [after, answerTo]

end Network

namespace Executor

variable (executor : Executor)

/-- A request with a target that may be used. -/
abbrev Aimed := Outgoing × RequestTarget

/-- What goes over the wire for a request. -/
def wired (request : Aimed) : WireRequest :=
  ⟨request.1.method, request.2, executor.dress request.1.headers, request.1.body⟩

theorem send_eq (network : Network) (request : Outgoing) (target : RequestTarget) :
    executor.send network request target =
      (executor.conclude (network.answerTo 0), network.after [executor.wired (request, target)]) := by
  rw [send, Network.exchange_eq]
  rfl

theorem sendAdmitted_insertIdx (network : Network) (index : Nat) (failure : Failure)
    (admitted : List (Except Failure Aimed)) :
    executor.sendAdmitted network (admitted.insertIdx index (.error failure)) =
      ((executor.sendAdmitted network admitted).1.insertIdx index (.error failure),
        (executor.sendAdmitted network admitted).2) := by
  induction admitted generalizing network index with
  | nil => cases index <;> rfl
  | cons request rest ih =>
    cases index with
    | zero => rfl
    | succ index =>
      rw [List.insertIdx_succ_cons]
      cases request with
      | error other => simp only [sendAdmitted, ih, List.insertIdx_succ_cons]
      | ok request => simp only [sendAdmitted, ih, List.insertIdx_succ_cons]

/-- What comes of a request that so many others with a target stand before. -/
def settle (network : Network) (places earlier : Nat) :
    Except Failure Aimed → Except Failure Response
  | .error failure => .error failure
  | .ok _ =>
    if earlier < places then executor.conclude (network.answerTo earlier) else .error .overloaded

/-- The requests that were aimed, in order. -/
def aimedAmong (entries : List (Except Failure Aimed)) : List Aimed :=
  entries.filterMap Except.toOption

/-- Those that get through are sent in order, and the others are not. -/
theorem sendAdmitted_takeUp (network : Network) (places : Nat)
    (entries : List (Except Failure Aimed)) :
    let performed := executor.sendAdmitted network (takeUp places entries)
    performed.2 = network.after (((aimedAmong entries).take places).map executor.wired) ∧
      performed.1.length = entries.length ∧
      ∀ index entry, entries[index]? = some entry →
        performed.1[index]? = some (executor.settle network places
          (aimedAmong (entries.take index)).length entry) := by
  induction entries generalizing network places with
  | nil => exact ⟨by simp [takeUp, sendAdmitted, aimedAmong, Network.after_nil], rfl, by simp⟩
  | cons first rest ih =>
    cases first with
    | error failure =>
      obtain ⟨left, length, results⟩ := ih network places
      refine ⟨left, congrArg Nat.succ length, ?_⟩
      intro index entry found
      cases index with
      | zero =>
        cases found
        rfl
      | succ index => exact results index entry found
    | ok aim =>
      cases places with
      | zero =>
        obtain ⟨left, length, results⟩ := ih network 0
        refine ⟨left, congrArg Nat.succ length, ?_⟩
        intro index entry found
        cases index with
        | zero =>
          cases found
          rfl
        | succ index =>
          cases entry <;> exact results index _ found
      | succ places =>
        have sent := executor.send_eq network aim.1 aim.2
        obtain ⟨left, length, results⟩ := ih (network.after [executor.wired aim]) places
        simp only [takeUp, sendAdmitted, sent]
        refine ⟨?_, congrArg Nat.succ length, ?_⟩
        · rw [left, Network.after_cons]
          rfl
        · intro index entry found
          cases index with
          | zero =>
            cases found
            rfl
          | succ index =>
            have later := results index entry found
            rw [List.getElem?_cons_succ, later]
            cases entry with
            | error failure => rfl
            | ok other => simp [settle, aimedAmong, Network.answerTo_after, Except.toOption]

/-! ### Requests as callers start them -/

/-- A request with its target, if it has one that may be used. -/
def aim (request : Outgoing) : Except Failure Aimed :=
  (target executor.security request.url).map fun target => (request, target)

variable {executor : Executor}

theorem aim_eq_error {request : Outgoing} {failure : Failure}
    (refused : target executor.security request.url = .error failure) :
    executor.aim request = .error failure := by
  rw [aim, refused]
  rfl

theorem aim_eq_ok {request : Outgoing} {found : RequestTarget}
    (usable : target executor.security request.url = .ok found) :
    executor.aim request = .ok (request, found) := by
  rw [aim, usable]
  rfl

theorem executeTogether_eq (alive : executor.workerAlive = true) (network : Network)
    (requests : List Outgoing) :
    executor.executeTogether network requests =
      executor.sendAdmitted network (takeUp executor.room (requests.map executor.aim)) := by
  have aimed (request : Outgoing) :
      (do
        let target ← target executor.security request.url
        if executor.workerAlive then return (request, target) else .error .serviceClosed) =
        executor.aim request := by
    rw [aim, alive]
    cases target executor.security request.url <;> rfl
  unfold executeTogether
  simp only [aimed, letThrough_eq_takeUp]

/-- The requests with a target before one of them are as many as stand before it among all. -/
theorem getElem?_aimedAmong {entries : List (Except Failure Aimed)} {index : Nat} {aimed : Aimed}
    (found : entries[index]? = some (.ok aimed)) :
    (aimedAmong entries)[(aimedAmong (entries.take index)).length]? = some aimed := by
  obtain ⟨inside, same⟩ := List.getElem?_eq_some_iff.1 found
  have split : entries = entries.take index ++ .ok aimed :: entries.drop (index + 1) := by
    rw [← same, List.getElem_cons_drop, List.take_append_drop]
  have aimedSplit : aimedAmong entries =
      aimedAmong (entries.take index) ++ aimed :: aimedAmong (entries.drop (index + 1)) := by
    conv_lhs => rw [split, aimedAmong, List.filterMap_append]
    rfl
  rw [aimedSplit, List.getElem?_append_right (Nat.le_refl _), Nat.sub_self]
  rfl

theorem collectFrames_ne_overloaded (limit : Nat) (collected : Bytes) (frames : List Frame) :
    collectFrames limit collected frames ≠ .error .overloaded := by
  induction frames generalizing collected with
  | nil => exact fun same => by cases same
  | cons frame rest ih =>
    cases frame with
    | data chunk =>
      simp only [collectFrames]
      split
      · exact fun same => by cases same
      · exact ih _
    | trailers headers => exact ih collected
    | broken reason => exact fun same => by cases same

/-- No answer of a network says that a client is overloaded. -/
theorem conclude_ne_overloaded (answer : WireAnswer) :
    executor.conclude answer ≠ .error .overloaded := by
  cases answer with
  | failed reason => exact fun same => by cases same
  | late => exact fun same => by cases same
  | response status headers frames =>
    intro same
    simp only [conclude] at same
    cases collected : collectFrames executor.maxBodySize [] frames with
    | error failure =>
      rw [collected] at same
      cases Except.error.inj same
      exact collectFrames_ne_overloaded _ _ _ collected
    | ok body =>
      rw [collected] at same
      cases same

/-- A request with a target fails as the executor is overloaded if it comes too late, and only then. -/
theorem settle_ok_eq_overloaded {network : Network} {places earlier : Nat} {aimed : Aimed} :
    executor.settle network places earlier (.ok aimed) = .error .overloaded ↔ places ≤ earlier := by
  rw [settle]
  constructor
  · intro overloaded
    by_contra early
    rw [if_pos (Nat.not_le.1 early)] at overloaded
    exact conclude_ne_overloaded _ overloaded
  · exact fun late => if_neg (Nat.not_lt.2 late)

/-- What is wrong with an address that may not be used. -/
inductive IsAddressFault : Failure → Prop
  | target (url : String) (fault : TargetFault) (reason : String) :
      IsAddressFault (.invalidTarget url fault reason)
  | scheme (scheme reason : String) : IsAddressFault (.invalidScheme scheme reason)

theorem isAddressFault_of_target {security : TransportSecurity} {url : String} {failure : Failure}
    (refused : target security url = .error failure) : IsAddressFault failure := by
  unfold target at refused
  split at refused
  · cases refused
    exact .target _ _ _
  · split at refused
    · cases refused
      exact .target _ _ _
    · split at refused
      · cases refused
        exact .target _ _ _
      · split at refused
        · cases refused
        · split at refused
          · split at refused
            · cases refused
            · cases refused
              exact .scheme _ _
          · cases refused
            exact .scheme _ _

/-! ### Executors that were built -/

/-- An executor has the settings that it was built from, with a place in its buffer at least. -/
theorem of_build {settings : ExecutorSettings} {credential : Option Credential}
    (built : build settings credential = .ok executor) :
    executor.security = settings.transport ∧
      executor.concurrencyLimit = settings.concurrencyLimit ∧
      executor.bufferCapacity = max settings.bufferCapacity 1 ∧ executor.workerAlive = true := by
  obtain ⟨userAgent, _, later⟩ := exists_of_bind_ok built
  obtain ⟨injected, _, made⟩ := exists_of_bind_ok later
  cases made
  exact ⟨rfl, rfl, rfl, rfl⟩

/-- How many places there are for a configured limit and a buffer of this capacity. -/
def placesFor (limit : Option Nat) (capacity : Nat) : Nat :=
  match limit with
  | none => max capacity 1
  | some size => min (max size 1) (max capacity 1)

/-- Of requests that are started together, those whose address is refused fail with what is wrong
with it and take no place. Of the others the first ones get through, as many as there are places,
and are sent once each and in order: each comes to what its answer says. The later ones fail as the
executor is overloaded, and nothing else fails so. -/
theorem admission_exact (settings : ExecutorSettings) (limit : Option Nat)
    {credential : Option Credential} {executor : Executor}
    (built : build { settings with concurrencyLimit := limit.map .ofNat } credential = .ok executor)
    (network : Network) (requests : List Outgoing) :
    let places := placesFor limit settings.bufferCapacity
    let admitted := (aimedAmong (requests.map executor.aim)).take places
    let performed := executor.executeTogether network requests
    performed.1.length = requests.length ∧
      performed.2 = network.after (admitted.map executor.wired) ∧
      ∀ index request, requests[index]? = some request →
        let earlier := (aimedAmong ((requests.take index).map executor.aim)).length
        (∀ failure, target settings.transport request.url = .error failure →
          IsAddressFault failure ∧ performed.1[index]? = some (.error failure)) ∧
        (∀ found, target settings.transport request.url = .ok found →
          (earlier < places → admitted[earlier]? = some (request, found) ∧
            performed.1[index]? = some (executor.conclude (network.answerTo earlier))) ∧
          (places ≤ earlier → performed.1[index]? = some (.error .overloaded))) ∧
        (performed.1[index]? = some (.error .overloaded) ↔
          (∃ found, target settings.transport request.url = .ok found) ∧ places ≤ earlier) := by
  intro places admitted performed
  obtain ⟨security, limited, capacity, alive⟩ := of_build built
  have room : executor.room = places := by
    simp only [Executor.room, limited, capacity, places, placesFor]
    cases limit <;> rfl
  have together : performed =
      executor.sendAdmitted network (takeUp places (requests.map executor.aim)) := by
    rw [← room]
    exact executeTogether_eq alive network requests
  obtain ⟨left, length, results⟩ :=
    executor.sendAdmitted_takeUp network places (requests.map executor.aim)
  rw [← together] at left length results
  refine ⟨by rw [length, List.length_map], left, fun index request asked => ?_⟩
  intro earlier
  have entry : (requests.map executor.aim)[index]? = some (executor.aim request) := by
    rw [List.getElem?_map, asked]
    rfl
  have result := results index _ entry
  rw [← List.map_take] at result
  cases aimed : target settings.transport request.url with
  | error failure =>
    rw [aim_eq_error (security ▸ aimed)] at result
    have refused := isAddressFault_of_target aimed
    refine ⟨?_, fun _ same => (by cases same), ?_⟩
    · rintro _ ⟨⟩
      exact ⟨refused, result⟩
    · rw [result]
      constructor
      · rintro ⟨⟩
        cases refused
      · rintro ⟨⟨_, usable⟩, _⟩
        cases usable
  | ok found =>
    have ready := aim_eq_ok (security ▸ aimed)
    rw [ready] at entry result
    have rank := getElem?_aimedAmong entry
    rw [← List.map_take] at rank
    refine ⟨fun _ same => (by cases same), ?_, ?_⟩
    · rintro _ ⟨⟩
      constructor
      · intro early
        refine ⟨by rw [List.getElem?_take, if_pos early, rank], ?_⟩
        rw [result, settle, if_pos early]
      · intro late
        rw [result, settle_ok_eq_overloaded.2 late]
    · rw [result, Option.some_inj]
      constructor
      · exact fun overloaded => ⟨⟨found, rfl⟩, settle_ok_eq_overloaded.1 overloaded⟩
      · exact fun shed => settle_ok_eq_overloaded.2 shed.2

/-- A lookup without headers. -/
def lookup (url : String) : Outgoing := ⟨.get, url, .empty, []⟩

/-- Three lookups, the first of which has an address of another scheme. -/
def burst : List Outgoing :=
  [lookup "ftp://[::1]/a", lookup "https://[::1]/b", lookup "https://[::1]/c"]

/-- Settings whose buffer is to have no place. -/
def bufferless : ExecutorSettings := { ExecutorSettings.default with bufferCapacity := 0 }

/-- The executor with these settings and a limit of five. -/
def narrow : Executor where
  requestTimeout := .ofSeconds 30
  maxBodySize := bufferless.maxBodySize
  security := .tlsOnly
  userAgent := ⟨.userAgent, .ofVisible ExecutorSettings.defaultUserAgent⟩
  credential := none
  concurrencyLimit := some (.ofNat 5)
  bufferCapacity := 1
  workerAlive := true

/-- A buffer of no place has one, and an address that is refused leaves it to the next request. -/
theorem admission_exact_burst :
    build { bufferless with concurrencyLimit := (some 5).map .ofNat } none = .ok narrow ∧
      let performed := narrow.executeTogether ⟨[.late, .late], []⟩ burst
      performed.1[0]? = some (.error (.invalidScheme "ftp" onlyWebSchemes)) ∧
        performed.1[1]? = some (.error (.timeout (.ofSeconds 30))) ∧
        performed.1[2]? = some (.error .overloaded) ∧
        performed.2.answers = [.late] ∧ performed.2.received.length = 1 := by
  have built : build { bufferless with concurrencyLimit := (some 5).map .ofNat } none =
      .ok narrow := rfl
  obtain ⟨_, left, results⟩ := admission_exact bufferless (some 5) built ⟨[.late, .late], []⟩ burst
  obtain ⟨refused, _⟩ := results 0 _ rfl
  obtain ⟨_, sent, _⟩ := results 1 _ rfl
  obtain ⟨_, shed, _⟩ := results 2 _ rfl
  refine ⟨built, (refused _ rfl).2, ((sent _ rfl).1 (by decide)).2, (shed _ rfl).2 (by decide), ?_⟩
  rw [left]
  exact ⟨rfl, rfl⟩

end Executor

end DeviceEnrollment.Http
