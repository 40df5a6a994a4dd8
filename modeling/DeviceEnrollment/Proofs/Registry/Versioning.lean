import DeviceEnrollment.Proofs.Registry.Record

/-!
Any number of clients that read records, edit them and write them back, with a service that gives
every write of a record a version of its own. What a write replaces is what its client read, and a
client that comes too late hears of a conflict (`no_lost_update`).
-/
namespace DeviceEnrollment.Registry.Versioning

/-! ### The service -/

/-- What a write that was applied did to a record. -/
inductive Change where
  | put (id : String) (etag : ETag)
  | delete (id : String)
deriving DecidableEq, Repr

def Change.id : Change → String
  | put id _ => id
  | delete id => id

/-- The version that a record is left with, if it is left. -/
def Change.etag? : Change → Option ETag
  | put _ etag => some etag
  | delete _ => none

/-- The version of a record behind changes, the newest of them first. -/
def versionOf (id : String) : List Change → Option ETag
  | [] => none
  | change :: older => if change.id = id then change.etag? else versionOf id older

/-- Whether a request insists on no version, or on the one that there is. -/
def IsMet (request : Request) (version : Option ETag) : Prop :=
  ∀ value ∈ request.headers.values .ifMatch, ∃ etag, version = some etag ∧
    value.bytes = Bytes.ofText etag.text

/-- A response of success whose body is an object with the id and the version of a record. -/
structure States (response : Http.Response) (id : String) (etag : ETag) : Prop where
  success : response.status.isSuccess = true
  id : (Json.Document.ofBytes response.body).HoldsText "registrationId" id
  etag : (Json.Document.ofBytes response.body).HoldsText "etag" etag.text

/-- What the service may do with a request behind some changes: the response and the change that it
makes, if any. A put gets a version that its record never had, and a write that insists on another
version than there is gets the status for it. Whatever else is turned away leaves no change. -/
inductive Handles (log : List Change) (request : Request) (response : Http.Response) :
    Option Change → Prop
  | found {id : String} {etag : ETag} (method : request.method = .get)
      (place : request.segments = [enrollmentCollection, id])
      (current : versionOf id log = some etag) (states : States response id etag) :
      Handles log request response none
  | put {id : String} {etag : ETag} (method : request.method = .put)
      (place : request.segments = [enrollmentCollection, id])
      (met : IsMet request (versionOf id log)) (version : IsVersion etag)
      (fresh : Change.put id etag ∉ log) (states : States response id etag) :
      Handles log request response (some (.put id etag))
  | deleted {id : String} (method : request.method = .delete)
      (place : request.segments = [enrollmentCollection, id])
      (met : IsMet request (versionOf id log)) (success : response.status.isSuccess = true) :
      Handles log request response (some (.delete id))
  | mismatched {id : String} (method : request.method = .put ∨ request.method = .delete)
      (place : request.segments = [enrollmentCollection, id])
      (unmet : ¬IsMet request (versionOf id log)) (status : response.status.code = 412) :
      Handles log request response none
  | refused (failure : response.status.isSuccess = false)
      (allowed : ∀ id, request.method = .put ∨ request.method = .delete →
        request.segments = [enrollmentCollection, id] → IsMet request (versionOf id log)) :
      Handles log request response none

/-! ### Clients -/

/-- The calls of clients. A revision writes a copy that was read before, edited in some way; any
other write may pass what it likes. -/
inductive Call where
  | get (id : String)
  | write (kind : Write) (enrollment : Enrollment)
  | revise (kind : Write) (copy edited : Enrollment)

def Call.plan : Call → Plan (Outcome (Option Enrollment))
  | get id => (Registry.get id).map (·.map some)
  | write kind enrollment => kind.plan enrollment
  | revise kind _ edited => kind.plan edited

/-- Whether an enrollment is a copy that may be edited anywhere but in its id and its version. -/
structure IsEdited (copy edited : Enrollment) : Prop where
  id : edited.registrationId = copy.registrationId
  etag : edited.etag = copy.etag

/-- A call of a client that the service handled. -/
structure Entry (Client : Type) where
  client : Client
  call : Call
  response : Http.Response
  change : Option Change

variable {Client : Type}

/-- What the client hears. -/
def Entry.result (entry : Entry Client) : Outcome (Option Enrollment) :=
  entry.call.plan.settledBy fun _ => .ok entry.response

/-- The changes that entries made. -/
def changes (served : List (Entry Client)) : List Change := served.filterMap Entry.change

/-- The calls whose requests are under way, what the service did so far, the newest first, and the
copies that clients came to hold. -/
structure World (Client : Type) where
  waiting : List (Client × Call)
  served : List (Entry Client)
  held : List (Client × Enrollment)

namespace World

/-- Calls begin, reach the service and come back one by one and in any order. -/
inductive Step (world : World Client) : World Client → Prop
  | begin {client : Client} {call : Call}
      (allowed : ∀ kind copy edited, call = .revise kind copy edited →
        (client, copy) ∈ world.held ∧ IsEdited copy edited) :
      Step world { world with waiting := (client, call) :: world.waiting }
  | handle {rest : List (Client × Call)} {entry : Entry Client} {request : Request}
      (waits : world.waiting.Perm ((entry.client, entry.call) :: rest))
      (asked : entry.call.plan.request? = some request)
      (handled : Handles (changes world.served) request entry.response entry.change) :
      Step world { world with waiting := rest, served := entry :: world.served }
  | finish {entry : Entry Client} {copy : Enrollment} (done : entry ∈ world.served)
      (got : entry.result = .ok (some copy)) :
      Step world { world with held := (entry.client, copy) :: world.held }

/-- The worlds that steps lead to from where no call was made. -/
inductive Reachable : World Client → Prop
  | start : Reachable ⟨[], [], []⟩
  | step {world next : World Client} (reached : Reachable world) (moved : Step world next) :
      Reachable next

end World

/-! ### Logs -/

theorem exists_of_versionOf {id : String} {etag : ETag} {log : List Change}
    (current : versionOf id log = some etag) :
    ∃ between before, log = between ++ .put id etag :: before ∧
      ∀ change ∈ between, change.id ≠ id := by
  induction log with
  | nil => cases current
  | cons change older ih =>
    rw [versionOf] at current
    by_cases same : change.id = id
    · rw [if_pos same] at current
      cases change with
      | put other given =>
        cases Option.some.inj current
        cases same
        exact ⟨[], older, rfl, fun change member => by cases member⟩
      | delete other => cases current
    · rw [if_neg same] at current
      obtain ⟨between, before, split, others⟩ := ih current
      refine ⟨change :: between, before, by rw [split]; rfl, ?_⟩
      intro other member
      rcases List.mem_cons.1 member with rfl | inner
      · exact same
      · exact others other inner

theorem changes_cons (entry : Entry Client) (older : List (Entry Client)) :
    changes (entry :: older) = entry.change.toList ++ changes older := by
  unfold changes
  cases made : entry.change with
  | none => rw [List.filterMap_cons_none made]; rfl
  | some change => rw [List.filterMap_cons_some made]; rfl

theorem changes_append (newer older : List (Entry Client)) :
    changes (newer ++ older) = changes newer ++ changes older := List.filterMap_append

/-! ### Calls -/

/-- A request is about a record that has a place. -/
theorem Call.addressable {call : Call} {request : Request} {id : String}
    (asked : call.plan.request? = some request)
    (place : request.segments = [enrollmentCollection, id]) : isUnaddressable id = false := by
  have named : ∃ other, enrollmentPath other = .ok request.segments := by
    cases call with
    | get other =>
      rw [Call.plan, Plan.request?_map] at asked
      exact ⟨other, enrollmentPath_of_recordRequest (.read asked)⟩
    | write kind enrollment => exact ⟨_, Write.enrollmentPath_of_request? asked⟩
    | revise kind copy edited => exact ⟨_, Write.enrollmentPath_of_request? asked⟩
  obtain ⟨other, accepted⟩ := named
  obtain ⟨addressable, segments⟩ := enrollmentPath_eq_ok_iff.1 accepted
  cases place.symm.trans segments
  exact addressable

/-- An enrollment that a call gives back was read from the response to a get or a put. -/
theorem Call.of_result {call : Call} {request : Request} {response : Http.Response}
    {copy : Enrollment} (asked : call.plan.request? = some request)
    (got : call.plan.settledBy (fun _ => .ok response) = .ok (some copy)) :
    (request.method = .get ∨ request.method = .put) ∧ response.status.isSuccess = true ∧
      readEnrollment response.body = .ok copy := by
  cases call with
  | get id =>
    rw [Call.plan, Plan.request?_map] at asked
    rw [Call.plan, Plan.settledBy_map] at got
    obtain ⟨read, settled, same⟩ := exists_of_map_ok got
    cases Option.some.inj same
    obtain ⟨segments, accepted, sent⟩ := Plan.exists_of_request?_withArgument asked
    rw [Registry.get, accepted, Plan.withArgument] at settled
    cases sent
    exact ⟨.inl rfl, Plan.of_settledBy_send settled⟩
  | write kind enrollment =>
    obtain ⟨method, read⟩ := Write.of_result asked got
    exact ⟨.inr method, read⟩
  | revise kind _ edited =>
    obtain ⟨method, read⟩ := Write.of_result asked got
    exact ⟨.inr method, read⟩

/-! ### What clients hold -/

/-- Whether a log vouches for a copy: it has a version, which its record was given by a change. -/
structure IsVouched (log : List Change) (copy : Enrollment) : Prop where
  addressable : isUnaddressable copy.registrationId = false
  assigned : ∃ etag, copy.etag = some etag ∧ IsVersion etag ∧
    Change.put copy.registrationId etag ∈ log

theorem IsVouched.mono {log later : List Change} {copy : Enrollment} (vouched : IsVouched log copy)
    (grown : log ⊆ later) : IsVouched later copy := by
  obtain ⟨etag, held, version, assigned⟩ := vouched.assigned
  exact ⟨vouched.addressable, etag, held, version, grown assigned⟩

/-- Whether a call, if it is a revision, is one of a copy that is vouched for. -/
def Call.IsVouched (log : List Change) (call : Call) : Prop :=
  ∀ kind copy edited, call = .revise kind copy edited →
    Versioning.IsVouched log copy ∧ IsEdited copy edited

/-- What a service did, the newest first, with calls that were vouched for when they came. -/
inductive IsHistory : List (Entry Client) → Prop
  | nil : IsHistory []
  | cons {entry : Entry Client} {older : List (Entry Client)} {request : Request}
      (before : IsHistory older) (asked : entry.call.plan.request? = some request)
      (handled : Handles (changes older) request entry.response entry.change)
      (vouched : entry.call.IsVouched (changes older)) : IsHistory (entry :: older)

namespace IsHistory

variable {served newer older : List (Entry Client)} {entry : Entry Client} {id : String}
  {etag : ETag}

theorem of_append (history : IsHistory (newer ++ older)) : IsHistory older := by
  induction newer with
  | nil => exact history
  | cons entry newer ih =>
    cases history with
    | cons before _ _ _ => exact ih before

/-- A version that was given can be insisted on, and its record has a place. -/
theorem of_put_mem (history : IsHistory served) (assigned : .put id etag ∈ changes served) :
    IsVersion etag ∧ isUnaddressable id = false := by
  induction history with
  | nil => cases assigned
  | @cons entry older request before asked handled vouched ih =>
    obtain ⟨client, call, response, change⟩ := entry
    rw [changes_cons] at assigned
    rcases List.mem_append.1 assigned with now | earlier
    · cases Option.mem_toList.1 now
      cases handled with
      | put method place met version fresh states => exact ⟨version, Call.addressable asked place⟩
    · exact ih earlier

/-- No version is given to a record twice. -/
theorem not_mem_of_split (history : IsHistory served) {between before : List Change}
    (split : changes served = between ++ .put id etag :: before) : .put id etag ∉ before := by
  induction history generalizing between with
  | nil =>
    have lengths := congrArg List.length split
    simp [changes] at lengths
  | @cons entry older request _ asked handled vouched ih =>
    obtain ⟨client, call, response, change⟩ := entry
    rw [changes_cons] at split
    cases change with
    | none => exact ih split
    | some change =>
      cases between with
      | nil =>
        obtain ⟨same, rest⟩ := List.cons.inj split
        cases same
        subst rest
        cases handled with
        | put method place met version fresh states => exact fresh
      | cons first between => exact ih (List.cons.inj split).2

/-- Whatever enrollment a client gets is vouched for. -/
theorem vouches (history : IsHistory served) (done : entry ∈ served) {copy : Enrollment}
    (got : entry.result = .ok (some copy)) : IsVouched (changes served) copy := by
  obtain ⟨newer, older, rfl⟩ := List.append_of_mem done
  have recent := history.of_append
  have stated : ∃ id etag, States entry.response id etag ∧
      .put id etag ∈ changes (entry :: older) := by
    cases recent with
    | cons before asked handled vouched =>
      obtain ⟨method, success, _⟩ := Call.of_result asked got
      rw [changes_cons]
      obtain ⟨client, call, response, change⟩ := entry
      cases handled with
      | found _ place current states =>
        obtain ⟨between, first, split, _⟩ := exists_of_versionOf current
        refine ⟨_, _, states, List.mem_append_right _ ?_⟩
        rw [split]
        exact List.mem_append_right _ List.mem_cons_self
      | put _ place met version fresh states =>
        exact ⟨_, _, states, List.mem_append_left _ (by simp)⟩
      | deleted deletes place met _ => simp [deletes] at method
      | mismatched _ place unmet status =>
        rw [isSuccess_of_code_eq status] at success
        cases success
      | refused failure _ =>
        rw [success] at failure
        cases failure
  obtain ⟨id, etag, states, assigned⟩ := stated
  obtain ⟨version, addressable⟩ := recent.of_put_mem assigned
  cases recent with
  | cons before asked handled vouched =>
    obtain ⟨_, _, read⟩ := Call.of_result asked got
    obtain ⟨key, held⟩ := of_readEnrollment read states.id states.etag
    rw [changes_append]
    refine ⟨key ▸ addressable, etag, held, version, List.mem_append_right _ ?_⟩
    rw [key]
    exact assigned

end IsHistory

/-! ### Every world -/

namespace World

/-- What holds in every world: the service has a history, and it vouches for the copies that are
held or are on their way. -/
structure IsSound (world : World Client) : Prop where
  history : IsHistory world.served
  held : ∀ client copy, (client, copy) ∈ world.held → IsVouched (changes world.served) copy
  waiting : ∀ client call, (client, call) ∈ world.waiting →
    call.IsVouched (changes world.served)

variable {world next : World Client}

/-- One step keeps a world sound. -/
theorem IsSound.step (sound : world.IsSound) (moved : Step world next) : next.IsSound := by
  cases moved with
  | @begin client call allowed =>
    refine ⟨sound.history, sound.held, fun other later member => ?_⟩
    rcases List.mem_cons.1 member with same | earlier
    · cases same
      intro kind copy edited revision
      obtain ⟨holds, kept⟩ := allowed kind copy edited revision
      exact ⟨sound.held client copy holds, kept⟩
    · exact sound.waiting other later earlier
  | @handle rest entry request waits asked handled =>
    have vouched := sound.waiting entry.client entry.call (waits.mem_iff.2 List.mem_cons_self)
    have grown : changes world.served ⊆ changes (entry :: world.served) := by
      rw [changes_cons]
      exact List.subset_append_right _ _
    refine ⟨.cons sound.history asked handled vouched, ?_, ?_⟩
    · intro client copy member
      exact (sound.held client copy member).mono grown
    · intro client call member
      have waited := waits.mem_iff.2 (List.mem_cons_of_mem _ member)
      intro kind copy edited revision
      obtain ⟨known, kept⟩ := sound.waiting client call waited kind copy edited revision
      exact ⟨known.mono grown, kept⟩
  | @finish entry copy done got =>
    refine ⟨sound.history, fun client other member => ?_, sound.waiting⟩
    rcases List.mem_cons.1 member with same | earlier
    · cases same
      exact sound.history.vouches done got
    · exact sound.held client other earlier

theorem isSound_of_reachable (reached : world.Reachable) : world.IsSound := by
  induction reached with
  | start =>
    refine ⟨.nil, ?_, ?_⟩
    · intro client copy member
      cases member
    · intro client call member
      cases member
  | step _ moved sound => exact sound.step moved

end World

/-- A request that insists on one version is met where the record has this version. -/
theorem isMet_iff {request : Request} {value : Http.HeaderValue} {etag : ETag}
    (values : request.headers.values .ifMatch = [value])
    (bytes : value.bytes = Bytes.ofText etag.text) {version : Option ETag} :
    IsMet request version ↔ version = some etag := by
  unfold IsMet
  rw [values]
  constructor
  · intro met
    obtain ⟨other, same, written⟩ := met value List.mem_cons_self
    have texts : other.text = etag.text := Bytes.ofText_inj.1 (written.symm.trans bytes)
    rw [same, show other = etag from congrArg ETag.mk texts]
  · intro same other member
    cases List.mem_singleton.1 member
    exact ⟨etag, same, bytes⟩

/-- What the service does with a revision of a version, and what its client hears. -/
structure IsGuarded (log : List Change) (id : String) (etag : ETag) (entry : Entry Client) : Prop
    where
  applied : ∀ reply, entry.result = .ok reply → entry.change.isSome = true
  current : ∀ change, entry.change = some change →
    change.id = id ∧ versionOf id log = some etag
  outdated : versionOf id log ≠ some etag →
    entry.change = none ∧ ∃ error, entry.result = .error error ∧ error.IsOnlyConflict

/-- What is written at the version is guarded by it. -/
theorem isGuarded_of_met {log : List Change} {id : String} {etag : ETag} {entry : Entry Client}
    {change : Change} (changed : entry.change = some change) (own : change.id = id)
    (met : versionOf id log = some etag) : IsGuarded log id etag entry := by
  refine ⟨fun _ _ => by rw [changed]; rfl, ?_, fun outdated => absurd met outdated⟩
  intro other applied
  cases changed.symm.trans applied
  exact ⟨own, met⟩

/-- A revision of a copy that is vouched for is guarded by the version of the copy. -/
theorem exists_isGuarded {log : List Change} {entry : Entry Client} {request : Request}
    {kind : Write} {copy edited : Enrollment} (revision : entry.call = .revise kind copy edited)
    (asked : entry.call.plan.request? = some request)
    (handled : Handles log request entry.response entry.change) (vouched : IsVouched log copy)
    (kept : IsEdited copy edited) :
    ∃ etag, copy.etag = some etag ∧ IsGuarded log copy.registrationId etag entry := by
  obtain ⟨client, call, response, change⟩ := entry
  cases revision
  obtain ⟨etag, held, version, _⟩ := vouched.assigned
  obtain ⟨sent, value, made, method, place, values, bytes, failed⟩ := kind.exists_request
    (kept.id ▸ vouched.addressable) (kept.etag.trans held) version
  cases Option.some.inj (asked.symm.trans made)
  have writes : request.method = .put ∨ request.method = .delete := method ▸ kind.method_eq
  rw [kept.id] at place
  have same {id : String} (other : request.segments = [enrollmentCollection, id]) :
      id = copy.registrationId := by
    cases place.symm.trans other
    rfl
  have met_iff {version : Option ETag} : IsMet request version ↔ version = some etag :=
    isMet_iff values bytes
  refine ⟨etag, held, ?_⟩
  cases handled with
  | found reads _ _ _ => simp [reads] at writes
  | put _ other met _ _ _ =>
    cases same other
    exact isGuarded_of_met rfl rfl (met_iff.1 met)
  | deleted _ other met _ =>
    cases same other
    exact isGuarded_of_met rfl rfl (met_iff.1 met)
  | mismatched _ other unmet status =>
    have refusal := failed response (isSuccess_of_code_eq status)
    refine ⟨fun reply got => ?_, fun change applied => ?_, fun _ => ?_⟩
    · cases refusal.symm.trans got
    · cases applied
    · exact ⟨rfl, _, refusal, isOnlyConflict_of_code_eq status⟩
  | refused failure allowed =>
    have refusal := failed response failure
    refine ⟨fun reply got => ?_, fun change applied => ?_, fun outdated => ?_⟩
    · cases refusal.symm.trans got
    · cases applied
    · exact absurd (met_iff.1 (allowed _ writes place)) outdated

/-- Every revision makes a request. If it succeeds, nothing was written to its record or deleted
since the copy got its version, which the record got once only. If the record has another version
by then, the revision changes nothing, and its client hears of a conflict. -/
theorem no_lost_update {world : World Client} (reached : world.Reachable) :
    (∀ client kind copy edited, (client, Call.revise kind copy edited) ∈ world.waiting →
      ∃ request, (Call.revise kind copy edited).plan.request? = some request) ∧
    ∀ newer entry older kind copy edited, world.served = newer ++ entry :: older →
      entry.call = .revise kind copy edited →
      ∃ etag, copy.etag = some etag ∧
        (∀ reply, entry.result = .ok reply → entry.change.isSome = true) ∧
        (∀ change, entry.change = some change → change.id = copy.registrationId ∧
          ∃ between before,
            changes older = between ++ .put copy.registrationId etag :: before ∧
            (∀ other ∈ between, other.id ≠ copy.registrationId) ∧
            .put copy.registrationId etag ∉ before) ∧
        (versionOf copy.registrationId (changes older) ≠ some etag →
          entry.change = none ∧ ∃ error, entry.result = .error error ∧ error.IsOnlyConflict) := by
  have sound := World.isSound_of_reachable reached
  constructor
  · intro client kind copy edited waits
    obtain ⟨vouched, kept⟩ := sound.waiting client _ waits kind copy edited rfl
    obtain ⟨etag, held, version, _⟩ := vouched.assigned
    obtain ⟨request, _, asked, _⟩ := kind.exists_request (kept.id ▸ vouched.addressable)
      (kept.etag.trans held) version
    exact ⟨request, asked⟩
  · intro newer entry older kind copy edited split revision
    have history : IsHistory (entry :: older) := (split ▸ sound.history).of_append
    cases history with
    | cons before asked handled vouched =>
      obtain ⟨known, kept⟩ := vouched kind copy edited revision
      obtain ⟨etag, held, guarded⟩ := exists_isGuarded revision asked handled known kept
      refine ⟨etag, held, guarded.applied, ?_, guarded.outdated⟩
      intro change applied
      obtain ⟨same, current⟩ := guarded.current change applied
      obtain ⟨between, first, parts, others⟩ := exists_of_versionOf current
      exact ⟨same, between, first, parts, others, before.not_mem_of_split parts⟩

/-! ### A race -/

/-- A record as it is stored with a version. -/
def stored (etag : String) : Enrollment := (Enrollment.ofId "dev-1").withETag ⟨etag⟩

/-- A response that gives the record with a version. -/
def stating (etag : String) : Http.Response :=
  ⟨.ok, .empty, Bytes.ofText
    ("\x7b\"registrationId\":\"dev-1\",\"etag\":\"" ++ etag ++ "\"\x7d")⟩

theorem states_stating {etag : String} (given : etag = "1" ∨ etag = "2") :
    States (stating etag) "dev-1" ⟨etag⟩ := by
  rcases given with rfl | rfl
  all_goals
    constructor
    · rfl
    · exact ⟨_, _, _, _, rfl, List.mem_cons_self, rfl, rfl⟩
    · exact ⟨_, _, _, _, rfl, List.mem_cons_of_mem _ List.mem_cons_self, rfl, rfl⟩

def created : Entry Bool :=
  ⟨false, .write .put (.ofId "dev-1"), stating "1", some (.put "dev-1" ⟨"1"⟩)⟩

def read : Entry Bool := ⟨true, .get "dev-1", stating "1", none⟩

def disabled : Entry Bool :=
  ⟨false, .revise .put (stored "1") ((stored "1").withStatus .disabled), stating "2",
    some (.put "dev-1" ⟨"2"⟩)⟩

def late : Entry Bool :=
  ⟨true, .revise .delete (stored "1") (stored "1"), ⟨⟨412, by decide⟩, .empty, []⟩, none⟩

/-- One client disables a device while another one, which read the record before, deletes it. -/
def race : World Bool :=
  ⟨[], [late, disabled, read, created], [(true, stored "1"), (false, stored "1")]⟩

theorem reachable_race : race.Reachable := by
  have makes : World.Reachable ⟨[(false, created.call)], [], []⟩ :=
    .step .start (.begin fun kind copy edited revision => by cases revision)
  have made : World.Reachable ⟨[], [created], []⟩ := by
    refine .step makes (.handle (.refl _) rfl ?_)
    exact .put rfl rfl (fun value member => by cases member) ⟨rfl, by decide⟩ (by decide)
      (states_stating (.inl rfl))
  have kept : World.Reachable ⟨[], [created], [(false, stored "1")]⟩ :=
    .step made (@World.Step.finish Bool _ created (stored "1") List.mem_cons_self rfl)
  have reads : World.Reachable ⟨[(true, read.call)], [created], [(false, stored "1")]⟩ :=
    .step kept (.begin fun kind copy edited revision => by cases revision)
  have given : World.Reachable ⟨[], [read, created], [(false, stored "1")]⟩ := by
    refine .step reads (.handle (.refl _) rfl ?_)
    exact .found rfl rfl (by decide)
      (states_stating (.inl rfl))
  have shared : World.Reachable ⟨[], [read, created], race.held⟩ :=
    .step given (@World.Step.finish Bool _ read (stored "1") List.mem_cons_self rfl)
  have disables : World.Reachable ⟨[(false, disabled.call)], [read, created], race.held⟩ := by
    refine .step shared (.begin fun kind copy edited revision => ?_)
    cases revision
    exact ⟨List.mem_cons_of_mem _ List.mem_cons_self, rfl, rfl⟩
  have deletes : World.Reachable
      ⟨[(true, late.call), (false, disabled.call)], [read, created], race.held⟩ := by
    refine .step disables (.begin fun kind copy edited revision => ?_)
    cases revision
    exact ⟨List.mem_cons_self, rfl, rfl⟩
  have replaced : World.Reachable ⟨[(true, late.call)], [disabled, read, created], race.held⟩ := by
    refine .step deletes (.handle (.swap _ _ _) rfl ?_)
    exact .put rfl rfl ((isMet_iff rfl rfl).2 (by decide)) ⟨rfl, by decide⟩ (by decide)
      (states_stating (.inr rfl))
  refine .step replaced (.handle (.refl _) rfl (.mismatched (.inr rfl) rfl (fun met => ?_) rfl))
  have current := (isMet_iff rfl rfl).1 met
  exact absurd current (by decide)

/-- The delete comes too late: it is a conflict, and the record stays as the other client left
it. -/
theorem no_lost_update_race : race.Reachable ∧ late.change = none ∧
    ∃ error, late.result = .error error ∧ error.IsOnlyConflict := by
  obtain ⟨_, guarded⟩ := no_lost_update reachable_race
  obtain ⟨etag, held, _, _, outdated⟩ :=
    guarded [] late [disabled, read, created] .delete (stored "1") (stored "1") rfl rfl
  cases held
  obtain ⟨nothing, conflict⟩ := outdated (by decide)
  exact ⟨reachable_race, nothing, conflict⟩

end DeviceEnrollment.Registry.Versioning
