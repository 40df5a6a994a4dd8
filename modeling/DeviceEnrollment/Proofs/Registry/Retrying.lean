import DeviceEnrollment.Proofs.Registry.Independence
import DeviceEnrollment.Proofs.Registry.LastPage

/-!
Fetches that fail. A cursor moves only behind a whole page, so a fetch that fails leaves it as it
was, and the next fetch makes the same request again (`failed_fetch_repeated`).
-/
namespace DeviceEnrollment.Registry

variable {σ : Type}

/-! ### One fetch -/

namespace Cursor

variable {cursor : Cursor}

/-- A cursor that fails stays where it is, whatever has arrived by then. -/
theorem eq_of_nextPage_error {respond : Request → Answer} {error : RegistryError}
    (failed : (cursor.nextPage.settledBy respond).1 = .error error) :
    (cursor.nextPage.settledBy respond).2 = cursor := by
  rw [settledBy_nextPage] at failed ⊢
  simp only at failed
  rw [failed]
  rfl

/-- A ready cursor asks for a page, and exactly the answers without one make it fail. -/
theorem Sound.exists_request (sound : cursor.Sound) (ready : cursor.state = .ready) :
    ∃ request, cursor.nextPage.request? = some request ∧
      IsQueryRequest cursor.specification request ∧
      ∀ respond, (∃ error, (cursor.nextPage.settledBy respond).1 = .error error) ↔
        IsFailure (respond request) := by
  obtain ⟨headers, sent⟩ := exists_headers?_of_sound sound
  refine ⟨cursor.request headers, request?_nextPage ready sent, ⟨rfl, rfl, rfl⟩, fun respond => ?_⟩
  rw [settledBy_nextPage]
  constructor
  · rintro ⟨error, failed⟩
    by_contra carried
    cases answer : respond (cursor.request headers) with
    | error failure => exact carried (by rw [answer]; trivial)
    | ok response =>
      simp only [answer, IsFailure, not_or, not_exists, Bool.not_eq_false] at carried
      obtain ⟨success, readable⟩ := carried
      cases listed : readPage response.body with
      | error fault => exact readable fault listed
      | ok items => cases (fetch_of_page ready sent answer success listed).symm.trans failed
  · exact fun failure => fetch_of_isFailure ready sent failure

end Cursor

/-! ### Fetches of a session -/

/-- A plan that is run beside a list notes its request there. -/
theorem Plan.run_logging {α : Type} (transport : Transport σ) (state : σ) (plan : Plan α) :
    (plan.run transport.logging (state, [])).state.2.map Exchanged.request =
        plan.request?.toList ∧
      (plan.run transport.logging (state, [])).result =
        plan.settledBy fun request => (transport.send state request).answer := by
  cases plan with
  | settled result => exact ⟨rfl, rfl⟩
  | exchange request conclude => exact ⟨rfl, rfl⟩

/-- Whether a call fetches the page behind the cursor of a name, in vain. -/
def Seen.IsFailedFetch (slot : String) (seen : Seen) : Prop :=
  seen.call = .nextPage slot ∧ ∃ error, seen.result = .page (.error error)

namespace Session

variable {transport : Transport σ} {session : Session σ} {slot : String} {cursor : Cursor}

/-- A fetch under a name makes the request of the cursor there, and leaves the cursor if it fails. -/
theorem exists_watch_nextPage (transport : Transport σ)
    (held : session.cursors.get? slot = some cursor) (rest : List Call) :
    ∃ (seen : Seen) (next : Session σ),
      session.watch transport (.nextPage slot :: rest) =
        (seen :: (next.watch transport rest).1, (next.watch transport rest).2) ∧
      seen.exchanges.map Exchanged.request = cursor.nextPage.request?.toList ∧
      (seen.IsFailedFetch slot → next.cursors.get? slot = some cursor) := by
  obtain ⟨requests, settled⟩ := cursor.nextPage.run_logging transport session.transport
  simp only [watch, step, nextPage, held]
  refine ⟨_, _, rfl, requests, ?_⟩
  rintro ⟨_, error, result⟩
  have failed := CallResult.page.inj result
  rw [settled] at failed
  rw [Slots.get?_set, if_pos rfl, settled, Cursor.eq_of_nextPage_error failed]

/-- Fetches that fail, with other calls in between, leave the cursor and make its request each. -/
theorem watch_of_failedFetches {calls : List Call} (held : session.cursors.get? slot = some cursor)
    (failed : ∀ seen ∈ (session.watch transport calls).1, seen.call.isAbout slot = true →
      seen.IsFailedFetch slot) :
    (session.watch transport calls).2.cursors.get? slot = some cursor ∧
      ∀ seen ∈ (session.watch transport calls).1, seen.call.isAbout slot = true →
        seen.exchanges.map Exchanged.request = cursor.nextPage.request?.toList := by
  induction calls generalizing session with
  | nil => exact ⟨held, fun _ member => by cases member⟩
  | cons call rest ih =>
    obtain ⟨exchanges, _, watched⟩ := session.exists_watch_cons transport call rest
    by_cases about : call.isAbout slot = true
    · have fetches : call = .nextPage slot :=
        (failed ⟨call, _, exchanges⟩ (by rw [watched]; exact List.mem_cons_self) about).1
      subst fetches
      obtain ⟨seen, next, split, requests, stays⟩ := exists_watch_nextPage transport held rest
      have first : seen.call = .nextPage slot := by
        rw [split] at watched
        exact congrArg Seen.call (List.cons.inj (congrArg Prod.fst watched)).1
      rw [split] at failed ⊢
      obtain ⟨kept, later⟩ := ih (stays (failed seen List.mem_cons_self (first ▸ about)))
        fun other member => failed other (List.mem_cons_of_mem _ member)
      refine ⟨kept, fun other member => ?_⟩
      rcases List.mem_cons.1 member with rfl | further
      · exact fun _ => requests
      · exact later other further
    · rw [watched] at failed ⊢
      -- A call about something else leaves what stands under the name.
      have apart : call.slot? ≠ some slot := fun same => about (by simp [Call.isAbout, same])
      have stays : (session.step transport call).session.cursors.get? slot = some cursor := by
        rw [step_eq]
        exact (agreesOn_affected apart session _ _).cursor.trans held
      obtain ⟨kept, later⟩ := ih stays fun other member =>
        failed other (List.mem_cons_of_mem _ member)
      refine ⟨kept, fun other member => ?_⟩
      rcases List.mem_cons.1 member with rfl | further
      · exact fun same => absurd same about
      · exact later other further

end Session

/-- A fetch that fails leaves every field of its cursor as it was, and a ready cursor fails with
every answer that carries no page, whatever else it carries. So in a session, however often the
fetches under a name fail and whatever is called in between, the next fetch there makes the very
request that failed. -/
theorem failed_fetch_repeated {cursor : Cursor} (reached : cursor.Reachable) :
    (∀ respond error, (cursor.nextPage.settledBy respond).1 = .error error →
      (cursor.nextPage.settledBy respond).2 = cursor) ∧
    (cursor.state = .ready → ∃ request, cursor.nextPage.request? = some request ∧
      IsQueryRequest cursor.specification request ∧
      ∀ respond, (∃ error, (cursor.nextPage.settledBy respond).1 = .error error) ↔
        IsFailure (respond request)) ∧
    ∀ (σ : Type) (transport : Transport σ) (session : Session σ) (slot : String)
      (calls : List Call), session.cursors.get? slot = some cursor →
      let watched := session.watch transport calls
      (∀ seen ∈ watched.1, seen.call.isAbout slot = true → seen.IsFailedFetch slot) →
      watched.2.cursors.get? slot = some cursor ∧
        ∃ next, (watched.2.watch transport [.nextPage slot]).1 = [next] ∧
          ∀ seen ∈ next :: watched.1, seen.call.isAbout slot = true →
            seen.exchanges.map Exchanged.request = cursor.nextPage.request?.toList := by
  refine ⟨fun respond error => Cursor.eq_of_nextPage_error,
    (Cursor.sound_of_reachable reached).exists_request, ?_⟩
  intro σ transport session slot calls held watched failed
  obtain ⟨kept, requests⟩ := Session.watch_of_failedFetches held failed
  obtain ⟨next, _, again, same, _⟩ := Session.exists_watch_nextPage transport kept []
  refine ⟨kept, next, congrArg Prod.fst again, fun seen member about => ?_⟩
  rcases List.mem_cons.1 member with rfl | earlier
  · exact same
  · exact requests seen earlier about

/-- A response of success that names a token. One of the two records of its page has no key. -/
def spoiltPage : Answer :=
  .ok ⟨.ok, Http.HeaderMap.empty.insert .continuation (.ofVisible "t2"),
    Bytes.ofText "[\x7b\"registrationId\":\"dev-1\"\x7d,\x7b\x7d]"⟩

/-- A page that cannot be read, a lookup, and a page that is turned away: what the third fetch asks
for is what the first one asked for. -/
theorem failed_fetch_repeated_spoilt :
    let session : Session Script :=
      ⟨.ofAnswers [spoiltPage, emptyPage "t3", .ok throttled], [("q", resumedCursor)], []⟩
    let watched := session.watch Script.transport [.nextPage "q", .get "dev-1", .nextPage "q"]
    resumedCursor.Reachable ∧ resumedCursor.state = .ready ∧
      session.cursors.get? "q" = some resumedCursor ∧
      (∀ seen ∈ watched.1, seen.call.isAbout "q" = true → seen.IsFailedFetch "q") ∧
      watched.2.cursors.get? "q" = some resumedCursor ∧
      ∃ next request, (watched.2.watch Script.transport [.nextPage "q"]).1 = [next] ∧
        request.headers.values .continuation = [.ofVisible "t1"] ∧
        ∀ seen ∈ next :: watched.1, seen.call.isAbout "q" = true →
          seen.exchanges.map Exchanged.request = [request] := by
  intro session watched
  obtain ⟨_, asks, repeated⟩ := failed_fetch_repeated reachable_resumedCursor
  obtain ⟨request, made, _⟩ := asks rfl
  have failed : ∀ seen ∈ watched.1, seen.call.isAbout "q" = true → seen.IsFailedFetch "q" := by
    intro seen member about
    have places : watched.1 = [watched.1[0], watched.1[1], watched.1[2]] := rfl
    rw [places] at member
    simp only [List.mem_cons, List.not_mem_nil, or_false] at member
    rcases member with rfl | rfl | rfl
    · exact ⟨rfl, _, rfl⟩
    · cases about
    · exact ⟨rfl, _, rfl⟩
  obtain ⟨kept, next, again, requests⟩ :=
    repeated Script Script.transport session "q" _ rfl failed
  rw [made] at requests
  refine ⟨reachable_resumedCursor, rfl, rfl, failed, kept, next, request, again, ?_, requests⟩
  cases Option.some.inj made
  rfl

end DeviceEnrollment.Registry
