import DeviceEnrollment.Proofs.Http.Header
import DeviceEnrollment.Proofs.Registry.Plan
import DeviceEnrollment.Registry.Client

/-!
Cursors that a caller can hold: those that `createQuery` gave out, moved by any answers. Their
tokens can always be sent back (`Cursor.sound_of_reachable`).
-/
namespace DeviceEnrollment.Registry

/-- Whether a token can be sent back as it came. -/
structure IsSendable (token : ContinuationToken) : Prop where
  nonempty : token.text.isEmpty = false
  printed : (Bytes.ofText token.text).all Http.isTextByte = true

namespace Cursor

/-- The cursors that calls lead to, whatever the answers to them are. -/
inductive Reachable : Cursor → Prop
  | created {specification : QuerySpecification} {pageSize : Int} {cursor : Cursor}
      (made : createQuery specification pageSize = .ok cursor) : Reachable cursor
  | moved {cursor : Cursor} (reached : Reachable cursor) (respond : Request → Answer) :
      Reachable (cursor.nextPage.settledBy respond).2

/-- What holds of a cursor between calls. -/
structure Sound (cursor : Cursor) : Prop where
  sendable : ∀ token, cursor.continuation = some token → IsSendable token
  exhausted : cursor.state = .exhausted → cursor.continuation = none

/-- A new cursor stands before the first page. -/
theorem of_createQuery {specification : QuerySpecification} {pageSize : Int} {cursor : Cursor}
    (made : createQuery specification pageSize = .ok cursor) :
    Text.isAllBlank specification.text = false ∧ 0 ≤ pageSize ∧
      cursor = ⟨specification, pageSize.toNat, none, .ready⟩ := by
  unfold createQuery create at made
  cases blank : Text.isAllBlank specification.text with
  | true => simp [blank] at made
  | false =>
    by_cases negative : pageSize < 0
    · simp [blank, negative] at made
    · simp only [blank, Bool.false_eq_true, if_false, if_neg negative, Except.ok.injEq] at made
      exact ⟨rfl, Int.not_lt.1 negative, made.symm⟩

theorem isSendable_tokenOf? {response : Http.Response} {token : ContinuationToken}
    (found : tokenOf? response = some token) : IsSendable token := by
  unfold tokenOf? at found
  obtain ⟨text, kept, rfl⟩ := Option.map_eq_some_iff.1 found
  obtain ⟨read, filled⟩ := Option.filter_eq_some_iff.1 kept
  obtain ⟨value, _, printed⟩ := Option.bind_eq_some_iff.1 read
  obtain ⟨bytes, legal⟩ := Http.HeaderValue.of_toText? printed
  exact ⟨by simpa using filled, bytes ▸ legal⟩

/-- A page says about its continuation what the headers say. -/
theorem of_readPageOf {response : Http.Response} {page : Page}
    (read : (readPageOf response).result = .ok page) :
    readPage response.body = .ok page.items ∧ page.continuation = tokenOf? response := by
  unfold readPageOf at read
  split at read
  · cases read
  · next items body =>
    cases Except.ok.inj read
    exact ⟨body, rfl⟩

/-- Every header map that a sound cursor sends can be written down. -/
theorem exists_headers?_of_sound {cursor : Cursor} (sound : cursor.Sound) :
    ∃ headers, cursor.headers? = some headers := by
  unfold headers?
  cases held : cursor.continuation with
  | none => exact ⟨_, rfl⟩
  | some token =>
    have legal := Http.all_isHeaderByte_of_isTextByte (sound.sendable token held).printed
    obtain ⟨value, sent, _⟩ := Http.HeaderValue.exists_ofText? legal
    simp [sent]

/-- A fetch that is answered by a page had a readable response of success. -/
theorem exists_response_of_fetch {cursor : Cursor} {respond : Request → Answer} {page : Page}
    (got : cursor.fetch.settledBy respond = .ok page) :
    ∃ headers response, cursor.state = .ready ∧ cursor.headers? = some headers ∧
      respond (cursor.request headers) = .ok response ∧ response.status.isSuccess = true ∧
      (readPageOf response).result = .ok page := by
  unfold fetch at got
  split at got
  · cases got
  · next ready =>
    split at got
    · cases got
    · next headers sent =>
      rw [Plan.settledBy_send] at got
      cases answer : respond (cursor.request headers) with
      | error failure => simp [answer] at got
      | ok response =>
        simp only [answer] at got
        cases success : response.status.isSuccess with
        | false => simp [success] at got
        | true =>
          rw [success, if_pos rfl] at got
          exact ⟨headers, response, ready, sent, answer, success, got⟩

theorem settledBy_nextPage (cursor : Cursor) (respond : Request → Answer) :
    cursor.nextPage.settledBy respond =
      (cursor.fetch.settledBy respond, cursor.after (cursor.fetch.settledBy respond)) :=
  Plan.settledBy_map _ respond cursor.fetch

/-- One call keeps a cursor sound. -/
theorem Sound.nextPage {cursor : Cursor} (sound : cursor.Sound) (respond : Request → Answer) :
    (cursor.nextPage.settledBy respond).2.Sound := by
  rw [settledBy_nextPage]
  cases got : cursor.fetch.settledBy respond with
  | error fault => exact sound
  | ok page =>
    obtain ⟨_, response, ready, _, _, _, read⟩ := exists_response_of_fetch got
    have named := (of_readPageOf read).2
    refine ⟨fun token held => isSendable_tokenOf? (named.symm.trans held), fun ended => ?_⟩
    show page.continuation = none
    cases more : page.continuation with
    | none => rfl
    | some token => simp [after, moveBehind, more, ready] at ended

theorem sound_of_reachable {cursor : Cursor} (reached : cursor.Reachable) : cursor.Sound := by
  induction reached with
  | created made =>
    obtain ⟨_, _, rfl⟩ := of_createQuery made
    refine ⟨?_, ?_⟩
    · intro token held
      cases held
    · intro ended
      cases ended
  | moved _ respond sound => exact sound.nextPage respond

end Cursor

end DeviceEnrollment.Registry
