import DeviceEnrollment.Proofs.Registry.Accounting
import DeviceEnrollment.Proofs.Registry.Paging

/-!
What a cursor holds between calls, whatever the answers to them are. Its state and its token tell
whether it gave a page before, and a cursor that is exhausted stays as it is (`cursor_invariant`).
-/
namespace DeviceEnrollment.Registry

namespace Cursor

/-- A cursor that calls led to, beside the pages that they gave. -/
structure Stands (visited : Cursor × List Page) : Prop where
  sound : visited.1.Sound
  /-- Without a token a cursor is ready only before its first page. -/
  first : visited.1.state = .ready → visited.1.continuation = none → visited.2 = []

/-- Behind a page a cursor that is ready has a token. -/
theorem continuation_moveBehind_ne_none {cursor : Cursor} {page : Page}
    (ready : (cursor.moveBehind page).state = .ready) :
    (cursor.moveBehind page).continuation ≠ none := by
  intro none
  have last : page.continuation = Option.none := none
  simp [moveBehind, last] at ready

theorem Stands.call {visited : Cursor × List Page} (stands : Stands visited)
    (respond : Request → Answer) : Stands (Cursor.call respond visited) := by
  have sound := stands.sound.nextPage respond
  rw [settledBy_nextPage] at sound
  cases got : visited.1.fetch.settledBy respond with
  | error error =>
    rw [call_of_error got]
    exact stands
  | ok page =>
    rw [got] at sound
    rw [call_of_page got]
    exact ⟨sound, fun ready none => absurd none (continuation_moveBehind_ne_none ready)⟩

theorem stands_visit {specification : QuerySpecification} {pageSize : Int} {cursor : Cursor}
    (made : createQuery specification pageSize = .ok cursor) (respond : Nat → Request → Answer)
    (calls : Nat) : Stands (cursor.visit respond calls) := by
  induction calls with
  | zero => exact ⟨sound_of_reachable (.created made), fun _ _ => rfl⟩
  | succ calls ih => exact ih.call (respond calls)

/-- The token of a sound cursor is never the reason of a failure. -/
theorem Sound.fetch_ne_tokenNotHeader {cursor : Cursor} (sound : cursor.Sound)
    (respond : Request → Answer) :
    cursor.fetch.settledBy respond ≠ .error (.protocol .tokenNotHeader) := by
  intro failed
  cases state : cursor.state with
  | exhausted =>
    rw [fetch_of_exhausted state] at failed
    cases failed
  | ready =>
    obtain ⟨headers, sent⟩ := exists_headers?_of_sound sound
    rw [settledBy_fetch state sent, Plan.settledBy_send] at failed
    split at failed
    · cases failed
    · next response _ =>
      split at failed
      · have read : readPage response.body = .error (.protocol .tokenNotHeader) := by
          unfold readPageOf at failed
          split at failed
          · next error unreadable => rw [unreadable, Except.error.inj failed]
          · cases failed
        rcases eq_of_readBody_error read with missing | ⟨reason, malformed⟩
        · cases missing
        · cases malformed
      · cases failed

/-- An exhausted cursor refuses to fetch and stays where it is. -/
theorem nextPage_of_exhausted {cursor : Cursor} (exhausted : cursor.state = .exhausted) :
    cursor.nextPage = .settled (.error .exhausted, cursor) := by
  rw [nextPage, fetch_of_exhausted exhausted]
  rfl

/-- No later call changes anything once a cursor is exhausted. -/
theorem visit_of_exhausted {cursor : Cursor} {respond : Nat → Request → Answer} {calls later : Nat}
    (exhausted : (cursor.visit respond calls).1.state = .exhausted) (order : calls ≤ later) :
    cursor.visit respond later = cursor.visit respond calls := by
  induction later, order using Nat.le_induction with
  | base => rfl
  | succ later _ ih =>
    rw [visit, ih]
    exact call_of_exhausted exhausted (respond later)

end Cursor

/-- However the calls of a new cursor are answered: once exhausted it holds no token, and while it
is ready and holds none it gave no page yet. A token that it holds is a text that can be sent back
in a header, so no call fails for its sake. An exhausted cursor answers every later call with the
same error, asks nothing and stays as it is. -/
theorem cursor_invariant {specification : QuerySpecification} {pageSize : Int} {cursor : Cursor}
    (made : createQuery specification pageSize = .ok cursor) (respond : Nat → Request → Answer)
    (calls : Nat) :
    let visited := cursor.visit respond calls
    (visited.1.state = .exhausted → visited.1.continuation = none) ∧
      (visited.1.state = .ready → visited.1.continuation = none → visited.2 = []) ∧
      (∀ token, visited.1.continuation = some token → token.text ≠ "" ∧
        ∀ byte ∈ Bytes.ofText token.text,
          byte.toNat = 9 ∨ 32 ≤ byte.toNat ∧ byte.toNat ≤ 126) ∧
      (∀ answer : Request → Answer,
        (visited.1.nextPage.settledBy answer).1 ≠ .error (.protocol .tokenNotHeader)) ∧
      (visited.1.state = .exhausted →
        visited.1.nextPage = .settled (.error .exhausted, visited.1) ∧
          ∀ later, calls ≤ later → cursor.visit respond later = visited) := by
  intro visited
  have stands := Cursor.stands_visit made respond calls
  refine ⟨stands.sound.exhausted, stands.first, ?_, ?_, ?_⟩
  · intro token held
    have sendable := stands.sound.sendable token held
    refine ⟨by simpa using sendable.nonempty, ?_⟩
    intro byte member
    exact Http.isTextByte_iff.1 (List.all_eq_true.1 sendable.printed byte member)
  · intro answer
    rw [Cursor.settledBy_nextPage]
    exact stands.sound.fetch_ne_tokenNotHeader answer
  · intro exhausted
    exact ⟨Cursor.nextPage_of_exhausted exhausted,
      fun later order => Cursor.visit_of_exhausted exhausted order⟩

/-- The answers of a service that has an empty page, then loses a request, then has a last page. -/
def emptyThenLast : Nat → Request → Answer
  | 0, _ => .ok ⟨.ok, Http.HeaderMap.empty.insert .continuation (.ofVisible "t\t1"),
      Bytes.ofText "[]"⟩
  | 1, _ => .error (.ofText "connection reset")
  | _, _ => .ok ⟨.ok, .empty, Bytes.ofText "[]"⟩

/-- Behind its last page a cursor asks nothing any more, however often it is called. -/
theorem cursor_invariant_last_page : ∃ cursor, createQuery ⟨"SELECT *"⟩ 10 = .ok cursor ∧
    (cursor.visit emptyThenLast 2).1.continuation = some ⟨"t\t1"⟩ ∧
    ((9 : UInt8) ∈ Bytes.ofText "t\t1") ∧
    ∀ later, 3 ≤ later →
      cursor.visit emptyThenLast later = cursor.visit emptyThenLast 3 ∧
        (cursor.visit emptyThenLast later).1.nextPage.request? = none := by
  have made : createQuery ⟨"SELECT *"⟩ 10 = .ok ⟨⟨"SELECT *"⟩, 10, none, .ready⟩ := rfl
  obtain ⟨_, _, _, _, ended⟩ := cursor_invariant made emptyThenLast 3
  obtain ⟨refuses, stays⟩ := ended rfl
  refine ⟨_, made, rfl, by decide, fun later order => ⟨stays later order, ?_⟩⟩
  rw [stays later order, refuses]
  rfl

end DeviceEnrollment.Registry
