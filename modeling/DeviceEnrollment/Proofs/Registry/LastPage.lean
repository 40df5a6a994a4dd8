import DeviceEnrollment.Proofs.Registry.Accounting
import DeviceEnrollment.Proofs.Registry.Paging

/-!
Which pages a cursor takes for the last one. A page has a next one if its response names a token
that is a text of ASCII; a token with any other byte counts as none (`last_page_exact`).
-/
namespace DeviceEnrollment.Registry

/-- Whether the first token of a response is there, has a byte, and is one that can be read. -/
structure Continues (response : Http.Response) (token : Http.HeaderValue) : Prop where
  first : response.headers.first? .continuation = some token
  filled : token.bytes ≠ []
  printed : token.bytes.all Http.isTextByte = true

namespace Cursor

theorem exists_continues_of_tokenOf? {response : Http.Response} {token : ContinuationToken}
    (found : tokenOf? response = some token) : ∃ value, Continues response value := by
  obtain ⟨text, kept, _⟩ := Option.map_eq_some_iff.1 found
  obtain ⟨read, filled⟩ := Option.filter_eq_some_iff.1 kept
  obtain ⟨value, first, printed⟩ := Option.bind_eq_some_iff.1 read
  obtain ⟨bytes, legal⟩ := Http.HeaderValue.of_toText? printed
  have nonempty : text.isEmpty = false := by simpa using filled
  exact ⟨value, first, bytes ▸ Bytes.ofText_ne_nil_iff.2 nonempty, legal⟩

/-- A token that can be read is taken with all its bytes. -/
theorem exists_tokenOf?_of_continues {response : Http.Response} {value : Http.HeaderValue}
    (continues : Continues response value) :
    ∃ token, tokenOf? response = some token ∧ Bytes.ofText token.text = value.bytes := by
  obtain ⟨text, read⟩ := Http.HeaderValue.exists_toText? continues.printed
  obtain ⟨bytes, _⟩ := Http.HeaderValue.of_toText? read
  have nonempty : text.isEmpty = false := Bytes.ofText_ne_nil_iff.1 (bytes ▸ continues.filled)
  refine ⟨⟨text⟩, ?_, bytes⟩
  rw [tokenOf?, Http.HeaderMap.text?, continues.first, Option.bind_eq_bind, Option.bind_some, read,
    Option.filter_some_pos (by rw [nonempty]; rfl), Option.map_some]

theorem tokenOf?_eq_none_iff {response : Http.Response} :
    tokenOf? response = none ↔ ∀ value, ¬Continues response value := by
  constructor
  · intro none value continues
    obtain ⟨token, found, _⟩ := exists_tokenOf?_of_continues continues
    cases none.symm.trans found
  · intro ends
    cases found : tokenOf? response with
    | none => rfl
    | some token =>
      obtain ⟨value, continues⟩ := exists_continues_of_tokenOf? found
      exact absurd continues (ends value)

/-- A ready cursor is exhausted by the pages that name nothing to go on with. -/
theorem state_moveBehind_eq_exhausted_iff {cursor : Cursor} (ready : cursor.state = .ready)
    (page : Page) : (cursor.moveBehind page).state = .exhausted ↔ page.continuation = none := by
  cases named : page.continuation <;> simp [moveBehind, named, ready]

/-- A ready cursor moves behind every page that it gets. -/
theorem Sound.nextPage_of_page {cursor : Cursor} (sound : cursor.Sound)
    (ready : cursor.state = .ready) {response : Http.Response} {items : List Enrollment}
    (success : response.status.isSuccess = true) (listed : readPage response.body = .ok items) :
    let page : Page := ⟨items, tokenOf? response, response.headers.text? .itemType⟩
    cursor.nextPage.settledBy (fun _ => .ok response) = (.ok page, cursor.moveBehind page) := by
  intro page
  obtain ⟨headers, sent⟩ := exists_headers?_of_sound sound
  have got : cursor.fetch.settledBy (fun _ => .ok response) = .ok page :=
    fetch_of_page ready sent rfl success listed
  rw [settledBy_nextPage, got]
  rfl

theorem request?_nextPage {cursor : Cursor} (ready : cursor.state = .ready)
    {headers : Http.HeaderMap} (sent : cursor.headers? = some headers) :
    cursor.nextPage.request? = some (cursor.request headers) := by
  rw [nextPage, Plan.request?_map, fetch, ready]
  simp only [sent]
  rfl

end Cursor

/-- A ready cursor hands a page on whatever its response says about a next one. It is exhausted by
the page exactly if the response names no token that can be read, and otherwise holds the token
with all its bytes. No other answer exhausts a cursor. -/
theorem last_page_exact {cursor : Cursor} (reached : cursor.Reachable)
    (ready : cursor.state = .ready) :
    (∀ response items, response.status.isSuccess = true → readPage response.body = .ok items →
      let moved := cursor.nextPage.settledBy fun _ => .ok response
      moved.1.map Page.items = .ok items ∧
        (moved.2.state = .exhausted ↔ ∀ value, ¬Continues response value) ∧
        ∀ value, Continues response value → ∃ token,
          moved.2 = { cursor with continuation := some token } ∧
            Bytes.ofText token.text = value.bytes) ∧
      ∀ respond, (cursor.nextPage.settledBy respond).2.state = .exhausted →
        ∃ request response items, cursor.nextPage.request? = some request ∧
          respond request = .ok response ∧ response.status.isSuccess = true ∧
          readPage response.body = .ok items ∧ ∀ value, ¬Continues response value := by
  constructor
  · intro response items success listed moved
    have sound := Cursor.sound_of_reachable reached
    have behind := sound.nextPage_of_page ready success listed
    rw [show moved = _ from behind]
    refine ⟨rfl, ?_, ?_⟩
    · rw [← Cursor.tokenOf?_eq_none_iff]
      exact Cursor.state_moveBehind_eq_exhausted_iff ready _
    · intro value continues
      obtain ⟨token, found, bytes⟩ := Cursor.exists_tokenOf?_of_continues continues
      exact ⟨token, by simp [Cursor.moveBehind, found], bytes⟩
  · intro respond exhausted
    rw [Cursor.settledBy_nextPage] at exhausted
    cases got : cursor.fetch.settledBy respond with
    | error error =>
      rw [got] at exhausted
      cases ready.symm.trans exhausted
    | ok page =>
      obtain ⟨headers, response, _, sent, answer, success, read⟩ :=
        Cursor.exists_response_of_fetch got
      obtain ⟨listed, named⟩ := Cursor.of_readPageOf read
      rw [got] at exhausted
      have last := (Cursor.state_moveBehind_eq_exhausted_iff ready page).1 exhausted
      rw [named] at last
      exact ⟨_, response, page.items, Cursor.request?_nextPage ready sent, answer, success, listed,
        Cursor.tokenOf?_eq_none_iff.1 last⟩

/-- A page without items whose response names a token. -/
def pageNaming (token : Http.HeaderValue) : Http.Response :=
  ⟨.ok, Http.HeaderMap.empty.insert .continuation token, Bytes.ofText "[]"⟩

/-- A page with a token of a tab is not the last one, and a page with an empty token is. -/
theorem last_page_exact_tab :
    (∃ token, (resumedCursor.nextPage.settledBy fun _ => .ok (pageNaming (.ofVisible "\t"))).2 =
        { resumedCursor with continuation := some token } ∧ Bytes.ofText token.text = [9]) ∧
      (resumedCursor.nextPage.settledBy fun _ => .ok (pageNaming (.ofVisible ""))).2.state =
        .exhausted := by
  obtain ⟨behind, _⟩ := last_page_exact reachable_resumedCursor rfl
  have listed (token : Http.HeaderValue) : readPage (pageNaming token).body = .ok [] := rfl
  obtain ⟨_, _, goesOn⟩ := behind (pageNaming (.ofVisible "\t")) [] rfl (listed _)
  obtain ⟨_, exhausted, _⟩ := behind (pageNaming (.ofVisible "")) [] rfl (listed _)
  refine ⟨goesOn (.ofVisible "\t") ⟨rfl, by decide, by decide⟩, exhausted.2 ?_⟩
  intro value continues
  cases continues.first
  exact continues.filled rfl

/-- A token with a letter beyond ASCII. -/
def accented : Http.HeaderValue := ⟨[0x74, 0xC3, 0xA9], by decide, false⟩

/-- Behind a page whose token is a text with such a letter a query is over, and nobody is told. -/
theorem last_page_lost :
    resumedCursor.Reachable ∧ resumedCursor.state = .ready ∧
      (pageNaming accented).status.isSuccess = true ∧
      (pageNaming accented).headers.first? .continuation = some accented ∧
      accented.bytes = Bytes.ofText "té" ∧
      ∃ page, resumedCursor.nextPage.settledBy (fun _ => .ok (pageNaming accented)) =
        (.ok page, { resumedCursor with continuation := none, state := .exhausted }) :=
  ⟨reachable_resumedCursor, rfl, rfl, rfl, rfl, _, rfl⟩

end DeviceEnrollment.Registry
