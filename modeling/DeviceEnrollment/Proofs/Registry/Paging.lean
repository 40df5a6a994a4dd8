import DeviceEnrollment.Proofs.Registry.Cursor
import Mathlib.Data.List.Nodup
import Mathlib.Data.Nat.Find

/-!
A query that is read page by page while answers fail now and then. A cursor that is asked until it
is exhausted gives every page once and in order (`pages_complete`).
-/
namespace DeviceEnrollment.Registry

/-! ### What a service lists -/

/-- A response of success that carries a page. -/
structure ListedPage where
  response : Http.Response
  items : List Enrollment
  success : response.status.isSuccess = true
  readable : readPage response.body = .ok items

/-- Whether a text is made of printed characters of ASCII, and of one at least. -/
def IsPrinted (text : String) : Prop :=
  text ≠ "" ∧ ∀ c ∈ text.toList, 0x20 ≤ c.toNat ∧ c.toNat ≤ 0x7E

/-- The pages of a query in order, and a token between each two of them. -/
structure Listing where
  pages : List ListedPage
  tokens : List String
  length_pages : pages.length = tokens.length + 1
  distinct : tokens.Nodup
  printed : ∀ token ∈ tokens, IsPrinted token
  /-- A page names the token of the next one, and the last page names none. -/
  names : ∀ (place : Nat) (page : ListedPage), pages[place]? = some page →
    (page.response.headers.first? .continuation).map Http.HeaderValue.bytes =
      tokens[place]?.map Bytes.ofText

namespace Listing

/-- The page that a request asks for: the first one without a token, and the one that the token
stands before. -/
def pageFor? (listing : Listing) (request : Request) : Option ListedPage :=
  match request.headers.values .continuation with
  | [] => listing.pages[0]?
  | [value] => do
    let place ← listing.tokens.findIdx? fun token => Bytes.ofText token == value.bytes
    listing.pages[place + 1]?
  | _ => none

end Listing

/-- Whether a request is one for a page of a query. -/
def IsQueryRequest (specification : QuerySpecification) (request : Request) : Prop :=
  request.method = .post ∧ request.segments = Cursor.segments ∧
    request.body = specification.print

/-- Whether an answer carries no page: there is no response, its status is none of success, or its
body cannot be read. -/
def IsFailure (answer : Answer) : Prop :=
  match answer with
  | .error _ => True
  | .ok response =>
    response.status.isSuccess = false ∨ ∃ error, readPage response.body = .error error

/-- Whether answers, turn by turn, give the pages of a listing but for failures, and fail no request
for a page for ever. -/
structure Serves (listing : Listing) (specification : QuerySpecification)
    (respond : Nat → Request → Answer) : Prop where
  answers : ∀ (turn : Nat) (request : Request) (page : ListedPage),
    IsQueryRequest specification request → listing.pageFor? request = some page →
    IsFailure (respond turn request) ∨ respond turn request = .ok page.response
  recovers : ∀ (turn : Nat) (request : Request) (page : ListedPage),
    IsQueryRequest specification request → listing.pageFor? request = some page →
    ∃ later, turn ≤ later ∧ ¬IsFailure (respond later request)

/-! ### Asking again and again -/

/-- One more call of a cursor that gave some pages. An error is passed over. -/
def Cursor.call (respond : Request → Answer) (visited : Cursor × List Page) :
    Cursor × List Page :=
  let outcome := visited.1.nextPage.settledBy respond
  (outcome.2, visited.2 ++ outcome.1.toOption.toList)

/-- A cursor after a number of calls, and the pages that it gave. -/
def Cursor.visit (respond : Nat → Request → Answer) (cursor : Cursor) : Nat → Cursor × List Page
  | 0 => (cursor, [])
  | calls + 1 => call (respond calls) (visit respond cursor calls)

namespace Listing

variable (listing : Listing)

/-- The token that a request for a page carries. -/
def tokenBefore? : Nat → Option ContinuationToken
  | 0 => none
  | place + 1 => listing.tokens[place]?.map ContinuationToken.mk

/-- A cursor that gave a number of pages. -/
def cursorBehind (start : Cursor) (given : Nat) : Cursor :=
  { start with
    continuation := listing.tokenBefore? given
    state := if given = listing.pages.length then .exhausted else .ready }

/-- Where a cursor and the pages that it gave stand in a listing. -/
structure Stands (start : Cursor) (visited : Cursor × List Page) : Prop where
  cursor : visited.1 = listing.cursorBehind start visited.2.length
  bound : visited.2.length ≤ listing.pages.length
  items : visited.2.map Page.items =
    (listing.pages.take visited.2.length).map ListedPage.items

end Listing

/-! ### Tokens -/

theorem IsPrinted.all_isTextByte {text : String} (printed : IsPrinted text) :
    (Bytes.ofText text).all Http.isTextByte = true := by
  have ascii : ∀ c ∈ text.toList, c.toNat < 0x80 := by
    intro c member
    have bounds := printed.2 c member
    omega
  have bytes := Bytes.ofText_ascii ascii
  rw [String.ofList_toList] at bytes
  rw [bytes, List.all_map, List.all_eq_true]
  intro c member
  have all : ∀ point < 0x7F, 0x20 ≤ point → Http.isTextByte point.toUInt8 = true := by decide
  obtain ⟨low, high⟩ := printed.2 c member
  exact all c.toNat (by omega) low

namespace Listing

variable {listing : Listing}

/-- The token before a page leads to this page and to no earlier one. -/
theorem findIdx?_tokens {place : Nat} (inside : place < listing.tokens.length) :
    listing.tokens.findIdx? (fun token =>
      Bytes.ofText token == Bytes.ofText listing.tokens[place]) = some place := by
  rw [List.findIdx?_eq_some_iff_getElem]
  refine ⟨inside, by simp, ?_⟩
  intro earlier before same
  have tokens := Bytes.ofText_inj.1 (eq_of_beq same)
  have places := (listing.distinct.getElem_inj_iff).1 tokens
  omega

/-- The token of a page that names one is read as it was written. -/
theorem tokenOf?_response {place : Nat} {page : ListedPage}
    (listed : listing.pages[place]? = some page) :
    Cursor.tokenOf? page.response = listing.tokenBefore? (place + 1) := by
  have named := listing.names place page listed
  show _ = listing.tokens[place]?.map ContinuationToken.mk
  unfold Cursor.tokenOf? Http.HeaderMap.text?
  cases next : listing.tokens[place]? with
  | none =>
    rw [next] at named
    have first := Option.map_eq_none_iff.1 named
    rw [first]
    rfl
  | some token =>
    rw [next] at named
    obtain ⟨value, first, bytes⟩ := Option.map_eq_some_iff.1 named
    have printed := listing.printed token (List.mem_of_getElem? next)
    have text : value.toText? = some token := by
      rw [Http.HeaderValue.toText?, bytes, if_pos printed.all_isTextByte, Bytes.toText?_ofText]
    have filled : token.isEmpty = false := by simpa using printed.1
    simp [first, text, filled, Option.filter]

end Listing

/-! ### One call -/

namespace Cursor

theorem values_sizeHeaders (cursor : Cursor) :
    cursor.sizeHeaders.values .continuation = [] := by
  unfold sizeHeaders
  by_cases unlimited : cursor.pageSize = 0
  · rw [if_pos unlimited]
    rfl
  · rw [if_neg unlimited, Http.HeaderMap.values_insert_of_ne _ (by decide)]
    rfl

/-- What a ready cursor makes of the answer to its request. -/
theorem settledBy_fetch {cursor : Cursor} {headers : Http.HeaderMap} (ready : cursor.state = .ready)
    (sent : cursor.headers? = some headers) (respond : Request → Answer) :
    cursor.fetch.settledBy respond =
      (Plan.send .query (cursor.request headers) readPageOf).settledBy respond := by
  rw [fetch, ready]
  simp only [sent]

theorem fetch_of_isFailure {cursor : Cursor} {headers : Http.HeaderMap}
    (ready : cursor.state = .ready) (sent : cursor.headers? = some headers)
    {respond : Request → Answer} (failure : IsFailure (respond (cursor.request headers))) :
    ∃ error, cursor.fetch.settledBy respond = .error error := by
  rw [settledBy_fetch ready sent, Plan.settledBy_send]
  cases answer : respond (cursor.request headers) with
  | error fault => exact ⟨_, rfl⟩
  | ok response =>
    rw [answer] at failure
    cases success : response.status.isSuccess with
    | false => exact ⟨.service (.ofResponse response), by simp [success]⟩
    | true =>
      rcases failure with refused | ⟨error, unreadable⟩
      · rw [success] at refused
        cases refused
      · exact ⟨error, by simp [readPageOf, unreadable, success]⟩

theorem fetch_of_page {cursor : Cursor} {headers : Http.HeaderMap} (ready : cursor.state = .ready)
    (sent : cursor.headers? = some headers) {respond : Request → Answer} {response : Http.Response}
    {items : List Enrollment} (answer : respond (cursor.request headers) = .ok response)
    (success : response.status.isSuccess = true) (listed : readPage response.body = .ok items) :
    cursor.fetch.settledBy respond =
      .ok ⟨items, tokenOf? response, response.headers.text? .itemType⟩ := by
  rw [settledBy_fetch ready sent, Plan.settledBy_send]
  simp [answer, success, readPageOf, listed]

theorem fetch_of_exhausted {cursor : Cursor} (exhausted : cursor.state = .exhausted) :
    cursor.fetch = .settled (.error .exhausted) := by
  rw [fetch, exhausted]

theorem call_of_error {visited : Cursor × List Page} {respond : Request → Answer}
    {error : RegistryError} (failed : visited.1.fetch.settledBy respond = .error error) :
    call respond visited = visited := by
  rw [call, settledBy_nextPage, failed]
  simp [after, Except.toOption]

theorem call_of_page {visited : Cursor × List Page} {respond : Request → Answer} {page : Page}
    (got : visited.1.fetch.settledBy respond = .ok page) :
    call respond visited = (visited.1.moveBehind page, visited.2 ++ [page]) := by
  rw [call, settledBy_nextPage, got]
  rfl

theorem call_of_exhausted {visited : Cursor × List Page} (exhausted : visited.1.state = .exhausted)
    (respond : Request → Answer) : call respond visited = visited := by
  have failed : visited.1.fetch.settledBy respond = .error .exhausted := by
    rw [fetch_of_exhausted exhausted]
    rfl
  exact call_of_error failed

end Cursor

namespace Listing

variable {listing : Listing}

theorem hasNext_cursorBehind (start : Cursor) (given : Nat) :
    (listing.cursorBehind start given).hasNext = true ↔ given ≠ listing.pages.length := by
  unfold cursorBehind Cursor.hasNext
  by_cases ended : given = listing.pages.length
  · simp [ended]
  · simp [ended]

/-- Behind a number of pages, the request asks for the page that comes next. -/
theorem exists_request (start : Cursor) {given : Nat} (more : given < listing.pages.length) :
    ∃ headers, (listing.cursorBehind start given).headers? = some headers ∧
      listing.pageFor? ((listing.cursorBehind start given).request headers) =
        some listing.pages[given] := by
  have page := List.getElem?_eq_getElem more
  cases given with
  | zero =>
    refine ⟨(listing.cursorBehind start 0).sizeHeaders, rfl, ?_⟩
    simp only [pageFor?, Cursor.request, Cursor.values_sizeHeaders]
    exact page
  | succ place =>
    have inside : place < listing.tokens.length := by
      have lengths := listing.length_pages
      omega
    have held : (listing.cursorBehind start (place + 1)).continuation =
        some ⟨listing.tokens[place]⟩ := by
      simp [cursorBehind, tokenBefore?, List.getElem?_eq_getElem inside]
    have printed := listing.printed _ (List.getElem_mem inside)
    have legal := Http.all_isHeaderByte_of_isTextByte printed.all_isTextByte
    obtain ⟨value, written, bytes⟩ := Http.HeaderValue.exists_ofText? legal
    refine ⟨(listing.cursorBehind start (place + 1)).sizeHeaders.insert .continuation value, ?_, ?_⟩
    · rw [Cursor.headers?, held]
      simp only [written, Option.map_some]
    · simp only [pageFor?, Cursor.request, Http.HeaderMap.values_insert, bytes,
        findIdx?_tokens inside]
      exact page

/-- The cursor that a page leads to is the one behind this page too. -/
theorem moveBehind_cursorBehind {start : Cursor} {given : Nat} (more : given < listing.pages.length)
    {page : Page} (named : page.continuation = listing.tokenBefore? (given + 1)) :
    (listing.cursorBehind start given).moveBehind page =
      listing.cursorBehind start (given + 1) := by
  have lengths := listing.length_pages
  have last : (listing.tokenBefore? (given + 1)).isNone = true ↔
      given + 1 = listing.pages.length := by
    simp only [tokenBefore?, Option.isNone_map, Option.isNone_iff_eq_none,
      List.getElem?_eq_none_iff]
    omega
  unfold Cursor.moveBehind cursorBehind
  rw [named, if_neg (Nat.ne_of_lt more)]
  simp only [if_congr last rfl rfl]

/-! ### Every run of calls -/

variable {start : Cursor} {visited : Cursor × List Page}

theorem Stands.hasNext_iff (stands : listing.Stands start visited) :
    visited.1.hasNext = true ↔ visited.2.length < listing.pages.length := by
  rw [stands.cursor, hasNext_cursorBehind]
  have bound := stands.bound
  omega

/-- Behind the last page no call changes anything. -/
theorem Stands.call_of_ended (stands : listing.Stands start visited)
    (ended : visited.2.length = listing.pages.length) (respond : Request → Answer) :
    Cursor.call respond visited = visited := by
  have exhausted : visited.1.state = .exhausted := by
    rw [stands.cursor, ended]
    simp [cursorBehind]
  exact Cursor.call_of_exhausted exhausted respond

/-- Behind a number of pages a call makes one request, for the next page. If it fails nothing
changes, and if the page comes it is the next one that is given. -/
theorem exists_exchange (start : Cursor) {given : Nat} (more : given < listing.pages.length) :
    ∃ request, IsQueryRequest start.specification request ∧
      listing.pageFor? request = some listing.pages[given] ∧
      ∀ visited, listing.Stands start visited → visited.2.length = given →
        ∀ respond : Request → Answer,
          (IsFailure (respond request) → Cursor.call respond visited = visited) ∧
          (respond request = .ok listing.pages[given].response →
            (Cursor.call respond visited).2.length = given + 1 ∧
              listing.Stands start (Cursor.call respond visited)) := by
  obtain ⟨headers, sent, asked⟩ := Listing.exists_request start more
  refine ⟨(listing.cursorBehind start given).request headers, ⟨rfl, rfl, rfl⟩, asked, ?_⟩
  intro visited stands place respond
  have cursor : visited.1 = listing.cursorBehind start given := place ▸ stands.cursor
  have ready : visited.1.state = .ready := by
    rw [cursor]
    simp [cursorBehind, Nat.ne_of_lt more]
  rw [← cursor] at sent ⊢
  constructor
  · intro failure
    obtain ⟨error, failed⟩ := Cursor.fetch_of_isFailure ready sent failure
    exact Cursor.call_of_error failed
  · intro answer
    have got := Cursor.fetch_of_page ready sent answer listing.pages[given].success
      listing.pages[given].readable
    have named := tokenOf?_response (List.getElem?_eq_getElem more)
    rw [Cursor.call_of_page got]
    have length : ∀ page : Page, (visited.2 ++ [page]).length = given + 1 := by
      intro page
      rw [List.length_append, List.length_singleton, place]
    refine ⟨length _, ⟨?_, ?_, ?_⟩⟩
    · simp only [length, cursor]
      exact moveBehind_cursorBehind more named
    · simp only [length]
      exact more
    · simp only [length]
      calc
        _ = (listing.pages.take given).map ListedPage.items ++ [listing.pages[given].items] := by
          rw [List.map_append, stands.items, place]
          rfl
        _ = (listing.pages.take given ++ [listing.pages[given]]).map ListedPage.items := by
          rw [List.map_append]
          rfl
        _ = (listing.pages.take (given + 1)).map ListedPage.items := by
          rw [List.take_add_one, List.getElem?_eq_getElem more]
          rfl

variable {specification : QuerySpecification} {respond : Nat → Request → Answer}

/-- One call keeps the place in the listing, or takes one page further. -/
theorem Stands.call (stands : listing.Stands start visited)
    (serves : Serves listing start.specification respond) (turn : Nat) :
    listing.Stands start (Cursor.call (respond turn) visited) ∧
      visited.2.length ≤ (Cursor.call (respond turn) visited).2.length := by
  rcases Nat.lt_or_eq_of_le stands.bound with more | ended
  · obtain ⟨request, query, asked, calls⟩ := exists_exchange start more
    obtain ⟨failed, served⟩ := calls visited stands rfl (respond turn)
    rcases serves.answers turn request _ query asked with failure | answer
    · rw [failed failure]
      exact ⟨stands, Nat.le_refl _⟩
    · obtain ⟨length, next⟩ := served answer
      exact ⟨next, by omega⟩
  · rw [stands.call_of_ended ended]
    exact ⟨stands, Nat.le_refl _⟩

/-- A new cursor stands before the first page. -/
theorem stands_of_createQuery (listing : Listing) {pageSize : Int}
    (made : createQuery specification pageSize = .ok start) :
    listing.Stands start (start, []) ∧ start.specification = specification := by
  obtain ⟨_, _, rfl⟩ := Cursor.of_createQuery made
  refine ⟨⟨?_, Nat.zero_le _, rfl⟩, rfl⟩
  have lengths := listing.length_pages
  have filled : 0 ≠ listing.pages.length := by omega
  simp [cursorBehind, tokenBefore?, filled]

theorem stands_visit (first : listing.Stands start (start, []))
    (serves : Serves listing start.specification respond) (calls : Nat) :
    listing.Stands start (start.visit respond calls) := by
  induction calls with
  | zero => exact first
  | succ calls ih => exact (ih.call serves calls).1

theorem length_visit_mono (first : listing.Stands start (start, []))
    (serves : Serves listing start.specification respond) {calls later : Nat}
    (order : calls ≤ later) :
    (start.visit respond calls).2.length ≤ (start.visit respond later).2.length := by
  induction later, order using Nat.le_induction with
  | base => exact Nat.le_refl _
  | succ later _ ih =>
    exact Nat.le_trans ih ((stands_visit first serves later).call serves later).2

/-- As long as there are pages, the next one comes some time. -/
theorem exists_next_page (first : listing.Stands start (start, []))
    (serves : Serves listing start.specification respond) (calls : Nat)
    (more : (start.visit respond calls).2.length < listing.pages.length) :
    ∃ later, (start.visit respond calls).2.length < (start.visit respond later).2.length := by
  obtain ⟨request, query, asked, exchanged⟩ := exists_exchange start more
  obtain ⟨later, order, answered⟩ := serves.recovers calls request _ query asked
  rcases Nat.lt_or_eq_of_le (length_visit_mono first serves order) with further | same
  · exact ⟨later, further⟩
  · -- The cursor still asks for the same page when the answer to it is none of failure.
    have answer := (serves.answers later request _ query asked).resolve_left answered
    have stands := stands_visit first serves later
    obtain ⟨length, _⟩ := (exchanged _ stands same.symm (respond later)).2 answer
    exact ⟨later + 1, Nat.lt_of_lt_of_eq (Nat.lt_succ_self _) length.symm⟩

/-- Every page comes some time. -/
theorem exists_visit (first : listing.Stands start (start, []))
    (serves : Serves listing start.specification respond) {given : Nat}
    (bound : given ≤ listing.pages.length) :
    ∃ calls, given ≤ (start.visit respond calls).2.length := by
  induction given with
  | zero => exact ⟨0, Nat.zero_le _⟩
  | succ given ih =>
    obtain ⟨calls, reached⟩ := ih (Nat.le_of_succ_le bound)
    rcases Nat.lt_or_eq_of_le reached with further | same
    · exact ⟨calls, further⟩
    · obtain ⟨later, next⟩ := exists_next_page first serves calls (same ▸ bound)
      exact ⟨later, same ▸ next⟩

end Listing

/-- However failures fall, a new cursor that is asked until it is exhausted gives the pages of the
listing, each once, in order and with its items; until then it has a next page. -/
theorem pages_complete {specification : QuerySpecification} {pageSize : Int} {cursor : Cursor}
    (made : createQuery specification pageSize = .ok cursor) (listing : Listing)
    (respond : Nat → Request → Answer) (serves : Serves listing specification respond) :
    (∀ calls, let visited := cursor.visit respond calls
      visited.2.map Page.items = (listing.pages.take visited.2.length).map ListedPage.items ∧
        (visited.1.hasNext = true ↔ visited.2.length < listing.pages.length)) ∧
      ∃ calls, (cursor.visit respond calls).1.hasNext = false ∧
        (∀ earlier, earlier < calls → (cursor.visit respond earlier).1.hasNext = true) ∧
        (cursor.visit respond calls).2.map Page.items = listing.pages.map ListedPage.items := by
  obtain ⟨first, rfl⟩ := listing.stands_of_createQuery made
  have stands := Listing.stands_visit first serves
  refine ⟨fun calls => ⟨(stands calls).items, (stands calls).hasNext_iff⟩, ?_⟩
  have ends : ∃ calls, (cursor.visit respond calls).1.hasNext = false := by
    obtain ⟨calls, all⟩ := Listing.exists_visit first serves (Nat.le_refl _)
    refine ⟨calls, ?_⟩
    rw [Bool.eq_false_iff, ne_eq, (stands calls).hasNext_iff]
    omega
  refine ⟨Nat.find ends, Nat.find_spec ends, ?_, ?_⟩
  · intro earlier before
    simpa using Nat.find_min ends before
  · have ended := Nat.find_spec ends
    rw [Bool.eq_false_iff, ne_eq, (stands _).hasNext_iff] at ended
    rw [(stands _).items, List.take_of_length_le (Nat.not_lt.1 ended)]

/-- The answers of a service that loses every second request. -/
def Listing.losing (listing : Listing) (turn : Nat) (request : Request) : Answer :=
  match listing.pageFor? request with
  | none => .error (.ofText "no such page")
  | some page => if turn % 2 = 0 then .error (.ofText "connection reset") else .ok page.response

theorem Listing.serves_losing (listing : Listing) (specification : QuerySpecification) :
    Serves listing specification listing.losing := by
  constructor
  · intro turn request page _ asked
    simp only [losing, asked]
    split
    · exact .inl trivial
    · exact .inr rfl
  · intro turn request page _ asked
    refine ⟨2 * turn + 1, by omega, ?_⟩
    simp [losing, asked, IsFailure, page.success, page.readable]

/-- An empty page, and a last one with a record. -/
def pairListing : Listing where
  pages := [
    { response := ⟨.ok, Http.HeaderMap.empty.insert .continuation (.ofVisible "t1"),
        Bytes.ofText "[]"⟩
      items := []
      success := rfl
      readable := rfl },
    { response := ⟨.ok, .empty, Bytes.ofText "[\x7b\"registrationId\":\"dev-1\"\x7d]"⟩
      items := [.ofId "dev-1"]
      success := rfl
      readable := rfl }]
  tokens := ["t1"]
  length_pages := rfl
  distinct := by decide
  printed := by
    intro token member
    rw [List.mem_singleton.1 member]
    refine ⟨by decide, ?_⟩
    intro c held
    rcases List.mem_cons.1 held with rfl | later
    · decide
    · rw [List.mem_singleton.1 later]
      decide
  names := by
    intro place page listed
    match place, listed with
    | 0, listed =>
      cases listed
      decide
    | 1, listed =>
      cases listed
      rfl

/-- A query reaches its record behind an empty page, though requests are lost on the way. -/
theorem pages_complete_losing : ∃ cursor, createQuery ⟨"SELECT *"⟩ 10 = .ok cursor ∧
    Serves pairListing ⟨"SELECT *"⟩ pairListing.losing ∧
    ∃ calls, (cursor.visit pairListing.losing calls).1.hasNext = false ∧
      (cursor.visit pairListing.losing calls).2.map Page.items = [[], [.ofId "dev-1"]] := by
  have made : createQuery ⟨"SELECT *"⟩ 10 = .ok ⟨⟨"SELECT *"⟩, 10, none, .ready⟩ := rfl
  have serves := pairListing.serves_losing ⟨"SELECT *"⟩
  obtain ⟨_, calls, ended, _, items⟩ := pages_complete made pairListing _ serves
  exact ⟨_, made, serves, calls, ended, items⟩

end DeviceEnrollment.Registry
