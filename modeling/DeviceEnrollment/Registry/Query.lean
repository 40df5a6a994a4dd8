import DeviceEnrollment.Registry.Exchange
import DeviceEnrollment.Text.Quoted

/-!
Cursors over the pages of a query. A cursor moves only when a whole page has arrived; it is
exhausted with the first page that names no continuation.
-/
namespace DeviceEnrollment.Registry

inductive CursorState where
  | ready
  | exhausted
deriving DecidableEq, Repr

structure Cursor where
  specification : QuerySpecification
  /-- How many items a page is to have; zero leaves it to the service. -/
  pageSize : Nat
  continuation : Option ContinuationToken
  state : CursorState
deriving DecidableEq, Repr

structure Page where
  items : List Enrollment
  /-- Where the next page begins. The last page has none. -/
  continuation : Option ContinuationToken
  itemType : Option String
deriving Repr

/-- The place of all enrollments. -/
def enrollmentCollection : String := "enrollments"

namespace Cursor

/-- A cursor before the first page of a query. -/
def create (specification : QuerySpecification) (pageSize : Int) :
    Except InvalidArgument Cursor :=
  if Text.isAllBlank specification.text then .error .emptyQuery
  else if pageSize < 0 then .error (.negativePageSize pageSize)
  else .ok ⟨specification, pageSize.toNat, none, .ready⟩

def hasNext (cursor : Cursor) : Bool := cursor.state = .ready

def segments : List String := [enrollmentCollection, "query"]

def sizeHeaders (cursor : Cursor) : Http.HeaderMap :=
  if cursor.pageSize = 0 then .empty
  else Http.HeaderMap.empty.insert .maxItemCount (.ofNat cursor.pageSize)

/-- The headers of the next request, if the token can be sent in one. -/
def headers? (cursor : Cursor) : Option Http.HeaderMap :=
  match cursor.continuation with
  | none => some cursor.sizeHeaders
  | some token =>
    (Http.HeaderValue.ofText? token.text).map (cursor.sizeHeaders.insert .continuation)

def request (cursor : Cursor) (headers : Http.HeaderMap) : Request :=
  ⟨.post, segments, headers, cursor.specification.print⟩

/-- The token of a response. An empty one counts as none. -/
def tokenOf? (response : Http.Response) : Option ContinuationToken :=
  ((response.headers.text? .continuation).filter (!·.isEmpty)).map ContinuationToken.mk

/-- The page that a response carries. -/
def readPageOf (response : Http.Response) : Settled (Outcome Page) :=
  match readPage response.body with
  | .error error => ⟨[], .error error⟩
  | .ok items =>
    let token := tokenOf? response
    ⟨[.pageReceived items.length token.isNone],
      .ok ⟨items, token, response.headers.text? .itemType⟩⟩

/-- The cursor behind a page. -/
def moveBehind (cursor : Cursor) (page : Page) : Cursor :=
  { cursor with
    continuation := page.continuation
    state := if page.continuation.isNone then .exhausted else cursor.state }

/-- Where a result leaves the cursor. -/
def after (cursor : Cursor) : Outcome Page → Cursor
  | .ok page => cursor.moveBehind page
  | .error _ => cursor

/-- Fetches one page. -/
def fetch (cursor : Cursor) : Plan (Outcome Page) :=
  match cursor.state with
  | .exhausted => .settled (.error .exhausted)
  | .ready =>
    match cursor.headers? with
    | none => .settled (.error (.protocol .tokenNotHeader))
    | some headers => .send .query (cursor.request headers) readPageOf

/-- Fetches one page and moves behind it. -/
def nextPage (cursor : Cursor) : Plan (Outcome Page × Cursor) :=
  cursor.fetch.map fun result => (result, cursor.after result)

theorem responsesLeft_fetch_lt {σ : Type} {transport : Transport σ} {state : σ} {cursor : Cursor}
    {page : Page} (got : (cursor.fetch.run transport state).result = .ok page) :
    transport.responsesLeft (cursor.fetch.run transport state).state <
      transport.responsesLeft state := by
  unfold fetch at got ⊢
  split at got
  · simp [Plan.run] at got
  · split at got
    · simp [Plan.run] at got
    · exact Plan.responsesLeft_send_lt got

/-- What a cursor is shown as. -/
def text (cursor : Cursor) : String :=
  let segmentTexts := ", ".intercalate (segments.map Text.quoted)
  let token := Text.optional (cursor.continuation.map fun token =>
    s!"ContinuationToken({Text.quoted token.text})")
  let state := match cursor.state with
    | .ready => "Ready"
    | .exhausted => "Exhausted"
  "Query \x7b segments: [" ++ segmentTexts ++ "], specification: QuerySpecification \x7b query: " ++
    Text.quoted cursor.specification.text ++ " \x7d, page_size: " ++
    Text.numberText cursor.pageSize ++ ", continuation: " ++ token ++ ", state: " ++ state ++
    ", .. \x7d"

end Cursor

end DeviceEnrollment.Registry
