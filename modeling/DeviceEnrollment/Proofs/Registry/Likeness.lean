import DeviceEnrollment.Http.Arrival
import DeviceEnrollment.Proofs.Http.Header
import DeviceEnrollment.Proofs.Registry.Plan
import DeviceEnrollment.Registry.Client

/-!
Answers that say the same. No call looks at the headers that frame a body, so alike answers settle
it in the same way.
-/
namespace DeviceEnrollment

/-- Whether two responses say the same, but for the headers that frame their bodies. -/
structure Http.Response.Alike (first second : Http.Response) : Prop where
  status : first.status = second.status
  body : first.body = second.body
  values : ∀ name : Http.HeaderName, name.isFraming = false →
    first.headers.values name = second.headers.values name

namespace Http.Response.Alike

theorem refl (response : Response) : response.Alike response := ⟨rfl, rfl, fun _ _ => rfl⟩

theorem text? {first second : Response} (alike : first.Alike second) {name : HeaderName}
    (spoken : name.isFraming = false) : first.headers.text? name = second.headers.text? name := by
  rw [HeaderMap.text?, HeaderMap.text?, HeaderMap.first?_eq_head?_values,
    HeaderMap.first?_eq_head?_values, alike.values name spoken]

end Http.Response.Alike

namespace Registry

/-- Whether two answers are the same failure, or responses that say the same. -/
inductive Alike : Answer → Answer → Prop
  | failure (failure : TransportFailure) : Alike (.error failure) (.error failure)
  | response {first second : Http.Response} (alike : first.Alike second) :
      Alike (.ok first) (.ok second)

theorem Alike.refl (answer : Answer) : Alike answer answer := by
  cases answer with
  | error failure => exact .failure failure
  | ok response => exact .response (.refl response)

theorem ServiceError.ofResponse_eq_of_alike {first second : Http.Response}
    (alike : first.Alike second) : ofResponse first = ofResponse second := by
  have hint :
      Http.RetryHint.ofHeaders? first.headers = Http.RetryHint.ofHeaders? second.headers := by
    rw [Http.RetryHint.ofHeaders?, Http.RetryHint.ofHeaders?, alike.text? (by decide)]
  rw [ofResponse, ofResponse, alike.status, alike.body, hint]

/-! ### Plans -/

namespace Plan

variable {α β : Type}

/-- Whether alike answers settle a plan in the same way. -/
def ReadsAlike : Plan α → Prop
  | settled _ => True
  | exchange _ conclude => ∀ first second, Alike first second →
      (conclude first).result = (conclude second).result

theorem ReadsAlike.map (f : α → β) {plan : Plan α} (reads : plan.ReadsAlike) :
    (plan.map f).ReadsAlike := by
  cases plan with
  | settled result => trivial
  | exchange request conclude =>
    exact fun first second alike => congrArg f (reads first second alike)

theorem readsAlike_withArgument {argument : Except InvalidArgument α}
    {next : α → Plan (Outcome β)} (rest : ∀ value, (next value).ReadsAlike) :
    (withArgument argument next).ReadsAlike := by
  cases argument with
  | error fault => trivial
  | ok value => exact rest value

theorem readsAlike_send {operation : Operation} {request : Request}
    {read : Http.Response → Settled (Outcome α)}
    (reads : ∀ first second : Http.Response, first.Alike second →
      (read first).result = (read second).result) :
    (send operation request read).ReadsAlike := by
  intro first second alike
  cases alike with
  | failure failure => rfl
  | @response first second alike =>
    simp only [alike.status]
    split
    · exact reads first second alike
    · simp only [ServiceError.ofResponse_eq_of_alike alike]

end Plan

theorem enrollmentOf_eq_of_alike (first second : Http.Response) (alike : first.Alike second) :
    (enrollmentOf first).result = (enrollmentOf second).result := by
  rw [enrollmentOf, enrollmentOf, alike.body]

theorem readsAlike_createOrUpdate (enrollment : Enrollment) :
    (createOrUpdate enrollment).ReadsAlike :=
  Plan.readsAlike_withArgument fun _ => Plan.readsAlike_withArgument fun _ =>
    Plan.readsAlike_send enrollmentOf_eq_of_alike

theorem readsAlike_get (id : String) : (get id).ReadsAlike :=
  Plan.readsAlike_withArgument fun _ => Plan.readsAlike_send enrollmentOf_eq_of_alike

theorem readsAlike_deleteById (id : String) (etag : Option ETag) :
    (deleteById id etag).ReadsAlike :=
  Plan.readsAlike_withArgument fun _ => Plan.readsAlike_withArgument fun _ =>
    Plan.readsAlike_send fun _ _ _ => rfl

theorem readsAlike_bulkOperation (mode : BulkMode) (batch : List Enrollment) :
    (bulkOperation mode batch).ReadsAlike := by
  refine Plan.readsAlike_withArgument fun _ => Plan.readsAlike_send ?_
  intro first second alike
  rw [bulkResultOf, bulkResultOf, alike.body]

namespace Cursor

/-- Token and kind of the items are in headers that frame nothing. -/
theorem readPageOf_eq_of_alike (first second : Http.Response) (alike : first.Alike second) :
    (readPageOf first).result = (readPageOf second).result := by
  have token : tokenOf? first = tokenOf? second := by
    rw [tokenOf?, tokenOf?, alike.text? (by decide)]
  rw [readPageOf, readPageOf, alike.body, token, alike.text? (by decide)]

theorem readsAlike_fetch (cursor : Cursor) : cursor.fetch.ReadsAlike := by
  unfold fetch
  split
  · trivial
  · split
    · trivial
    · exact Plan.readsAlike_send readPageOf_eq_of_alike

theorem readsAlike_nextPage (cursor : Cursor) : cursor.nextPage.ReadsAlike :=
  cursor.readsAlike_fetch.map _

end Cursor

end Registry

end DeviceEnrollment
