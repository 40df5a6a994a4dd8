import DeviceEnrollment.Registry.Client
import DeviceEnrollment.Registry.Stream

/-!
Sessions: calls one after the other, with cursors and streams kept under names. A cursor that
becomes a stream leaves its name, and cursors and streams do not share names.
-/
namespace DeviceEnrollment.Registry

/-- Values under names, each name at most once. -/
abbrev Slots (α : Type) := List (String × α)

namespace Slots

variable {α : Type}

def get? (slots : Slots α) (name : String) : Option α := slots.lookup name

def remove (slots : Slots α) (name : String) : Slots α := slots.filter fun slot => slot.1 != name

def set (slots : Slots α) (name : String) (value : α) : Slots α :=
  (name, value) :: remove slots name

end Slots

inductive Call where
  | createOrUpdate (enrollment : Enrollment)
  | get (id : String)
  | delete (enrollment : Enrollment)
  | deleteById (id : String) (etag : Option ETag)
  | bulk (mode : BulkMode) (batch : List Enrollment)
  | createQuery (slot : String) (specification : QuerySpecification) (pageSize : Int)
  | nextPage (slot : String)
  | showQuery (slot : String)
  | intoStream (slot : String)
  | streamNext (slot : String)
  | streamAll (slot : String)
deriving Repr

inductive CallResult where
  | enrollment (result : Outcome Enrollment)
  | deleted (result : Outcome Unit)
  | bulk (result : Outcome BulkResult)
  | created (result : Outcome Unit)
  | page (result : Outcome Page)
  | shown (text : String)
  | streaming
  | pulled (pulled : Pulled)
  | drained (items : List (Outcome Enrollment))
  | noSuchQuery
deriving Repr

/-- What a session remembers: the state of its transport, and what is under way. -/
structure Session (σ : Type) where
  transport : σ
  cursors : Slots Cursor
  streams : Slots EnrollmentStream

namespace Session

variable {σ : Type}

def ofTransport (state : σ) : Session σ := ⟨state, [], []⟩

structure Step (σ : Type) where
  events : List Event
  result : CallResult
  session : Session σ

/-- Runs a plan that leaves cursors and streams alone. -/
def perform {α : Type} (transport : Transport σ) (session : Session σ) (plan : Plan α)
    (result : α → CallResult) : Step σ :=
  let ran := plan.run transport session.transport
  ⟨ran.events, result ran.result, { session with transport := ran.state }⟩

/-- The step of a call on a name that stands for nothing. -/
def refuse (session : Session σ) : Step σ := ⟨[], .noSuchQuery, session⟩

def createQuery (session : Session σ) (slot : String) (specification : QuerySpecification)
    (pageSize : Int) : Step σ :=
  match Registry.createQuery specification pageSize with
  | .error error => ⟨[], .created (.error error), session⟩
  | .ok cursor =>
    ⟨[], .created (.ok ()), { session with cursors := session.cursors.set slot cursor }⟩

def nextPage (transport : Transport σ) (session : Session σ) (slot : String) : Step σ :=
  match session.cursors.get? slot with
  | none => session.refuse
  | some cursor =>
    let ran := cursor.nextPage.run transport session.transport
    ⟨ran.events, .page ran.result.1,
      { session with
        transport := ran.state
        cursors := session.cursors.set slot ran.result.2 }⟩

def showQuery (session : Session σ) (slot : String) : Step σ :=
  match session.cursors.get? slot with
  | none => session.refuse
  | some cursor => ⟨[], .shown cursor.text, session⟩

def intoStream (session : Session σ) (slot : String) : Step σ :=
  match session.cursors.get? slot with
  | none => session.refuse
  | some cursor =>
    ⟨[], .streaming,
      { session with
        cursors := session.cursors.remove slot
        streams := session.streams.set slot (.ofCursor cursor) }⟩

def streamNext (transport : Transport σ) (session : Session σ) (slot : String) : Step σ :=
  match session.streams.get? slot with
  | none => session.refuse
  | some stream =>
    let ran := stream.next transport session.transport
    ⟨ran.events, .pulled ran.result.1,
      { session with
        transport := ran.state
        streams := session.streams.set slot ran.result.2 }⟩

def streamAll (transport : Transport σ) (session : Session σ) (slot : String) : Step σ :=
  match session.streams.get? slot with
  | none => session.refuse
  | some stream =>
    let ran := stream.drain transport session.transport
    ⟨ran.events, .drained ran.result,
      { session with
        transport := ran.state
        streams := session.streams.remove slot }⟩

/-- Makes one call. -/
def step (transport : Transport σ) (session : Session σ) : Call → Step σ
  | .createOrUpdate enrollment =>
    session.perform transport (Registry.createOrUpdate enrollment) .enrollment
  | .get id => session.perform transport (Registry.get id) .enrollment
  | .delete enrollment => session.perform transport (Registry.delete enrollment) .deleted
  | .deleteById id etag => session.perform transport (Registry.deleteById id etag) .deleted
  | .bulk mode batch => session.perform transport (bulkOperation mode batch) .bulk
  | .createQuery slot specification pageSize => session.createQuery slot specification pageSize
  | .nextPage slot => session.nextPage transport slot
  | .showQuery slot => session.showQuery slot
  | .intoStream slot => session.intoStream slot
  | .streamNext slot => session.streamNext transport slot
  | .streamAll slot => session.streamAll transport slot

/-- Makes calls in order. -/
def run (transport : Transport σ) (session : Session σ) : List Call → List (Step σ)
  | [] => []
  | call :: rest =>
    let step := session.step transport call
    step :: run transport step.session rest

end Session

end DeviceEnrollment.Registry
