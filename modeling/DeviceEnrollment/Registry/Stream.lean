import DeviceEnrollment.Registry.Query

/-!
The items of a query one by one. A page is fetched only when the items of the pages before are
used up, and the first failure is the last thing that comes.
-/
namespace DeviceEnrollment.Registry

/-- A cursor and the items of its last page that are still to come. -/
structure Pending where
  cursor : Cursor
  items : List Enrollment
deriving Repr

/-- Items that come one by one; nothing is pending once they have come to an end. -/
structure EnrollmentStream where
  pending : Option Pending
deriving Repr

inductive Pulled where
  | item (enrollment : Enrollment)
  | failed (error : RegistryError)
  | finished
deriving Repr

namespace EnrollmentStream

variable {σ : Type}

def ofCursor (cursor : Cursor) : EnrollmentStream := ⟨some ⟨cursor, []⟩⟩

def ended : EnrollmentStream := ⟨none⟩

/-- Pulls an item, fetching pages until one has an item. -/
def pull (transport : Transport σ) (state : σ) (pending : Pending) :
    Ran σ (Pulled × EnrollmentStream) :=
  match pending.items with
  | item :: rest => ⟨[], (.item item, ⟨some ⟨pending.cursor, rest⟩⟩), state⟩
  | [] =>
    if pending.cursor.hasNext then
      let ran := pending.cursor.fetch.run transport state
      match _ : ran.result with
      | .error error => ⟨ran.events, (.failed error, ended), ran.state⟩
      | .ok page =>
        let pulled := pull transport ran.state ⟨pending.cursor.moveBehind page, page.items⟩
        ⟨ran.events ++ pulled.events, pulled.result, pulled.state⟩
    else ⟨[], (.finished, ended), state⟩
termination_by transport.responsesLeft state
decreasing_by exact Cursor.responsesLeft_fetch_lt ‹_›

/-- The next item, a failure, or the end. -/
def next (transport : Transport σ) (state : σ) (stream : EnrollmentStream) :
    Ran σ (Pulled × EnrollmentStream) :=
  match stream.pending with
  | none => ⟨[], (.finished, ended), state⟩
  | some pending => pull transport state pending

/-- Everything that is still to come. -/
def drainPending (transport : Transport σ) (state : σ) (pending : Pending) :
    Ran σ (List (Outcome Enrollment)) :=
  let items := pending.items.map Except.ok
  if pending.cursor.hasNext then
    let ran := pending.cursor.fetch.run transport state
    match _ : ran.result with
    | .error error => ⟨ran.events, items ++ [.error error], ran.state⟩
    | .ok page =>
      let drained := drainPending transport ran.state ⟨pending.cursor.moveBehind page, page.items⟩
      ⟨ran.events ++ drained.events, items ++ drained.result, drained.state⟩
  else ⟨[], items, state⟩
termination_by transport.responsesLeft state
decreasing_by exact Cursor.responsesLeft_fetch_lt ‹_›

def drain (transport : Transport σ) (state : σ) (stream : EnrollmentStream) :
    Ran σ (List (Outcome Enrollment)) :=
  match stream.pending with
  | none => ⟨[], [], state⟩
  | some pending => drainPending transport state pending

end EnrollmentStream

end DeviceEnrollment.Registry
