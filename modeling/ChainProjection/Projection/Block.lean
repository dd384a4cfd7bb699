import ChainProjection.Content.Project
import ChainProjection.Forum.Project

/-!
# Projecting blocks

An event whose name the projection knows is read, projected and recorded, in this order; any other
event leaves no trace.  A single event that fails may have written something by then.  A block does
not: its events are projected in order and the cursor is moved last, and if any of this fails the
store is what it was before the block.
-/

namespace ChainProjection

namespace Projection

/-- What the projection does for the events with a name, if it knows them. -/
def handler? (name : String) : Option (Occurrence → Projection EventData) :=
  match ForumEvent.reader? name, ContentEvent.reader? name, ContentAcceptance.reader? name with
  | some read, _, _ => some fun o => do ForumEvent.project o (← ensure o (read o))
  | _, some read, _ => some fun o => do ContentEvent.project o (← ensure o (read o))
  | _, _, some read => some fun o => do ContentAcceptance.project o (← ensure o (read o))
  | _, _, _ => none

/-- Adds the record of an event to the log. -/
def keepRecord (o : Occurrence) (data : EventData) : Projection Unit := do
  let store ← ofStore ((← store).insertEvent (o.record data))
  write fun _ => store

/-- Projects and records an event; says whether the projection knows events of its name. -/
def event (o : Occurrence) : Projection Bool := do
  match handler? o.name with
  | none => return false
  | some handle =>
    keepRecord o (← handle o)
    return true

/-- How many events of a block the projection knew, and how many it did not. -/
structure Tally where
  handled : Nat := 0
  skipped : Nat := 0
  deriving DecidableEq, Repr

/-- Counts one more event. -/
def Tally.count (tally : Tally) (handled : Bool) : Tally :=
  if handled then { tally with handled := tally.handled + 1 }
  else { tally with skipped := tally.skipped + 1 }

/-- Projects the events of a block in order. -/
def events (block : Block) : List RuntimeEvent → Tally → Projection Tally
  | [], tally => return tally
  | e :: rest, tally => do
    let handled ← event (.ofEvent block.number block.timestamp e)
    events block rest (tally.count handled)

/-- Moves the cursor. -/
def advance (number : UInt64) : Projection Unit := do
  let store ← ofStore ((← store).setCursor number)
  write fun _ => store

/-- Takes back what a failing projection wrote to the store.  What it noted as left out stays
noted. -/
def atomically {α : Type} (p : Projection α) : Projection α := fun store =>
  let outcome := p store
  match outcome.result with
  | .ok _ => outcome
  | .error error => ⟨.error error, store, outcome.omissions⟩

/-- Projects a block as a whole. -/
def block (block : Block) : Projection Tally :=
  atomically do
    let tally ← events block block.events {}
    advance block.number
    return tally

end Projection

end ChainProjection
