import ChainProjection.Proofs.Reachable

/-!
# Runs with their history

The log keeps the particulars of an event, not its parameters: it does not say which assets came
with an update, or what a payload asked for.  What is said of a store in terms of the parameters
needs the events themselves, so here a run is taken together with the occurrences it projected, in
the order in which it did, those of unknown names among them.  **The events of a block that failed
are not among them**, since such a block leaves nothing behind.

There are two such relations, for the two kinds of stores one speaks of: `ReachableWith` for stores
between blocks and `VisitedWith` for stores inside a block as well.  The history is an index and not
a field of a store, and the run without it is the run that has some history
(`reachable_iff_exists_history`), so a result about histories is a result about reachable stores.
Inductions are over `VisitedWith`, one case for each event, and `ReachableWith.visitedWith` takes
their results to the end of blocks.
-/

namespace ChainProjection

/-- The occurrences of a block in order. -/
def Block.occurrences (b : Block) : List Occurrence :=
  b.events.map (.ofEvent b.number b.timestamp)

namespace Store

open Projection

variable {s t : Store} {history : List Occurrence}

/-- A store that comes about from a fresh one with workers by blocks, with the occurrences of those
blocks. -/
inductive ReachableWith : List Occurrence → Store → Prop
  | seeded {s : Store} (h : s.Seeded) : ReachableWith [] s
  | block {history : List Occurrence} {s t : Store} {b : Block} {tally : Tally}
      (h : ReachableWith history s) (yields : (block b).Yields s tally t) :
      ReachableWith (history ++ b.occurrences) t

/-- A store that such a run meets, also inside a block, with the occurrences up to there. -/
inductive VisitedWith : List Occurrence → Store → Prop
  | seeded {s : Store} (h : s.Seeded) : VisitedWith [] s
  | event {history : List Occurrence} {s t : Store} {o : Occurrence} {d : EventData}
      (h : VisitedWith history s) (handled : Handles o s d t) (fresh : t.event? o.id = none) :
      VisitedWith (history ++ [o]) (t.withRecord (o.record d))
  | unknown {history : List Occurrence} {s : Store} {o : Occurrence} (h : VisitedWith history s)
      (unknown : handler? o.name = none) : VisitedWith (history ++ [o]) s
  | cursor {history : List Occurrence} {s : Store} (h : VisitedWith history s) (number : UInt64) :
      VisitedWith history { s with cursor := some number }

/-- A store is reachable exactly if it is so with some history. -/
theorem reachable_iff_exists_history : s.Reachable ↔ ∃ history, ReachableWith history s := by
  constructor
  · intro h
    induction h with
    | seeded h => exact ⟨[], .seeded h⟩
    | @block s _ b _ ih =>
      obtain ⟨history, hwith⟩ := ih
      rcases yields_or_fails (block b) s with ⟨tally, t, yields⟩ | ⟨error, t, fails⟩
      · have heq : s.afterBlock b = t := yields.2
        rw [heq]
        exact ⟨_, .block hwith yields⟩
      · have heq : s.afterBlock b = s := fails.2.trans (eq_of_fails_block fails)
        rw [heq]
        exact ⟨history, hwith⟩
  · rintro ⟨history, hwith⟩
    induction hwith with
    | seeded h => exact .seeded h
    | @block _ s t b tally _ yields ih =>
      have heq : s.afterBlock b = t := yields.2
      exact heq ▸ .block ih b fun _ _ ↦ trivial

/-- What is visited with a history is visited. -/
theorem VisitedWith.visited (h : VisitedWith history s) : Visited (fun _ ↦ True) s := by
  induction h with
  | seeded h => exact .seeded h
  | event _ handled fresh ih => exact .event ih trivial handled fresh
  | unknown _ _ ih => exact ih
  | cursor _ number ih => exact .cursor ih number

/-- The events of a block add their occurrences to the history. -/
theorem VisitedWith.events (h : VisitedWith history s) {b : Block} {es : List RuntimeEvent}
    {tally tally' : Tally} (yields : (events b es tally).Yields s tally' t) :
    VisitedWith (history ++ es.map (.ofEvent b.number b.timestamp)) t := by
  induction es generalizing history s tally with
  | nil =>
    rw [Projection.events, yields_pure] at yields
    rw [yields.2, List.map_nil, List.append_nil]
    exact h
  | cons e rest ih =>
    rw [Projection.events, yields_bind] at yields
    obtain ⟨known, u, hevent, hrest⟩ := yields
    rw [List.map_cons, List.append_cons]
    rcases yields_event.1 hevent with ⟨-, hunknown, rfl⟩ | ⟨-, -, d, v, handled, fresh, rfl⟩
    · exact ih (.unknown h hunknown) hrest
    · exact ih (.event h handled fresh) hrest

/-- A store that comes about with a history is visited with it. -/
theorem ReachableWith.visitedWith (h : ReachableWith history s) : VisitedWith history s := by
  induction h with
  | seeded h => exact .seeded h
  | block _ yields ih =>
    obtain ⟨u, hevents, -, rfl⟩ := yields_block.1 yields
    exact .cursor (ih.events hevents) _

end Store

end ChainProjection
