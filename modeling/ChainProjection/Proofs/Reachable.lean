import ChainProjection.Proofs.Projection.Block

/-!
# Reachable stores

A store is reachable if it comes about from a fresh one, with any workers saved, by projecting
blocks; a block that fails is one of them and changes nothing.  Which events the blocks may bring is
a parameter, so that a property of all runs and a property of the runs whose events meet a condition
are the same kind of statement.

Inside a block there are more stores than the ones between blocks, and an event meets those.  They
are the **visited** ones: what holds at first, is kept by every step with its record, and is kept
when the cursor moves, holds of them all, and every reachable store is one of them
(`ReachableBy.visited`).  An induction over `Visited` has three cases and never sees a block, let
alone one that fails.

Invariants are one kind of result, relations between the ends of a run the other.  For these
`rel_afterBlock` and `rel_afterBlocks` take a reflexive and transitive relation from the steps to a
whole run, and `Follows.rel` does so for something that can be looked up.  **A block that fails in
the middle is where this could go wrong**: the steps before the failure are real steps, and what
they wrote is in the store until the block is given up.  The relation is therefore proved along the
events first and carried over to the block only where it succeeds; where it fails the store is the
old one and reflexivity is enough.
-/

namespace ChainProjection

namespace Store

/-- A fresh store in which some workers were saved. -/
inductive Seeded : Store → Prop
  | fresh : Seeded {}
  | worker {s t : Store} {worker : Worker} (h : Seeded s) (saved : s.saveWorker worker = .ok t) :
      Seeded t

/-- Saving workers writes no other table. -/
theorem Seeded.eq {s : Store} (h : s.Seeded) : s = { workers := s.workers } := by
  induction h with
  | fresh => rfl
  | @worker s t worker _ saved ih =>
    rw [saveWorker] at saved
    split at saved
    · cases saved
      rw [ih]
    · split at saved
      · cases saved
      · cases saved
        rw [ih]

/-- The store after a block: the one before it, if the block fails. -/
def afterBlock (s : Store) (b : Block) : Store := (Projection.block b s).store

/-- The store after blocks in order. -/
def afterBlocks (s : Store) (blocks : List Block) : Store := blocks.foldl afterBlock s

/-- A store that comes about from a fresh one with workers by blocks whose events are admitted. -/
inductive ReachableBy (admits : Occurrence → Prop) : Store → Prop
  | seeded {s : Store} (h : s.Seeded) : ReachableBy admits s
  | block {s : Store} (h : ReachableBy admits s) (b : Block)
      (admitted : ∀ e ∈ b.events, admits (.ofEvent b.number b.timestamp e)) :
      ReachableBy admits (s.afterBlock b)

/-- A store that comes about from a fresh one with workers by blocks. -/
abbrev Reachable : Store → Prop := ReachableBy fun _ ↦ True

/-- A store that a run meets, also inside a block. -/
inductive Visited (admits : Occurrence → Prop) : Store → Prop
  | seeded {s : Store} (h : s.Seeded) : Visited admits s
  | event {s t : Store} {o : Occurrence} {d : EventData} (h : Visited admits s)
      (admitted : admits o) (handled : Handles o s d t) (fresh : t.event? o.id = none) :
      Visited admits (t.withRecord (o.record d))
  | cursor {s : Store} (h : Visited admits s) (number : UInt64) :
      Visited admits { s with cursor := some number }

/-- A store that a run meets after it has met another. -/
inductive Follows (admits : Occurrence → Prop) (s : Store) : Store → Prop
  | refl : Follows admits s s
  | event {t u : Store} {o : Occurrence} {d : EventData} (h : Follows admits s t)
      (admitted : admits o) (handled : Handles o t d u) (fresh : u.event? o.id = none) :
      Follows admits s (u.withRecord (o.record d))
  | cursor {t : Store} (h : Follows admits s t) (number : UInt64) :
      Follows admits s { t with cursor := some number }

variable {admits : Occurrence → Prop} {s s' : Store}

/-! ### Along a block -/

open Projection

/-- What every admitted step does to a visited store, the events of a block do together. -/
theorem rel_of_yields_events {R : Store → Store → Prop} (refl : ∀ s, R s s)
    (trans : ∀ {r s t}, R r s → R s t → R r t)
    (event : ∀ {s t o d}, Visited admits s → admits o → Handles o s d t → t.event? o.id = none →
      R s (t.withRecord (o.record d)))
    {b : Block} {es : List RuntimeEvent} {tally tally' : Tally}
    (admitted : ∀ e ∈ es, admits (.ofEvent b.number b.timestamp e)) (h : Visited admits s)
    (yields : (events b es tally).Yields s tally' s') : Visited admits s' ∧ R s s' := by
  induction es generalizing s tally with
  | nil =>
    rw [events, yields_pure] at yields
    rw [yields.2]
    exact ⟨h, refl s⟩
  | cons e rest ih =>
    rw [List.forall_mem_cons] at admitted
    rw [events, yields_bind] at yields
    obtain ⟨known, t, hevent, hrest⟩ := yields
    -- An event of an unknown name leaves the store to the rest of the block as it was.
    rcases yields_event.1 hevent with ⟨-, -, rfl⟩ | ⟨-, -, d, u, handled, fresh, rfl⟩
    · exact ih admitted.2 h hrest
    · have hstep := event h admitted.1 handled fresh
      obtain ⟨hvisited, hrel⟩ := ih admitted.2 (.event h admitted.1 handled fresh) hrest
      exact ⟨hvisited, trans hstep hrel⟩

/-- What every admitted step and the cursor do to a visited store, a block does, also if it
fails. -/
theorem rel_afterBlock {R : Store → Store → Prop} (refl : ∀ s, R s s)
    (trans : ∀ {r s t}, R r s → R s t → R r t)
    (event : ∀ {s t o d}, Visited admits s → admits o → Handles o s d t → t.event? o.id = none →
      R s (t.withRecord (o.record d)))
    (cursor : ∀ {s} number, R s { s with cursor := some number }) (h : Visited admits s) {b : Block}
    (admitted : ∀ e ∈ b.events, admits (.ofEvent b.number b.timestamp e)) :
    Visited admits (s.afterBlock b) ∧ R s (s.afterBlock b) := by
  rcases yields_or_fails (block b) s with ⟨tally, t, hyields⟩ | ⟨error, t, hfails⟩
  -- A block that succeeds is its events and the cursor; one that fails is taken back.
  · have heq : s.afterBlock b = t := hyields.2
    obtain ⟨u, hevents, -, rfl⟩ := yields_block.1 hyields
    obtain ⟨hvisited, hrel⟩ := rel_of_yields_events refl trans event admitted h hevents
    rw [heq]
    exact ⟨.cursor hvisited _, trans hrel (cursor _)⟩
  · have heq : s.afterBlock b = s := hfails.2.trans (eq_of_fails_block hfails)
    rw [heq]
    exact ⟨h, refl s⟩

/-! ### Along a run -/

/-- What every admitted step and the cursor do to a visited store, a run does. -/
theorem rel_afterBlocks {R : Store → Store → Prop} (refl : ∀ s, R s s)
    (trans : ∀ {r s t}, R r s → R s t → R r t)
    (event : ∀ {s t o d}, Visited admits s → admits o → Handles o s d t → t.event? o.id = none →
      R s (t.withRecord (o.record d)))
    (cursor : ∀ {s} number, R s { s with cursor := some number }) (h : Visited admits s)
    {blocks : List Block}
    (admitted : ∀ b ∈ blocks, ∀ e ∈ b.events, admits (.ofEvent b.number b.timestamp e)) :
    R s (s.afterBlocks blocks) := by
  induction blocks generalizing s with
  | nil => exact refl s
  | cons b rest ih =>
    rw [List.forall_mem_cons] at admitted
    obtain ⟨hvisited, hrel⟩ := rel_afterBlock refl trans event cursor h admitted.1
    exact trans hrel (ih hvisited admitted.2)

/-- What is admitted less strictly admits more runs. -/
theorem Visited.imp {admits' : Occurrence → Prop} (h : Visited admits s)
    (himp : ∀ o, admits o → admits' o) : Visited admits' s := by
  induction h with
  | seeded h => exact .seeded h
  | event _ admitted handled fresh ih => exact .event ih (himp _ admitted) handled fresh
  | cursor _ number ih => exact .cursor ih number

/-- A run that goes on from a visited store visits the stores that follow. -/
theorem Follows.visited {t : Store} (h : Follows admits s t) (hs : Visited (fun _ ↦ True) s) :
    Visited (fun _ ↦ True) t := by
  induction h with
  | refl => exact hs
  | event _ _ handled fresh ih => exact .event ih trivial handled fresh
  | cursor _ number ih => exact .cursor ih number

/-- What every admitted step does to something that can be looked up in a visited store, and the
cursor leaves alone, a run does. -/
theorem Follows.rel {α : Type} (look : Store → Option α) {R : α → α → Prop} (refl : ∀ x, R x x)
    (trans : ∀ {x y z}, R x y → R y z → R x z)
    (event : ∀ {t u o d x}, Visited (fun _ ↦ True) t → admits o → Handles o t d u →
      look t = some x → ∃ y, look (u.withRecord (o.record d)) = some y ∧ R x y)
    (cursor : ∀ t number, look { t with cursor := some number } = look t) {t : Store}
    (h : Follows admits s t) (hs : Visited (fun _ ↦ True) s) {x : α} (found : look s = some x) :
    ∃ y, look t = some y ∧ R x y := by
  induction h with
  | refl => exact ⟨x, found, refl x⟩
  | event h admitted handled _ ih =>
    obtain ⟨y, hy, hxy⟩ := ih
    obtain ⟨z, hz, hyz⟩ := event (h.visited hs) admitted handled hy
    exact ⟨z, hz, trans hxy hyz⟩
  | cursor _ number ih =>
    rw [cursor]
    exact ih

/-- The events of a block lead on to a store that follows. -/
theorem Follows.events {t : Store} {b : Block} {es : List RuntimeEvent} {tally tally' : Tally}
    (h : Follows admits s t) (admitted : ∀ e ∈ es, admits (.ofEvent b.number b.timestamp e))
    (yields : (events b es tally).Yields t tally' s') : Follows admits s s' := by
  induction es generalizing t tally with
  | nil =>
    rw [Projection.events, yields_pure] at yields
    rw [yields.2]
    exact h
  | cons e rest ih =>
    rw [List.forall_mem_cons] at admitted
    rw [Projection.events, yields_bind] at yields
    obtain ⟨known, u, hevent, hrest⟩ := yields
    rcases yields_event.1 hevent with ⟨-, -, rfl⟩ | ⟨-, -, d, v, handled, fresh, rfl⟩
    · exact ih h admitted.2 hrest
    · exact ih (.event h admitted.1 handled fresh) admitted.2 hrest

/-- The store after blocks whose events are admitted follows the one before them. -/
theorem Follows.afterBlocks {t : Store} (h : Follows admits s t) {blocks : List Block}
    (admitted : ∀ b ∈ blocks, ∀ e ∈ b.events, admits (.ofEvent b.number b.timestamp e)) :
    Follows admits s (t.afterBlocks blocks) := by
  induction blocks generalizing t with
  | nil => exact h
  | cons b rest ih =>
    rw [List.forall_mem_cons] at admitted
    refine ih ?_ admitted.2
    rcases yields_or_fails (block b) t with ⟨tally, u, hyields⟩ | ⟨error, u, hfails⟩
    · obtain ⟨v, hevents, -, hu⟩ := yields_block.1 hyields
      have heq : t.afterBlock b = { v with cursor := some b.number } := hyields.2.trans hu
      rw [heq]
      exact .cursor (h.events admitted.1 hevents) _
    · have heq : t.afterBlock b = t := hfails.2.trans (eq_of_fails_block hfails)
      rw [heq]
      exact h

/-- Every reachable store is visited. -/
theorem ReachableBy.visited (h : ReachableBy admits s) : Visited admits s := by
  induction h with
  | seeded h => exact .seeded h
  | block _ b admitted ih =>
    exact (rel_afterBlock (fun _ ↦ trivial) (fun _ _ ↦ trivial) (fun _ _ _ _ ↦ trivial)
      (fun _ ↦ trivial) ih admitted).1

/-- The store at the end of a run from a reachable one is reachable. -/
theorem ReachableBy.afterBlocks (h : ReachableBy admits s) {blocks : List Block}
    (admitted : ∀ b ∈ blocks, ∀ e ∈ b.events, admits (.ofEvent b.number b.timestamp e)) :
    ReachableBy admits (s.afterBlocks blocks) := by
  induction blocks generalizing s with
  | nil => exact h
  | cons b rest ih =>
    rw [List.forall_mem_cons] at admitted
    exact ih (.block h b admitted.1) admitted.2

end Store

end ChainProjection
