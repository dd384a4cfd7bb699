import ChainProjection.Proofs.Hex
import ChainProjection.Proofs.Ids
import ChainProjection.Proofs.Latest
import ChainProjection.Proofs.Votes
import Mathlib.Data.List.Induction

/-!
# Derived keys

A record is kept under a text made of its place in the chain, a worker under one made of its group
and its number.  The storage compares these texts and nothing else.  **Since each text gives back
what it was made of** (`Id.ofEvent_injective2` and `Id.ofWorker_injective2`), it comes to the same
as comparing places, or groups and numbers: what happens at one place never touches or refuses the
record of another, and saving one worker never touches or refuses another.

For records this is said of every run by the occurrences it projected.  A log has one record for
each occurrence of a known name and no others (`RecordsOf`), so a place is free until the run has
projected a known event there (`TakenIn`).  The two directions of `RecordsOf` are used apart: what
is recorded makes a place taken, and what occurred makes a refusal mean that it was.

Workers are only saved before a run, under whatever id they are given; what is said of them is about
those that were given the id made of their group and their number (`Worker.Named`).  Of others it
would be false, since a worker that has the id of another is taken for it.  The workers that a list
of saves leaves are those saved last for each group and number (`foldlM_saveWorker_of_named`), by an
induction from the end of the list, where the last save wins.

A moderator is kept under a pair of a category and a worker.  Its keys are taken apart in two steps,
and the second one is injectivity again (`Projection.mem_moderators_of_yields`).
-/

namespace ChainProjection

open Projection Store

variable {s s' t : Store} {o : Occurrence} {d : EventData} {history : List Occurrence}

/-! ### Records -/

/-- Occurrences have one id exactly if they have one place. -/
theorem Occurrence.id_eq_iff {o' : Occurrence} :
    o.id = o'.id ↔ o.block = o'.block ∧ o.index = o'.index := by
  refine ⟨fun h ↦ Id.ofEvent_injective2 h, ?_⟩
  rintro ⟨hblock, hindex⟩
  rw [id, id, hblock, hindex]

/-- The history has an event of a known name at a place of the chain. -/
def TakenIn (history : List Occurrence) (block : UInt64) (index : UInt32) : Prop :=
  ∃ o ∈ history, (handler? o.name).isSome ∧ o.block = block ∧ o.index = index

/-- The log has the records of the known occurrences of a history, and no others. -/
structure RecordsOf (history : List Occurrence) (log : List EventRecord) : Prop where
  recorded : ∀ o ∈ history, (handler? o.name).isSome → ∃ d, o.record d ∈ log
  occurred : ∀ record ∈ log, ∃ o ∈ history, (handler? o.name).isSome ∧ ∃ d, record = o.record d

/-- The id of an occurrence is in the log exactly if a known event was at its place. -/
theorem RecordsOf.mem_ids_iff (h : RecordsOf history s.log) :
    o.id ∈ s.log.map (·.id) ↔ TakenIn history o.block o.index := by
  rw [List.mem_map]
  constructor
  · rintro ⟨record, hmem, hid⟩
    obtain ⟨o', ho', known, d, rfl⟩ := h.occurred record hmem
    exact ⟨o', ho', known, Occurrence.id_eq_iff.1 hid⟩
  · rintro ⟨o', ho', known, hplace⟩
    obtain ⟨d, hmem⟩ := h.recorded o' ho' known
    exact ⟨_, hmem, Occurrence.id_eq_iff.2 hplace⟩

/-- In a run the log has the records of its history. -/
theorem Store.VisitedWith.recordsOf (h : VisitedWith history s) : RecordsOf history s.log := by
  induction h with
  | seeded h =>
    rw [h.eq]
    exact ⟨fun _ hmem ↦ absurd hmem List.not_mem_nil, fun _ hmem ↦ absurd hmem List.not_mem_nil⟩
  | @event history s t o d _ handled fresh ih =>
    -- The history grows at its end and the log at its front.
    rw [handled.log_withRecord]
    refine ⟨fun o' hmem known ↦ ?_, fun record hmem ↦ ?_⟩
    · rcases List.mem_append.1 hmem with hmem | hmem
      · obtain ⟨d', hrecord⟩ := ih.recorded o' hmem known
        exact ⟨d', List.mem_cons_of_mem _ hrecord⟩
      · obtain rfl := List.mem_singleton.1 hmem
        exact ⟨d, List.mem_cons_self⟩
    · rcases List.mem_cons.1 hmem with rfl | hmem
      · have known := Option.isSome_iff_exists.2 handled.exists_handler?
        exact ⟨o, List.mem_append_right _ (List.mem_singleton_self o), known, d, rfl⟩
      · obtain ⟨o', ho', hrest⟩ := ih.occurred record hmem
        exact ⟨o', List.mem_append_left _ ho', hrest⟩
  | @unknown history s o _ unknown ih =>
    refine ⟨fun o' hmem known ↦ ?_, fun record hmem ↦ ?_⟩
    · rcases List.mem_append.1 hmem with hmem | hmem
      · exact ih.recorded o' hmem known
      · obtain rfl := List.mem_singleton.1 hmem
        simp [unknown] at known
    · obtain ⟨o', ho', hrest⟩ := ih.occurred record hmem
      exact ⟨o', List.mem_append_left _ ho', hrest⟩
  | cursor _ _ ih => exact ih

/-- Every known occurrence of a run has its own record, whatever came after it. -/
theorem Store.VisitedWith.event?_eq (h : VisitedWith history s) (hmem : o ∈ history)
    (known : (handler? o.name).isSome) : ∃ d, s.event? o.id = some (o.record d) := by
  obtain ⟨d, hrecord⟩ := h.recordsOf.recorded o hmem known
  exact ⟨d, event?_of_mem h.visited.nodup_ids hrecord⟩

namespace Projection

/-- An event that fails has recorded nothing. -/
theorem log_of_fails_event {error : ProjectionError} (fails : (event o).Fails s error s') :
    s'.log = s.log := by
  obtain ⟨handle, known, hhandle | ⟨-, -, d, handled⟩⟩ := fails_event.1 fails
  · exact (past_of_fails_handler known hhandle).2
  · exact handled.past_eq.1

/-- However an event ends, what is found by any other id than its own stays the same. -/
theorem event?_event_of_ne (s : Store) {id : EventId} (hne : o.id ≠ id) :
    (event o s).store.event? id = s.event? id := by
  rcases yields_or_fails (event o) s with ⟨known, s', yields⟩ | ⟨error, s', fails⟩
  · rw [yields.2]
    rcases yields_event.1 yields with ⟨-, -, rfl⟩ | ⟨-, -, d, t, handled, -, rfl⟩
    · rfl
    · rw [event?_withRecord_of_ne hne, event?, handled.past_eq.1, event?]
  · rw [fails.2, event?, log_of_fails_event fails, event?]

/-- A step is recorded exactly if its id is not in the log yet. -/
theorem yields_event_of_handles (handled : Handles o s d t) :
    (event o).Yields s true (t.withRecord (o.record d)) ↔ o.id ∉ s.log.map (·.id) := by
  rw [← handled.past_eq.1, yields_event]
  constructor
  · rintro (⟨hknown, -, -⟩ | ⟨-, -, d', t', -, fresh, heq⟩)
    · cases hknown
    · have hlog : t.log = t'.log := congrArg (·.log.tail) heq
      rw [hlog]
      exact event?_eq_none.1 fresh
  · intro fresh
    exact Or.inr ⟨rfl, Option.isSome_iff_exists.2 handled.exists_handler?, d, t, handled,
      event?_eq_none.2 fresh, rfl⟩

end Projection

/-! ### Workers -/

/-- The worker has the id that is made of its group and its number. -/
def Worker.Named (worker : Worker) : Prop :=
  worker.id = Id.ofWorker worker.groupId worker.runtimeId

/-- Workers with ids of their own have one id exactly if they have one group and one number. -/
theorem Worker.Named.id_eq_iff {worker worker' : Worker} (h : worker.Named) (h' : worker'.Named) :
    worker.id = worker'.id ↔
      worker.groupId = worker'.groupId ∧ worker.runtimeId = worker'.runtimeId := by
  rw [h, h']
  exact Id.ofWorker_injective2.eq_iff

/-- The worker as it is after another of its id was saved. -/
def Worker.takesOn (w worker : Worker) : Worker :=
  if w.id = worker.id then
    { w with
      membership := worker.membership
      isLead := worker.isLead
      isActive := worker.isActive }
  else w

/-- A worker keeps its id, its group and its number. -/
theorem Worker.takesOn_keeps (w worker : Worker) :
    (w.takesOn worker).id = w.id ∧ (w.takesOn worker).groupId = w.groupId ∧
      (w.takesOn worker).runtimeId = w.runtimeId := by
  rw [takesOn]
  split <;> exact ⟨rfl, rfl, rfl⟩

/-- A worker with an id of its own takes on all of another with its group and its number, and
nothing of any other. -/
theorem Worker.Named.takesOn_eq {w worker : Worker} (h : w.Named) (hworker : worker.Named) :
    w.takesOn worker =
      if worker.groupId = w.groupId ∧ worker.runtimeId = w.runtimeId then worker else w := by
  rw [takesOn]
  split
  · next hid =>
    obtain ⟨hgroup, hnumber⟩ := (h.id_eq_iff hworker).1 hid
    rw [if_pos ⟨hgroup.symm, hnumber.symm⟩]
    cases worker
    cases hid
    cases hgroup
    cases hnumber
    rfl
  · next hid => rw [if_neg fun hplace ↦ hid ((hworker.id_eq_iff h).2 hplace).symm]

namespace Store

/-- No worker is found exactly if none has the group and the number. -/
theorem groupWorker?_eq_none {group : String} {number : UInt64} :
    s.groupWorker? group number = none ↔
      ∀ worker ∈ s.workers, ¬(worker.groupId = group ∧ worker.runtimeId = number) := by
  simp [groupWorker?]

/-- A worker whose id is there is merged into every worker with the id. -/
theorem saveWorker_of_known {worker : Worker} (h : ∃ w ∈ s.workers, w.id = worker.id) :
    s.saveWorker worker = .ok { s with workers := s.workers.map (·.takesOn worker) } := by
  rw [saveWorker, if_pos]
  · rfl
  · simpa using h

/-- A worker whose id is new is added at the end, if its group and its number are free. -/
theorem saveWorker_of_new {worker : Worker} (h : ∀ w ∈ s.workers, w.id ≠ worker.id)
    (free : s.groupWorker? worker.groupId worker.runtimeId = none) :
    s.saveWorker worker = .ok { s with workers := s.workers ++ [worker] } := by
  rw [saveWorker, if_neg, if_neg]
  · simp [free]
  · simpa using h

/-- What is found after a merge is what was found before, merged: no group and no number changes. -/
theorem groupWorker?_takesOn (s : Store) (worker : Worker) (group : String) (number : UInt64) :
    ({ s with workers := s.workers.map (·.takesOn worker) } : Store).groupWorker? group number =
      (s.groupWorker? group number).map (·.takesOn worker) := by
  rw [groupWorker?, List.find?_map, groupWorker?]
  congr 2
  funext w
  obtain ⟨-, hgroup, hnumber⟩ := w.takesOn_keeps worker
  simp [hgroup, hnumber]

/-- What is found after an addition is what was found before, and else the worker that was added. -/
theorem groupWorker?_append (s : Store) (worker : Worker) (group : String) (number : UInt64) :
    ({ s with workers := s.workers ++ [worker] } : Store).groupWorker? group number =
      (s.groupWorker? group number).or
        (if worker.groupId = group ∧ worker.runtimeId = number then some worker else none) := by
  rw [groupWorker?, List.find?_append, groupWorker?]
  simp [List.find?_singleton]

/-- Among workers with ids of their own, one more is never refused.  It is then the worker with its
group and its number, and any other group and number have the worker they had. -/
theorem saveWorker_of_named (h : ∀ w ∈ s.workers, w.Named) {worker : Worker}
    (hworker : worker.Named) :
    ∃ t, s.saveWorker worker = .ok t ∧ (∀ w ∈ t.workers, w.Named) ∧ ∀ group number,
      t.groupWorker? group number =
        if worker.groupId = group ∧ worker.runtimeId = number then some worker
        else s.groupWorker? group number := by
  by_cases hknown : ∃ w ∈ s.workers, w.id = worker.id
  · refine ⟨_, saveWorker_of_known hknown, fun w hw ↦ ?_, fun group number ↦ ?_⟩
    · obtain ⟨w, hmem, rfl⟩ := List.mem_map.1 hw
      obtain ⟨hid, hgroup, hnumber⟩ := w.takesOn_keeps worker
      rw [Worker.Named, hid, hgroup, hnumber]
      exact h w hmem
    · -- The id that is known is the id of the same group and number, so something is found there.
      rw [groupWorker?_takesOn]
      cases hfound : s.groupWorker? group number with
      | none =>
        obtain ⟨w, hmem, hid⟩ := hknown
        obtain ⟨hgroup, hnumber⟩ := (hworker.id_eq_iff (h w hmem)).1 hid.symm
        rw [hgroup, hnumber, if_neg (groupWorker?_eq_none.1 hfound w hmem), Option.map_none]
      | some found =>
        obtain ⟨hmem, rfl, rfl⟩ := groupWorker?_eq_some hfound
        rw [Option.map_some, (h found hmem).takesOn_eq hworker]
        split <;> rfl
  · have hnew : ∀ w ∈ s.workers, w.id ≠ worker.id := fun w hmem hid ↦ hknown ⟨w, hmem, hid⟩
    have hfree : s.groupWorker? worker.groupId worker.runtimeId = none :=
      groupWorker?_eq_none.2 fun w hmem hplace ↦
        hnew w hmem (((h w hmem).id_eq_iff hworker).2 hplace)
    refine ⟨_, saveWorker_of_new hnew hfree, fun w hw ↦ ?_, fun group number ↦ ?_⟩
    · rcases List.mem_append.1 hw with hmem | hmem
      · exact h w hmem
      · rwa [List.mem_singleton.1 hmem]
    · rw [groupWorker?_append]
      split
      · next hplace =>
        obtain ⟨rfl, rfl⟩ := hplace
        rw [hfree, Option.none_or]
      · exact Option.or_none

/-- Saving workers with ids of their own, in any order and over each other, gives every group and
number the worker that was saved last with them. -/
theorem foldlM_saveWorker_of_named {workers : List Worker} (h : ∀ w ∈ workers, w.Named) :
    ∃ t, workers.foldlM saveWorker {} = .ok t ∧ t.Seeded ∧ (∀ w ∈ t.workers, w.Named) ∧
      ∀ group number, t.groupWorker? group number =
        workers.reverse.find? fun w ↦ w.groupId = group ∧ w.runtimeId = number := by
  induction workers using List.reverseRecOn with
  | nil => exact ⟨{}, rfl, .fresh, fun _ hmem ↦ absurd hmem List.not_mem_nil, fun _ _ ↦ rfl⟩
  | append_singleton workers worker ih =>
    obtain ⟨t, hsaved, hseeded, hnamed, hlookup⟩ :=
      ih fun w hmem ↦ h w (List.mem_append_left _ hmem)
    have hworker := h worker (List.mem_append_right _ (List.mem_singleton_self worker))
    obtain ⟨u, hsave, hnamed', hlookup'⟩ := saveWorker_of_named hnamed hworker
    refine ⟨u, ?_, .worker hseeded hsave, hnamed', fun group number ↦ ?_⟩
    · rw [List.foldlM_append, hsaved]
      exact (bind_pure (t.saveWorker worker)).trans hsave
    · rw [hlookup', hlookup, List.reverse_append, List.reverse_singleton, List.singleton_append,
        List.find?_cons]
      by_cases hplace : worker.groupId = group ∧ worker.runtimeId = number <;> simp [hplace]

end Store

/-! ### Moderators -/

/-- Where workers have ids of their own, making one a moderator or no moderator is about the
category and the number that the event names, and about no other category and no other worker of
any group. -/
theorem Projection.mem_moderators_of_yields (named : ∀ w ∈ s.workers, w.Named) (hkeyed : s.Keyed)
    {number : UInt64} {category : CategoryId} {canModerate : Bool}
    (reads : o.forum? = some (.categoryMembershipOfModeratorUpdated number category canModerate))
    (yields : (event o).Yields s true s') (category' : CategoryId) (group : String)
    (number' : UInt64) :
    (category', Id.ofWorker group number') ∈ s'.moderators ↔
      if category' = category ∧ group = forumGroup ∧ number' = number then canModerate = true
      else (category', Id.ofWorker group number') ∈ s.moderators := by
  obtain ⟨-, d, t, step, rfl⟩ := (yields_event_of_forum reads).1 yields
  cases step with
  | @categoryMembershipOfModeratorUpdated _ _ _ row worker granted found =>
    obtain ⟨hmem, hgroup, hnumber⟩ := groupWorker?_eq_some granted
    have hworker : worker.id = Id.ofWorker forumGroup number := by
      rw [named worker hmem, hgroup, hnumber]
    show (category', Id.ofWorker group number') ∈
      (s.withModerator row.id worker.id canModerate).moderators ↔ _
    rw [mem_moderators_withModerator, hkeyed.categories found, hworker]
    have hkeys : (category, Id.ofWorker forumGroup number) =
        (category', Id.ofWorker group number') ↔
          category' = category ∧ group = forumGroup ∧ number' = number := by
      rw [Prod.mk.injEq, Id.ofWorker_injective2.eq_iff, eq_comm, eq_comm (a := forumGroup),
        eq_comm (a := number)]
    simp only [hkeys]

/-! ### Keys -/

namespace Store

/-- A block is refused for a record only if two of its known events have one place, or if the run
has had a known event at a place of one of them. -/
theorem VisitedWith.repeated_or_taken (h : VisitedWith history s) {b : Block}
    (fails : (block b).Fails s (.store .duplicateEvent) s') :
    ¬((knownEvents b.events).map (·.indexInBlock)).Nodup ∨
      ∃ e ∈ knownEvents b.events, TakenIn history b.number e.indexInBlock := by
  rcases h.visited.refusedIn_of_fails_block fails with hrefused | hunreadable
  · cases hrefused with
    | repeatedPlace repeated => exact Or.inl repeated
    | @recordedPlace e record known recorded inBlock indexInBlock =>
      obtain ⟨o, ho, hknown, d, rfl⟩ := h.recordsOf.occurred record recorded
      exact Or.inr ⟨e, known, o, ho, hknown, inBlock, indexInBlock⟩
  · cases hunreadable

/-- No two places have one record id, no two workers one worker id, no two numbers one id of any
kind, and no two byte strings one content id.

So in a store that a run meets every known event of the run has its own record; an event leaves the
records of all other places as they are, however it ends; its record is refused exactly if the run
has had a known event at the same place; and a block is refused for a record only if a place is
taken or comes twice in it.  Workers that are saved under their own ids are never refused and never
replace one another, and where all workers are such, an event makes no other worker a moderator than
the one it names. -/
theorem derivedKeys_of_visitedWith (h : VisitedWith history s) :
    (Function.Injective2 Id.ofEvent ∧ Function.Injective2 Id.ofWorker ∧
      (∀ entity, Function.Injective fun n ↦ (Id.ofNumber n : Id entity)) ∧
      Function.Injective Id.ofContent) ∧
    ((∀ o ∈ history, (handler? o.name).isSome → ∃ d, s.event? o.id = some (o.record d)) ∧
      (∀ (o : Occurrence) (block : UInt64) (index : UInt32), (block, index) ≠ (o.block, o.index) →
        (event o s).store.event? (Id.ofEvent block index) =
          s.event? (Id.ofEvent block index)) ∧
      (∀ (o : Occurrence) (d : EventData) (t : Store), Handles o s d t →
        ((event o).Fails s (.store .duplicateEvent) t ↔ TakenIn history o.block o.index) ∧
        ((event o).Yields s true (t.withRecord (o.record d)) ↔
          ¬TakenIn history o.block o.index)) ∧
      ∀ (b : Block) (s' : Store), (block b).Fails s (.store .duplicateEvent) s' →
        ¬((knownEvents b.events).map (·.indexInBlock)).Nodup ∨
          ∃ e ∈ knownEvents b.events, TakenIn history b.number e.indexInBlock) ∧
    (∀ workers : List Worker, (∀ w ∈ workers, w.id = Id.ofWorker w.groupId w.runtimeId) →
      ∃ t, workers.foldlM saveWorker {} = .ok t ∧ t.Seeded ∧
        ∀ group number, t.groupWorker? group number =
          workers.reverse.find? fun w ↦ w.groupId = group ∧ w.runtimeId = number) ∧
    ((∀ w ∈ s.workers, w.id = Id.ofWorker w.groupId w.runtimeId) →
      ∀ (o : Occurrence) (s' : Store) (number : UInt64) (category : CategoryId)
        (canModerate : Bool),
        o.forum? = some (.categoryMembershipOfModeratorUpdated number category canModerate) →
        (event o).Yields s true s' → ∀ category' group number',
          (category', Id.ofWorker group number') ∈ s'.moderators ↔
            if category' = category ∧ group = forumGroup ∧ number' = number
            then canModerate = true
            else (category', Id.ofWorker group number') ∈ s.moderators) := by
  refine ⟨⟨Id.ofEvent_injective2, Id.ofWorker_injective2, Id.ofNumber_injective,
    fun _ _ ↦ Id.ofContent_inj.1⟩, ⟨fun o ho known ↦ h.event?_eq ho known,
    fun o block index hne ↦ ?_, fun o d t handled ↦ ⟨?_, ?_⟩, fun b s' ↦ h.repeated_or_taken⟩,
    fun workers named ↦ ?_, fun named o s' number category canModerate ↦ ?_⟩
  · refine event?_event_of_ne s fun hid ↦ hne ?_
    obtain ⟨hblock, hindex⟩ := Id.ofEvent_injective2 hid
    rw [hblock, hindex]
  · rw [fails_event_duplicateEvent, h.recordsOf.mem_ids_iff]
    exact and_iff_right ⟨d, handled⟩
  · rw [yields_event_of_handles handled, h.recordsOf.mem_ids_iff]
  · obtain ⟨t, hsaved, hseeded, -, hlookup⟩ := foldlM_saveWorker_of_named named
    exact ⟨t, hsaved, hseeded, hlookup⟩
  · exact fun reads yields ↦ mem_moderators_of_yields named h.visited.keyed reads yields

/-- Worker 12 of a group, and worker 2 of another whose name goes on with a dash and a digit. -/
def similarWorkers : List Worker := [
  ⟨⟨"forumWorkingGroup-12"⟩, "forumWorkingGroup", 12, none, false, true⟩,
  ⟨⟨"forumWorkingGroup-1-2"⟩, "forumWorkingGroup-1", 2, none, false, true⟩]

/-- A block in which a category is created at an index. -/
def creatingBlock (number : UInt64) (index : UInt32) (category : String) : Block where
  number := number
  timestamp := 0
  events := [⟨"forum.CategoryCreated", index, none,
    [.string category, .null, .string "0x", .string "0x"]⟩]

/-- Categories are created at place 12 of block 1 and at place 2 of block 11. -/
def similarStore : Store :=
  (afterBlock { workers := similarWorkers } (creatingBlock 1 12 "1")).afterBlock
    (creatingBlock 11 2 "2")

/-- The occurrences that the store comes from. -/
def similarHistory : List Occurrence :=
  (creatingBlock 1 12 "1").occurrences ++ (creatingBlock 11 2 "2").occurrences

/-- Worker 12 becomes a moderator of the first category, at an index of block 1. -/
def grantAt (index : UInt32) : Occurrence := .ofEvent 1 0
  ⟨"forum.CategoryMembershipOfModeratorUpdated", index, none, [.int 12, .string "1", .bool true]⟩

/-- The event is refused at the place that is taken and recorded at another, and it makes the one
worker a moderator and not the other. -/
theorem derivedKeys_of_visitedWith_similarStore :
    VisitedWith similarHistory similarStore ∧
      (∀ w ∈ similarStore.workers, w.id = Id.ofWorker w.groupId w.runtimeId) ∧
      similarWorkers.foldlM saveWorker {} = .ok { workers := similarWorkers } ∧
      ((event (grantAt 12)).Fails similarStore (.store .duplicateEvent)
        (event (grantAt 12) similarStore).store ∧ TakenIn similarHistory 1 12) ∧
      ((event (grantAt 2)).Yields similarStore true (event (grantAt 2) similarStore).store ∧
        ¬TakenIn similarHistory 1 2 ∧
        (⟨"1"⟩, ⟨"forumWorkingGroup-12"⟩) ∈ (event (grantAt 2) similarStore).store.moderators ∧
        (⟨"1"⟩, ⟨"forumWorkingGroup-1-2"⟩) ∉
          (event (grantAt 2) similarStore).store.moderators) := by
  have hnamed : ∀ w ∈ similarWorkers, w.id = Id.ofWorker w.groupId w.runtimeId := by decide +kernel
  have hsaved : similarWorkers.foldlM saveWorker {} = .ok { workers := similarWorkers } := rfl
  have hseeded : Seeded { workers := similarWorkers } := by
    obtain ⟨-, -, hsaves, -⟩ := derivedKeys_of_visitedWith (.seeded .fresh)
    obtain ⟨t, ht, hseeded, -⟩ := hsaves _ hnamed
    cases hsaved.symm.trans ht
    exact hseeded
  have hfirst : (block (creatingBlock 1 12 "1")).Yields { workers := similarWorkers } ⟨1, 0⟩ _ :=
    ⟨by decide +kernel, rfl⟩
  have hsecond : (block (creatingBlock 11 2 "2")).Yields
      (afterBlock { workers := similarWorkers } (creatingBlock 1 12 "1")) ⟨1, 0⟩ similarStore :=
    ⟨by decide +kernel, rfl⟩
  have hvisited : VisitedWith similarHistory similarStore :=
    (ReachableWith.block (.block (.seeded hseeded) hfirst) hsecond).visitedWith
  have hworkers : ∀ w ∈ similarStore.workers, w.id = Id.ofWorker w.groupId w.runtimeId := by
    decide +kernel
  obtain ⟨-, ⟨-, -, hplaces, -⟩, -, hgrants⟩ := derivedKeys_of_visitedWith hvisited
  have hfails : (event (grantAt 12)).Fails similarStore (.store .duplicateEvent)
      (event (grantAt 12) similarStore).store := ⟨by decide +kernel, rfl⟩
  have hyields : (event (grantAt 2)).Yields similarStore true
      (event (grantAt 2) similarStore).store := ⟨by decide +kernel, rfl⟩
  have hmoderates := hgrants hworkers (grantAt 2) _ 12 ⟨"1"⟩ true (by decide +kernel) hyields ⟨"1"⟩
  refine ⟨hvisited, hworkers, hsaved, ⟨hfails, ?_⟩, hyields, ?_, ?_, ?_⟩
  · obtain ⟨⟨d, handled⟩, -⟩ := fails_event_duplicateEvent.1 hfails
    exact (hplaces _ d _ handled).1.1 hfails
  · rcases yields_event.1 hyields with ⟨hunknown, -, -⟩ | ⟨-, -, d, t, handled, -, heq⟩
    · cases hunknown
    · exact (hplaces _ d t handled).2.1 (heq ▸ hyields)
  · exact (hmoderates "forumWorkingGroup" 12).2 rfl
  · intro hmem
    have hbefore := (hmoderates "forumWorkingGroup-1" 2).1 hmem
    revert hbefore
    decide +kernel

end Store

end ChainProjection
