import ChainProjection.Proofs.Ids
import ChainProjection.Proofs.Log
import ChainProjection.Proofs.Readable
import ChainProjection.Proofs.References

/-!
# How blocks fail

Besides the inconsistencies an event may run into there are few ways in which a block fails.  The
storage refuses a second record of one id, a second poll of one thread, and a cursor past the signed
64-bit integers; it cannot read the row of a video whose media are too large.  **What makes it
refuse is said here of the block and the store before it**, and of nothing in between; this is the
point of `Block.RefusedIn`, and the work is in getting rid of the stores inside the block.

* `Visited.refusedIn_of_fails_block` finds the event that fails and the store it meets
  (`exists_fails_event_of_fails_events`), and traces what it is refused for back to the start of the
  block: a record or a poll was there before, or an earlier event of the block brought it.
* `refusedIn_of_reachableBy` has the classification for runs whose uploads fit, where no row is
  unreadable.

The rest of what the storage insists on never comes into it.  That a column is there, that a slot
has links or a data object but not both, that a poll has one alternative for each place: these hold
of every row that is written, whatever the event (`Visited.constrained`), and so no write is refused
for them.  It is said of every store inside the block as well, since a constraint that is broken for
a moment is refused at that moment.
-/

namespace ChainProjection

open Projection Store Table

variable {s s' t : Store} {b : Block} {o : Occurrence} {d : EventData}
  {admits : Occurrence → Prop}

/-! ### Places -/

/-- In a visited store every record has the id of its place. -/
theorem Store.Visited.id_eq_ofEvent (h : Visited admits s) :
    ∀ record ∈ s.log, record.id = Id.ofEvent record.inBlock record.indexInBlock := by
  induction h with
  | seeded h =>
    rw [h.eq]
    simp
  | event _ _ handled _ ih =>
    rw [handled.log_withRecord, List.forall_mem_cons]
    exact ⟨rfl, ih⟩
  | cursor _ _ ih => exact ih

/-! ### What an event is refused for -/

/-- What can make the storage refuse an event. -/
inductive Occurrence.RefusedIn (o : Occurrence) (s : Store) : StoreError → Prop
  | unreadable (needs : NeedsUnreadable o s) : RefusedIn o s .unreadable
  | secondPoll {thread : ThreadId} (brings : o.polled? = some thread) (polled : thread ∈ s.polls) :
      RefusedIn o s .duplicatePoll
  | secondRecord (known : (handler? o.name).isSome) (recorded : o.id ∈ s.log.map (·.id)) :
      RefusedIn o s .duplicateEvent

/-- What is done for a known name is refused for a second poll or an unreadable row only. -/
theorem Projection.refusedIn_of_fails_handler {handle : Occurrence → Projection EventData}
    {error : StoreError} (h : handler? o.name = some handle)
    (fails : (handle o).Fails s (.store error) s') :
    o.RefusedIn s error ∧ error ≠ .duplicateEvent := by
  rcases handler?_eq_some h with ⟨read, hforum, rfl⟩ | ⟨read, hcontent, rfl⟩ |
    ⟨read, hacceptance, rfl⟩
  · rcases fails_bind.1 fails with hensure | ⟨e, t, hensure, hproject⟩
    · simp at hensure
    · obtain ⟨reads, rfl⟩ := yields_ensure.1 hensure
      obtain ⟨rfl, thread, brings, polled⟩ := ForumEvent.fails_project_store hproject
      refine ⟨.secondPoll ?_ polled, StoreError.noConfusion⟩
      rw [Occurrence.polled?, Occurrence.forum?_eq_some hforum reads]
      exact brings
  · rcases fails_bind.1 fails with hensure | ⟨e, t, hensure, hproject⟩
    · simp at hensure
    · obtain ⟨reads, rfl⟩ := yields_ensure.1 hensure
      obtain ⟨rfl, -, id, row, needs, found, hsize⟩ := ContentEvent.fails_project_store.1 hproject
      refine ⟨.unreadable ⟨read, e, id, row, hcontent, reads, needs, found, hsize⟩, ?_⟩
      exact StoreError.noConfusion
  · rcases fails_bind.1 fails with hensure | ⟨e, t, -, hproject⟩
    · simp at hensure
    · exact absurd hproject ContentAcceptance.not_fails_project_store

/-- An event is refused for its record exactly if its step can be taken and its id is in the log. -/
theorem Projection.fails_event_duplicateEvent :
    (event o).Fails s (.store .duplicateEvent) s' ↔
      (∃ d, Handles o s d s') ∧ o.id ∈ s.log.map (·.id) := by
  constructor
  · intro fails
    obtain ⟨handle, known, hhandle | ⟨-, recorded, d, handled⟩⟩ := fails_event.1 fails
    · exact absurd rfl (refusedIn_of_fails_handler known hhandle).2
    -- The step before the record has left the log as it was.
    · rw [ne_eq, event?_eq_none, not_not, handled.past_eq.1] at recorded
      exact ⟨⟨d, handled⟩, recorded⟩
  · rintro ⟨⟨d, handled⟩, recorded⟩
    obtain ⟨handle, known⟩ := handled.exists_handler?
    refine fails_event.2 ⟨handle, known, Or.inr ⟨rfl, ?_, d, handled⟩⟩
    rw [ne_eq, event?_eq_none, not_not, handled.past_eq.1]
    exact recorded

/-- An event is refused for a second poll, for an unreadable row or for its record. -/
theorem Projection.refusedIn_of_fails_event {error : StoreError}
    (fails : (event o).Fails s (.store error) s') : o.RefusedIn s error := by
  obtain ⟨handle, known, hhandle | ⟨herror, -⟩⟩ := fails_event.1 fails
  · exact (refusedIn_of_fails_handler known hhandle).1
  · cases herror
    exact .secondRecord (by simp [known]) (fails_event_duplicateEvent.1 fails).2

/-! ### Along a block -/

/-- Events in order fail at one of them, which meets the store that those before it left. -/
theorem Projection.exists_fails_event_of_fails_events {es : List RuntimeEvent} {tally : Tally}
    {error : ProjectionError} (fails : (events b es tally).Fails s error s') :
    ∃ before e after tally' t, es = before ++ e :: after ∧
      (events b before tally).Yields s tally' t ∧
      (event (.ofEvent b.number b.timestamp e)).Fails t error s' := by
  induction es generalizing s tally with
  | nil => exact absurd fails fails_pure
  | cons e rest ih =>
    rw [events, fails_bind] at fails
    rcases fails with hevent | ⟨known, t, hevent, hrest⟩
    · exact ⟨[], e, rest, tally, s, rfl, yields_pure.2 ⟨rfl, rfl⟩, hevent⟩
    · obtain ⟨before, e', after, tally', u, rfl, hbefore, hfails⟩ := ih hrest
      refine ⟨e :: before, e', after, tally', u, rfl, ?_, hfails⟩
      rw [events, yields_bind]
      exact ⟨known, t, hevent, hbefore⟩

/-- A thread with a poll had it before, or one of the events brought it. -/
theorem Projection.mem_polls_of_yields_events {es : List RuntimeEvent} {tally tally' : Tally}
    {thread : ThreadId} (yields : (events b es tally).Yields s tally' t) (h : thread ∈ t.polls) :
    thread ∈ s.polls ∨
      ∃ e ∈ es, (Occurrence.ofEvent b.number b.timestamp e).polled? = some thread := by
  induction es generalizing s tally with
  | nil =>
    obtain ⟨-, rfl⟩ := yields_pure.1 yields
    exact Or.inl h
  | cons e rest ih =>
    rw [events, yields_bind] at yields
    obtain ⟨known, u, hevent, hrest⟩ := yields
    rcases ih hrest with hmem | ⟨e', he', hbrings⟩
    · rcases yields_event.1 hevent with ⟨-, -, rfl⟩ | ⟨-, -, d, v, handled, -, rfl⟩
      · exact Or.inl hmem
      · have hgrowth := handled.pollGrowth
        generalize hpolled : (Occurrence.ofEvent b.number b.timestamp e).polled? = polled at hgrowth
        cases hgrowth with
        | kept polls => exact Or.inl (polls ▸ hmem)
        | @attached thread' poll _ _ polls =>
          have hmem' : thread ∈ s.polls.insert thread' poll := polls ▸ hmem
          rw [Std.ExtTreeMap.mem_insert, Std.LawfulEqOrd.compare_eq_iff_eq] at hmem'
          rcases hmem' with rfl | hold
          · exact Or.inr ⟨e, List.mem_cons_self, hpolled⟩
          · exact Or.inl hold
    · exact Or.inr ⟨e', List.mem_cons_of_mem _ he', hbrings⟩

/-- The places of the known events recorded by then are among those of the log. -/
theorem Projection.recorded_of_yields_events {es : List RuntimeEvent} {tally tally' : Tally}
    {id : EventId} (yields : (events b es tally).Yields s tally' t) (h : id ∈ t.log.map (·.id)) :
    id ∈ s.log.map (·.id) ∨ ∃ e ∈ knownEvents es, id = Id.ofEvent b.number e.indexInBlock := by
  obtain ⟨records, hlog, hrecords, -⟩ := log_of_yields_events yields
  rw [hlog, List.map_append, List.map_reverse, map_id_of_recordOf hrecords, List.mem_append,
    List.mem_reverse, List.mem_map] at h
  rcases h with ⟨e, he, rfl⟩ | hold
  · exact Or.inr ⟨e, he, rfl⟩
  · exact Or.inl hold

/-! ### What the storage insists on -/

/-- A slot does not have both links and a data object. -/
def SlotColumns.Exclusive (row : SlotColumns) : Prop :=
  row.urls = none ∨ row.dataObjectId = none

/-- A slot is stored as links or as a data object. -/
theorem SlotColumns.exclusive_ofSlot (slot : Option AssetRef) : (ofSlot slot).Exclusive := by
  rcases slot with - | links | ⟨id, availability⟩
  · exact Or.inl rfl
  · exact Or.inr rfl
  · exact Or.inl rfl

/-- Two workers have different ids, and different numbers if they are of one group. -/
def Worker.Apart (w w' : Worker) : Prop :=
  w.id ≠ w'.id ∧ ¬(w.groupId = w'.groupId ∧ w.runtimeId = w'.runtimeId)

/-- What the storage insists on, apart from what a table of rows by key cannot break. -/
structure Store.Constrained (s : Store) : Prop where
  /-- Posts name the event they come from. -/
  origins : Forall (fun _ row ↦ row.columns.originEventId ≠ none) s.posts
  channelSlots : Forall (fun _ row ↦
    row.columns.coverPhoto.Exclusive ∧ row.columns.avatarPhoto.Exclusive) s.channels
  videoSlots : Forall (fun _ row ↦
    row.columns.thumbnailPhoto.Exclusive ∧ row.columns.media.Exclusive) s.videos
  /-- Polls have row numbers of their own. -/
  pollRows : ∀ (thread thread' : ThreadId) (poll poll' : Poll), s.polls[thread]? = some poll →
    s.polls[thread']? = some poll' → poll.id = poll'.id → thread = thread'
  /-- No poll has two alternatives at one place. -/
  places : Forall (fun _ poll ↦ (poll.alternatives.map (·.index)).Nodup) s.polls
  records : (s.log.map (·.id)).Nodup
  workers : s.workers.Pairwise Worker.Apart

/-- Row numbers of polls count up, and no two polls have the same. -/
structure Store.PollsCounted (s : Store) : Prop where
  le : Forall (fun _ poll ↦ poll.id ≤ s.pollRows) s.polls
  inj : ∀ (thread thread' : ThreadId) (poll poll' : Poll), s.polls[thread]? = some poll →
    s.polls[thread']? = some poll' → poll.id = poll'.id → thread = thread'

/-- A poll that is attached gets a row number past all others. -/
theorem PollGrowth.pollsCounted {polled : Option ThreadId} (h : PollGrowth s s' polled)
    (hcounted : s.PollsCounted) : s'.PollsCounted := by
  cases h with
  | kept polls rows =>
    refine ⟨?_, ?_⟩
    · rw [polls, rows]
      exact hcounted.le
    · rw [polls]
      exact hcounted.inj
  | @attached thread poll new row polls rows =>
    refine ⟨?_, fun thread₁ thread₂ poll₁ poll₂ found₁ found₂ hid ↦ ?_⟩
    · rw [polls, rows]
      refine Forall.insert (hcounted.le.imp fun _ _ hle ↦ ?_) (Nat.le_of_eq row)
      exact Nat.le_succ_of_le hle
    · rw [polls, getElem?_insert] at found₁ found₂
      -- The new number is past all the old ones.
      split at found₁ <;> split at found₂
      · next h₁ h₂ => exact h₁.symm.trans h₂
      · cases found₁
        have hle := hcounted.le found₂
        omega
      · cases found₂
        have hle := hcounted.le found₁
        omega
      · exact hcounted.inj _ _ _ _ found₁ found₂ hid

/-- In a visited store no two polls have one row number. -/
theorem Store.Visited.pollsCounted (h : Visited admits s) : s.PollsCounted := by
  induction h with
  | seeded h =>
    rw [h.eq]
    exact ⟨forall_empty, fun _ _ _ _ found ↦ by simp at found⟩
  | event _ _ handled _ ih =>
    have hcounted := handled.pollGrowth.pollsCounted ih
    exact ⟨hcounted.le, hcounted.inj⟩
  | cursor _ _ ih => exact ⟨ih.le, ih.inj⟩

/-- Saving a worker gives it an id and a number that no other has, or keeps those it has. -/
theorem Store.pairwise_saveWorker {worker : Worker} (saved : s.saveWorker worker = .ok t)
    (h : s.workers.Pairwise Worker.Apart) : t.workers.Pairwise Worker.Apart := by
  rw [saveWorker] at saved
  split at saved
  · cases saved
    -- An update leaves ids, groups and numbers as they are.
    refine List.pairwise_map.2 (h.imp fun {w w'} hapart ↦ ?_)
    split <;> split <;> exact hapart
  · next hnew =>
    split at saved
    · cases saved
    · next hfree =>
      cases saved
      refine List.pairwise_append.2 ⟨h, List.pairwise_singleton _ _, fun w hw w' hw' ↦ ?_⟩
      obtain rfl := List.mem_singleton.1 hw'
      refine ⟨fun hid ↦ hnew (List.any_eq_true.2 ⟨w, hw, by simpa using hid⟩), ?_⟩
      rintro ⟨hgroup, hnumber⟩
      refine hfree (List.find?_isSome.2 ⟨w, hw, ?_⟩)
      simp [hgroup, hnumber]

/-- In a visited store workers are told apart, by their ids and by their numbers. -/
theorem Store.Visited.pairwise_workers (h : Visited admits s) :
    s.workers.Pairwise Worker.Apart := by
  induction h with
  | seeded h =>
    induction h with
    | fresh => exact List.Pairwise.nil
    | worker _ saved ih => exact pairwise_saveWorker saved ih
  | event _ _ handled _ ih =>
    rw [← handled.past_eq.2.2] at ih
    exact ih
  | cursor _ _ ih => exact ih

/-- A visited store has nothing that the storage would have refused. -/
theorem Store.Visited.constrained (h : Visited admits s) : s.Constrained where
  origins _ row _ := by
    show (row.origin.cause?.map (·.text)) ≠ none
    cases row.origin <;> simp [PostOrigin.cause?]
  channelSlots _ _ _ := ⟨SlotColumns.exclusive_ofSlot _, SlotColumns.exclusive_ofSlot _⟩
  videoSlots _ _ _ := ⟨SlotColumns.exclusive_ofSlot _, SlotColumns.exclusive_ofSlot _⟩
  pollRows := h.pollsCounted.inj
  places _ poll found := by
    show (poll.alternatives.map (·.index)).Nodup
    rw [(h.refersIn.polls found).places]
    exact List.nodup_range
  records := h.nodup_ids
  workers := h.pairwise_workers

/-! ### What a block is refused for -/

/-- What can make a block fail on a store whose videos can all be read. -/
inductive Block.RefusedIn (b : Block) (s : Store) : ProjectionError → Prop
  | inconsistent (event : String) (id : EventId) (number : UInt64) (what : Inconsistency) :
      RefusedIn b s (.inconsistent event id number what)
  | repeatedPlace (repeated : ¬((knownEvents b.events).map (·.indexInBlock)).Nodup) :
      RefusedIn b s (.store .duplicateEvent)
  | recordedPlace {e : RuntimeEvent} {record : EventRecord} (known : e ∈ knownEvents b.events)
      (recorded : record ∈ s.log) (inBlock : record.inBlock = b.number)
      (indexInBlock : record.indexInBlock = e.indexInBlock) :
      RefusedIn b s (.store .duplicateEvent)
  | secondPoll {before after : List RuntimeEvent} {e : RuntimeEvent} {thread : ThreadId}
      (events : b.events = before ++ e :: after)
      (brings : (Occurrence.ofEvent b.number b.timestamp e).polled? = some thread)
      (polled : thread ∈ s.polls ∨
        ∃ e' ∈ before, (Occurrence.ofEvent b.number b.timestamp e').polled? = some thread) :
      RefusedIn b s (.store .duplicatePoll)
  | largeNumber (large : signedLimit ≤ b.number.toNat) : RefusedIn b s (.store .unwritable)

namespace Store

/-- A record that is refused has its place in the log or shares it with an event before it. -/
theorem Visited.refusedIn_of_recorded (h : Visited admits s) {before after : List RuntimeEvent}
    {e : RuntimeEvent} {tally tally' : Tally} (split : b.events = before ++ e :: after)
    (known : (handler? e.name).isSome) (yields : (events b before tally).Yields s tally' t)
    (recorded : Id.ofEvent b.number e.indexInBlock ∈ t.log.map (·.id)) :
    b.RefusedIn s (.store .duplicateEvent) := by
  have hevents : knownEvents b.events = knownEvents before ++ e :: knownEvents after := by
    rw [split, knownEvents, List.filter_append, ← knownEvents, ← knownEvents,
      knownEvents_cons_of_known known]
  rcases recorded_of_yields_events yields recorded with hold | ⟨e', he', hid⟩
  · obtain ⟨record, hrecord, hid⟩ := List.mem_map.1 hold
    rw [h.id_eq_ofEvent record hrecord] at hid
    obtain ⟨hblock, hindex⟩ := Id.ofEvent_injective2 hid
    refine .recordedPlace (e := e) ?_ hrecord hblock hindex
    rw [hevents]
    exact List.mem_append_right _ List.mem_cons_self
  · obtain ⟨-, hindex⟩ := Id.ofEvent_injective2 hid
    refine .repeatedPlace fun hnodup ↦ ?_
    rw [hevents, List.map_append, List.map_cons] at hnodup
    have hdisjoint := List.disjoint_of_nodup_append hnodup
    have hbefore : e.indexInBlock ∈ (knownEvents before).map (·.indexInBlock) :=
      hindex ▸ List.mem_map_of_mem he'
    exact hdisjoint hbefore List.mem_cons_self

/-- A block fails only for what it can be refused for, or because a row cannot be read. -/
theorem Visited.refusedIn_of_fails_block (h : Visited admits s) {error : ProjectionError}
    (fails : (block b).Fails s error s') : b.RefusedIn s error ∨ error = .store .unreadable := by
  rw [block, fails_atomically] at fails
  obtain ⟨rfl, t, fails⟩ := fails
  rcases fails_bind.1 fails with hevents | ⟨tally, u, -, hrest⟩
  · cases error with
    | inconsistent event id number what => exact Or.inl (.inconsistent event id number what)
    | store error =>
      obtain ⟨before, e, after, tally', u, split, hbefore, hevent⟩ :=
        exists_fails_event_of_fails_events hevents
      cases refusedIn_of_fails_event hevent with
      | unreadable => exact Or.inr rfl
      | secondPoll brings polled =>
        exact Or.inl (.secondPoll split brings (mem_polls_of_yields_events hbefore polled))
      | secondRecord known recorded =>
        exact Or.inl (h.refusedIn_of_recorded split known hbefore recorded)
  · rcases fails_bind.1 hrest with hadvance | ⟨-, v, -, hpure⟩
    · obtain ⟨hlarge, rfl, -⟩ := fails_advance.1 hadvance
      have hge : ¬b.number.toNat < signedLimit := by
        rw [← isSigned_iff, hlarge]
        exact Bool.false_ne_true
      exact Or.inl (.largeNumber (Nat.le_of_not_lt hge))
    · exact absurd hpure fails_pure

/-- How a block can fail after a run whose uploads fit.  The store is then what it was.  If the
uploads of the block fit too, the error is an inconsistency, or a second record of a place, a second
poll of a thread or a number past the signed 64-bit integers, and each of the three has its reason
in the block and the store before it; uploads of the block that do not fit can add an unreadable row
and nothing else.  What the storage insists on otherwise holds in every store the block comes to. -/
theorem refusedIn_of_reachableBy (h : ReachableBy Occurrence.UploadsFit s) {error : ProjectionError}
    (fails : (block b).Fails s error s') :
    s' = s ∧
      ((∀ e ∈ b.events, (Occurrence.ofEvent b.number b.timestamp e).UploadsFit) →
        b.RefusedIn s error) ∧
      (b.RefusedIn s error ∨ error = .store .unreadable) ∧
      ∀ before after tally t, b.events = before ++ after →
        (events b before {}).Yields s tally t → t.Constrained := by
  have hrefused := h.visited.refusedIn_of_fails_block fails
  refine ⟨eq_of_fails_block fails, fun admitted ↦ ?_, hrefused, ?_⟩
  · rcases hrefused with hrefused | rfl
    · exact hrefused
    · exact absurd fails (h.visited.not_fails_block_unreadable admitted)
  · intro before after tally t _ yields
    have hvisited : Visited (fun _ ↦ True) s := h.visited.imp fun _ _ ↦ trivial
    exact (rel_of_yields_events (R := fun _ _ ↦ True) (fun _ ↦ trivial) (fun _ _ ↦ trivial)
      (fun _ _ _ _ ↦ trivial) (fun _ _ ↦ trivial) hvisited yields).1.constrained

/-- Events about the forum bring no uploads. -/
theorem uploadsFit_of_forum {read : Reader ForumEvent}
    (known : ForumEvent.reader? o.name = some read) : o.UploadsFit := by
  intro read' e hcontent
  simp [ContentEvent.reader?_eq_none known] at hcontent

/-- A thread with a poll, in the category with the id `1`. -/
def polledThread (index : UInt32) : RuntimeEvent :=
  ⟨"forum.ThreadCreated", index, none, [.string "1", .string "2", .string "3", .string "4",
    .string "0x", .string "0x", .object [("description", .string "0x"), ("end_time", .int 9),
      ("alternatives", .array [.string "0x", .string "0x"])]]⟩

/-- A category is created and a thread in it gets a poll. -/
def pollingBlock : Block where
  number := 5
  timestamp := 0
  events := [
    ⟨"forum.CategoryCreated", 0, none, [.string "1", .null, .string "0x", .string "0x"]⟩,
    polledThread 1]

/-- The store with the poll. -/
def polledStore : Store := afterBlock {} pollingBlock

/-- The thread gets a poll again. -/
def repollingBlock : Block := ⟨6, 0, [polledThread 0]⟩

/-- The block cannot be projected twice, the thread cannot get a second poll, and no block has a
number past the signed 64-bit integers. -/
theorem refusedIn_of_reachableBy_polledStore :
    ReachableBy Occurrence.UploadsFit polledStore ∧
      (block pollingBlock).Fails polledStore (.store .duplicateEvent) polledStore ∧
      pollingBlock.RefusedIn polledStore (.store .duplicateEvent) ∧
      (block repollingBlock).Fails polledStore (.store .duplicatePoll) polledStore ∧
      repollingBlock.RefusedIn polledStore (.store .duplicatePoll) ∧
      (block ⟨9223372036854775808, 0, []⟩).Fails polledStore (.store .unwritable) polledStore ∧
      Block.RefusedIn ⟨9223372036854775808, 0, []⟩ polledStore (.store .unwritable) := by
  have hpolling : ∀ e ∈ pollingBlock.events,
      (Occurrence.ofEvent pollingBlock.number pollingBlock.timestamp e).UploadsFit := by
    intro e he
    rcases List.mem_pair.1 he with rfl | rfl
    · exact uploadsFit_of_forum rfl
    · exact uploadsFit_of_forum rfl
  have hrepolling : ∀ e ∈ repollingBlock.events,
      (Occurrence.ofEvent repollingBlock.number repollingBlock.timestamp e).UploadsFit := by
    intro e he
    obtain rfl := List.mem_singleton.1 he
    exact uploadsFit_of_forum rfl
  have hreachable : ReachableBy Occurrence.UploadsFit polledStore :=
    .block (.seeded .fresh) pollingBlock hpolling
  have hfails (b : Block) (error : ProjectionError)
      (h : (block b polledStore).result = .error error) :
      (block b).Fails polledStore error polledStore :=
    ⟨h, eq_of_fails_block ⟨h, rfl⟩⟩
  have hagain := hfails pollingBlock (.store .duplicateEvent) (by decide +kernel)
  have hsecond := hfails repollingBlock (.store .duplicatePoll) (by decide +kernel)
  have hlarge := hfails ⟨9223372036854775808, 0, []⟩ (.store .unwritable) (by decide +kernel)
  exact ⟨hreachable, hagain, (refusedIn_of_reachableBy hreachable hagain).2.1 hpolling,
    hsecond, (refusedIn_of_reachableBy hreachable hsecond).2.1 hrepolling,
    hlarge, (refusedIn_of_reachableBy hreachable hlarge).2.1 (by simp)⟩

end Store

end ChainProjection
