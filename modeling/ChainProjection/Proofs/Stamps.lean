import ChainProjection.Proofs.Footprints

/-!
# Stamps

A row **keeps the stamps of its creation for as long as it is there, and the time of its last write
says when anything of it changed**; a category counts its moderators as its own.  Both follow from
the footprints, which say of every row that a step writes how its stamps are left, so no event is
looked at here: `Footprint.keepsStamps` is one line for each table.

Over a run this bounds the times in a store by those of its blocks (`InOrderUpTo.afterBlocks`).  The
time of a block is not checked by the projection, so nothing is said of runs whose blocks go back in
time, and only blocks that were committed count: one that fails leaves no stamp, whatever its time
is.

The rule for one row, `Writes.inOrder`, takes both times as parameters, and is used at every table
that has them.  The bound is an option, so that a run in which nothing was committed needs no case
of its own; it leaves no rows.
-/

namespace ChainProjection

open Projection Store Table

variable {o : Occurrence} {s s' t : Store} {d : EventData} {α : Type} [Stamped α]

/-! ### One row -/

/-- What an occurrence may make of a row, or of the lack of one: leave it alone, save it or remove
it. -/
def Occurrence.Writes (o : Occurrence) (x y : Option α) : Prop :=
  y = x ∨ o.Saves x y ∨ y = none

theorem Occurrence.WritesIf.writes {p : Prop} {x y : Option α} (h : o.WritesIf p x y) :
    o.Writes x y :=
  h.imp_right And.right

theorem Occurrence.SavesIf.writes {p : Prop} {x y : Option α} (h : o.SavesIf p x y) :
    o.Writes x y :=
  h.writesIf.writes

/-- A row that is there before and after has one creation, and either it is the same or its last
write is the occurrence. -/
theorem Occurrence.Writes.restamps {row row' : α} (h : o.Writes (some row) (some row')) :
    SameCreation row row' ∧ (row' = row ∨ o.Updates row') := by
  rcases h with hsame | hsaves | hnone
  · cases hsame
    exact ⟨⟨rfl, rfl⟩, Or.inl rfl⟩
  · cases hsaves with
    | rewritten kept updates => exact ⟨kept, Or.inr updates⟩
  · cases hnone

/-- A row that was saved was last written by the occurrence. -/
theorem Occurrence.Saves.updates {x : Option α} {row : α} (h : o.Saves x (some row)) :
    o.Updates row := by
  cases h with
  | created _ updates => exact updates
  | rewritten _ updates => exact updates

/-- A row was created no later than it was last written, and that no later than a time that is
known. -/
def InOrder (last : Option Int64) (createdAt updatedAt : Int64) : Prop :=
  createdAt ≤ updatedAt ∧ ∃ time ∈ last, updatedAt ≤ time

theorem InOrder.mono {last : Option Int64} {createdAt updatedAt time : Int64}
    (h : InOrder last createdAt updatedAt) (hle : ∀ earlier ∈ last, earlier ≤ time) :
    InOrder (some time) createdAt updatedAt := by
  obtain ⟨horder, earlier, hlast, hwrite⟩ := h
  exact ⟨horder, time, rfl, Int64.le_trans hwrite (hle earlier hlast)⟩

/-- A row with both times stays in order up to the time of the occurrence. -/
theorem Occurrence.Writes.inOrder (createdAt updatedAt : α → Int64)
    (hcreated : ∀ row, (stamps row).createdAt = some (createdAt row))
    (hupdated : ∀ row, (stamps row).updatedAt = some (updatedAt row)) {x y : Option α}
    (h : o.Writes x y)
    (hold : ∀ row, x = some row → InOrder (some o.timestamp) (createdAt row) (updatedAt row))
    (row' : α) (hrow' : y = some row') :
    InOrder (some o.timestamp) (createdAt row') (updatedAt row') := by
  subst hrow'
  have hwritten (updates : o.Updates row') : updatedAt row' = o.timestamp := by
    rwa [Updates, hupdated] at updates
  rcases h with hsame | hsaves | hnone
  · exact hold row' hsame.symm
  · cases hsaves with
    | created creates updates =>
      have htime : createdAt row' = o.timestamp := by
        have h := creates.atTime
        rwa [hcreated] at h
      rw [htime, hwritten updates]
      exact ⟨Int64.le_refl _, _, rfl, Int64.le_refl _⟩
    | @rewritten row _ kept updates =>
      obtain ⟨horder, time, htime, hle⟩ := hold row rfl
      obtain rfl := Option.some_inj.1 htime
      have hsame : createdAt row' = createdAt row := by
        have h := kept.atTime
        rwa [hcreated, hcreated, Option.some_inj] at h
      rw [hsame, hwritten updates]
      exact ⟨Int64.le_trans horder hle, _, rfl, Int64.le_refl _⟩
  · cases hnone

/-! ### All rows -/

namespace Occurrence.Footprint

variable (h : o.Footprint s t)

include h

theorem writes_thread (id : ThreadId) : o.Writes s.threads[id]? t.threads[id]? := by
  rcases h.threads id with hsaves | ⟨row, -, hold, hnew⟩
  · exact hsaves.writes
  · rw [hold, hnew]
    exact Or.inr (Or.inl (.rewritten ⟨rfl, rfl⟩ rfl))

/-- A channel is left alone, saved, or refreshed in its slots; each is a write. -/
theorem writes_channel (id : ChannelId) : o.Writes s.channels[id]? t.channels[id]? := by
  rcases h.channels id with hsaves | ⟨content, row, -, -, hold, hnew⟩
  · exact hsaves.writes
  · rw [hold, hnew, refreshChannel]
    split
    · exact Or.inl rfl
    · exact Or.inr (Or.inl (.rewritten ⟨rfl, rfl⟩ rfl))

theorem writes_video (id : VideoId) : o.Writes s.videos[id]? t.videos[id]? := by
  rcases h.videos id with hwrites | ⟨_, row, -, hold, hnew⟩ | ⟨content, row, -, -, hold, hnew⟩
  · exact hwrites.writes
  · rw [hold, hnew]
    exact Or.inr (Or.inl (.rewritten ⟨rfl, rfl⟩ rfl))
  · rw [hold, hnew, refreshVideo]
    split
    · exact Or.inl rfl
    · exact Or.inr (Or.inl (.rewritten ⟨rfl, rfl⟩ rfl))

end Occurrence.Footprint

/-- Every row of a table is as it was in another one. -/
def Table.Keeps {κ β : Type} [Ord κ] [Std.TransOrd κ] (table table' : Table κ β) : Prop :=
  Forall (fun key row ↦ table'[key]? = some row) table

/-- A table that gains a row keeps the others. -/
theorem Table.AddsAtMostOne.keeps {κ β : Type} [Ord κ] [Std.TransOrd κ] [Std.LawfulEqOrd κ]
    [DecidableEq κ] {table table' : Table κ β} (h : AddsAtMostOne table table') :
    Keeps table table' := by
  intro key row hrow
  rcases h with rfl | ⟨key', row', hnew, rfl⟩
  · exact hrow
  · have hne : key' ≠ key := by
      rintro rfl
      exact hnew (mem_of_getElem?_eq_some hrow)
    rw [getElem?_insert, if_neg hne]
    exact hrow

/-- Polls are kept as they are. -/
theorem PollGrowth.keeps {thread : Option ThreadId} (h : PollGrowth s t thread) :
    Keeps s.polls t.polls := by
  cases h with
  | kept polls =>
    rw [polls]
    exact fun _ _ hrow ↦ hrow
  | attached new _ polls => exact AddsAtMostOne.keeps (Or.inr ⟨_, _, new, polls⟩)

/-- Every row that is in both tables has one creation, and either it is the same in both or its last
write is the occurrence. -/
def Occurrence.Restamps {κ : Type} [Ord κ] [Std.TransOrd κ] (o : Occurrence)
    (table table' : Table κ α) : Prop :=
  ∀ (key : κ) (row row' : α), table[key]? = some row → table'[key]? = some row' →
    SameCreation row row' ∧ (row' = row ∨ o.Updates row')

/-- Rows that are written one by one are restamped one by one. -/
theorem Occurrence.Restamps.of_writes {κ : Type} [Ord κ] [Std.TransOrd κ]
    {table table' : Table κ α} (h : ∀ key : κ, o.Writes table[key]? table'[key]?) :
    o.Restamps table table' := by
  intro key row row' hrow hrow'
  have hwrites := h key
  rw [hrow, hrow'] at hwrites
  exact hwrites.restamps

/-- What an occurrence does to the stamps of the rows of `s`, from `s` to `t`. -/
structure Occurrence.KeepsStamps (o : Occurrence) (s t : Store) : Prop where
  categories : o.Restamps s.categories t.categories
  /-- A change of the moderators is a change of the category. -/
  moderators : ∀ category row', t.categories[category]? = some row' →
    (∀ worker, (category, worker) ∈ t.moderators ↔ (category, worker) ∈ s.moderators) ∨
      row'.updatedAt = o.timestamp
  threads : o.Restamps s.threads t.threads
  posts : o.Restamps s.posts t.posts
  channels : o.Restamps s.channels t.channels
  videos : o.Restamps s.videos t.videos
  channelCategories : o.Restamps s.channelCategories t.channelCategories
  videoCategories : o.Restamps s.videoCategories t.videoCategories
  /-- Data objects have the block of their creation and no time of their last write. -/
  dataObjects : o.Restamps s.dataObjects t.dataObjects
  members : Keeps s.members t.members
  languages : Keeps s.languages t.languages
  licenses : Keeps s.licenses t.licenses
  polls : Keeps s.polls t.polls

/-- **A footprint keeps stamps**, table by table. -/
theorem Occurrence.Footprint.keepsStamps (h : o.Footprint s t) : o.KeepsStamps s t where
  categories := .of_writes fun id ↦ (h.categories id).writes
  moderators category row' hrow' := by
    refine (h.moderators category).imp_right fun hsaves ↦ ?_
    rw [hrow'] at hsaves
    exact hsaves.2.updates
  threads := .of_writes h.writes_thread
  posts := .of_writes fun id ↦ (h.posts id).writes
  channels := .of_writes h.writes_channel
  videos := .of_writes h.writes_video
  channelCategories := .of_writes fun id ↦ (h.channelCategories id).writes
  videoCategories := .of_writes fun id ↦ (h.videoCategories id).writes
  dataObjects := .of_writes fun id ↦ (h.dataObjects id).writes
  members := h.members.keeps
  languages := h.languages.keeps
  licenses := h.licenses.keeps
  polls := h.polls.keeps

/-! ### Runs -/

namespace Store

/-- Every row was created no later than it was last written, and that no later than a time that is
known; where none is known there are no rows. -/
structure InOrderUpTo (last : Option Int64) (s : Store) : Prop where
  categories : Forall (fun _ row ↦ InOrder last row.createdAt row.updatedAt) s.categories
  threads : Forall (fun _ row ↦ InOrder last row.createdAt row.updatedAt) s.threads
  posts : Forall (fun _ row ↦ InOrder last row.createdAt row.updatedAt) s.posts
  channels : Forall (fun _ row ↦ InOrder last row.createdAt row.updatedAt) s.channels
  videos : Forall (fun _ row ↦ InOrder last row.createdAt row.updatedAt) s.videos
  channelCategories :
    Forall (fun _ row ↦ InOrder last row.createdAt row.updatedAt) s.channelCategories
  videoCategories : Forall (fun _ row ↦ InOrder last row.createdAt row.updatedAt) s.videoCategories

/-- Rows that are in order stay so as time goes on. -/
theorem InOrderUpTo.mono {last : Option Int64} {time : Int64} (h : s.InOrderUpTo last)
    (hle : ∀ earlier ∈ last, earlier ≤ time) : s.InOrderUpTo (some time) where
  categories := h.categories.imp fun _ _ hrow ↦ hrow.mono hle
  threads := h.threads.imp fun _ _ hrow ↦ hrow.mono hle
  posts := h.posts.imp fun _ _ hrow ↦ hrow.mono hle
  channels := h.channels.imp fun _ _ hrow ↦ hrow.mono hle
  videos := h.videos.imp fun _ _ hrow ↦ hrow.mono hle
  channelCategories := h.channelCategories.imp fun _ _ hrow ↦ hrow.mono hle
  videoCategories := h.videoCategories.imp fun _ _ hrow ↦ hrow.mono hle

theorem Seeded.inOrderUpTo (h : s.Seeded) (last : Option Int64) : s.InOrderUpTo last := by
  rw [h.eq]
  exact ⟨forall_empty, forall_empty, forall_empty, forall_empty, forall_empty, forall_empty,
    forall_empty⟩

/-- A step leaves the rows in order up to its own time. -/
theorem InOrderUpTo.footprint (h : s.InOrderUpTo (some o.timestamp)) (hfoot : o.Footprint s t) :
    t.InOrderUpTo (some o.timestamp) where
  categories id := (hfoot.categories id).writes.inOrder Category.createdAt Category.updatedAt
    (fun _ ↦ rfl) (fun _ ↦ rfl) (fun _ hrow ↦ h.categories hrow)
  threads id := (hfoot.writes_thread id).inOrder Thread.createdAt Thread.updatedAt
    (fun _ ↦ rfl) (fun _ ↦ rfl) (fun _ hrow ↦ h.threads hrow)
  posts id := (hfoot.posts id).writes.inOrder Post.createdAt Post.updatedAt
    (fun _ ↦ rfl) (fun _ ↦ rfl) (fun _ hrow ↦ h.posts hrow)
  channels id := (hfoot.writes_channel id).inOrder Channel.createdAt Channel.updatedAt
    (fun _ ↦ rfl) (fun _ ↦ rfl) (fun _ hrow ↦ h.channels hrow)
  videos id := (hfoot.writes_video id).inOrder Video.createdAt Video.updatedAt
    (fun _ ↦ rfl) (fun _ ↦ rfl) (fun _ hrow ↦ h.videos hrow)
  channelCategories id := (hfoot.channelCategories id).writes.inOrder ContentCategory.createdAt
    ContentCategory.updatedAt (fun _ ↦ rfl) (fun _ ↦ rfl) (fun _ hrow ↦ h.channelCategories hrow)
  videoCategories id := (hfoot.videoCategories id).writes.inOrder ContentCategory.createdAt
    ContentCategory.updatedAt (fun _ ↦ rfl) (fun _ ↦ rfl) (fun _ hrow ↦ h.videoCategories hrow)

/-- Events of one time leave the rows in order up to that time. -/
theorem InOrderUpTo.follows {time : Int64} (h : s.InOrderUpTo (some time))
    (hs : Visited (fun _ ↦ True) s) (hfollows : Follows (·.timestamp = time) s t) :
    t.InOrderUpTo (some time) := by
  induction hfollows with
  | refl => exact h
  | event hbefore admitted handled fresh ih =>
    obtain rfl := admitted
    have hvisited := hbefore.visited hs
    exact ih.footprint (handled.footprint hvisited.keyed hvisited.licensesNumbered)
  | cursor _ _ ih => exact { ih with }

/-- The blocks of a run that do not fail, each on the store that the ones before it leave. -/
def committed (s : Store) : List Block → List Block
  | [] => []
  | b :: rest => match (block b s).result with
    | .ok _ => b :: committed (s.afterBlock b) rest
    | .error _ => committed (s.afterBlock b) rest

/-- The committed blocks come in the order of the run. -/
theorem committed_sublist (s : Store) (blocks : List Block) :
    (s.committed blocks).Sublist blocks := by
  induction blocks generalizing s with
  | nil => exact .slnil
  | cons b rest ih =>
    rw [committed]
    split
    · exact (ih _).cons_cons b
    · exact (ih _).cons b

/-- A run leaves the rows in order up to the time of the last block that was committed, if those
blocks do not go back in time. -/
theorem InOrderUpTo.afterBlocks {last : Option Int64} (h : s.InOrderUpTo last)
    (hs : Visited (fun _ ↦ True) s) {blocks : List Block}
    (ordered : (last.toList ++ (s.committed blocks).map (·.timestamp)).Pairwise (· ≤ ·)) :
    (s.afterBlocks blocks).InOrderUpTo
      (last.toList ++ (s.committed blocks).map (·.timestamp)).getLast? := by
  induction blocks generalizing s last with
  | nil =>
    cases last <;> exact h
  | cons b rest ih =>
    rcases yields_or_fails (block b) s with ⟨tally, u, hyields⟩ | ⟨error, u, hfails⟩
    · obtain ⟨v, hevents, -, rfl⟩ := yields_block.1 hyields
      have hafter : s.afterBlock b = { v with cursor := some b.number } := hyields.2
      have hfollows : Follows (·.timestamp = b.timestamp) s (s.afterBlock b) := by
        rw [hafter]
        exact .cursor (Follows.refl.events (fun _ _ ↦ rfl) hevents) _
      have hcommitted : s.committed (b :: rest) = b :: (s.afterBlock b).committed rest := by
        rw [committed, hyields.1]
      rw [hcommitted, List.map_cons] at ordered ⊢
      obtain ⟨-, hlater, hearlier⟩ := List.pairwise_append.1 ordered
      -- The time of this block bounds what the blocks before have written, and what it writes
      -- itself.
      have hstep := (h.mono fun earlier hlast ↦
        hearlier earlier (Option.mem_toList.2 hlast) _ List.mem_cons_self).follows hs hfollows
      rw [List.getLast?_append_of_ne_nil _ (List.cons_ne_nil _ _)]
      exact ih hstep (hfollows.visited hs) hlater
    · -- A block that fails is not among the committed ones and changes nothing.
      have heq : s.afterBlock b = s := hfails.2.trans (eq_of_fails_block hfails)
      have hcommitted : s.committed (b :: rest) = s.committed rest := by
        rw [committed, hfails.1, heq]
      rw [hcommitted] at ordered ⊢
      show ((s.afterBlock b).afterBlocks rest).InOrderUpTo _
      rw [heq]
      exact ih h hs ordered

/-- In a store that a run meets, an event that is handled keeps the creation of every row and stamps
what it changes; and a run whose blocks do not go back in time leaves every row created no later
than it was last written, and that no later than the last block that was committed. -/
theorem stamps_of_runs :
    (∀ s o t, Visited (fun _ ↦ True) s → (event o).Yields s true t → o.KeepsStamps s t) ∧
      ∀ (s : Store) (blocks : List Block), s.Seeded →
        (blocks.map (·.timestamp)).Pairwise (· ≤ ·) →
        (s.afterBlocks blocks).InOrderUpTo ((s.committed blocks).getLast?.map (·.timestamp)) := by
  refine ⟨fun s o t h yields ↦ ?_, fun s blocks h ordered ↦ ?_⟩
  · rcases yields_event.1 yields with ⟨hknown, -, -⟩ | ⟨-, -, d, u, handled, -, rfl⟩
    · cases hknown
    · exact (handled.footprint h.keyed h.licensesNumbered).keepsStamps
  · have hsub := (s.committed_sublist blocks).map (·.timestamp)
    have hrun := (h.inOrderUpTo none).afterBlocks (.seeded h) (ordered.sublist hsub)
    rw [← List.getLast?_map]
    exact hrun

/-- The category with the id `7` is created. -/
def categoryCreation : RuntimeEvent :=
  ⟨"forum.CategoryCreated", 0, none, [.string "7", .null, .string "0x", .string "0x"]⟩

/-- A category is created, then created again, and then comes a block that fails. -/
def recreatingRun : List Block := [
  ⟨0, 5, [categoryCreation]⟩,
  ⟨1, 8, [categoryCreation]⟩,
  ⟨2, 9, [⟨"forum.CategoryUpdated", 0, none, []⟩]⟩]

/-- The store in which the category was created once. -/
def createdStore : Store := afterBlock {} ⟨0, 5, [categoryCreation]⟩

/-- The second creation is stamped as a change, and the block that fails stamps nothing. -/
theorem stamps_of_runs_recreatingRun :
    (∃ t, (event (.ofEvent 1 8 categoryCreation)).Yields createdStore true t ∧
      (Occurrence.ofEvent 1 8 categoryCreation).KeepsStamps createdStore t) ∧
    (committed {} recreatingRun).map (·.timestamp) = [5, 8] ∧
    ((afterBlocks {} recreatingRun).categories[(⟨"7"⟩ : CategoryId)]?.map
      fun row ↦ (row.createdAt, row.updatedAt)) = some (5, 8) ∧
    (afterBlocks {} recreatingRun).InOrderUpTo (some 8) := by
  have hreachable : createdStore.Reachable := .block (.seeded .fresh) _ fun _ _ ↦ trivial
  have hyields : (event (.ofEvent 1 8 categoryCreation)).Yields createdStore true
      (event (.ofEvent 1 8 categoryCreation) createdStore).store := ⟨by decide +kernel, rfl⟩
  have hcommitted : (committed {} recreatingRun).map (·.timestamp) = [5, 8] := by
    decide +kernel
  have hrun := stamps_of_runs.2 {} recreatingRun .fresh (by decide)
  rw [← List.getLast?_map, hcommitted] at hrun
  exact ⟨⟨_, hyields, stamps_of_runs.1 _ _ _ hreachable.visited hyields⟩, hcommitted,
    by decide +kernel, hrun⟩

end Store

end ChainProjection
