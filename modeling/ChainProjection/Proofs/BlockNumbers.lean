import ChainProjection.Proofs.Failures
import ChainProjection.Proofs.Resumption
import ChainProjection.Proofs.Stamps

/-!
# Block numbers

Rows say which block brought them, and the storage keeps that number with its bits as a signed one.
No write of a row looks whether the number fits; **the cursor does, and it moves last**.  So the
numbers in a store are as good as its cursor, provided that the cursor is past all of them, and that
in turn is the work of the runs: they project no block that is not past the cursor.

The main result, `dominated_of_synced`, is about stores that come about by runs over feeds alone
(`Synced`).  Other ways to project a block do not ask for its number to be past the cursor, and for
those it is false.  It rests on three things.

* A step brings no number but that of its own block (`NumberedIn.footprint`), so the numbers in a
  store are those of the committed blocks.  The property of numbers is a parameter there, since the
  list of these blocks grows along a run.
* The committed blocks are in order of their numbers and the cursor is the last of them, which
  `Dominated` carries along a run (`Dominated.runs`).
* A block whose number does not fit fails at the cursor and takes all it wrote with it.

From the second it follows that a record can only be refused because one block brings two events at
one place: an earlier block with the same number is not projected again (`Dominated.repeatedPlace`).
-/

namespace ChainProjection

open Projection Store Table

variable {o : Occurrence} {s s' t : Store} {d : EventData} {p : UInt64 → Prop}

/-- A row that is put in only where there is none has to have the property, if it is put in. -/
theorem Table.Forall.insertIfNew {κ α : Type} [Ord κ] [Std.TransOrd κ] [Std.LawfulEqOrd κ]
    {P : κ → α → Prop} {table : Table κ α} (h : Forall P table) {key : κ} {row : α}
    (hrow : P key row) : Forall P (table.insertIfNew key row) := by
  intro key' row' hrow'
  rw [Std.ExtTreeMap.getElem?_insertIfNew] at hrow'
  split at hrow'
  · next hnew =>
    cases hrow'
    rwa [← Std.LawfulEqOrd.eq_of_compare hnew.1]
  · exact h hrow'

/-! ### Rows that nothing but their number is written of -/

namespace Store

/-- The numbers of the members, languages and licenses have a property. -/
structure NamedIn (p : UInt64 → Prop) (s : Store) : Prop where
  members : Forall (fun _ number ↦ p number) s.members
  languages : Forall (fun _ number ↦ p number) s.languages
  licenses : Forall (fun _ row ↦ p row.createdInBlock) s.licenses

namespace NamedIn

/-- What writes none of the three tables leaves their numbers. -/
theorem of_eq (h : s.NamedIn p) (members : s'.members = s.members)
    (languages : s'.languages = s.languages) (licenses : s'.licenses = s.licenses) :
    s'.NamedIn p where
  members := members ▸ h.members
  languages := languages ▸ h.languages
  licenses := licenses ▸ h.licenses

variable {block : UInt64}

/-- A member that is made known has the number of the block. -/
theorem ensureMember (h : s.NamedIn p) (id : MemberId) (hblock : p block) :
    (s.ensureMember id block).NamedIn p :=
  { h with members := h.members.insertIfNew hblock }

theorem ensureLanguage (h : s.NamedIn p) (code : String) (hblock : p block) :
    (s.ensureLanguage code block).NamedIn p :=
  { h with languages := h.languages.insertIfNew hblock }

theorem insertLicense (h : s.NamedIn p) (license : Metadata.License) (hblock : p block) :
    (s.insertLicense license block).2.NamedIn p :=
  { h with licenses := h.licenses.insert hblock }

theorem withOwner (h : s.NamedIn p) (hblock : p o.block) (owner : ChannelOwner) :
    (s.withOwner o owner).NamedIn p := by
  cases owner with
  | member id => exact h.ensureMember id hblock
  | curatorGroup _ => exact h

theorem withAsset? (h : s.NamedIn p) (owner : DataObjectOwner) (asset : Option RawAsset) :
    (s.withAsset? o owner asset).NamedIn p := by
  obtain ⟨objects, heq, -⟩ := s.exists_withAsset?_eq o owner asset
  rw [heq]
  exact h.of_eq rfl rfl rfl

end NamedIn

end Store

theorem LanguageStep.namedIn (h : s.NamedIn p) (hblock : p o.block)
    {current code language : Option String} (step : LanguageStep o s current code language s') :
    s'.NamedIn p := by
  cases step with
  | kept => exact h
  | named => exact h.ensureLanguage _ hblock

theorem LicenseStep.namedIn (h : s.NamedIn p) (hblock : p o.block) {current row : Option Nat}
    {license : Option Metadata.License} (step : LicenseStep o s current license row s') :
    s'.NamedIn p := by
  cases step with
  | kept => exact h
  | stored => exact h.insertLicense _ hblock

theorem ChannelChanges.Merging.namedIn (h : s.NamedIn p) (hblock : p o.block)
    {owner : DataObjectOwner} {channel channel' : Channel} {changes : Option ChannelChanges}
    (merged : Merging o owner s channel changes channel' s') : s'.NamedIn p := by
  cases merged with
  | kept => exact h
  | merged spoken => exact ((spoken.namedIn h hblock).withAsset? ..).withAsset? ..

theorem VideoChanges.Merging.namedIn (h : s.NamedIn p) (hblock : p o.block)
    {owner : DataObjectOwner} {video video' : Video} {changes : Option VideoChanges}
    (merged : Merging o owner s video changes video' s') : s'.NamedIn p := by
  cases merged with
  | kept => exact h
  | merged spoken licensed pictured =>
    subst pictured
    exact ((licensed.namedIn (spoken.namedIn h hblock) hblock).withAsset? ..).withAsset? ..

/-- A forum event may bring a member, with the number of its block. -/
theorem ForumEvent.Step.namedIn {e : ForumEvent} (h : s.NamedIn p) (hblock : p o.block)
    (step : Step o s e d s') : s'.NamedIn p := by
  have hmember (id : MemberId) : (s.ensureMember id o.block).NamedIn p :=
    h.ensureMember id hblock
  cases step with
  | @threadCreated _ _ _ author _ _ _ _ _ found polled =>
    rw [polled.frame]
    exact (hmember author).of_eq rfl rfl rfl
  | voteOnPoll found => exact hmember _
  | postAdded found => exact (hmember _).of_eq rfl rfl rfl
  | postDeleted allowed =>
    rw [foldl_savePost]
    exact (hmember _).of_eq rfl rfl rfl
  | categoryStickyThreadUpdate found granted replaced =>
    rw [replaceSticky_frame replaced]
    exact h.of_eq rfl rfl rfl
  | @categoryMembershipOfModeratorUpdated _ _ canModerate =>
    cases canModerate <;> exact h.of_eq rfl rfl rfl
  | _ => exact h.of_eq rfl rfl rfl

/-- A content event may bring a member, a language and a license, with the number of its block. -/
theorem ContentEvent.Step.namedIn {e : ContentEvent} (h : s.NamedIn p) (hblock : p o.block)
    (step : Step o s e d s') : s'.NamedIn p := by
  cases step with
  | channelCreated read merged =>
    exact (merged.namedIn (h.withOwner hblock _) hblock).of_eq rfl rfl rfl
  | channelUpdated found asked merged => exact (merged.namedIn h hblock).of_eq rfl rfl rfl
  | videoCreated found read merged => exact (merged.namedIn h hblock).of_eq rfl rfl rfl
  | videoUpdated found fits asked merged => exact (merged.namedIn h hblock).of_eq rfl rfl rfl
  | featuredVideosSet replaced =>
    rw [replaceFeatured_frame replaced]
    exact h.of_eq rfl rfl rfl
  | _ => exact h.of_eq rfl rfl rfl

/-- A step brings no number but its own to the rows that have nothing else to be told by. -/
theorem Handles.namedIn (h : s.NamedIn p) (hblock : p o.block) (handled : Handles o s d s') :
    s'.NamedIn p := by
  rcases handled with ⟨-, -, step⟩ | ⟨-, -, step⟩ | ⟨-, -, step⟩
  · exact step.namedIn h hblock
  · exact step.namedIn h hblock
  · cases step
    exact h.of_eq rfl rfl rfl

/-! ### All rows -/

/-- The row has the block of the occurrence or the one it had. -/
theorem Occurrence.Writes.inBlock {α : Type} [Stamped α] (createdInBlock : α → UInt64)
    (hcreated : ∀ row, (stamps row).createdInBlock = some (createdInBlock row)) {x y : Option α}
    (h : o.Writes x y) (hblock : p o.block) (hold : ∀ row, x = some row → p (createdInBlock row))
    (row' : α) (hrow' : y = some row') : p (createdInBlock row') := by
  subst hrow'
  rcases h with hsame | hsaves | hnone
  · exact hold row' hsame.symm
  · cases hsaves with
    | created creates =>
      have hnew : createdInBlock row' = o.block := by
        have h := creates.inBlock
        rwa [hcreated] at h
      rwa [hnew]
    | @rewritten row _ kept =>
      have hsame : createdInBlock row' = createdInBlock row := by
        have h := kept.inBlock
        rwa [hcreated, hcreated, Option.some_inj] at h
      rw [hsame]
      exact hold row rfl
  · cases hnone

namespace Store

/-- The numbers of all rows and records that have one have a property. -/
structure NumberedIn (p : UInt64 → Prop) (s : Store) : Prop extends s.NamedIn p where
  channels : Forall (fun _ row ↦ p row.createdInBlock) s.channels
  videos : Forall (fun _ row ↦ p row.createdInBlock) s.videos
  channelCategories : Forall (fun _ row ↦ p row.createdInBlock) s.channelCategories
  videoCategories : Forall (fun _ row ↦ p row.createdInBlock) s.videoCategories
  dataObjects : Forall (fun _ row ↦ p row.createdInBlock) s.dataObjects
  records : ∀ record ∈ s.log, p record.inBlock

/-- The property may be weakened. -/
theorem NumberedIn.imp {q : UInt64 → Prop} (h : s.NumberedIn p) (himp : ∀ n, p n → q n) :
    s.NumberedIn q where
  members := h.members.imp fun _ _ ↦ himp _
  languages := h.languages.imp fun _ _ ↦ himp _
  licenses := h.licenses.imp fun _ _ ↦ himp _
  channels := h.channels.imp fun _ _ ↦ himp _
  videos := h.videos.imp fun _ _ ↦ himp _
  channelCategories := h.channelCategories.imp fun _ _ ↦ himp _
  videoCategories := h.videoCategories.imp fun _ _ ↦ himp _
  dataObjects := h.dataObjects.imp fun _ _ ↦ himp _
  records record hmem := himp _ (h.records record hmem)

/-- A fresh store has no numbers. -/
theorem Seeded.numberedIn (h : s.Seeded) : s.NumberedIn p := by
  rw [h.eq]
  exact {
    members := forall_empty, languages := forall_empty, licenses := forall_empty
    channels := forall_empty, videos := forall_empty, channelCategories := forall_empty
    videoCategories := forall_empty, dataObjects := forall_empty
    records := fun _ hmem ↦ by cases hmem }

/-- A step brings no number but its own. -/
theorem NumberedIn.footprint (h : s.NumberedIn p) (hblock : p o.block) (hnamed : t.NamedIn p)
    (hfoot : o.Footprint s t) : t.NumberedIn p where
  toNamedIn := hnamed
  channels id := (hfoot.writes_channel id).inBlock Channel.createdInBlock (fun _ ↦ rfl) hblock
    fun _ hrow ↦ h.channels hrow
  videos id := (hfoot.writes_video id).inBlock Video.createdInBlock (fun _ ↦ rfl) hblock
    fun _ hrow ↦ h.videos hrow
  channelCategories id := (hfoot.channelCategories id).writes.inBlock
    ContentCategory.createdInBlock (fun _ ↦ rfl) hblock fun _ hrow ↦ h.channelCategories hrow
  videoCategories id := (hfoot.videoCategories id).writes.inBlock
    ContentCategory.createdInBlock (fun _ ↦ rfl) hblock fun _ hrow ↦ h.videoCategories hrow
  dataObjects id := (hfoot.dataObjects id).writes.inBlock DataObject.createdInBlock
    (fun _ ↦ rfl) hblock fun _ hrow ↦ h.dataObjects hrow
  records := by
    obtain ⟨d, hlog⟩ := hfoot.log
    rw [hlog, List.forall_mem_cons]
    exact ⟨hblock, h.records⟩

/-- Events of one block bring no number but that of the block. -/
theorem NumberedIn.follows {number : UInt64} (h : s.NumberedIn p) (hnumber : p number)
    (hs : Visited (fun _ ↦ True) s) (hfollows : Follows (·.block = number) s t) :
    t.NumberedIn p := by
  induction hfollows with
  | refl => exact h
  | event hbefore admitted handled fresh ih =>
    obtain rfl := admitted
    have hvisited := hbefore.visited hs
    have hnamed := handled.namedIn ih.toNamedIn hnumber
    exact ih.footprint hnumber (hnamed.of_eq rfl rfl rfl)
      (handled.footprint hvisited.keyed hvisited.licensesNumbered)
  | cursor _ _ ih => exact { ih with }

/-! ### Columns -/

/-- The integers that the storage keeps for block numbers. -/
inductive BlockColumn (s : Store) : Int64 → Prop
  | record {record : EventRecord} (logged : record ∈ s.log) : BlockColumn s record.columns.inBlock
  | member {id : MemberId} {number : UInt64} (found : s.members[id]? = some number) :
      BlockColumn s number.toInt64
  | language {code : String} {number : UInt64} (found : s.languages[code]? = some number) :
      BlockColumn s number.toInt64
  | license {id : Nat} {row : StoredLicense} (found : s.licenses[id]? = some row) :
      BlockColumn s row.columns.createdInBlock
  | channel {id : ChannelId} {row : Channel} (found : s.channels[id]? = some row) :
      BlockColumn s row.columns.createdInBlock
  | video {id : VideoId} {row : Video} (found : s.videos[id]? = some row) :
      BlockColumn s row.columns.createdInBlock
  | channelCategory {id : ChannelCategoryId} {row : ContentCategory .channelCategory}
      (found : s.channelCategories[id]? = some row) : BlockColumn s row.columns.createdInBlock
  | videoCategory {id : VideoCategoryId} {row : ContentCategory .videoCategory}
      (found : s.videoCategories[id]? = some row) : BlockColumn s row.columns.createdInBlock
  | dataObject {id : ContentId} {row : DataObject} (found : s.dataObjects[id]? = some row) :
      BlockColumn s row.columns.createdInBlock

/-- Every such integer has the bits of a number of a row. -/
theorem NumberedIn.exists_of_blockColumn (h : s.NumberedIn p) {raw : Int64}
    (column : s.BlockColumn raw) : ∃ number, p number ∧ raw = number.toInt64 := by
  cases column with
  | record logged => exact ⟨_, h.records _ logged, rfl⟩
  | member found => exact ⟨_, h.members found, rfl⟩
  | language found => exact ⟨_, h.languages found, rfl⟩
  | license found => exact ⟨_, h.licenses found, rfl⟩
  | channel found => exact ⟨_, h.channels found, rfl⟩
  | video found => exact ⟨_, h.videos found, rfl⟩
  | channelCategory found => exact ⟨_, h.channelCategories found, rfl⟩
  | videoCategory found => exact ⟨_, h.videoCategories found, rfl⟩
  | dataObject found => exact ⟨_, h.dataObjects found, rfl⟩

/-! ### Blocks in a row -/

/-- Blocks in a row can be cut anywhere. -/
theorem afterBlocks_append (s : Store) (blocks later : List Block) :
    s.afterBlocks (blocks ++ later) = (s.afterBlocks blocks).afterBlocks later :=
  List.foldl_append

/-- So can those that were committed. -/
theorem committed_append (s : Store) (blocks later : List Block) :
    s.committed (blocks ++ later) =
      s.committed blocks ++ (s.afterBlocks blocks).committed later := by
  induction blocks generalizing s with
  | nil => rfl
  | cons b rest ih =>
    rw [List.cons_append, committed, committed]
    split
    · exact congrArg (b :: ·) (ih _)
    · exact ih _

end Store

/-! ### Runs -/

namespace Sync

variable {start : UInt64} {line n : Nat} {b : Block} {blocks : List Block}
  {lines : List FeedLine} {error : Option SyncError} {tally : Tally}

/-- The blocks that a run over lines commits, in order, given the last block projected and the
store. -/
def committedBlocks (start : UInt64) (last : Option UInt64) : List FeedLine → Store → List Block
  | .blank :: rest, s => committedBlocks start last rest s
  | .block b :: rest, s =>
    if isDue start last b.number then
      match (block b s).result with
      | .ok _ => b :: committedBlocks start (some b.number) rest (s.afterBlock b)
      | .error _ => []
    else committedBlocks start last rest s
  | .unreadable :: _, _ | .malformed :: _, _ | [], _ => []

/-- A store that comes about from a fresh one with workers by runs over feeds, with the blocks that
were committed, in order. -/
inductive Synced : List Block → Store → Prop
  | seeded {s : Store} (h : s.Seeded) : Synced [] s
  | run {blocks : List Block} {journal : Journal} (h : Synced blocks journal.store)
      (start : UInt64) (feed : List FeedLine) :
      Synced (blocks ++ committedBlocks start journal.store.cursor feed journal.store)
        (Sync.run start feed journal).2.store

/-- The blocks committed to a store are in order of their numbers and have brought all that is in
it; the cursor is the last of them. -/
structure Dominated (blocks : List Block) (s : Store) : Prop where
  reachable : s.Reachable
  commits : ∃ seed : Store, seed.Seeded ∧ seed.committed blocks = blocks ∧
    seed.afterBlocks blocks = s
  ordered : (blocks.map (·.number)).Pairwise (· < ·)
  signed : ∀ b ∈ blocks, b.number.toNat < signedLimit
  cursor : s.cursor = (blocks.map (·.number)).getLast?
  numbered : s.NumberedIn (· ∈ blocks.map (·.number))

/-- The cursor is at the number of a committed block or past it. -/
theorem Dominated.le_cursor (h : Dominated blocks s) {number : UInt64}
    (hmem : number ∈ blocks.map (·.number)) : ∃ last ∈ s.cursor, number ≤ last := by
  rw [h.cursor]
  rcases List.eq_nil_or_concat (blocks.map (·.number)) with hnil | ⟨earlier, last, heq⟩
  · rw [hnil] at hmem
    cases hmem
  · rw [List.concat_eq_append] at heq
    have hordered := h.ordered
    rw [heq, List.pairwise_append] at hordered
    rw [heq, List.mem_append, List.mem_singleton] at hmem
    rw [heq, List.getLast?_concat]
    refine ⟨last, rfl, ?_⟩
    rcases hmem with hearlier | rfl
    · exact UInt64.le_of_lt (hordered.2.2 number hearlier last (List.mem_singleton_self last))
    · exact UInt64.le_refl _

/-- A block that is due has a number past those of all committed blocks. -/
theorem Dominated.lt_of_isDue (h : Dominated blocks s) (due : isDue start s.cursor b.number = true)
    {number : UInt64} (hmem : number ∈ blocks.map (·.number)) : number < b.number := by
  obtain ⟨last, hlast, hle⟩ := h.le_cursor hmem
  have hlt := (isDue_eq_true.1 due).2 last hlast
  rw [UInt64.not_le] at hlt
  exact UInt64.lt_of_le_of_lt hle hlt

/-- A block that is due and does not fail is one more. -/
theorem Dominated.block (h : Dominated blocks s) (due : isDue start s.cursor b.number = true)
    (yields : (block b).Yields s tally t) : Dominated (blocks ++ [b]) t := by
  have hmem {number : UInt64} (hold : number ∈ blocks.map (·.number)) :
      number ∈ (blocks ++ [b]).map (·.number) := by
    rw [List.map_append]
    exact List.mem_append_left _ hold
  have hnew : b.number ∈ (blocks ++ [b]).map (·.number) := by simp
  obtain ⟨u, hevents, hsigned, heq⟩ := yields_block.1 yields
  have hfollows : Follows (·.block = b.number) s t := by
    rw [heq]
    exact .cursor (Follows.refl.events (fun _ _ ↦ rfl) hevents) _
  -- The parts in their order: reachable, committed, ordered, signed, cursor, numbers.
  refine ⟨?_, ?_, ?_, ?_, ?_, ?_⟩
  · exact yields.2 ▸ .block h.reachable b fun _ _ ↦ trivial
  · obtain ⟨seed, hseed, hcommitted, hafter⟩ := h.commits
    refine ⟨seed, hseed, ?_, ?_⟩
    · rw [committed_append, hcommitted, hafter, committed, yields.1, committed]
    · rw [afterBlocks_append, hafter]
      exact yields.2
  · rw [List.map_append, List.pairwise_append]
    refine ⟨h.ordered, List.pairwise_singleton _ _, fun number hold number' hlast ↦ ?_⟩
    obtain rfl := List.mem_singleton.1 hlast
    exact h.lt_of_isDue due hold
  · intro b' hb'
    rcases List.mem_append.1 hb' with hold | hlast
    · exact h.signed b' hold
    · obtain rfl := List.mem_singleton.1 hlast
      exact isSigned_iff.1 hsigned
  · rw [cursor_of_yields_block yields]
    simp
  · exact (h.numbered.imp fun _ ↦ hmem).follows hnew h.reachable.visited hfollows

/-- A run adds the blocks that it commits. -/
theorem Dominated.runs (h : Dominated blocks s) (runs : Runs start line s lines error t n) :
    Dominated (blocks ++ committedBlocks start s.cursor lines s) t := by
  induction runs generalizing blocks with
  | done => rwa [committedBlocks, List.append_nil]
  | blank _ ih => exact ih h
  | unreadable => rwa [committedBlocks, List.append_nil]
  | malformed => rwa [committedBlocks, List.append_nil]
  | skipped early _ ih =>
    rw [committedBlocks, early]
    exact ih h
  | projected due yields _ ih =>
    have hrest := ih (h.block due yields)
    rw [committedBlocks, if_pos due, yields.1]
    rw [cursor_of_yields_block yields, ← yields.2, List.append_assoc] at hrest
    exact hrest
  | failed due fails =>
    rw [committedBlocks, if_pos due, fails.1]
    rwa [List.append_nil]

/-- **The cursor is past all that runs have brought.** -/
theorem Synced.dominated (h : Synced blocks s) : Dominated blocks s := by
  induction h with
  | seeded h =>
    refine ⟨.seeded h, ⟨_, h, rfl, rfl⟩, .nil, List.forall_mem_nil _, ?_, h.numberedIn⟩
    rw [h.eq]
    rfl
  | @run blocks journal _ start feed ih =>
    obtain ⟨error, n, runs, -⟩ := runs_run start feed journal
    exact ih.runs runs

/-- A run that stops at a record that is there already has met a block with two events of known
names at one place. -/
theorem Dominated.repeatedPlace (h : Dominated blocks s) {number : UInt64}
    (runs : Runs start line s lines (some (.failedBlock number (.store .duplicateEvent))) t n) :
    ∃ b, FeedLine.block b ∈ lines ∧ b.number = number ∧
      ¬((knownEvents b.events).map (·.indexInBlock)).Nodup := by
  generalize hstop : some (SyncError.failedBlock number (.store .duplicateEvent)) = error at runs
  induction runs generalizing blocks with
  | done | unreadable | malformed => simp at hstop
  | blank _ ih | skipped _ _ ih =>
    obtain ⟨b, hmem, hb⟩ := ih h hstop
    exact ⟨b, List.mem_cons_of_mem _ hmem, hb⟩
  | projected due yields _ ih =>
    obtain ⟨b, hmem, hb⟩ := ih (h.block due yields) hstop
    exact ⟨b, List.mem_cons_of_mem _ hmem, hb⟩
  | @failed _ _ b _ _ due fails =>
    simp only [Option.some.injEq, SyncError.failedBlock.injEq] at hstop
    obtain ⟨hnumber, rfl⟩ := hstop
    refine ⟨b, List.mem_cons_self, hnumber.symm, ?_⟩
    rcases h.reachable.visited.refusedIn_of_fails_block fails with hrefused | hunreadable
    · cases hrefused with
      | repeatedPlace repeated => exact repeated
      -- A record of the block would have a number that the block is past.
      | @recordedPlace e record known recorded inBlock indexInBlock =>
        have hlt := h.lt_of_isDue due (h.numbered.records record recorded)
        rw [inBlock] at hlt
        exact absurd hlt (UInt64.lt_irrefl _)
    · simp at hunreadable

/-- In a store that comes about by runs alone, the blocks that were committed are in order of their
numbers, and the cursor, which can be read, is the number of the last.  Every integer that is stored
for a block number is the number of one of those blocks as it is, and so between zero and the
cursor.  A block with a number past the signed 64-bit integers fails and leaves every store as it
was.  And a run from such a store stops at a second record only if a block of its feed has two
events of known names at one place. -/
theorem dominated_of_synced (h : Synced blocks s) :
    (∃ seed : Store, seed.Seeded ∧ seed.committed blocks = blocks ∧
      seed.afterBlocks blocks = s) ∧
    (blocks.map (·.number)).Pairwise (· < ·) ∧
    s.cursor = (blocks.map (·.number)).getLast? ∧
    s.loadCursor = .ok s.cursor ∧
    (∀ raw, s.BlockColumn raw → (∃ b ∈ blocks, raw.toInt = b.number.toNat) ∧
      0 ≤ raw.toInt ∧ ∃ last ∈ s.cursor, raw.toInt ≤ last.toNat) ∧
    (∀ (b : Block) (t : Store), signedLimit ≤ b.number.toNat → ∃ error, (block b).Fails t error t) ∧
    ∀ start feed journal number, journal.store = s →
      (run start feed journal).1 = .error (.failedBlock number (.store .duplicateEvent)) →
      ∃ b, FeedLine.block b ∈ feed ∧ b.number = number ∧
        ¬((knownEvents b.events).map (·.indexInBlock)).Nodup := by
  have hdominated := h.dominated
  have hcolumn {number : UInt64} (hmem : number ∈ blocks.map (·.number)) :
      number.toInt64.toInt = number.toNat := by
    obtain ⟨b, hb, rfl⟩ := List.mem_map.1 hmem
    rw [Columns.toInt_toInt64, if_pos (hdominated.signed b hb)]
  refine ⟨hdominated.commits, hdominated.ordered, hdominated.cursor, ?_, ?_, ?_, ?_⟩
  · rw [loadCursor, cursorColumn, Columns.mapM_uint64_toInt64, if_pos]
    rw [Option.all_eq_true]
    intro last hlast
    rw [hdominated.cursor] at hlast
    obtain ⟨b, hb, rfl⟩ := List.mem_map.1 (List.mem_of_getLast? hlast)
    exact isSigned_iff.2 (hdominated.signed b hb)
  · intro raw column
    obtain ⟨number, hmem, rfl⟩ := hdominated.numbered.exists_of_blockColumn column
    obtain ⟨last, hlast, hle⟩ := hdominated.le_cursor hmem
    rw [hcolumn hmem]
    obtain ⟨b, hb, rfl⟩ := List.mem_map.1 hmem
    exact ⟨⟨b, hb, rfl⟩, Int.natCast_nonneg _, last, hlast, Int.ofNat_le.2 hle⟩
  · intro b t hlarge
    rcases yields_or_fails (block b) t with ⟨tally, u, yields⟩ | ⟨error, u, fails⟩
    · obtain ⟨-, -, hsigned, -⟩ := yields_block.1 yields
      exact absurd (isSigned_iff.1 hsigned) (Nat.not_lt.2 hlarge)
    · obtain rfl := eq_of_fails_block fails
      exact ⟨error, fails⟩
  · rintro start feed journal number rfl hstop
    obtain ⟨error, n, runs, reports⟩ := runs_run start feed journal
    rw [hstop] at reports
    cases reports
    exact hdominated.repeatedPlace runs

/-- A channel of the member `1` is created. -/
def channelCreation (index : UInt32) : RuntimeEvent :=
  ⟨"content.ChannelCreated", index, none, [.string "Lead", .int 1,
    .object [("owner", .object [("Member", .int 1)])], .object [("meta", .string "0x")]]⟩

/-- Two blocks, of which the second is said twice, and one whose number is no signed one. -/
def largeFeed : List FeedLine := [
  .block ⟨5, 0, [channelCreation 0]⟩,
  .block ⟨9, 0, [channelCreation 0]⟩,
  .block ⟨9, 0, [channelCreation 0]⟩,
  .block ⟨9223372036854775808, 0, [channelCreation 0]⟩]

/-- The blocks that the run over that feed commits. -/
def channelBlocks : List Block := committedBlocks 0 none largeFeed {}

/-- What it leaves. -/
def channelJournal : Journal := (run 0 largeFeed {}).2

/-- A feed with a block of two events at one place. -/
def repeatingFeed : List FeedLine := [.block ⟨12, 0, [channelCreation 3, channelCreation 3]⟩]

/-- The large number is refused, the cursor stays at the second block, and the next run is stopped
by the place that its block has twice. -/
theorem dominated_of_synced_largeFeed :
    Synced channelBlocks channelJournal.store ∧ channelBlocks.map (·.number) = [5, 9] ∧
    (run 0 largeFeed {}).1 = .error (.failedBlock 9223372036854775808 (.store .unwritable)) ∧
    channelJournal.store.loadCursor = .ok (some 9) ∧
    (∀ raw, channelJournal.store.BlockColumn raw → 0 ≤ raw.toInt ∧ raw.toInt ≤ 9) ∧
    ∃ b, FeedLine.block b ∈ repeatingFeed ∧ b.number = 12 ∧
      ¬((knownEvents b.events).map (·.indexInBlock)).Nodup := by
  have hsynced : Synced channelBlocks channelJournal.store :=
    @Synced.run [] {} (.seeded .fresh) 0 largeFeed
  have hnumbers : channelBlocks.map (·.number) = [5, 9] := by decide +kernel
  obtain ⟨-, -, hcursor, hload, hcolumns, -, hrepeated⟩ := dominated_of_synced hsynced
  have hstop : (run 0 repeatingFeed channelJournal).1 =
      .error (.failedBlock 12 (.store .duplicateEvent)) := by decide +kernel
  rw [hnumbers] at hcursor
  rw [hcursor] at hload hcolumns
  refine ⟨hsynced, hnumbers, by decide +kernel, hload, fun raw column ↦ ?_,
    hrepeated _ _ _ _ rfl hstop⟩
  obtain ⟨-, hnonneg, last, hlast, hle⟩ := hcolumns raw column
  cases hlast
  exact ⟨hnonneg, hle⟩

end Sync

end ChainProjection
