import ChainProjection.Proofs.Assets

/-!
# Reading back

What a run writes can be read back, **but for one thing**: the size of the media of a video is
stored like every unsigned number, wrapped into a signed one, and is read as a number that must not
be negative.  A video whose media have a size past the signed 64-bit integers is therefore written
once and never read again, and every later event that needs its row fails.

The main result, `readsBack_of_reachable`, has the exact condition for each part.

* Rows of all other kinds read back without a condition (`Store.readsBack`).
* A record reads back as long as the row numbers given out are signed 64-bit integers.  Row numbers
  of alternatives have no bound here, and the record of a vote names one; **that it names one that
  was given out** is an invariant of runs (`Handles.rowsCounted`), so a bound on the counter is a
  bound on the log.
* A video reads back exactly if its size fits, and the events that fail for it are those that need
  its row (`fails_event_unreadable`).  In a run whose uploads fit this never happens
  (`Visited.sizesFit`, `Visited.not_fails_block_unreadable`): a size in a row is that of an upload
  some event brought, never one that was computed.
-/

namespace ChainProjection

open Store Table

variable {s s' t : Store} {o : Occurrence} {d : EventData} {admits : Occurrence → Prop}

/-! ### Records -/

/-- No alternative of a poll, and none a vote names, has a row number that was not given out. -/
structure Store.RowsCounted (s : Store) : Prop where
  polls : Forall (fun _ poll ↦ ∀ alternative ∈ poll.alternatives,
    alternative.id ≤ s.alternativeRows) s.polls
  votes : ∀ record ∈ s.log, ∀ row voter, record.data = .voteOnPoll row voter →
    0 ≤ row ∧ row ≤ s.alternativeRows

/-- Alternatives get consecutive row numbers. -/
theorem Store.id_lt_of_mem_alternativesFrom {index row : Nat} {texts : List String}
    {alternative : PollAlternative} (h : alternative ∈ alternativesFrom index row texts) :
    alternative.id < row + texts.length := by
  induction texts generalizing index row with
  | nil => cases h
  | cons text rest ih =>
    rw [List.length_cons]
    rcases List.mem_cons.1 h with rfl | hrest
    · show row < row + (rest.length + 1)
      omega
    · have hlt := ih hrest
      omega

namespace Store.RowsCounted

/-- What writes neither polls nor the log leaves rows counted, as long as no count goes back. -/
theorem of_eq (h : s.RowsCounted) (polls : t.polls = s.polls) (log : t.log = s.log)
    (rows : t.alternativeRows = s.alternativeRows) : t.RowsCounted where
  polls := by
    rw [polls, rows]
    exact h.polls
  votes := by
    rw [log, rows]
    exact h.votes

/-- The alternative a vote picks has a row number that was given out. -/
theorem id_le (h : s.RowsCounted) {thread : ThreadId} {index : UInt32}
    {alternative : PollAlternative} (found : s.pollAlternative? thread index = some alternative) :
    alternative.id ≤ s.alternativeRows := by
  rw [pollAlternative?, Option.bind_eq_some_iff] at found
  obtain ⟨poll, hpoll, hfind⟩ := found
  exact h.polls hpoll alternative (List.mem_of_find?_eq_some hfind)

/-- A record may be added if the row that it votes for, if any, was given out. -/
theorem withRecord (h : s.RowsCounted) {record : EventRecord}
    (hvote : ∀ row voter, record.data = .voteOnPoll row voter →
      0 ≤ row ∧ row ≤ s.alternativeRows) : (s.withRecord record).RowsCounted where
  polls := h.polls
  votes := List.forall_mem_cons.2 ⟨hvote, h.votes⟩

/-- As long as fewer alternatives than there are signed integers were given row numbers, every
record reads back. -/
theorem data_fits (h : s.RowsCounted) (hrows : s.alternativeRows < signedLimit)
    {record : EventRecord} (hrecord : record ∈ s.log) : record.data.Fits := by
  rcases hdata : record.data with - | - | - | - | - | - | - | - | ⟨row, voter⟩ | -
  case voteOnPoll =>
    obtain ⟨hnonneg, hle⟩ := h.votes record hrecord row voter hdata
    show -(signedLimit : Int) ≤ row ∧ row < signedLimit
    omega
  all_goals trivial

end Store.RowsCounted

/-- The alternatives of a new poll get the next row numbers. -/
theorem ForumEvent.PollStep.rowsCounted {thread : ThreadId} {poll : Option PollInput}
    (polled : PollStep o s thread poll s') (h : s.RowsCounted) : s'.RowsCounted := by
  cases polled with
  | none => exact h
  | some _ attached =>
    obtain rfl := insertPoll_eq_ok attached
    refine ⟨Forall.insert (h.polls.imp fun _ row hrow alternative hmem ↦ ?_) ?_, ?_⟩
    · have hle := hrow alternative hmem
      show alternative.id ≤ s.alternativeRows + _
      omega
    · intro alternative hmem
      have hlt := id_lt_of_mem_alternativesFrom hmem
      show alternative.id ≤ s.alternativeRows + _
      omega
    · intro record hrecord row voter heq
      obtain ⟨hnonneg, hle⟩ := h.votes record hrecord row voter heq
      refine ⟨hnonneg, ?_⟩
      show row ≤ ((s.alternativeRows + _ : Nat) : Int)
      omega

/-- A forum event leaves rows counted, and so is the row its record names. -/
theorem ForumEvent.Step.rowsCounted {e : ForumEvent} (step : Step o s e d s')
    (h : s.RowsCounted) :
    s'.RowsCounted ∧ ∀ row voter, d = .voteOnPoll row voter →
      0 ≤ row ∧ row ≤ s'.alternativeRows := by
  cases step with
  | threadCreated found polled =>
    have hthread := polled.rowsCounted (h.of_eq rfl rfl rfl)
    exact ⟨hthread.of_eq rfl rfl rfl, fun _ _ heq ↦ by cases heq⟩
  | @voteOnPoll thread index voter alternative found =>
    refine ⟨h.of_eq rfl rfl rfl, fun row voter heq ↦ ?_⟩
    cases heq
    have hle := h.id_le found
    show (0 : Int) ≤ alternative.id ∧ (alternative.id : Int) ≤ s.alternativeRows
    omega
  | postDeleted allowed =>
    rw [foldl_savePost]
    exact ⟨h.of_eq rfl rfl rfl, fun _ _ heq ↦ by cases heq⟩
  | categoryStickyThreadUpdate found granted replaced =>
    rw [replaceSticky_frame replaced]
    exact ⟨h.of_eq rfl rfl rfl, fun _ _ heq ↦ by cases heq⟩
  | @categoryMembershipOfModeratorUpdated _ _ canModerate =>
    refine ⟨?_, fun _ _ heq ↦ by cases heq⟩
    cases canModerate <;> exact h.of_eq rfl rfl rfl
  | _ => exact ⟨h.of_eq rfl rfl rfl, fun _ _ heq ↦ by cases heq⟩

/-- No content event is recorded as a vote. -/
theorem ContentEvent.Step.data_ne_vote {e : ContentEvent} (step : Step o s e d s') (row : Int)
    (voter : MemberId) : d ≠ .voteOnPoll row voter := by
  cases step <;> exact EventData.noConfusion

theorem ContentAcceptance.Step.data_ne_vote {acceptance : ContentAcceptance}
    (step : Step o s acceptance d s') (row : Int) (voter : MemberId) :
    d ≠ .voteOnPoll row voter := by
  cases step
  exact EventData.noConfusion

/-- A step leaves rows counted, and so is the row its record names. -/
theorem Handles.rowsCounted (handled : Handles o s d s') (h : s.RowsCounted) :
    s'.RowsCounted ∧ ∀ row voter, d = .voteOnPoll row voter →
      0 ≤ row ∧ row ≤ s'.alternativeRows := by
  rcases handled with ⟨-, -, step⟩ | ⟨-, -, step⟩ | ⟨-, -, step⟩
  · exact step.rowsCounted h
  · have hwrites := step.writesContent
    refine ⟨h.of_eq hwrites.polls hwrites.log hwrites.alternativeRows, fun row voter heq ↦ ?_⟩
    exact absurd heq (step.data_ne_vote row voter)
  · have hwrites := step.writesContent
    refine ⟨h.of_eq hwrites.polls hwrites.log hwrites.alternativeRows, fun row voter heq ↦ ?_⟩
    exact absurd heq (step.data_ne_vote row voter)

/-- In a visited store rows are counted. -/
theorem Store.Visited.rowsCounted (h : Visited admits s) : s.RowsCounted := by
  induction h with
  | seeded h =>
    rw [h.eq]
    exact ⟨forall_empty, by simp⟩
  | event _ _ handled _ ih =>
    obtain ⟨hcounted, hvote⟩ := handled.rowsCounted ih
    exact hcounted.withRecord hvote
  | cursor _ _ ih => exact ih.of_eq rfl rfl rfl

/-! ### Sizes -/

/-- The row of every video can be read. -/
def Store.SizesFit (s : Store) : Prop := Forall (fun _ video ↦ video.SizeFits) s.videos

/-- What does not write videos leaves their sizes alone. -/
theorem Store.SizesFit.of_videos (h : s.SizesFit) (heq : t.videos = s.videos) : t.SizesFit := by
  rw [SizesFit, heq]
  exact h

/-- The assets that come with an event about a video. -/
def ContentEvent.videoAssets : ContentEvent → List RawAsset
  | .videoCreated _ _ _ creation => creation.assets
  | .videoUpdated _ _ update => update.assets.getD []
  | _ => []

/-- Every upload among the assets has a size that is a signed 64-bit integer. -/
def RawAsset.AllFit (assets : List RawAsset) : Prop :=
  ∀ parameters, RawAsset.upload parameters ∈ assets → parameters.size.toNat < signedLimit

/-- Every upload that an event about a video brings has a size that fits. -/
def Occurrence.UploadsFit (o : Occurrence) : Prop :=
  ∀ read e, ContentEvent.reader? o.name = some read → read o = .ok e →
    RawAsset.AllFit e.videoAssets

/-- The size in the particulars of media after a change is that of the new media, or the one before
where there are no new media. -/
theorem VideoChanges.size_of_changedMediaMetadata {changes : VideoChanges}
    {stored : Option StoredAsset} {current : Option MediaMetadata} {media : MediaMetadata} :
    changes.changedMediaMetadata stored current = some media →
      media.size = match stored with
        | some asset => asset.size
        | none => current.bind (·.size) := by
  intro h
  rcases hmediaType : changes.mediaType with - | mediaType
  · simp only [changedMediaMetadata, hmediaType, Option.map_eq_some_iff] at h
    obtain ⟨old, -, rfl⟩ := h
    rfl
  · simp only [changedMediaMetadata, hmediaType, Option.some_inj] at h
    subst h
    rfl

/-- An asset a payload picks out of the list is in the list. -/
theorem mem_of_resolves {assets : List RawAsset} {index : Option UInt32} {asset : RawAsset}
    (h : Resolves (fun i : UInt32 ↦ assets[i.toNat]?) index (some asset)) : asset ∈ assets := by
  cases index with
  | none => simp at h
  | some i =>
    obtain ⟨picked, hpicked, heq⟩ := resolves_some.1 h
    cases heq
    exact List.mem_of_getElem? hpicked

/-- The changes of a payload name only assets that come with it. -/
theorem VideoChanges.Reading.mem_assets {payload : Bytes} {assets : List RawAsset}
    {changes : VideoChanges} {media : RawAsset} (h : Reading s payload assets (some changes))
    (heq : changes.media = some media) : media ∈ assets := by
  cases h with
  | decoded decoded filed named pictured shown =>
    cases heq
    exact mem_of_resolves shown

/-- The changes an update asks for name only assets that come with it. -/
theorem VideoChanges.Asked.mem_assets {update : VideoUpdate} {changes : VideoChanges}
    {media : RawAsset} (h : Asked s update (some changes)) (heq : changes.media = some media) :
    media ∈ update.assets.getD [] := by
  rw [Asked] at h
  split at h
  · cases h
  · exact h.mem_assets heq

/-- Merging changes whose media fit into a video leaves its size fitting. -/
theorem VideoChanges.Merging.sizeFits {owner : DataObjectOwner} {video video' : Video}
    {changes : Option VideoChanges} {assets : List RawAsset}
    (h : Merging o owner s video changes video' s') (hassets : RawAsset.AllFit assets)
    (hmedia : ∀ changes' media, changes = some changes' → changes'.media = some media →
      media ∈ assets)
    (hvideo : video.SizeFits) : video'.SizeFits := by
  cases h with
  | kept => exact hvideo
  | @merged changes language license t u v spoken licensed pictured =>
    -- The size is that of an upload, none for links, or the one there was.
    intro metadata hmetadata size hsize
    rw [size_of_changedMediaMetadata hmetadata] at hsize
    rcases hpicked : changes.media with - | links | parameters
    · rw [hpicked] at hsize
      obtain ⟨old, hold, hsize⟩ := Option.bind_eq_some_iff.1 hsize
      exact hvideo old hold size hsize
    · rw [hpicked] at hsize
      cases hsize
    · rw [hpicked] at hsize
      cases hsize
      exact hassets parameters (hmedia changes _ rfl hpicked)

/-- Refreshing a slot changes no size. -/
theorem Store.sizeFits_refreshVideo {id : ContentId} {availability : AssetAvailability}
    {updatedAt : Int64} {video : Video} (h : video.SizeFits) :
    (refreshVideo id availability updatedAt video).SizeFits := by
  rw [refreshVideo]
  split <;> exact h

/-- A content event whose uploads fit leaves the rows of videos readable. -/
theorem ContentEvent.Step.sizesFit {e : ContentEvent} (step : Step o s e d s')
    (hassets : RawAsset.AllFit e.videoAssets) (h : s.SizesFit) : s'.SizesFit := by
  cases step with
  | @channelCreated actor id owner _ _ _ _ read merged =>
    exact h.of_videos ((s.registers_withOwner o owner).trans merged.registers).videos
  | channelUpdated found asked merged => exact h.of_videos merged.registers.videos
  | videoCreated found read merged =>
    have hsizes := h.of_videos merged.registers.videos
    refine hsizes.upsert rfl fun _ ↦ merged.sizeFits hassets ?_ ?_
    · rintro changes media rfl heq
      exact read.mem_assets heq
    · intro media hmedia
      cases hmedia
  | videoUpdated found fits asked merged =>
    have hsizes := h.of_videos merged.registers.videos
    refine hsizes.upsert rfl fun _ ↦ merged.sizeFits hassets ?_ fits
    rintro changes media rfl heq
    exact asked.mem_assets heq
  | videoDeleted => exact h.erase _
  | videoCensorship found fits => exact h.upsert rfl fun _ ↦ fits
  | featuredVideosSet replaced => exact forall_replaceFeatured replaced h fun _ _ _ hrow ↦ hrow
  | _ => exact h

/-- A step whose uploads fit leaves the rows of videos readable. -/
theorem Handles.sizesFit (handled : Handles o s d s') (hfit : o.UploadsFit) (h : s.SizesFit) :
    s'.SizesFit := by
  rcases handled with ⟨-, -, step⟩ | ⟨known, reads, step⟩ | ⟨-, -, step⟩
  · exact h.of_videos step.writesForum.videos
  · exact step.sizesFit (hfit _ _ known reads) h
  · cases step with
    | accepted found => exact Forall.map h fun _ _ hrow ↦ sizeFits_refreshVideo hrow

namespace Store

/-- In a run whose uploads fit the rows of videos are readable. -/
theorem Visited.sizesFit (h : Visited Occurrence.UploadsFit s) : s.SizesFit := by
  induction h with
  | seeded h =>
    rw [h.eq]
    exact forall_empty
  | event _ admitted handled _ ih => exact handled.sizesFit admitted ih
  | cursor _ _ ih => exact ih

/-! ### Loading -/

/-- Loading gives what was saved, for every table but those of videos and of records. -/
structure ReadsBack (s : Store) : Prop where
  categories : ∀ id, s.loadCategory id = .ok s.categories[id]?
  threads : ∀ id, s.loadThread id = .ok s.threads[id]?
  posts : ∀ id, s.loadPost id = .ok s.posts[id]?
  channels : ∀ id, s.loadChannel id = .ok s.channels[id]?
  channelCategories : ∀ id, s.loadChannelCategory id = .ok s.channelCategories[id]?
  videoCategories : ∀ id, s.loadVideoCategory id = .ok s.videoCategories[id]?
  dataObjects : ∀ id, s.loadDataObject id = .ok s.dataObjects[id]?
  licenses : ∀ id, s.loadLicense id = .ok (s.licenses[id]?.map (·.license))

/-- Rows of all kinds but videos read back in every store, reachable or not. -/
theorem readsBack (s : Store) : s.ReadsBack where
  categories := loadCategory_eq s
  threads := loadThread_eq s
  posts := loadPost_eq s
  channels := loadChannel_eq s
  channelCategories := loadChannelCategory_eq s
  videoCategories := loadVideoCategory_eq s
  dataObjects := loadDataObject_eq s
  licenses := loadLicense_eq s

open Projection

/-- A block fails to read a row only if one of its events does, in a store the run has come to. -/
theorem exists_needsUnreadable_of_fails_events {b : Block} {es : List RuntimeEvent} {tally : Tally}
    (admitted : ∀ e ∈ es, admits (.ofEvent b.number b.timestamp e)) (h : Visited admits s)
    (fails : (events b es tally).Fails s (.store .unreadable) s') :
    ∃ t o, Visited admits t ∧ NeedsUnreadable o t := by
  induction es generalizing s tally with
  | nil => simp [events] at fails
  | cons e rest ih =>
    rw [List.forall_mem_cons] at admitted
    rw [events, fails_bind] at fails
    rcases fails with hevent | ⟨known, t, hevent, hrest⟩
    · exact ⟨s, _, h, (fails_event_unreadable.1 hevent).2⟩
    · rcases yields_event.1 hevent with ⟨-, -, rfl⟩ | ⟨-, -, d, u, handled, fresh, rfl⟩
      · exact ih admitted.2 h hrest
      · exact ih admitted.2 (.event h admitted.1 handled fresh) hrest

/-- In a run whose uploads fit no block fails to read a row. -/
theorem Visited.not_fails_block_unreadable (h : Visited Occurrence.UploadsFit s) {b : Block}
    (admitted : ∀ e ∈ b.events, (Occurrence.ofEvent b.number b.timestamp e).UploadsFit) :
    ¬(block b).Fails s (.store .unreadable) s' := by
  intro fails
  simp only [block, fails_atomically, fails_bind] at fails
  obtain ⟨-, t, hevents | ⟨tally, u, -, hadvance | ⟨-, v, -, hpure⟩⟩⟩ := fails
  · obtain ⟨u, o, visited, read, e, id, row, -, -, -, found, hsize⟩ :=
      exists_needsUnreadable_of_fails_events admitted h hevents
    exact hsize (visited.sizesFit found)
  · have heq := (fails_advance.1 hadvance).2.1
    simp at heq
  · exact fails_pure hpure

/-- What can be read back in a reachable store.  Rows of all kinds but videos can, and records as
long as row numbers of alternatives are signed 64-bit integers.  A video can exactly if the size of
its media is such an integer, and an event fails to read a row exactly if it needs a video whose
size is not.  In a run whose uploads have sizes that are, every video can be read, and no block
fails so. -/
theorem readsBack_of_reachable (h : s.Reachable) :
    s.ReadsBack ∧
      (s.alternativeRows < signedLimit → ∀ id, s.loadEvent id = .ok (s.event? id)) ∧
      (∀ id row, s.videos[id]? = some row →
        s.loadVideo id = if row.SizeFits then .ok (some row) else .error .unreadable) ∧
      (∀ o s', (event o).Fails s (.store .unreadable) s' ↔ s' = s ∧ NeedsUnreadable o s) ∧
      (ReachableBy Occurrence.UploadsFit s →
        (∀ id, s.loadVideo id = .ok s.videos[id]?) ∧
          ∀ b s', (∀ e ∈ b.events, (Occurrence.ofEvent b.number b.timestamp e).UploadsFit) →
            ¬(block b).Fails s (.store .unreadable) s') := by
  refine ⟨s.readsBack, ?_, ?_, fun o s' ↦ fails_event_unreadable, fun hfit ↦ ⟨?_, ?_⟩⟩
  · intro hrows
    exact loadEvent_eq fun record hrecord ↦ h.visited.rowsCounted.data_fits hrows hrecord
  · intro id row found
    rw [loadVideo_eq, found]
  · intro id
    rw [loadVideo_eq_ok]
    exact ⟨rfl, fun row found ↦ hfit.visited.sizesFit found⟩
  · intro b s' admitted
    exact hfit.visited.not_fails_block_unreadable admitted

/-- A video is created whose media are one past the greatest signed 64-bit integer in size. -/
def oversizeBlock : Block where
  number := 0
  timestamp := 0
  events := [
    ⟨"content.ChannelCreated", 0, none, [.string "Lead", .int 1,
      .object [("owner", .object [("Member", .int 1)])], .object [("meta", .string "0x")]]⟩,
    ⟨"content.VideoCreated", 1, none, [.string "Lead", .int 1, .int 2,
      .object [("assets", .array [.object [("Upload", .object [("content_id", .string "0x01"),
        ("ipfs_content_id", .string "0x"), ("size", .int signedLimit), ("type_id", .int 0)])]]),
        ("meta", .string "0x18004200")]]⟩]

/-- The store with the video of too large a size. -/
def oversizeStore : Store := afterBlock {} oversizeBlock

/-- The video is there and cannot be read; all else is as for any reachable store. -/
theorem readsBack_of_reachable_oversizeStore :
    oversizeStore.Reachable ∧
      oversizeStore.videos[(⟨"2"⟩ : VideoId)]?.any (fun row ↦ ¬row.SizeFits) = true ∧
      oversizeStore.ReadsBack ∧
      (oversizeStore.alternativeRows < signedLimit →
        ∀ id, oversizeStore.loadEvent id = .ok (oversizeStore.event? id)) ∧
      (∀ id row, oversizeStore.videos[id]? = some row →
        oversizeStore.loadVideo id =
          if row.SizeFits then .ok (some row) else .error .unreadable) ∧
      (∀ o s', (event o).Fails oversizeStore (.store .unreadable) s' ↔
        s' = oversizeStore ∧ NeedsUnreadable o oversizeStore) ∧
      (ReachableBy Occurrence.UploadsFit oversizeStore →
        (∀ id, oversizeStore.loadVideo id = .ok oversizeStore.videos[id]?) ∧
          ∀ b s', (∀ e ∈ b.events, (Occurrence.ofEvent b.number b.timestamp e).UploadsFit) →
            ¬(block b).Fails oversizeStore (.store .unreadable) s') := by
  have hreachable : oversizeStore.Reachable := .block (.seeded .fresh) _ fun _ _ ↦ trivial
  refine ⟨hreachable, ?_, readsBack_of_reachable hreachable⟩
  decide +kernel

end Store

end ChainProjection
