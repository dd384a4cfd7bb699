import ChainProjection.Proofs.Projection.Block
import ChainProjection.Proofs.Store.Columns
import ChainProjection.Proofs.Store.Tables
import ChainProjection.Proofs.Wire.Text

/-!
# What is saved loads

**A row that is saved loads as it was, except that a row that was there before keeps the stamps of
its creation, and no other row is touched.**  The stored form of a row goes back to the row, and
where it holds JSON, the links of a slot or the particulars of an event, the text of that JSON reads
as the same JSON.

`Saves` says this of one save: what loads under its key, over a row and without one, and that all
other rows load alike.  Every save is an upsert on one table, so `Saves.of_upsert` proves it for all
of them, and what it asks of a save is what differs: that its table is the one that is loaded from,
that an old row with the new values is the new row with the old stamps, and that the other tables
are not looked at.  The second holds by computation, since the columns that are kept are those that
the save does not set.

Rows are told apart by table and id (`RowKey`), so that the tables of both stores can be compared at
once (`LoadsAlike`).  Records are not saved but added, and only under a new id
(`loadEvent_insertEvent`).

Two kinds of rows may not load: a video whose media are past the signed integers, and a record of a
vote for a row number past them.  For these the statement has the condition, and the row that was
there before needs none.
-/

namespace ChainProjection

open Table

/-! ### Text in columns -/

/-- The links of a slot read back from their text. -/
theorem SlotColumns.ofText?_urls {slot : Option AssetRef} {links : Json}
    (h : (SlotColumns.ofSlot slot).urls = some links) : Json.ofText? links.render = some links := by
  rcases slot with - | texts | ⟨id, availability⟩
  · cases h
  · cases h
    exact (Wire.plain_encode_of_le (by decide) texts).ofText?_render
  · cases h

/-- Particulars that fit read back from their text. -/
theorem EventRecord.ofText?_data {record : EventRecord} (h : record.data.Fits) :
    Json.ofText? record.columns.data.render = some record.columns.data :=
  (Wire.plain_encode_eventData h).ofText?_render

/-! ### Other rows -/

/-- A row that can be saved on its own, by its table and id. -/
inductive RowKey where
  | category (id : CategoryId)
  | thread (id : ThreadId)
  | post (id : PostId)
  | channel (id : ChannelId)
  | video (id : VideoId)
  | channelCategory (id : ChannelCategoryId)
  | videoCategory (id : VideoCategoryId)
  | dataObject (id : ContentId)
  | event (id : EventId)

namespace Store

/-- In both stores all rows load alike, but for one row that may differ. -/
structure LoadsAlike (s : Store) (key : RowKey) (t : Store) : Prop where
  category : ∀ id, key ≠ .category id → t.loadCategory id = s.loadCategory id
  thread : ∀ id, key ≠ .thread id → t.loadThread id = s.loadThread id
  post : ∀ id, key ≠ .post id → t.loadPost id = s.loadPost id
  channel : ∀ id, key ≠ .channel id → t.loadChannel id = s.loadChannel id
  video : ∀ id, key ≠ .video id → t.loadVideo id = s.loadVideo id
  channelCategory : ∀ id, key ≠ .channelCategory id →
    t.loadChannelCategory id = s.loadChannelCategory id
  videoCategory : ∀ id, key ≠ .videoCategory id → t.loadVideoCategory id = s.loadVideoCategory id
  dataObject : ∀ id, key ≠ .dataObject id → t.loadDataObject id = s.loadDataObject id
  event : ∀ id, key ≠ .event id → t.loadEvent id = s.loadEvent id
  license : ∀ id, t.loadLicense id = s.loadLicense id
  cursor : t.loadCursor = s.loadCursor
  moderators : t.moderators = s.moderators
  polls : t.polls = s.polls
  workers : t.workers = s.workers
  members : t.members = s.members
  languages : t.languages = s.languages

theorem loadsAlike_refl (s : Store) (key : RowKey) : s.LoadsAlike key s := by
  constructor <;> intros <;> rfl

/-- The row of a save is the only one that changes. -/
theorem getElem?_upsert_of_key_ne {κ α : Type} [Ord κ] [Std.TransOrd κ] [Std.LawfulEqOrd κ]
    [DecidableEq κ] (keyOf : κ → RowKey) (table : Table κ α) {key key' : κ}
    (rewrite : α → α → α) (row : α) (h : keyOf key ≠ keyOf key') :
    (table.upsert key rewrite row)[key']? = table[key']? :=
  getElem?_upsert_of_ne fun heq ↦ h (congrArg keyOf heq)

/-! ### Saving -/

/-- What is saved under a key loads; over a row that was there it keeps what that row says of its
creation; and no other row is touched. -/
structure Saves {α : Type} (s t : Store) (key : RowKey)
    (load : Store → Except StoreError (Option α)) (before : Option α) (row : α)
    (kept : α → α) : Prop where
  fresh : before = none → load t = .ok (some row)
  stored : ∀ old, before = some old → load t = .ok (some (kept old))
  others : s.LoadsAlike key t

/-- A save by an upsert, where the table it goes to is the one that is loaded from. -/
theorem Saves.of_upsert {κ α : Type} [Ord κ] [Std.TransOrd κ] [Std.LawfulEqOrd κ] [DecidableEq κ]
    {s t : Store} {rowKey : RowKey} {table : Table κ α} {key : κ} {rewrite : α → α → α} {row : α}
    {load : Store → Except StoreError (Option α)} {kept : α → α}
    (hload : load t = .ok (table.upsert key rewrite row)[key]?)
    (hkept : ∀ old, rewrite old row = kept old) (others : s.LoadsAlike rowKey t) :
    s.Saves t rowKey load table[key]? row kept where
  fresh h := by rw [hload, getElem?_upsert_of_eq rfl, h, Option.elim_none]
  stored old h := by rw [hload, getElem?_upsert_of_eq rfl, h, Option.elim_some, hkept]
  others := others

variable (s : Store)

/-- A category that is saved again keeps the time of its creation. -/
theorem saves_category (row : Category) :
    s.Saves (s.saveCategory row) (.category row.id) (loadCategory · row.id)
      s.categories[row.id]? row fun old ↦ { row with createdAt := old.createdAt } :=
  .of_upsert (loadCategory_eq ..) (fun _ ↦ rfl) { s.loadsAlike_refl _ with
    category := fun id hne ↦ by
      rw [loadCategory_eq, loadCategory_eq, saveCategory,
        getElem?_upsert_of_key_ne .category _ _ _ hne] }

theorem saves_thread (row : Thread) :
    s.Saves (s.saveThread row) (.thread row.id) (loadThread · row.id)
      s.threads[row.id]? row fun old ↦ { row with createdAt := old.createdAt } :=
  .of_upsert (loadThread_eq ..) (fun _ ↦ rfl) { s.loadsAlike_refl _ with
    thread := fun id hne ↦ by
      rw [loadThread_eq, loadThread_eq, saveThread,
        getElem?_upsert_of_key_ne .thread _ _ _ hne] }

theorem saves_post (row : Post) :
    s.Saves (s.savePost row) (.post row.id) (loadPost · row.id)
      s.posts[row.id]? row fun old ↦ { row with createdAt := old.createdAt } :=
  .of_upsert (loadPost_eq ..) (fun _ ↦ rfl) { s.loadsAlike_refl _ with
    post := fun id hne ↦ by
      rw [loadPost_eq, loadPost_eq, savePost, getElem?_upsert_of_key_ne .post _ _ _ hne] }

/-- A channel that is saved again keeps the block and the time of its creation. -/
theorem saves_channel (row : Channel) :
    s.Saves (s.saveChannel row) (.channel row.id) (loadChannel · row.id)
      s.channels[row.id]? row fun old ↦
        { row with createdInBlock := old.createdInBlock, createdAt := old.createdAt } :=
  .of_upsert (loadChannel_eq ..) (fun _ ↦ rfl) { s.loadsAlike_refl _ with
    channel := fun id hne ↦ by
      rw [loadChannel_eq, loadChannel_eq, saveChannel,
        getElem?_upsert_of_key_ne .channel _ _ _ hne] }

/-- A video has to have a size that can be read; the one before it need not. -/
theorem saves_video {row : Video} (hfits : row.SizeFits) :
    s.Saves (s.saveVideo row) (.video row.id) (loadVideo · row.id) s.videos[row.id]? row
      fun old ↦
        { row with createdInBlock := old.createdInBlock, createdAt := old.createdAt } where
  fresh h := by simpa [saveVideo, getElem?_upsert_of_eq, h] using hfits
  stored old h := by
    have hkept : Video.SizeFits
        { row with createdInBlock := old.createdInBlock, createdAt := old.createdAt } := hfits
    simpa [saveVideo, getElem?_upsert_of_eq, h, Video.rewrittenAs] using hkept
  others := { s.loadsAlike_refl _ with
    video := fun id hne ↦ by
      rw [loadVideo_eq, loadVideo_eq, saveVideo, getElem?_upsert_of_key_ne .video _ _ _ hne] }

/-- A channel category that is saved again keeps the block and the time of its creation. -/
theorem saves_channelCategory (row : ContentCategory .channelCategory) :
    s.Saves (s.saveChannelCategory row) (.channelCategory row.id) (loadChannelCategory · row.id)
      s.channelCategories[row.id]? row fun old ↦
        { row with createdInBlock := old.createdInBlock, createdAt := old.createdAt } :=
  .of_upsert (loadChannelCategory_eq ..) (fun _ ↦ rfl) { s.loadsAlike_refl _ with
    channelCategory := fun id hne ↦ by
      rw [loadChannelCategory_eq, loadChannelCategory_eq, saveChannelCategory, putCategory,
        getElem?_upsert_of_key_ne .channelCategory _ _ _ hne] }

theorem saves_videoCategory (row : ContentCategory .videoCategory) :
    s.Saves (s.saveVideoCategory row) (.videoCategory row.id) (loadVideoCategory · row.id)
      s.videoCategories[row.id]? row fun old ↦
        { row with createdInBlock := old.createdInBlock, createdAt := old.createdAt } :=
  .of_upsert (loadVideoCategory_eq ..) (fun _ ↦ rfl) { s.loadsAlike_refl _ with
    videoCategory := fun id hne ↦ by
      rw [loadVideoCategory_eq, loadVideoCategory_eq, saveVideoCategory, putCategory,
        getElem?_upsert_of_key_ne .videoCategory _ _ _ hne] }

/-- A data object that is saved again keeps the block of its creation. -/
theorem saves_dataObject (row : DataObject) :
    s.Saves (s.saveDataObject row) (.dataObject row.id) (loadDataObject · row.id)
      s.dataObjects[row.id]? row fun old ↦ { row with createdInBlock := old.createdInBlock } :=
  .of_upsert (loadDataObject_eq ..) (fun _ ↦ rfl) { s.loadsAlike_refl _ with
    dataObject := fun id hne ↦ by
      rw [loadDataObject_eq, loadDataObject_eq, saveDataObject,
        getElem?_upsert_of_key_ne .dataObject _ _ _ hne] }

/-- A record with a new id is added and loads; the others load as before. -/
theorem loadEvent_insertEvent {record : EventRecord} (hfresh : s.event? record.id = none)
    (hfits : record.data.Fits) :
    ∃ t, s.insertEvent record = .ok t ∧ t.loadEvent record.id = .ok (some record) ∧
      s.LoadsAlike (.event record.id) t := by
  refine ⟨s.withRecord record, insertEvent_eq_ok.2 ⟨hfresh, rfl⟩, ?_,
    { s.loadsAlike_refl _ with event := fun id hne ↦ ?_ }⟩
  · rw [loadEvent, event?_withRecord_self, Option.mapM_some, record.ofColumns_columns.2 hfits]
    rfl
  · have hid : record.id ≠ id := fun heq ↦ hne (congrArg RowKey.event heq)
    rw [loadEvent, loadEvent, event?, withRecord, List.find?_cons_of_neg (by simpa using hid)]
    rfl

/-- Whatever is saved under a new id loads as it was saved; saved over a row, it keeps the stamps of
that row's creation and is new otherwise; a record can be added under a new id alone.  All other
rows load as before.  The size of the media of a video and the row number a vote names have to be
such as can be read.  What a row holds as JSON reads back from the text of it. -/
theorem loads_of_save :
    (∀ row : Category, s.Saves (s.saveCategory row) (.category row.id) (loadCategory · row.id)
      s.categories[row.id]? row fun old ↦ { row with createdAt := old.createdAt }) ∧
    (∀ row : Thread, s.Saves (s.saveThread row) (.thread row.id) (loadThread · row.id)
      s.threads[row.id]? row fun old ↦ { row with createdAt := old.createdAt }) ∧
    (∀ row : Post, s.Saves (s.savePost row) (.post row.id) (loadPost · row.id)
      s.posts[row.id]? row fun old ↦ { row with createdAt := old.createdAt }) ∧
    (∀ row : Channel, s.Saves (s.saveChannel row) (.channel row.id) (loadChannel · row.id)
      s.channels[row.id]? row fun old ↦
        { row with createdInBlock := old.createdInBlock, createdAt := old.createdAt }) ∧
    (∀ row : Video, row.SizeFits →
      s.Saves (s.saveVideo row) (.video row.id) (loadVideo · row.id) s.videos[row.id]? row fun old ↦
        { row with createdInBlock := old.createdInBlock, createdAt := old.createdAt }) ∧
    (∀ row : ContentCategory .channelCategory,
      s.Saves (s.saveChannelCategory row) (.channelCategory row.id) (loadChannelCategory · row.id)
        s.channelCategories[row.id]? row fun old ↦
          { row with createdInBlock := old.createdInBlock, createdAt := old.createdAt }) ∧
    (∀ row : ContentCategory .videoCategory,
      s.Saves (s.saveVideoCategory row) (.videoCategory row.id) (loadVideoCategory · row.id)
        s.videoCategories[row.id]? row fun old ↦
          { row with createdInBlock := old.createdInBlock, createdAt := old.createdAt }) ∧
    (∀ row : DataObject, s.Saves (s.saveDataObject row) (.dataObject row.id)
      (loadDataObject · row.id) s.dataObjects[row.id]? row fun old ↦
        { row with createdInBlock := old.createdInBlock }) ∧
    (∀ record : EventRecord, s.event? record.id = none → record.data.Fits →
      ∃ t, s.insertEvent record = .ok t ∧ t.loadEvent record.id = .ok (some record) ∧
        s.LoadsAlike (.event record.id) t) ∧
    (∀ slot links, (SlotColumns.ofSlot slot).urls = some links →
      Json.ofText? links.render = some links) ∧
    ∀ record : EventRecord, record.data.Fits →
      Json.ofText? record.columns.data.render = some record.columns.data :=
  ⟨s.saves_category, s.saves_thread, s.saves_post, s.saves_channel, fun _ ↦ s.saves_video,
    s.saves_channelCategory, s.saves_videoCategory, s.saves_dataObject,
    fun _ ↦ s.loadEvent_insertEvent, fun _ _ ↦ SlotColumns.ofText?_urls,
    fun _ ↦ EventRecord.ofText?_data⟩

/-- A video with an empty list of links, a size at the limit and a block past it. -/
def limitVideo : Video where
  id := ⟨"3"⟩
  channel := ⟨"2"⟩
  media := some (.urls [])
  mediaMetadata := some { size := some 9223372036854775807 }
  createdInBlock := 18446744073709551615
  createdAt := -1
  updatedAt := 0

/-- The record of a vote. -/
def voteRecord : EventRecord where
  id := ⟨"7-0"⟩
  eventType := "forum.VoteOnPoll"
  inBlock := 7
  indexInBlock := 0
  inExtrinsic := some "0x00"
  createdAt := 5
  data := .voteOnPoll 9223372036854775807 ⟨"1"⟩

/-- The video loads as it was saved, and saved again it keeps its creation; the record of the vote
loads too, and its particulars read back from their text. -/
theorem loads_of_save_limits :
    (saveVideo {} limitVideo).loadVideo ⟨"3"⟩ = .ok (some limitVideo) ∧
    ((saveVideo {} limitVideo).saveVideo
        { limitVideo with media := none, createdInBlock := 4, createdAt := 4 }).loadVideo ⟨"3"⟩ =
      .ok (some { limitVideo with media := none }) ∧
    (∃ t, (saveVideo {} limitVideo).insertEvent voteRecord = .ok t ∧
      t.loadEvent ⟨"7-0"⟩ = .ok (some voteRecord) ∧ t.loadVideo ⟨"3"⟩ = .ok (some limitVideo)) ∧
    Json.ofText? voteRecord.columns.data.render = some voteRecord.columns.data := by
  have hfits : limitVideo.SizeFits := by decide
  have hvote : voteRecord.data.Fits := ⟨by decide, by decide⟩
  have hsaved := (((loads_of_save {}).2.2.2.2.1 limitVideo hfits).fresh (by decide +kernel))
  have hagain := (loads_of_save (saveVideo {} limitVideo)).2.2.2.2.1
    { limitVideo with media := none, createdInBlock := 4, createdAt := 4 } (by decide)
  obtain ⟨t, hinsert, hload, hothers⟩ :=
    (loads_of_save (saveVideo {} limitVideo)).2.2.2.2.2.2.2.2.1 voteRecord (by decide +kernel) hvote
  have hvideo : t.loadVideo ⟨"3"⟩ = .ok (some limitVideo) :=
    (hothers.video ⟨"3"⟩ RowKey.noConfusion).trans hsaved
  exact ⟨hsaved, hagain.stored limitVideo (by decide +kernel), ⟨t, hinsert, hload, hvideo⟩,
    (loads_of_save {}).2.2.2.2.2.2.2.2.2.2 voteRecord hvote⟩

end Store

end ChainProjection
