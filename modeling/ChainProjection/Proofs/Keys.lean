import ChainProjection.Proofs.Frames
import ChainProjection.Proofs.Reachable

/-!
# Rows under their own ids

In every visited store a row has the id it stands under (`Visited.keyed`).  A row that was found by
an id and is saved again therefore **replaces itself and no other**; without this a handler that
loads by one id and saves by the id in the row could write anywhere, and no frame result would hold.

A save puts the row under the id in it, whatever the row is, so every save keeps the property and no
hypothesis is needed about the row that is saved.  What has to be looked at are the writes that go
through a table as a whole: flags (`Keyed.replaceSet`) and slots (`Keyed.setSlotAvailability`),
which keep the ids because they rewrite other fields.
-/

namespace ChainProjection

open Table

namespace Store

/-- Every row stands under its own id. -/
structure Keyed (s : Store) : Prop where
  categories : Forall (fun id row ↦ row.id = id) s.categories
  threads : Forall (fun id row ↦ row.id = id) s.threads
  posts : Forall (fun id row ↦ row.id = id) s.posts
  channels : Forall (fun id row ↦ row.id = id) s.channels
  videos : Forall (fun id row ↦ row.id = id) s.videos
  channelCategories : Forall (fun id row ↦ row.id = id) s.channelCategories
  videoCategories : Forall (fun id row ↦ row.id = id) s.videoCategories
  dataObjects : Forall (fun id row ↦ row.id = id) s.dataObjects

namespace Keyed

variable {s s' : Store}

/-! ### Writes -/

/-- A category that is saved stands under its id, whether it is new or not. -/
theorem saveCategory (h : s.Keyed) (category : Category) : (s.saveCategory category).Keyed :=
  { h with categories := h.categories.upsert rfl fun _ ↦ rfl }

/-- A thread that is saved stands under its id. -/
theorem saveThread (h : s.Keyed) (thread : Thread) : (s.saveThread thread).Keyed :=
  { h with threads := h.threads.upsert rfl fun _ ↦ rfl }

/-- A post that is saved stands under its id. -/
theorem savePost (h : s.Keyed) (post : Post) : (s.savePost post).Keyed :=
  { h with posts := h.posts.upsert rfl fun _ ↦ rfl }

/-- So do posts that are saved one after the other. -/
theorem foldl_savePost (h : s.Keyed) (posts : List Post) :
    (posts.foldl Store.savePost s).Keyed := by
  induction posts generalizing s with
  | nil => exact h
  | cons post rest ih => exact ih (h.savePost post)

theorem saveChannel (h : s.Keyed) (channel : Channel) : (s.saveChannel channel).Keyed :=
  { h with channels := h.channels.upsert rfl fun _ ↦ rfl }

theorem saveVideo (h : s.Keyed) (video : Video) : (s.saveVideo video).Keyed :=
  { h with videos := h.videos.upsert rfl fun _ ↦ rfl }

theorem saveDataObject (h : s.Keyed) (object : DataObject) : (s.saveDataObject object).Keyed :=
  { h with dataObjects := h.dataObjects.upsert rfl fun _ ↦ rfl }

theorem saveChannelCategory (h : s.Keyed) (category : ContentCategory .channelCategory) :
    (s.saveChannelCategory category).Keyed :=
  { h with channelCategories := h.channelCategories.upsert rfl fun _ ↦ rfl }

theorem saveVideoCategory (h : s.Keyed) (category : ContentCategory .videoCategory) :
    (s.saveVideoCategory category).Keyed :=
  { h with videoCategories := h.videoCategories.upsert rfl fun _ ↦ rfl }

/-- Replacing a set changes no id. -/
theorem replaceSet (h : s.Keyed) {set : FlaggedSet} {wanted : List String} {updatedAt : Int64}
    {change : SetChange} (replaced : s.replaceSet set wanted updatedAt = .ok (change, s')) :
    s'.Keyed := by
  cases set with
  | stickyThreads category =>
    have hrows := forall_replaceSticky replaced h.threads fun _ _ _ hid ↦ hid
    rw [replaceSticky_frame replaced]
    exact { h with threads := hrows }
  | featuredVideos =>
    have hrows := forall_replaceFeatured replaced h.videos fun _ _ _ hid ↦ hid
    rw [replaceFeatured_frame replaced]
    exact { h with videos := hrows }

/-- What slots show is rewritten in place. -/
theorem setSlotAvailability (h : s.Keyed) (id : ContentId) (availability : AssetAvailability)
    (updatedAt : Int64) : (s.setSlotAvailability id availability updatedAt).2.Keyed := by
  refine { h with channels := h.channels.map ?_, videos := h.videos.map ?_ }
  · intro key channel hkey
    rw [refreshChannel]
    split <;> exact hkey
  · intro key video hkey
    rw [refreshVideo]
    split <;> exact hkey

/-- An upload is registered under the id of its content. -/
theorem withAsset? (h : s.Keyed) (o : Occurrence) (owner : DataObjectOwner)
    (asset : Option RawAsset) : (s.withAsset? o owner asset).Keyed := by
  rcases asset with - | links | parameters
  · exact h
  · exact h
  · exact h.saveDataObject _

/-! ### Merging -/

variable {o : Occurrence} {d : EventData}

/-- Making a language known writes no row that has an id. -/
theorem languageStep (h : s.Keyed) {current code language : Option String}
    (step : LanguageStep o s current code language s') : s'.Keyed := by
  cases step with
  | kept => exact h
  | named valid => exact { h with }

theorem licenseStep (h : s.Keyed) {current row : Option Nat} {license : Option Metadata.License}
    (step : LicenseStep o s current license row s') : s'.Keyed := by
  cases step with
  | kept => exact h
  | stored => exact { h with }

theorem withOwner (h : s.Keyed) (o : Occurrence) (owner : ChannelOwner) :
    (s.withOwner o owner).Keyed := by
  cases owner <;> exact { h with }

/-- Merging changes into a channel saves data objects, each under its id. -/
theorem mergeChannel (h : s.Keyed) {owner : DataObjectOwner} {channel channel' : Channel}
    {changes : Option ChannelChanges}
    (merged : ChannelChanges.Merging o owner s channel changes channel' s') : s'.Keyed := by
  cases merged with
  | kept => exact h
  | merged spoken => exact ((h.languageStep spoken).withAsset? ..).withAsset? ..

/-- Merging changes into a video saves data objects, each under its id. -/
theorem mergeVideo (h : s.Keyed) {owner : DataObjectOwner} {video video' : Video}
    {changes : Option VideoChanges}
    (merged : VideoChanges.Merging o owner s video changes video' s') : s'.Keyed := by
  cases merged with
  | kept => exact h
  | merged spoken licensed pictured =>
    subst pictured
    exact (((h.languageStep spoken).licenseStep licensed).withAsset? ..).withAsset? ..

/-! ### Steps -/

/-- Every step of a forum event keeps rows under their ids. -/
theorem forumStep (h : s.Keyed) {e : ForumEvent} (step : ForumEvent.Step o s e d s') :
    s'.Keyed := by
  cases step with
  | categoryCreated => exact h.saveCategory _
  | categoryUpdated => exact h.saveCategory _
  | categoryDeleted => exact h.saveCategory _
  | threadCreated found polled =>
    -- The poll lies under the id of the thread, but a poll has no id of its own.
    refine Keyed.savePost ?_ _
    cases polled with
    | none => exact { h.saveThread _ with }
    | some ends attached =>
      obtain rfl := insertPoll_eq_ok attached
      exact { h.saveThread _ with }
  | threadModerated => exact h.saveThread _
  | threadTitleUpdated => exact h.saveThread _
  | threadDeleted => exact h.saveThread _
  | threadMoved => exact h.saveThread _
  | voteOnPoll => exact { h with }
  | postAdded => exact { h.savePost _ with }
  | postModerated => exact h.savePost _
  | @postDeleted _ actor =>
    have hmember : (s.ensureMember actor o.block).Keyed := { h with }
    exact hmember.foldl_savePost _
  | postTextUpdated => exact h.savePost _
  | categoryStickyThreadUpdate found granted replaced => exact h.replaceSet replaced
  | @categoryMembershipOfModeratorUpdated _ _ canModerate =>
    cases canModerate <;> exact { h.saveCategory _ with }

/-- Every step of a content event keeps rows under their ids. -/
theorem contentStep (h : s.Keyed) {e : ContentEvent} (step : ContentEvent.Step o s e d s') :
    s'.Keyed := by
  cases step with
  | channelCreated read merged => exact ((h.withOwner ..).mergeChannel merged).saveChannel _
  | channelUpdated found asked merged => exact (h.mergeChannel merged).saveChannel _
  | channelCensorship => exact h.saveChannel _
  | channelCategoryCreated => exact h.saveChannelCategory _
  | channelCategoryUpdated => exact h.saveChannelCategory _
  | channelCategoryDeleted => exact { h with channelCategories := h.channelCategories.erase _ }
  | videoCategoryCreated => exact h.saveVideoCategory _
  | videoCategoryUpdated => exact h.saveVideoCategory _
  | videoCategoryDeleted => exact { h with videoCategories := h.videoCategories.erase _ }
  | videoCreated found read merged => exact (h.mergeVideo merged).saveVideo _
  | videoUpdated found fits asked merged => exact (h.mergeVideo merged).saveVideo _
  | videoDeleted => exact { h with videos := h.videos.erase _ }
  | videoCensorship => exact h.saveVideo _
  | featuredVideosSet replaced => exact h.replaceSet replaced

theorem acceptance (h : s.Keyed) {acceptance : ContentAcceptance}
    (step : ContentAcceptance.Step o s acceptance d s') : s'.Keyed := by
  cases step with
  | accepted found => exact (h.saveDataObject _).setSlotAvailability ..

/-- Every step keeps rows under their own ids. -/
theorem handles (h : s.Keyed) (handled : Handles o s d s') : s'.Keyed := by
  rcases handled with ⟨-, -, step⟩ | ⟨-, -, step⟩ | ⟨-, -, step⟩
  · exact h.forumStep step
  · exact h.contentStep step
  · exact h.acceptance step

end Keyed

/-- In a visited store every row stands under its own id. -/
theorem Visited.keyed {admits : Occurrence → Prop} {s : Store} (h : Visited admits s) :
    s.Keyed := by
  induction h with
  | seeded h =>
    rw [h.eq]
    exact ⟨forall_empty, forall_empty, forall_empty, forall_empty, forall_empty, forall_empty,
      forall_empty, forall_empty⟩
  | event _ _ handled _ ih => exact { ih.handles handled with }
  | cursor _ _ ih => exact { ih with }

end Store

end ChainProjection
