import ChainProjection.Proofs.Latest
import ChainProjection.Proofs.Saves

/-!
# Footprints

**Which rows an event can change is told by the event alone**, before any store is looked at.  An
event names the entity whose row it writes (`writtenThread?` and its likes), and most events write
no other; a payload may bring a language and a license, which get rows of their own, and it
registers the uploads that it picks by their places among the assets, but none of the others.

Three writes go over whole tables.  Replacing the pinned threads of a category and replacing the
featured videos change the rows whose flag is not the wanted one, and the acceptance of a data
object changes the rows with a slot that names it.  What these do to a row is said in full; what all
other writes do to one is said by its stamps, which is all that a change can be recognised by.

The main result is `footprint_of_visited`, a statement about all tables.  It is assembled from one
lemma for each table and kind of event: `Step.savesThread`, `Step.writesVideo` and so on, each a
case analysis over the steps in which the save of a table is one rule (`Table.savesIf_upsert`).  Two
things have to be known of the store: that rows stand under their own ids (`Store.Keyed`), and that
no license has a number not yet given out, since otherwise a new license could replace an old one
(`Store.LicensesNumbered`).  Both hold in every visited store.
-/

namespace ChainProjection

open Projection Store Table

variable {o : Occurrence} {s s' t : Store} {d : EventData}

/-! ### Forum events -/

namespace ForumEvent

/-- The category that an event writes, or whose moderators it writes. -/
def writtenCategory? : ForumEvent → Option CategoryId
  | .categoryCreated category _ _ _ => some category
  | .categoryUpdated category _ _ => some category
  | .categoryDeleted category _ => some category
  | .categoryMembershipOfModeratorUpdated _ category _ => some category
  | _ => none

/-- The thread that an event writes. -/
def writtenThread? : ForumEvent → Option ThreadId
  | .threadCreated _ thread _ _ _ _ _ => some thread
  | .threadModerated thread _ _ => some thread
  | .threadTitleUpdated thread _ => some thread
  | .threadDeleted thread _ => some thread
  | .threadMoved thread _ _ _ => some thread
  | _ => none

/-- The category whose pinned threads an event replaces. -/
def pinnedCategory? : ForumEvent → Option CategoryId
  | .categoryStickyThreadUpdate category _ _ => some category
  | _ => none

/-- The posts that an event writes. -/
def writtenPosts : ForumEvent → List PostId
  | .threadCreated _ _ post _ _ _ _ => [post]
  | .postAdded post _ _ _ _ => [post]
  | .postModerated post _ _ => [post]
  | .postDeleted _ _ posts _ => posts
  | .postTextUpdated post _ => [post]
  | _ => []

variable {e : ForumEvent}

/-- A forum event makes known at most the member it names. -/
theorem Step.addsMember (step : Step o s e d s') : AddsAtMostOne s.members s'.members := by
  cases step with
  | threadCreated found polled =>
    rw [polled.frame]
    exact addsAtMostOne_insertIfNew ..
  | voteOnPoll found => exact addsAtMostOne_insertIfNew ..
  | postAdded found => exact addsAtMostOne_insertIfNew ..
  | postDeleted allowed =>
    rw [foldl_savePost]
    exact addsAtMostOne_insertIfNew ..
  | categoryStickyThreadUpdate found granted replaced =>
    rw [replaceSticky_frame replaced]
    exact Or.inl rfl
  | @categoryMembershipOfModeratorUpdated _ _ canModerate =>
    cases canModerate <;> exact Or.inl rfl
  | _ => exact Or.inl rfl

/-- A forum event saves at most the category it names. -/
theorem Step.savesCategory (hkeyed : s.Keyed) (step : Step o s e d s') (id : CategoryId) :
    o.SavesIf (e.writtenCategory? = some id) s.categories[id]? s'.categories[id]? := by
  cases step with
  | categoryCreated =>
    exact savesIf_upsert id rfl (fun _ ↦ rfl) rfl fun _ ↦ ⟨rfl, rfl⟩
  | categoryUpdated found =>
    have hid := hkeyed.categories found
    exact savesIf_upsert id hid (fun _ ↦ rfl) rfl (absurd_of_found found)
  | categoryDeleted found =>
    have hid := hkeyed.categories found
    exact savesIf_upsert id hid (fun _ ↦ rfl) rfl (absurd_of_found found)
  | @categoryMembershipOfModeratorUpdated _ _ canModerate _ _ granted found =>
    have hid := hkeyed.categories found
    cases canModerate <;>
      exact savesIf_upsert id hid (fun _ ↦ rfl) rfl (absurd_of_found found)
  | threadCreated found polled =>
    rw [polled.frame]
    exact .refl _ _ _
  | postDeleted allowed =>
    rw [foldl_savePost]
    exact .refl _ _ _
  | categoryStickyThreadUpdate found granted replaced =>
    rw [replaceSticky_frame replaced]
    exact .refl _ _ _
  | _ => exact .refl _ _ _

/-- A forum event that lets a moderator come or go saves the category. -/
theorem Step.savesModerated (hkeyed : s.Keyed) (step : Step o s e d s') (category : CategoryId) :
    (∀ worker, (category, worker) ∈ s'.moderators ↔ (category, worker) ∈ s.moderators) ∨
      e.writtenCategory? = some category ∧
        o.Saves s.categories[category]? s'.categories[category]? := by
  cases step with
  | @categoryMembershipOfModeratorUpdated _ changed canModerate row worker granted found =>
    have hid : row.id = changed := hkeyed.categories found
    by_cases heq : changed = category
    · subst heq
      refine Or.inr ⟨rfl, ?_⟩
      have hrow : (s.withModerator row.id worker.id canModerate).categories[row.id]? =
          some row := by
        rw [hid]
        cases canModerate <;> exact found
      rw [found, saveCategory, getElem?_upsert, if_pos hid]
      simp only [hrow]
      exact .rewritten ⟨rfl, rfl⟩ rfl
    · refine Or.inl fun other ↦ ?_
      have hne : (changed, worker.id) ≠ (category, other) := fun hpair ↦
        heq (congrArg Prod.fst hpair)
      rw [saveCategory, mem_moderators_withModerator, hid, if_neg hne]
  | threadCreated found polled =>
    rw [polled.frame]
    exact Or.inl fun _ ↦ Iff.rfl
  | postDeleted allowed =>
    rw [foldl_savePost]
    exact Or.inl fun _ ↦ Iff.rfl
  | categoryStickyThreadUpdate found granted replaced =>
    rw [replaceSticky_frame replaced]
    exact Or.inl fun _ ↦ Iff.rfl
  | _ => exact Or.inl fun _ ↦ Iff.rfl

/-- A forum event saves at most the thread it names, or flips flags in the category whose pinned
threads it replaces. -/
theorem Step.savesThread (hkeyed : s.Keyed) (step : Step o s e d s') (id : ThreadId) :
    o.SavesIf (e.writtenThread? = some id) s.threads[id]? s'.threads[id]? ∨
      ∃ row, e.pinnedCategory? = some row.category ∧ s.threads[id]? = some row ∧
        s'.threads[id]? =
          some { row with isSticky := !row.isSticky, updatedAt := o.timestamp } := by
  cases step with
  | @threadCreated category thread post author _ _ _ row u found polled =>
    rw [polled.frame]
    exact Or.inl (savesIf_upsert id rfl (fun _ ↦ rfl) rfl fun _ ↦ ⟨rfl, rfl⟩)
  | threadModerated granted found =>
    have hid := hkeyed.threads found
    exact Or.inl (savesIf_upsert id hid (fun _ ↦ rfl) rfl (absurd_of_found found))
  | threadTitleUpdated found =>
    have hid := hkeyed.threads found
    exact Or.inl (savesIf_upsert id hid (fun _ ↦ rfl) rfl (absurd_of_found found))
  | threadDeleted found =>
    have hid := hkeyed.threads found
    exact Or.inl (savesIf_upsert id hid (fun _ ↦ rfl) rfl (absurd_of_found found))
  | threadMoved found =>
    have hid := hkeyed.threads found
    exact Or.inl (savesIf_upsert id hid (fun _ ↦ rfl) rfl (absurd_of_found found))
  | postDeleted allowed =>
    rw [foldl_savePost]
    exact Or.inl (.refl _ _ _)
  | @categoryStickyThreadUpdate category _ _ scope _ _ _ found granted replaced =>
    rw [getElem?_replaceSticky replaced, hkeyed.categories found]
    rcases s.threads[id]? with - | row
    · exact Or.inl (.refl _ _ _)
    · rw [Option.map_some, Thread.repinned]
      split
      · next hflip =>
        obtain ⟨hscope, hflag⟩ := hflip
        refine Or.inr ⟨row, congrArg some hscope.symm, rfl, ?_⟩
        rw [Bool.not_eq.2 hflag]
      · exact Or.inl (.refl _ _ _)
  | @categoryMembershipOfModeratorUpdated _ _ canModerate =>
    cases canModerate <;> exact Or.inl (.refl _ _ _)
  | _ => exact Or.inl (.refl _ _ _)

/-- A forum event saves at most the posts it names. -/
theorem Step.savesPost (hkeyed : s.Keyed) (step : Step o s e d s') (id : PostId) :
    o.SavesIf (id ∈ e.writtenPosts) s.posts[id]? s'.posts[id]? := by
  have hlisted {post : PostId} {row : Option Post}
      (h : o.SavesIf (some post = some id) s.posts[id]? row) :
      o.SavesIf (id ∈ [post]) s.posts[id]? row :=
    h.imp fun heq ↦ List.mem_singleton.2 (Option.some_inj.1 heq).symm
  cases step with
  | @threadCreated category thread post author title text poll row u found polled =>
    rw [polled.frame]
    exact hlisted (savesIf_upsert id rfl (fun _ ↦ rfl) rfl fun _ ↦ ⟨rfl, rfl⟩)
  | @postAdded post author thread payload editable row found =>
    exact hlisted (savesIf_upsert id rfl (fun _ ↦ rfl) rfl fun _ ↦ ⟨rfl, rfl⟩)
  | postModerated granted found =>
    have hid := hkeyed.posts found
    exact hlisted (savesIf_upsert id hid (fun _ ↦ rfl) rfl (absurd_of_found found))
  | @postDeleted _ actor posts hide rows allowed =>
    -- Every row of the list is that of a post that was there, rewritten by the event.
    have hrow {post : Post} (hpost : post ∈ rows) :
        post.id ∈ posts ∧ post.id ∈ s.posts ∧ o.Updates post := by
      obtain ⟨listed, hlisted, row, status, found, -, rfl⟩ := exists_deletesTo allowed hpost
      have hid : row.id = listed := hkeyed.posts found
      have hthere : row.id ∈ s.posts := hkeyed.posts.key_mem found
      exact ⟨by rwa [hid], hthere, rfl⟩
    have hsaves := savesIf_foldl_savePost (s := s.ensureMember actor o.block) id
      (fun _ hpost ↦ (hrow hpost).2.2) fun _ hpost ↦ (hrow hpost).2.1
    refine hsaves.imp ?_
    rintro ⟨post, hpost, rfl⟩
    exact (hrow hpost).1
  | postTextUpdated found =>
    have hid := hkeyed.posts found
    exact hlisted (savesIf_upsert id hid (fun _ ↦ rfl) rfl (absurd_of_found found))
  | categoryStickyThreadUpdate found granted replaced =>
    rw [replaceSticky_frame replaced]
    exact .refl _ _ _
  | @categoryMembershipOfModeratorUpdated _ _ canModerate =>
    cases canModerate <;> exact .refl _ _ _
  | _ => exact .refl _ _ _

end ForumEvent

/-! ### Uploads that a payload picks -/

/-- The data object of an asset, if the asset is an upload. -/
def RawAsset.uploaded? : RawAsset → Option ContentId
  | .urls _ => none
  | .upload parameters => some (.ofContent parameters.contentId)

/-- The data objects of the uploads at some places among the assets. -/
def pickedUploads (assets : List RawAsset) (places : List (Option UInt32)) : List ContentId :=
  places.filterMap fun place ↦
    (place.bind fun i ↦ assets[i.toNat]?).bind RawAsset.uploaded?

/-- The data objects of the uploads that a payload of a channel picks; none, if it does not read. -/
def channelUploads (payload : Bytes) (assets : List RawAsset) : List ContentId :=
  match Metadata.channel.decode payload.toList with
  | .ok m => pickedUploads assets [m.coverPhoto, m.avatarPhoto]
  | .error _ => []

/-- The data objects of the uploads that a payload of a video picks; none, if it does not read. -/
def videoUploads (payload : Bytes) (assets : List RawAsset) : List ContentId :=
  match Metadata.video.decode payload.toList with
  | .ok m => pickedUploads assets [m.thumbnailPhoto, m.video]
  | .error _ => []

/-- The data objects of the uploads that changes of a channel bring. -/
def ChannelChanges.uploads (changes : ChannelChanges) : List ContentId :=
  [changes.coverPhoto, changes.avatarPhoto].filterMap (·.bind RawAsset.uploaded?)

/-- The data objects of the uploads that changes of a video bring. -/
def VideoChanges.uploads (changes : VideoChanges) : List ContentId :=
  [changes.thumbnailPhoto, changes.media].filterMap (·.bind RawAsset.uploaded?)

/-- Changes of a channel bring the uploads that the payload picks. -/
theorem ChannelChanges.Reading.uploads_eq {payload : Bytes} {assets : List RawAsset}
    {changes : Option ChannelChanges} (h : Reading s payload assets changes) :
    (changes.map ChannelChanges.uploads).getD [] = channelUploads payload assets := by
  cases h with
  | undecodable undecoded => simp [channelUploads, undecoded]
  | decoded decoded filed named covered faced =>
    obtain rfl := covered.eq_bind
    obtain rfl := faced.eq_bind
    rw [channelUploads, decoded]
    rfl

/-- Changes of a video bring the uploads that the payload picks. -/
theorem VideoChanges.Reading.uploads_eq {payload : Bytes} {assets : List RawAsset}
    {changes : Option VideoChanges} (h : Reading s payload assets changes) :
    (changes.map VideoChanges.uploads).getD [] = videoUploads payload assets := by
  cases h with
  | undecodable undecoded => simp [videoUploads, undecoded]
  | decoded decoded filed named pictured shown =>
    obtain rfl := pictured.eq_bind
    obtain rfl := shown.eq_bind
    rw [videoUploads, decoded]
    rfl

/-! ### Merging -/

/-- No license has a number that was not given out yet. -/
def Store.LicensesNumbered (s : Store) : Prop :=
  ∀ number ∈ s.licenses, number ≤ s.licenseRows

/-- What stores no license leaves the numbers as they are. -/
theorem Store.LicensesNumbered.of_eq (h : s.LicensesNumbered) (hlicenses : s'.licenses = s.licenses)
    (hrows : s'.licenseRows = s.licenseRows) : s'.LicensesNumbered := by
  rw [LicensesNumbered, hlicenses, hrows]
  exact h

/-- What merging changes writes, before the entity is saved: at most a language and a license come
in, and data objects with some of the ids are saved. -/
structure Store.Merges (o : Occurrence) (uploads : List ContentId) (s s' : Store) : Prop where
  members : s'.members = s.members
  channels : s'.channels = s.channels
  videos : s'.videos = s.videos
  channelCategories : s'.channelCategories = s.channelCategories
  videoCategories : s'.videoCategories = s.videoCategories
  languages : AddsAtMostOne s.languages s'.languages
  licenses : AddsAtMostOne s.licenses s'.licenses
  numbered : s'.LicensesNumbered
  dataObjects : ∀ id, o.SavesIf (id ∈ uploads) s.dataObjects[id]? s'.dataObjects[id]?

/-- An asset registers the data object it uploads and nothing else. -/
theorem Store.exists_withAsset?_eq (s : Store) (o : Occurrence) (owner : DataObjectOwner)
    (asset : Option RawAsset) :
    ∃ objects, s.withAsset? o owner asset = { s with dataObjects := objects } ∧
      ∀ id, o.SavesIf (asset.bind RawAsset.uploaded? = some id) s.dataObjects[id]?
        objects[id]? := by
  rcases asset with - | links | parameters
  · exact ⟨_, rfl, fun _ ↦ .refl _ _ _⟩
  · exact ⟨_, rfl, fun _ ↦ .refl _ _ _⟩
  · exact ⟨_, rfl, fun id ↦ savesIf_upsert id rfl (fun _ ↦ rfl) rfl fun _ ↦ ⟨rfl, rfl⟩⟩

/-- Making a language known stores no license. -/
theorem LanguageStep.licenses_eq {current code language : Option String}
    (step : LanguageStep o s current code language s') : s'.licenses = s.licenses := by
  cases step <;> rfl

namespace Store.Merges

variable {uploads : List ContentId}

theorem refl (h : s.LicensesNumbered) : Merges o uploads s s :=
  ⟨rfl, rfl, rfl, rfl, rfl, Or.inl rfl, Or.inl rfl, h, fun _ ↦ .refl _ _ _⟩

theorem of_languageStep (h : s.LicensesNumbered) {current code language : Option String}
    (step : LanguageStep o s current code language s') : Merges o uploads s s' := by
  cases step with
  | kept => exact refl h
  | named => exact { refl h with languages := addsAtMostOne_insertIfNew .. }

/-- A license that is stored gets a number that no license has. -/
theorem licenseStep (h : Merges o uploads s t) (hlicenses : t.licenses = s.licenses)
    {current row : Option Nat} {license : Option Metadata.License}
    (step : LicenseStep o t current license row s') : Merges o uploads s s' := by
  cases step with
  | kept => exact h
  | @stored license =>
    have hnew : t.licenseRows + 1 ∉ s.licenses := by
      intro hmem
      rw [← hlicenses] at hmem
      have hle := h.numbered _ hmem
      omega
    have hnumbered : (t.insertLicense license o.block).2.LicensesNumbered := by
      intro number hmem
      show number ≤ t.licenseRows + 1
      rcases Std.ExtTreeMap.mem_insert.1 hmem with heq | hold
      · exact Nat.le_of_eq (Std.LawfulEqCmp.eq_of_compare heq).symm
      · exact Nat.le_succ_of_le (h.numbered number hold)
    exact { h with
      licenses := Or.inr ⟨_, ⟨license, o.block⟩, hnew, by rw [← hlicenses]; rfl⟩
      numbered := hnumbered }

/-- An asset of the list may be registered besides. -/
theorem withAsset? (h : Merges o uploads s t) (owner : DataObjectOwner) {asset : Option RawAsset}
    (listed : ∀ id, asset.bind RawAsset.uploaded? = some id → id ∈ uploads) :
    Merges o uploads s (t.withAsset? o owner asset) := by
  obtain ⟨objects, heq, hsaves⟩ := t.exists_withAsset?_eq o owner asset
  rw [heq]
  exact { h with
    dataObjects := fun id ↦ (h.dataObjects id).trans ((hsaves id).imp (listed id)) }

end Store.Merges

/-- Merging changes into a channel brings a language and the uploads of the changes at most. -/
theorem ChannelChanges.Merging.merges {owner : DataObjectOwner} {channel channel' : Channel}
    {changes : Option ChannelChanges} (merged : Merging o owner s channel changes channel' s')
    (h : s.LicensesNumbered) :
    Merges o ((changes.map ChannelChanges.uploads).getD []) s s' := by
  cases merged with
  | kept => exact .refl h
  | merged spoken =>
    refine ((Merges.of_languageStep h spoken).withAsset? owner fun id hid ↦ ?_).withAsset? owner
      fun id hid ↦ ?_
    · exact List.mem_filterMap.2 ⟨_, List.mem_cons_self, hid⟩
    · exact List.mem_filterMap.2 ⟨_, List.mem_cons_of_mem _ List.mem_cons_self, hid⟩

/-- Merging changes into a video brings a language, a license and the uploads of the changes at
most. -/
theorem VideoChanges.Merging.merges {owner : DataObjectOwner} {video video' : Video}
    {changes : Option VideoChanges} (merged : Merging o owner s video changes video' s')
    (h : s.LicensesNumbered) :
    Merges o ((changes.map VideoChanges.uploads).getD []) s s' := by
  cases merged with
  | kept => exact .refl h
  | @merged changes language license t u v spoken licensed pictured =>
    subst pictured
    have hspoken : Merges o changes.uploads s t := .of_languageStep h spoken
    refine ((hspoken.licenseStep ?_ licensed).withAsset? owner fun id hid ↦ ?_).withAsset? owner
      fun id hid ↦ ?_
    · exact spoken.licenses_eq
    · exact List.mem_filterMap.2 ⟨_, List.mem_cons_self, hid⟩
    · exact List.mem_filterMap.2 ⟨_, List.mem_cons_of_mem _ List.mem_cons_self, hid⟩

/-- Merging changes does not stamp a channel; the event does. -/
theorem ChannelChanges.Merging.stamps_eq {owner : DataObjectOwner} {channel channel' : Channel}
    {changes : Option ChannelChanges} (merged : Merging o owner s channel changes channel' s') :
    stamps channel' = stamps channel := by
  cases merged <;> rfl

/-- Merging changes does not stamp a video; the event does. -/
theorem VideoChanges.Merging.stamps_eq {owner : DataObjectOwner} {video video' : Video}
    {changes : Option VideoChanges} (merged : Merging o owner s video changes video' s') :
    stamps video' = stamps video := by
  cases merged <;> rfl

/-! ### Content events -/

namespace ContentEvent

/-- The channel that an event writes. -/
def writtenChannel? : ContentEvent → Option ChannelId
  | .channelCreated _ channel _ _ => some channel
  | .channelUpdated _ channel _ => some channel
  | .channelCensorship _ channel _ => some channel
  | _ => none

/-- The video that an event writes or removes. -/
def writtenVideo? : ContentEvent → Option VideoId
  | .videoCreated _ _ video _ => some video
  | .videoUpdated _ video _ => some video
  | .videoDeleted video => some video
  | .videoCensorship _ video _ => some video
  | _ => none

/-- The channel category that an event writes or removes. -/
def writtenChannelCategory? : ContentEvent → Option ChannelCategoryId
  | .channelCategoryCreated category _ => some category
  | .channelCategoryUpdated category _ => some category
  | .channelCategoryDeleted category => some category
  | _ => none

/-- The video category that an event writes or removes. -/
def writtenVideoCategory? : ContentEvent → Option VideoCategoryId
  | .videoCategoryCreated category _ => some category
  | .videoCategoryUpdated category _ => some category
  | .videoCategoryDeleted category => some category
  | _ => none

/-- The data objects of the uploads that the payload of an event picks. -/
def uploads : ContentEvent → List ContentId
  | .channelCreated _ _ _ creation => channelUploads creation.payload creation.assets
  | .channelUpdated _ _ update =>
    (update.payload.map (channelUploads · (update.assets.getD []))).getD []
  | .videoCreated _ _ _ creation => videoUploads creation.payload creation.assets
  | .videoUpdated _ _ update =>
    (update.payload.map (videoUploads · (update.assets.getD []))).getD []
  | _ => []

end ContentEvent

/-- The changes an update of a channel asks for bring the uploads that its payload picks. -/
theorem ChannelChanges.Asked.uploads_eq {update : ChannelUpdate} {changes : Option ChannelChanges}
    (h : Asked s update changes) : (changes.map ChannelChanges.uploads).getD [] =
      (update.payload.map (channelUploads · (update.assets.getD []))).getD [] := by
  rw [Asked] at h
  split at h
  · next hpayload =>
    rw [h, hpayload]
    rfl
  · next payload hpayload =>
    rw [h.uploads_eq, hpayload]
    rfl

/-- The changes an update of a video asks for bring the uploads that its payload picks. -/
theorem VideoChanges.Asked.uploads_eq {update : VideoUpdate} {changes : Option VideoChanges}
    (h : Asked s update changes) : (changes.map VideoChanges.uploads).getD [] =
      (update.payload.map (videoUploads · (update.assets.getD []))).getD [] := by
  rw [Asked] at h
  split at h
  · next hpayload =>
    rw [h, hpayload]
    rfl
  · next payload hpayload =>
    rw [h.uploads_eq, hpayload]
    rfl

/-- What a content event brings besides the entity it writes: at most a member, a language, a
license and data objects with some of the ids. -/
structure Store.Brings (o : Occurrence) (uploads : List ContentId) (s s' : Store) : Prop where
  members : AddsAtMostOne s.members s'.members
  languages : AddsAtMostOne s.languages s'.languages
  licenses : AddsAtMostOne s.licenses s'.licenses
  numbered : s'.LicensesNumbered
  dataObjects : ∀ id, o.SavesIf (id ∈ uploads) s.dataObjects[id]? s'.dataObjects[id]?

/-- What merging writes is no member. -/
theorem Store.Merges.brings {uploads : List ContentId} (h : Merges o uploads s s') :
    Brings o uploads s s' :=
  { h with members := Or.inl h.members }

/-- The owner of a new channel is made known before changes are merged, and nothing else is written
then. -/
theorem ChannelChanges.Merging.merges_withOwner {owner : ChannelOwner}
    {assetOwner : DataObjectOwner} {channel channel' : Channel} {changes : Option ChannelChanges}
    (merged : Merging o assetOwner (s.withOwner o owner) channel changes channel' t)
    (h : s.LicensesNumbered) :
    AddsAtMostOne s.members t.members ∧
      Merges o ((changes.map ChannelChanges.uploads).getD []) s
        { t with members := s.members } := by
  cases owner with
  | member id =>
    have hmerges := merged.merges (h.of_eq rfl rfl)
    rw [hmerges.members]
    exact ⟨addsAtMostOne_insertIfNew .., { hmerges with members := rfl }⟩
  | curatorGroup id =>
    have hmerges := merged.merges h
    exact ⟨Or.inl hmerges.members, { hmerges with members := rfl }⟩

namespace ContentEvent

variable {e : ContentEvent}

/-- Of the assets that come with a content event only those that its payload picks are
registered. -/
theorem Step.brings (h : s.LicensesNumbered) (step : Step o s e d s') :
    Brings o e.uploads s s' := by
  have hnothing : Brings o [] s s := (Merges.refl h).brings
  cases step with
  | channelCreated read merged =>
    obtain ⟨hmembers, hmerges⟩ := merged.merges_withOwner h
    rw [read.uploads_eq] at hmerges
    exact { hmerges with members := hmembers }
  | channelUpdated found asked merged =>
    have hmerges := merged.merges h
    rw [asked.uploads_eq] at hmerges
    exact { hmerges.brings with }
  | videoCreated found read merged =>
    have hmerges := merged.merges h
    rw [read.uploads_eq] at hmerges
    exact { hmerges.brings with }
  | videoUpdated found fits asked merged =>
    have hmerges := merged.merges h
    rw [asked.uploads_eq] at hmerges
    exact { hmerges.brings with }
  | featuredVideosSet replaced =>
    rw [replaceFeatured_frame replaced]
    exact { hnothing with }
  | _ => exact { hnothing with }

/-- A content event saves at most the channel it names. -/
theorem Step.savesChannel (hkeyed : s.Keyed) (h : s.LicensesNumbered) (step : Step o s e d s')
    (id : ChannelId) :
    o.SavesIf (e.writtenChannel? = some id) s.channels[id]? s'.channels[id]? := by
  cases step with
  | @channelCreated _ created owner _ changes channel t read merged =>
    have hrows : t.channels = s.channels := (merged.merges_withOwner h).2.channels
    have hupdates : o.Updates channel := by
      rw [Occurrence.Updates, merged.stamps_eq]
      rfl
    have hcreates : o.Creates channel := by
      constructor <;> (rw [merged.stamps_eq]; rfl)
    rw [← hrows]
    exact savesIf_upsert id merged.id_eq (fun _ ↦ rfl) hupdates fun _ ↦ hcreates
  | @channelUpdated _ _ _ _ channel changes t found asked merged =>
    have hid := merged.id_eq.trans (hkeyed.channels found)
    rw [← (merged.merges h).channels] at found ⊢
    exact savesIf_upsert id hid (fun _ ↦ rfl) rfl (absurd_of_found found)
  | channelCensorship found =>
    have hid := hkeyed.channels found
    exact savesIf_upsert id hid (fun _ ↦ rfl) rfl (absurd_of_found found)
  | videoCreated found read merged =>
    exact .of_eq (congrArg (·[id]?) (merged.merges h).channels)
  | videoUpdated found fits asked merged =>
    exact .of_eq (congrArg (·[id]?) (merged.merges h).channels)
  | featuredVideosSet replaced =>
    rw [replaceFeatured_frame replaced]
    exact .refl _ _ _
  | _ => exact .refl _ _ _

/-- A content event saves or removes at most the video it names, or flips flags of videos. -/
theorem Step.writesVideo (hkeyed : s.Keyed) (h : s.LicensesNumbered) (step : Step o s e d s')
    (id : VideoId) :
    o.WritesIf (e.writtenVideo? = some id) s.videos[id]? s'.videos[id]? ∨
      ∃ videos row, e = .featuredVideosSet videos ∧ s.videos[id]? = some row ∧
        s'.videos[id]? =
          some { row with isFeatured := !row.isFeatured, updatedAt := o.timestamp } := by
  cases step with
  | channelCreated read merged =>
    exact Or.inl (Or.inl (congrArg (·[id]?) (merged.merges_withOwner h).2.videos))
  | channelUpdated found asked merged =>
    exact Or.inl (Or.inl (congrArg (·[id]?) (merged.merges h).videos))
  | @videoCreated _ _ created _ _ changes video t found read merged =>
    have hupdates : o.Updates video := by
      rw [Occurrence.Updates, merged.stamps_eq]
      rfl
    have hcreates : o.Creates video := by
      constructor <;> (rw [merged.stamps_eq]; rfl)
    rw [← (merged.merges h).videos]
    refine Or.inl (Occurrence.SavesIf.writesIf ?_)
    exact savesIf_upsert id merged.id_eq (fun _ ↦ rfl) hupdates fun _ ↦ hcreates
  | @videoUpdated _ _ _ _ video changes t found fits asked merged =>
    have hid := merged.id_eq.trans (hkeyed.videos found)
    rw [← (merged.merges h).videos] at found ⊢
    refine Or.inl (Occurrence.SavesIf.writesIf ?_)
    exact savesIf_upsert id hid (fun _ ↦ rfl) rfl (absurd_of_found found)
  | videoDeleted found => exact Or.inl (writesIf_erase id (hkeyed.videos found))
  | videoCensorship found =>
    have hid := hkeyed.videos found
    refine Or.inl (Occurrence.SavesIf.writesIf ?_)
    exact savesIf_upsert id hid (fun _ ↦ rfl) rfl (absurd_of_found found)
  | @featuredVideosSet videos _ _ replaced =>
    -- The set may flip any video there is, whether it is in the list or not.
    rw [getElem?_replaceFeatured replaced]
    rcases s.videos[id]? with - | row
    · exact Or.inl (.refl _ _ _)
    · rw [Option.map_some, Video.refeatured]
      split
      · next hflip =>
        refine Or.inr ⟨videos, row, rfl, rfl, ?_⟩
        rw [Bool.not_eq.2 hflip]
      · exact Or.inl (.refl _ _ _)
  | _ => exact Or.inl (.refl _ _ _)

/-- A content event saves or removes at most the category it names, be it one of channels or one of
videos. -/
theorem Step.writesCategories (hkeyed : s.Keyed) (h : s.LicensesNumbered)
    (step : Step o s e d s') :
    (∀ id, o.WritesIf (e.writtenChannelCategory? = some id) s.channelCategories[id]?
      s'.channelCategories[id]?) ∧
    ∀ id, o.WritesIf (e.writtenVideoCategory? = some id) s.videoCategories[id]?
      s'.videoCategories[id]? := by
  have hsame (hchannel : s'.channelCategories = s.channelCategories)
      (hvideo : s'.videoCategories = s.videoCategories) :
      (∀ id, o.WritesIf (e.writtenChannelCategory? = some id) s.channelCategories[id]?
        s'.channelCategories[id]?) ∧
      ∀ id, o.WritesIf (e.writtenVideoCategory? = some id) s.videoCategories[id]?
        s'.videoCategories[id]? :=
    ⟨fun id ↦ Or.inl (congrArg (·[id]?) hchannel), fun id ↦ Or.inl (congrArg (·[id]?) hvideo)⟩
  cases step with
  | channelCreated read merged =>
    have hmerges := (merged.merges_withOwner h).2
    exact hsame hmerges.channelCategories hmerges.videoCategories
  | channelUpdated found asked merged =>
    exact hsame (merged.merges h).channelCategories (merged.merges h).videoCategories
  | videoCreated found read merged =>
    exact hsame (merged.merges h).channelCategories (merged.merges h).videoCategories
  | videoUpdated found fits asked merged =>
    exact hsame (merged.merges h).channelCategories (merged.merges h).videoCategories
  | channelCategoryCreated =>
    refine ⟨fun id ↦ Occurrence.SavesIf.writesIf ?_, fun _ ↦ .refl _ _ _⟩
    exact savesIf_upsert id rfl (fun _ ↦ rfl) rfl fun _ ↦ ⟨rfl, rfl⟩
  | channelCategoryUpdated found =>
    have hid := hkeyed.channelCategories found
    refine ⟨fun id ↦ Occurrence.SavesIf.writesIf ?_, fun _ ↦ .refl _ _ _⟩
    exact savesIf_upsert id hid (fun _ ↦ rfl) rfl (absurd_of_found found)
  | channelCategoryDeleted found =>
    have hid := hkeyed.channelCategories found
    exact ⟨fun id ↦ writesIf_erase id hid, fun _ ↦ .refl _ _ _⟩
  | videoCategoryCreated =>
    refine ⟨fun _ ↦ .refl _ _ _, fun id ↦ Occurrence.SavesIf.writesIf ?_⟩
    exact savesIf_upsert id rfl (fun _ ↦ rfl) rfl fun _ ↦ ⟨rfl, rfl⟩
  | videoCategoryUpdated found =>
    have hid := hkeyed.videoCategories found
    refine ⟨fun _ ↦ .refl _ _ _, fun id ↦ Occurrence.SavesIf.writesIf ?_⟩
    exact savesIf_upsert id hid (fun _ ↦ rfl) rfl (absurd_of_found found)
  | videoCategoryDeleted found =>
    have hid := hkeyed.videoCategories found
    exact ⟨fun _ ↦ .refl _ _ _, fun id ↦ writesIf_erase id hid⟩
  | featuredVideosSet replaced =>
    refine hsame ?_ ?_ <;> rw [replaceFeatured_frame replaced]
  | _ => exact hsame rfl rfl

end ContentEvent

/-! ### Acceptance -/

/-- Where a refresh passes over the rows without a slot that names a data object, a row is as it was
or has such a slot. -/
theorem Table.getElem?_map_refresh {κ α : Type} [Ord κ] [Std.TransOrd κ] [Std.LawfulEqOrd κ]
    {content : ContentId} {slotsOf : α → List (Option AssetRef)} {refresh : α → α}
    (passed : ∀ row, countSlots content (slotsOf row) = 0 → refresh row = row)
    (table : Table κ α) (key : κ) :
    (table.map fun _ ↦ refresh)[key]? = table[key]? ∨
      ∃ row, (∃ slot ∈ slotsOf row, slotNames content slot) ∧ table[key]? = some row ∧
        (table.map fun _ ↦ refresh)[key]? = some (refresh row) := by
  rw [Std.ExtTreeMap.getElem?_map]
  cases table[key]? with
  | none => exact Or.inl rfl
  | some row =>
    by_cases hslots : countSlots content (slotsOf row) = 0
    · exact Or.inl (congrArg some (passed row hslots))
    · have hnamed := List.countP_pos_iff.1 (Nat.pos_of_ne_zero hslots)
      exact Or.inr ⟨row, hnamed, rfl, rfl⟩

namespace ContentAcceptance

variable {acceptance : ContentAcceptance}

/-- The acceptance of a data object saves that data object. -/
theorem Step.savesDataObject (hkeyed : s.Keyed) (step : Step o s acceptance d s')
    (id : ContentId) :
    o.SavesIf (some acceptance.content = some id) s.dataObjects[id]? s'.dataObjects[id]? := by
  cases step with
  | accepted found =>
    have hid := hkeyed.dataObjects found
    exact savesIf_upsert id hid (fun _ ↦ rfl) rfl (absurd_of_found found)

/-- The acceptance of a data object refreshes the channels with a slot that names it. -/
theorem Step.refreshesChannel (step : Step o s acceptance d s') (id : ChannelId) :
    s'.channels[id]? = s.channels[id]? ∨
      ∃ row, (∃ slot ∈ [row.coverPhoto, row.avatarPhoto], slotNames acceptance.content slot) ∧
        s.channels[id]? = some row ∧ s'.channels[id]? =
          some (refreshChannel acceptance.content .accepted o.timestamp row) := by
  cases step with
  | accepted found =>
    have hpassed (row : Channel)
        (hnone : countSlots acceptance.content [row.coverPhoto, row.avatarPhoto] = 0) :
        refreshChannel acceptance.content .accepted o.timestamp row = row :=
      if_pos hnone
    exact Table.getElem?_map_refresh hpassed s.channels id

/-- The acceptance of a data object refreshes the videos with a slot that names it. -/
theorem Step.refreshesVideo (step : Step o s acceptance d s') (id : VideoId) :
    s'.videos[id]? = s.videos[id]? ∨
      ∃ row, (∃ slot ∈ [row.thumbnailPhoto, row.media], slotNames acceptance.content slot) ∧
        s.videos[id]? = some row ∧ s'.videos[id]? =
          some (refreshVideo acceptance.content .accepted o.timestamp row) := by
  cases step with
  | accepted found =>
    have hpassed (row : Video)
        (hnone : countSlots acceptance.content [row.thumbnailPhoto, row.media] = 0) :
        refreshVideo acceptance.content .accepted o.timestamp row = row :=
      if_pos hnone
    exact Table.getElem?_map_refresh hpassed s.videos id

end ContentAcceptance

/-! ### All events -/

namespace Occurrence

/-- The category that an occurrence writes, or whose moderators it writes. -/
def writtenCategory? (o : Occurrence) : Option CategoryId :=
  o.forum?.bind ForumEvent.writtenCategory?

/-- The thread that an occurrence writes. -/
def writtenThread? (o : Occurrence) : Option ThreadId := o.forum?.bind ForumEvent.writtenThread?

/-- The category whose pinned threads an occurrence replaces. -/
def pinnedCategory? (o : Occurrence) : Option CategoryId := o.forum?.bind ForumEvent.pinnedCategory?

/-- The posts that an occurrence writes. -/
def writtenPosts (o : Occurrence) : List PostId := (o.forum?.map ForumEvent.writtenPosts).getD []

/-- The channel that an occurrence writes. -/
def writtenChannel? (o : Occurrence) : Option ChannelId :=
  o.content?.bind ContentEvent.writtenChannel?

/-- The video that an occurrence writes or removes. -/
def writtenVideo? (o : Occurrence) : Option VideoId := o.content?.bind ContentEvent.writtenVideo?

/-- The channel category that an occurrence writes or removes. -/
def writtenChannelCategory? (o : Occurrence) : Option ChannelCategoryId :=
  o.content?.bind ContentEvent.writtenChannelCategory?

/-- The video category that an occurrence writes or removes. -/
def writtenVideoCategory? (o : Occurrence) : Option VideoCategoryId :=
  o.content?.bind ContentEvent.writtenVideoCategory?

/-- The data objects of the uploads that the payload of an occurrence picks. -/
def uploads (o : Occurrence) : List ContentId := (o.content?.map ContentEvent.uploads).getD []

/-- The data object that an occurrence accepts. -/
def accepted? (o : Occurrence) : Option ContentId := o.acceptance?.map (·.content)

/-- What an occurrence changes from `s` to `t` in the tables of the forum. -/
structure ForumFootprint (o : Occurrence) (s t : Store) : Prop where
  categories : ∀ id,
    o.SavesIf (o.writtenCategory? = some id) s.categories[id]? t.categories[id]?
  /-- A moderator comes or goes with a save of the category. -/
  moderators : ∀ category,
    (∀ worker, (category, worker) ∈ t.moderators ↔ (category, worker) ∈ s.moderators) ∨
      o.writtenCategory? = some category ∧ o.Saves s.categories[category]? t.categories[category]?
  /-- The other threads that change are in the category whose pinned threads are replaced, and their
  flags flip. -/
  threads : ∀ id, o.SavesIf (o.writtenThread? = some id) s.threads[id]? t.threads[id]? ∨
    ∃ row, o.pinnedCategory? = some row.category ∧ s.threads[id]? = some row ∧
      t.threads[id]? = some { row with isSticky := !row.isSticky, updatedAt := o.timestamp }
  posts : ∀ id, o.SavesIf (id ∈ o.writtenPosts) s.posts[id]? t.posts[id]?

/-- What an occurrence changes from `s` to `t` in the tables of the content. -/
structure ContentFootprint (o : Occurrence) (s t : Store) : Prop where
  languages : AddsAtMostOne s.languages t.languages
  licenses : AddsAtMostOne s.licenses t.licenses
  /-- The other channels that change have a slot that names the accepted data object. -/
  channels : ∀ id, o.SavesIf (o.writtenChannel? = some id) s.channels[id]? t.channels[id]? ∨
    ∃ content row, o.accepted? = some content ∧
      (∃ slot ∈ [row.coverPhoto, row.avatarPhoto], slotNames content slot) ∧
      s.channels[id]? = some row ∧
      t.channels[id]? = some (refreshChannel content .accepted o.timestamp row)
  /-- The other videos that change have a slot that names the accepted data object, or are featured
  from now on or no more. -/
  videos : ∀ id, o.WritesIf (o.writtenVideo? = some id) s.videos[id]? t.videos[id]? ∨
    (∃ videos row, o.content? = some (.featuredVideosSet videos) ∧ s.videos[id]? = some row ∧
      t.videos[id]? = some { row with isFeatured := !row.isFeatured, updatedAt := o.timestamp }) ∨
    ∃ content row, o.accepted? = some content ∧
      (∃ slot ∈ [row.thumbnailPhoto, row.media], slotNames content slot) ∧
      s.videos[id]? = some row ∧
      t.videos[id]? = some (refreshVideo content .accepted o.timestamp row)
  channelCategories : ∀ id, o.WritesIf (o.writtenChannelCategory? = some id)
    s.channelCategories[id]? t.channelCategories[id]?
  videoCategories : ∀ id, o.WritesIf (o.writtenVideoCategory? = some id)
    s.videoCategories[id]? t.videoCategories[id]?
  dataObjects : ∀ id, o.SavesIf (o.accepted? = some id ∨ id ∈ o.uploads)
    s.dataObjects[id]? t.dataObjects[id]?

/-- What an occurrence changes from `s` to `t`, by the names it carries.  These are all tables. -/
structure Footprint (o : Occurrence) (s t : Store) : Prop
    extends o.ForumFootprint s t, o.ContentFootprint s t where
  workers : t.workers = s.workers
  members : AddsAtMostOne s.members t.members
  polls : PollGrowth s t o.polled?
  /-- The record of the event comes on top of the log. -/
  log : ∃ d, t.log = o.record d :: s.log
  cursor : t.cursor = s.cursor

/-- What writes the content leaves no footprint on the forum. -/
theorem ForumFootprint.of_writesContent (h : WritesContent s s') : o.ForumFootprint s s' where
  categories id := .of_eq (congrArg (·[id]?) h.categories)
  moderators category := Or.inl fun worker ↦ by rw [h.moderators]
  threads id := Or.inl (.of_eq (congrArg (·[id]?) h.threads))
  posts id := .of_eq (congrArg (·[id]?) h.posts)

/-- What writes the forum leaves no footprint on the content. -/
theorem ContentFootprint.of_writesForum (h : WritesForum s s') : o.ContentFootprint s s' where
  languages := Or.inl h.languages
  licenses := Or.inl h.licenses
  channels id := Or.inl (.of_eq (congrArg (·[id]?) h.channels))
  videos id := Or.inl (Or.inl (congrArg (·[id]?) h.videos))
  channelCategories id := Or.inl (congrArg (·[id]?) h.channelCategories)
  videoCategories id := Or.inl (congrArg (·[id]?) h.videoCategories)
  dataObjects id := .of_eq (congrArg (·[id]?) h.dataObjects)

end Occurrence

/-- The footprint of a forum event, from one lemma for each table. -/
theorem ForumEvent.Step.footprint {e : ForumEvent} (hkeyed : s.Keyed)
    (hforum : o.forum? = some e) (step : Step o s e d s') : o.ForumFootprint s s' where
  categories id := by
    rw [Occurrence.writtenCategory?, hforum]
    exact step.savesCategory hkeyed id
  moderators category := by
    rw [Occurrence.writtenCategory?, hforum]
    exact step.savesModerated hkeyed category
  threads id := by
    rw [Occurrence.writtenThread?, Occurrence.pinnedCategory?, hforum]
    exact step.savesThread hkeyed id
  posts id := by
    rw [Occurrence.writtenPosts, hforum]
    exact step.savesPost hkeyed id

/-- The footprint of a content event, from one lemma for each table. -/
theorem ContentEvent.Step.footprint {e : ContentEvent} (hkeyed : s.Keyed)
    (hnumbered : s.LicensesNumbered) (hcontent : o.content? = some e) (step : Step o s e d s') :
    o.ContentFootprint s s' where
  languages := (step.brings hnumbered).languages
  licenses := (step.brings hnumbered).licenses
  channels id := by
    rw [Occurrence.writtenChannel?, hcontent]
    exact Or.inl (step.savesChannel hkeyed hnumbered id)
  videos id := by
    rw [Occurrence.writtenVideo?, hcontent]
    refine (step.writesVideo hkeyed hnumbered id).imp_right ?_
    rintro ⟨videos, row, rfl, hrows⟩
    exact Or.inl ⟨videos, row, rfl, hrows⟩
  channelCategories id := by
    rw [Occurrence.writtenChannelCategory?, hcontent]
    exact (step.writesCategories hkeyed hnumbered).1 id
  videoCategories id := by
    rw [Occurrence.writtenVideoCategory?, hcontent]
    exact (step.writesCategories hkeyed hnumbered).2 id
  dataObjects id := by
    rw [Occurrence.uploads, hcontent]
    exact ((step.brings hnumbered).dataObjects id).imp Or.inr

/-- The footprint of an acceptance: the data object and the slots that name it. -/
theorem ContentAcceptance.Step.footprint {acceptance : ContentAcceptance} (hkeyed : s.Keyed)
    (hacceptance : o.acceptance? = some acceptance) (step : Step o s acceptance d s') :
    o.ContentFootprint s s' := by
  have haccepted : o.accepted? = some acceptance.content :=
    congrArg (Option.map ContentAcceptance.content) hacceptance
  have hobjects := step.savesDataObject hkeyed
  have hchannels := step.refreshesChannel
  have hvideos := step.refreshesVideo
  cases step with
  | accepted found =>
    refine { languages := Or.inl rfl, licenses := Or.inl rfl, channels := fun id ↦ ?_,
             videos := fun id ↦ ?_, channelCategories := fun _ ↦ .refl _ _ _,
             videoCategories := fun _ ↦ .refl _ _ _, dataObjects := fun id ↦ ?_ }
    · refine (hchannels id).imp .of_eq ?_
      rintro ⟨row, hslot, hrows⟩
      exact ⟨_, row, haccepted, hslot, hrows⟩
    · refine (hvideos id).imp Or.inl fun hrefreshed ↦ Or.inr ?_
      obtain ⟨row, hslot, hrows⟩ := hrefreshed
      exact ⟨_, row, haccepted, hslot, hrows⟩
    · exact (hobjects id).imp fun heq ↦ Or.inl (haccepted.trans heq)

theorem PollGrowth.withRecord {thread : Option ThreadId} (h : PollGrowth s s' thread)
    (record : EventRecord) : PollGrowth s (s'.withRecord record) thread := by
  cases h with
  | kept polls rows => exact .kept polls rows
  | attached new row polls rows => exact .attached new row polls rows

/-- A step with its record changes what the names of the occurrence say and nothing else. -/
theorem Handles.footprint (hkeyed : s.Keyed) (hnumbered : s.LicensesNumbered)
    (h : Handles o s d s') : o.Footprint s (s'.withRecord (o.record d)) := by
  obtain ⟨hlog, hcursor, hworkers⟩ := h.past_eq
  have hparts : o.ForumFootprint s s' ∧ o.ContentFootprint s s' ∧
      AddsAtMostOne s.members s'.members := by
    rcases h with ⟨known, reads, step⟩ | ⟨known, reads, step⟩ | ⟨known, reads, step⟩
    · have hforum := step.footprint hkeyed (Occurrence.forum?_eq_some known reads)
      exact ⟨hforum, .of_writesForum step.writesForum, step.addsMember⟩
    · have hcontent := step.footprint hkeyed hnumbered (Occurrence.content?_eq_some known reads)
      exact ⟨.of_writesContent step.writesContent, hcontent, (step.brings hnumbered).members⟩
    · have hcontent := step.footprint hkeyed (Occurrence.acceptance?_eq_some known reads)
      refine ⟨.of_writesContent step.writesContent, hcontent, Or.inl ?_⟩
      cases step
      rfl
  obtain ⟨hforum, hcontent, hmembers⟩ := hparts
  exact { hforum, hcontent with
    workers := hworkers
    members := hmembers
    polls := h.pollGrowth.withRecord (o.record d)
    log := ⟨d, congrArg (o.record d :: ·) hlog⟩
    cursor := hcursor }

/-! ### Visited stores -/

namespace Store

/-- In a visited store no license has a number that was not given out yet. -/
theorem Visited.licensesNumbered {admits : Occurrence → Prop} (h : Visited admits s) :
    s.LicensesNumbered := by
  induction h with
  | seeded h =>
    rw [h.eq]
    intro number hmem
    simp at hmem
  | event _ _ handled _ ih =>
    rcases handled with ⟨-, -, step⟩ | ⟨-, -, step⟩ | ⟨-, -, step⟩
    · exact ih.of_eq step.writesForum.licenses step.writesForum.licenseRows
    · exact (step.brings ih).numbered
    · cases step
      exact ih
  | cursor _ _ ih => exact ih

/-- In a store that a run meets, an event that is handled changes what its names say and nothing
else. -/
theorem footprint_of_visited (h : Visited (fun _ ↦ True) s)
    (yields : (event o).Yields s true t) : o.Footprint s t := by
  rcases yields_event.1 yields with ⟨hknown, -, -⟩ | ⟨-, -, d, u, handled, -, rfl⟩
  · cases hknown
  · exact handled.footprint h.keyed h.licensesNumbered

/-- A channel is created with two uploads, and its payload picks the second for the cover. -/
def pickingOccurrence : Occurrence := .ofEvent 0 0
  ⟨"content.ChannelCreated", 0, none, [.string "Lead", .int 1,
    .object [("owner", .object [("Member", .int 1)])],
    .object [("assets", .array [
      .object [("Upload", .object [("content_id", .string "0x01"),
        ("ipfs_content_id", .string "0x"), ("size", .int 1), ("type_id", .int 0)])],
      .object [("Upload", .object [("content_id", .string "0x02"),
        ("ipfs_content_id", .string "0x"), ("size", .int 1), ("type_id", .int 0)])]]),
      ("meta", .string "0x2801")]]⟩

/-- The store with the channel. -/
def pickedStore : Store := (event pickingOccurrence {}).store

/-- The upload that the payload picks is registered, and the other one is not. -/
theorem footprint_of_visited_pickedStore :
    Visited (fun _ ↦ True) {} ∧ (event pickingOccurrence).Yields {} true pickedStore ∧
      pickingOccurrence.Footprint {} pickedStore ∧ pickingOccurrence.uploads = [⟨"0x02"⟩] ∧
      (⟨"0x02"⟩ : ContentId) ∈ pickedStore.dataObjects ∧
      (⟨"0x01"⟩ : ContentId) ∉ pickedStore.dataObjects := by
  have hvisited : Visited (fun _ ↦ True) {} := .seeded .fresh
  have hyields : (event pickingOccurrence).Yields {} true pickedStore :=
    ⟨by decide +kernel, rfl⟩
  have hfootprint := footprint_of_visited hvisited hyields
  have huploads : pickingOccurrence.uploads = [⟨"0x02"⟩] := by decide +kernel
  refine ⟨hvisited, hyields, hfootprint, huploads, by decide +kernel, ?_⟩
  rw [← getElem?_eq_none_iff]
  rcases hfootprint.dataObjects ⟨"0x01"⟩ with hsame | ⟨hnamed, -⟩
  · exact hsame
  · rw [huploads] at hnamed
    rcases hnamed with haccepted | hpicked
    · have hnone : pickingOccurrence.accepted? = none := by decide +kernel
      cases hnone.symm.trans haccepted
    · exact absurd hpicked (by decide)

end Store

end ChainProjection
