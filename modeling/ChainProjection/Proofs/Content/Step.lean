import ChainProjection.Content.Project
import ChainProjection.Proofs.Content.Changes

/-!
# Steps of content and storage events

Everything a content event can do to a store when it succeeds, one constructor of `Step` for each
kind of event, and the one thing the acceptance of a data object can do.  As for forum events,
`yields_project` is an equivalence, and what is proved of content events starts from it.

How a payload is read and merged is left to the relations between payloads and changes:
`ChannelChanges.Reading` and `VideoChanges.Reading` say which changes a payload asks for, with none
for one that cannot be decoded, and `Merging` says what they make of a row.  An update without a
payload asks for no changes either, and `Asked` puts the two together; a payload that is decoded and
has no fields is a third thing, since it clears the date of an earlier publication.

**A content event that fails has written nothing**: the rows it needs come before its first write,
and no write can fail.  The one exception would be the owner of a new channel, who is made known
first, but behind that point nothing can fail any more.  The storage refuses one kind of event only,
one that needs a video whose row cannot be read (`fails_project_store`).
-/

namespace ChainProjection

variable {o : Occurrence} {s s' : Store}

/-- The changes an update asks for: none without a payload. -/
def ChannelChanges.Asked (s : Store) (update : ChannelUpdate) (changes : Option ChannelChanges) :
    Prop :=
  match update.payload with
  | none => changes = none
  | some payload => ChannelChanges.Reading s payload (update.assets.getD []) changes

/-- The changes an update asks for: none without a payload. -/
def VideoChanges.Asked (s : Store) (update : VideoUpdate) (changes : Option VideoChanges) : Prop :=
  match update.payload with
  | none => changes = none
  | some payload => VideoChanges.Reading s payload (update.assets.getD []) changes

/-- The store once the owner of a new channel is known. -/
def Store.withOwner (s : Store) (o : Occurrence) : ChannelOwner → Store
  | .member id => s.ensureMember id o.block
  | .curatorGroup _ => s

namespace ContentEvent

open Projection

/-! ### Events -/

/-- What a content event can do. -/
inductive Step (o : Occurrence) (s : Store) : ContentEvent → EventData → Store → Prop
  | channelCreated {actor : ContentActor} {id : ChannelId} {owner : ChannelOwner}
      {creation : ChannelCreation} {changes : Option ChannelChanges} {channel : Channel}
      {s' : Store}
      (read : ChannelChanges.Reading s creation.payload creation.assets changes)
      (merged : ChannelChanges.Merging o (actor.assetOwner id) (s.withOwner o owner) {
          id := id
          owner := some owner
          rewardAccount := creation.rewardAccount
          createdInBlock := o.block
          createdAt := o.timestamp
          updatedAt := o.timestamp } changes channel s') :
      Step o s (.channelCreated actor id owner creation) (.channelCreated id)
        (s'.saveChannel channel)
  | channelUpdated {actor : ContentActor} {id : ChannelId} {update : ChannelUpdate}
      {row channel : Channel} {changes : Option ChannelChanges} {s' : Store}
      (found : s.channels[id]? = some row)
      (asked : ChannelChanges.Asked s update changes)
      (merged : ChannelChanges.Merging o (actor.assetOwner id) s row changes channel s') :
      Step o s (.channelUpdated actor id update) (.channelUpdated id)
        (s'.saveChannel { channel with
          rewardAccount := update.rewardAccount <|> channel.rewardAccount
          updatedAt := o.timestamp })
  | channelCensorship {isCensored : Bool} {id : ChannelId} {rationale : String} {row : Channel}
      (found : s.channels[id]? = some row) :
      Step o s (.channelCensorship isCensored id rationale)
        (.channelCensorshipUpdated id isCensored rationale)
        (s.saveChannel { row with isCensored := isCensored, updatedAt := o.timestamp })
  | channelCategoryCreated {id : ChannelCategoryId} {payload : Bytes} :
      Step o s (.channelCategoryCreated id payload) (.channelCategoryCreated id)
        (s.saveChannelCategory (newCategory o id (nameAfter Metadata.channelCategory payload none)))
  | channelCategoryUpdated {id : ChannelCategoryId} {payload : Bytes}
      {row : ContentCategory .channelCategory}
      (found : s.channelCategories[id]? = some row) :
      Step o s (.channelCategoryUpdated id payload) (.channelCategoryUpdated id)
        (s.saveChannelCategory { row with
          name := nameAfter Metadata.channelCategory payload row.name
          updatedAt := o.timestamp })
  | channelCategoryDeleted {id : ChannelCategoryId} {row : ContentCategory .channelCategory}
      (found : s.channelCategories[id]? = some row) :
      Step o s (.channelCategoryDeleted id) (.channelCategoryDeleted id)
        (s.removeChannelCategory row.id).2
  | videoCategoryCreated {id : VideoCategoryId} {payload : Bytes} :
      Step o s (.videoCategoryCreated id payload) (.videoCategoryCreated id)
        (s.saveVideoCategory (newCategory o id (nameAfter Metadata.videoCategory payload none)))
  | videoCategoryUpdated {id : VideoCategoryId} {payload : Bytes}
      {row : ContentCategory .videoCategory}
      (found : s.videoCategories[id]? = some row) :
      Step o s (.videoCategoryUpdated id payload) (.videoCategoryUpdated id)
        (s.saveVideoCategory { row with
          name := nameAfter Metadata.videoCategory payload row.name
          updatedAt := o.timestamp })
  | videoCategoryDeleted {id : VideoCategoryId} {row : ContentCategory .videoCategory}
      (found : s.videoCategories[id]? = some row) :
      Step o s (.videoCategoryDeleted id) (.videoCategoryDeleted id)
        (s.removeVideoCategory row.id).2
  | videoCreated {actor : ContentActor} {channel : ChannelId} {id : VideoId}
      {creation : VideoCreation} {row : Channel} {changes : Option VideoChanges} {video : Video}
      {s' : Store}
      (found : s.channels[channel]? = some row)
      (read : VideoChanges.Reading s creation.payload creation.assets changes)
      (merged : VideoChanges.Merging o (actor.assetOwner row.id) s {
          id := id
          channel := row.id
          createdInBlock := o.block
          createdAt := o.timestamp
          updatedAt := o.timestamp } changes video s') :
      Step o s (.videoCreated actor channel id creation) (.videoCreated channel id)
        (s'.saveVideo video)
  | videoUpdated {actor : ContentActor} {id : VideoId} {update : VideoUpdate} {row video : Video}
      {changes : Option VideoChanges} {s' : Store}
      (found : s.videos[id]? = some row) (fits : row.SizeFits)
      (asked : VideoChanges.Asked s update changes)
      (merged : VideoChanges.Merging o (actor.assetOwner row.channel) s row changes video s') :
      Step o s (.videoUpdated actor id update) (.videoUpdated id)
        (s'.saveVideo { video with updatedAt := o.timestamp })
  | videoDeleted {id : VideoId} {row : Video}
      (found : s.videos[id]? = some row) (fits : row.SizeFits) :
      Step o s (.videoDeleted id) (.videoDeleted id) (s.removeVideo row.id).2
  | videoCensorship {isCensored : Bool} {id : VideoId} {rationale : String} {row : Video}
      (found : s.videos[id]? = some row) (fits : row.SizeFits) :
      Step o s (.videoCensorship isCensored id rationale)
        (.videoCensorshipUpdated id isCensored rationale)
        (s.saveVideo { row with isCensored := isCensored, updatedAt := o.timestamp })
  | featuredVideosSet {videos : List VideoId} {change : SetChange} {s' : Store}
      (replaced : s.replaceSet .featuredVideos (videos.map (·.text)) o.timestamp =
        .ok (change, s')) :
      Step o s (.featuredVideosSet videos) (.featuredVideosSet videos) s'

/-! ### Parts -/

/-- An owner that is a member is known afterwards; a group needs no row. -/
@[simp]
theorem yields_knowOwner {owner : ChannelOwner} {x : Unit} :
    (knowOwner o owner).Yields s x s' ↔ s' = s.withOwner o owner := by
  cases owner <;> simp [knowOwner, Store.withOwner]

/-- An owner can always be made known. -/
@[simp]
theorem fails_knowOwner {owner : ChannelOwner} {error : ProjectionError} :
    ¬(knowOwner o owner).Fails s error s' := by
  cases owner <;> simp [knowOwner]

/-- The changes are read from the payload of the update, if there is one. -/
@[simp]
theorem yields_channelChanges {update : ChannelUpdate} {changes : Option ChannelChanges} :
    (channelChanges o update).Yields s changes s' ↔
      ChannelChanges.Asked s update changes ∧ s' = s := by
  rcases h : update.payload with - | payload <;>
    simp [channelChanges, ChannelChanges.Asked, h]

/-- The changes are read from the payload of the update, if there is one. -/
@[simp]
theorem yields_videoChanges {update : VideoUpdate} {changes : Option VideoChanges} :
    (videoChanges o update).Yields s changes s' ↔
      VideoChanges.Asked s update changes ∧ s' = s := by
  rcases h : update.payload with - | payload <;> simp [videoChanges, VideoChanges.Asked, h]

/-! ### All events -/

/-- **A content event succeeds exactly in the ways `Step` allows.** -/
theorem yields_project {e : ContentEvent} {d : EventData} :
    (project o e).Yields s d s' ↔ Step o s e d s' := by
  cases e with
  | channelCreated actor id owner creation =>
    -- The lemmas for the parts turn the work into what each part needs, and this is the step; both
    -- directions then only rename.
    simp only [project, createChannel, yields_bind, ChannelChanges.yields_read, yields_knowOwner,
      ChannelChanges.yields_applyAny, yields_write, yields_pure, exists_eq_left, exists_const,
      and_assoc, exists_and_left]
    constructor
    · rintro ⟨changes, read, channel, t, merged, rfl, rfl⟩
      exact .channelCreated read merged
    · intro h
      cases h with
      | channelCreated read merged => exact ⟨_, read, _, _, merged, rfl, rfl⟩
  | channelUpdated actor id update =>
    simp only [project, updateChannel, yields_bind, yields_channel, yields_channelChanges,
      ChannelChanges.yields_applyAny, yields_write, yields_pure, and_assoc, exists_and_left,
      exists_eq_left, exists_const]
    constructor
    · rintro ⟨row, found, changes, asked, channel, t, merged, rfl, rfl⟩
      exact .channelUpdated found asked merged
    · intro h
      cases h with
      | channelUpdated found asked merged => exact ⟨_, found, _, asked, _, _, merged, rfl, rfl⟩
  | channelCensorship isCensored id rationale =>
    simp only [project, yields_bind, yields_channel, yields_write, yields_pure, exists_eq_left,
      exists_const, and_assoc, exists_and_left]
    constructor
    · rintro ⟨row, found, rfl, rfl⟩
      exact .channelCensorship found
    · intro h
      cases h with
      | channelCensorship found => exact ⟨_, found, rfl, rfl⟩
  | channelCategoryCreated id payload =>
    simp only [project, channelCategoryName, yields_bind, yields_changedName, yields_write,
      yields_pure, exists_eq_left, exists_const, and_assoc, exists_and_left]
    constructor
    · rintro ⟨rfl, rfl⟩
      exact .channelCategoryCreated
    · rintro ⟨⟩
      exact ⟨rfl, rfl⟩
  | channelCategoryUpdated id payload =>
    simp only [project, channelCategoryName, yields_bind, yields_channelCategory,
      yields_changedName, yields_write, yields_pure, exists_eq_left, exists_const, and_assoc,
      exists_and_left]
    constructor
    · rintro ⟨row, found, rfl, rfl⟩
      exact .channelCategoryUpdated found
    · intro h
      cases h with
      | channelCategoryUpdated found => exact ⟨_, found, rfl, rfl⟩
  | channelCategoryDeleted id =>
    simp only [project, yields_bind, yields_channelCategory, yields_writeWith, yields_pure,
      and_assoc, exists_and_left, exists_eq_left]
    constructor
    · rintro ⟨row, found, rfl, rfl⟩
      exact .channelCategoryDeleted found
    · intro h
      cases h with
      | channelCategoryDeleted found => exact ⟨_, found, rfl, rfl⟩
  | videoCategoryCreated id payload =>
    simp only [project, videoCategoryName, yields_bind, yields_changedName, yields_write,
      yields_pure, exists_eq_left, exists_const, and_assoc, exists_and_left]
    constructor
    · rintro ⟨rfl, rfl⟩
      exact .videoCategoryCreated
    · rintro ⟨⟩
      exact ⟨rfl, rfl⟩
  | videoCategoryUpdated id payload =>
    simp only [project, videoCategoryName, yields_bind, yields_videoCategory, yields_changedName,
      yields_write, yields_pure, exists_eq_left, exists_const, and_assoc, exists_and_left]
    constructor
    · rintro ⟨row, found, rfl, rfl⟩
      exact .videoCategoryUpdated found
    · intro h
      cases h with
      | videoCategoryUpdated found => exact ⟨_, found, rfl, rfl⟩
  | videoCategoryDeleted id =>
    simp only [project, yields_bind, yields_videoCategory, yields_writeWith, yields_pure, and_assoc,
      exists_and_left, exists_eq_left]
    constructor
    · rintro ⟨row, found, rfl, rfl⟩
      exact .videoCategoryDeleted found
    · intro h
      cases h with
      | videoCategoryDeleted found => exact ⟨_, found, rfl, rfl⟩
  | videoCreated actor channel id creation =>
    simp only [project, createVideo, yields_bind, yields_channel, VideoChanges.yields_read,
      VideoChanges.yields_applyAny, yields_write, yields_pure, exists_eq_left, exists_const,
      and_assoc, exists_and_left]
    constructor
    · rintro ⟨row, found, changes, read, video, t, merged, rfl, rfl⟩
      exact .videoCreated found read merged
    · intro h
      cases h with
      | videoCreated found read merged => exact ⟨_, found, _, read, _, _, merged, rfl, rfl⟩
  | videoUpdated actor id update =>
    -- An event about a stored video needs its row to be readable too, which is one premise more.
    simp only [project, updateVideo, yields_bind, yields_video, yields_videoChanges,
      VideoChanges.yields_applyAny, yields_write, yields_pure, exists_eq_left, exists_const,
      and_assoc, exists_and_left]
    constructor
    · rintro ⟨row, found, fits, changes, asked, video, t, merged, rfl, rfl⟩
      exact .videoUpdated found fits asked merged
    · intro h
      cases h with
      | videoUpdated found fits asked merged =>
        exact ⟨_, found, fits, _, asked, _, _, merged, rfl, rfl⟩
  | videoDeleted id =>
    simp only [project, yields_bind, yields_video, yields_writeWith, yields_pure, and_assoc,
      exists_and_left, exists_eq_left]
    constructor
    · rintro ⟨row, found, fits, rfl, rfl⟩
      exact .videoDeleted found fits
    · intro h
      cases h with
      | videoDeleted found fits => exact ⟨_, found, fits, rfl, rfl⟩
  | videoCensorship isCensored id rationale =>
    simp only [project, yields_bind, yields_video, yields_write, yields_pure, exists_eq_left,
      exists_const, and_assoc, exists_and_left]
    constructor
    · rintro ⟨row, found, fits, rfl, rfl⟩
      exact .videoCensorship found fits
    · intro h
      cases h with
      | videoCensorship found fits => exact ⟨_, found, fits, rfl, rfl⟩
  | featuredVideosSet videos =>
    simp only [project, yields_bind, yields_replaceSet, yields_pure, exists_eq_right_right',
      exists_and_right]
    constructor
    · rintro ⟨⟨change, replaced⟩, rfl⟩
      exact .featuredVideosSet replaced
    · intro h
      cases h with
      | featuredVideosSet replaced => exact ⟨⟨_, replaced⟩, rfl⟩

/-! ### Store errors -/

/-- The video whose row an event needs. -/
def video? : ContentEvent → Option VideoId
  | .videoUpdated _ id _ => some id
  | .videoDeleted id => some id
  | .videoCensorship _ id _ => some id
  | _ => none

/-- Looking for a video is refused by the storage if the video is there and its size is not
readable. -/
theorem fails_video_store {id : VideoId} {error : StoreError} :
    (video o id).Fails s (.store error) s' ↔
      error = .unreadable ∧ s' = s ∧ ∃ row, s.videos[id]? = some row ∧ ¬row.SizeFits := by
  simp only [fails_video, Occurrence.store_ne_inconsistent, and_false, false_or,
    ProjectionError.store.injEq]
  constructor
  · rintro ⟨⟨row, found, hsize, rfl⟩, rfl⟩
    exact ⟨rfl, rfl, row, found, hsize⟩
  · rintro ⟨rfl, rfl, row, found, hsize⟩
    exact ⟨⟨row, found, hsize, rfl⟩, rfl⟩

/-- The storage refuses one kind of content event only: one that needs a video whose row cannot be
read, and then it does refuse it. -/
theorem fails_project_store {e : ContentEvent} {error : StoreError} :
    (project o e).Fails s (.store error) s' ↔
      error = .unreadable ∧ s' = s ∧
        ∃ id row, e.video? = some id ∧ s.videos[id]? = some row ∧ ¬row.SizeFits := by
  cases e with
  | channelCreated actor id owner creation =>
    simp [project, createChannel, video?, ChannelChanges.not_fails_read_store,
      ChannelChanges.not_fails_applyAny_store]
  | channelUpdated actor id update =>
    rcases hpayload : update.payload with - | payload <;>
      simp [project, updateChannel, channelChanges, hpayload, video?,
        ChannelChanges.not_fails_read_store, ChannelChanges.not_fails_applyAny_store]
  | videoCreated actor channel id creation =>
    simp [project, createVideo, video?, VideoChanges.not_fails_read_store,
      VideoChanges.not_fails_applyAny_store]
  | videoUpdated actor id update =>
    rcases hpayload : update.payload with - | payload <;>
      simp [project, updateVideo, videoChanges, hpayload, video?, fails_video_store, -fails_video,
        VideoChanges.not_fails_read_store, VideoChanges.not_fails_applyAny_store]
  | videoDeleted id => simp [project, video?, fails_video_store, -fails_video]
  | videoCensorship isCensored id rationale =>
    simp [project, video?, fails_video_store, -fails_video]
  | channelCategoryCreated id payload => simp [project, channelCategoryName, video?]
  | channelCategoryUpdated id payload => simp [project, channelCategoryName, video?]
  | videoCategoryCreated id payload => simp [project, videoCategoryName, video?]
  | videoCategoryUpdated id payload => simp [project, videoCategoryName, video?]
  | _ => simp [project, video?]

end ContentEvent

/-! ### Acceptance -/

namespace ContentAcceptance

open Projection

/-- What the acceptance of a data object can do. -/
inductive Step (o : Occurrence) (s : Store) (acceptance : ContentAcceptance) :
    EventData → Store → Prop
  | accepted {object : DataObject} (found : s.dataObjects[acceptance.content]? = some object) :
      Step o s acceptance (.contentAccepted acceptance.content acceptance.storageProvider)
        ((s.saveDataObject { object with liaisonJudgement := .accepted }).setSlotAvailability
          acceptance.content .accepted o.timestamp).2

/-- **An acceptance marks the data object and every slot that shows it.** -/
theorem yields_project {acceptance : ContentAcceptance} {d : EventData} :
    (project o acceptance).Yields s d s' ↔ Step o s acceptance d s' := by
  simp only [project, yields_bind, yields_dataObject, yields_write, yields_writeWith, yields_pure,
    and_assoc, exists_and_left, exists_eq_left, exists_const]
  constructor
  · rintro ⟨object, found, rfl, rfl⟩
    exact .accepted found
  · intro h
    cases h with
    | accepted found => exact ⟨_, found, rfl, rfl⟩

/-- Data objects always load, so an acceptance is never refused by the storage. -/
theorem not_fails_project_store {acceptance : ContentAcceptance} {error : StoreError} :
    ¬(project o acceptance).Fails s (.store error) s' := by
  simp [project]

end ContentAcceptance

end ChainProjection
