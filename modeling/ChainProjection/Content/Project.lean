import ChainProjection.Content.Event
import ChainProjection.Projection.Metadata

/-!
# Projecting content and storage events

What each event of the content directory does to the store, and what the acceptance of a data object
does.  A payload is read and checked before anything is written; an update without a payload still
moves the time of the last change.
-/

namespace ChainProjection

namespace ContentEvent

open Projection

/-! ### Channels -/

/-- Makes the owner of a channel known, if it is a member. -/
def knowOwner (o : Occurrence) : ChannelOwner → Projection Unit
  | .member id => discard (member o id)
  | .curatorGroup _ => return ()

/-- The changes an update of a channel asks for; without a payload it asks for none. -/
def channelChanges (o : Occurrence) (update : ChannelUpdate) :
    Projection (Option ChannelChanges) :=
  match update.payload with
  | none => return none
  | some payload => ChannelChanges.read o payload (update.assets.getD [])

/-- A new channel.  The member who owns it is made known even where the payload is left out. -/
def createChannel (o : Occurrence) (actor : ContentActor) (id : ChannelId) (owner : ChannelOwner)
    (creation : ChannelCreation) : Projection EventData := do
  let changes ← ChannelChanges.read o creation.payload creation.assets
  knowOwner o owner
  let channel : Channel := {
    id := id
    owner := some owner
    rewardAccount := creation.rewardAccount
    createdInBlock := o.block
    createdAt := o.timestamp
    updatedAt := o.timestamp }
  let channel ← ChannelChanges.applyAny changes o (actor.assetOwner id) channel
  write (·.saveChannel channel)
  return .channelCreated id

/-- An update of a channel. -/
def updateChannel (o : Occurrence) (actor : ContentActor) (id : ChannelId)
    (update : ChannelUpdate) : Projection EventData := do
  let channel ← Projection.channel o id
  let changes ← channelChanges o update
  let channel ← ChannelChanges.applyAny changes o (actor.assetOwner id) channel
  write (·.saveChannel { channel with
    rewardAccount := update.rewardAccount <|> channel.rewardAccount
    updatedAt := o.timestamp })
  return .channelUpdated id

/-! ### Videos -/

/-- The changes an update of a video asks for; without a payload it asks for none. -/
def videoChanges (o : Occurrence) (update : VideoUpdate) : Projection (Option VideoChanges) :=
  match update.payload with
  | none => return none
  | some payload => VideoChanges.read o payload (update.assets.getD [])

/-- A new video in a channel. -/
def createVideo (o : Occurrence) (actor : ContentActor) (channel : ChannelId) (id : VideoId)
    (creation : VideoCreation) : Projection EventData := do
  let row ← Projection.channel o channel
  let changes ← VideoChanges.read o creation.payload creation.assets
  let video : Video := {
    id := id
    channel := row.id
    createdInBlock := o.block
    createdAt := o.timestamp
    updatedAt := o.timestamp }
  let video ← VideoChanges.applyAny changes o (actor.assetOwner row.id) video
  write (·.saveVideo video)
  return .videoCreated channel id

/-- An update of a video. -/
def updateVideo (o : Occurrence) (actor : ContentActor) (id : VideoId) (update : VideoUpdate) :
    Projection EventData := do
  let video ← Projection.video o id
  let changes ← videoChanges o update
  let video ← VideoChanges.applyAny changes o (actor.assetOwner video.channel) video
  write (·.saveVideo { video with updatedAt := o.timestamp })
  return .videoUpdated id

/-! ### Categories -/

/-- A category that comes into being with an event. -/
def newCategory {entity : Entity} (o : Occurrence) (id : Id entity) (name : Option String) :
    ContentCategory entity :=
  ⟨id, name, o.block, o.timestamp, o.timestamp⟩

/-- The name of a channel category after a payload. -/
def channelCategoryName (o : Occurrence) (payload : Bytes) (current : Option String) :
    Projection (Option String) :=
  changedName o "channel category metadata" Metadata.channelCategory payload current

/-- The name of a video category after a payload. -/
def videoCategoryName (o : Occurrence) (payload : Bytes) (current : Option String) :
    Projection (Option String) :=
  changedName o "video category metadata" Metadata.videoCategory payload current

/-! ### All events -/

/-- What an event does; the particulars of its record. -/
def project (o : Occurrence) : ContentEvent → Projection EventData
  | .channelCreated actor channel owner creation => createChannel o actor channel owner creation
  | .channelUpdated actor channel update => updateChannel o actor channel update
  | .channelCensorship isCensored channel rationale => do
    let row ← Projection.channel o channel
    write (·.saveChannel { row with isCensored := isCensored, updatedAt := o.timestamp })
    return .channelCensorshipUpdated channel isCensored rationale
  | .channelCategoryCreated category payload => do
    let name ← channelCategoryName o payload none
    write (·.saveChannelCategory (newCategory o category name))
    return .channelCategoryCreated category
  | .channelCategoryUpdated category payload => do
    let row ← channelCategory o category
    let name ← channelCategoryName o payload row.name
    write (·.saveChannelCategory { row with name := name, updatedAt := o.timestamp })
    return .channelCategoryUpdated category
  | .channelCategoryDeleted category => do
    let row ← channelCategory o category
    let _ ← writeWith (·.removeChannelCategory row.id)
    return .channelCategoryDeleted category
  | .videoCategoryCreated category payload => do
    let name ← videoCategoryName o payload none
    write (·.saveVideoCategory (newCategory o category name))
    return .videoCategoryCreated category
  | .videoCategoryUpdated category payload => do
    let row ← videoCategory o category
    let name ← videoCategoryName o payload row.name
    write (·.saveVideoCategory { row with name := name, updatedAt := o.timestamp })
    return .videoCategoryUpdated category
  | .videoCategoryDeleted category => do
    let row ← videoCategory o category
    let _ ← writeWith (·.removeVideoCategory row.id)
    return .videoCategoryDeleted category
  | .videoCreated actor channel video creation => createVideo o actor channel video creation
  | .videoUpdated actor video update => updateVideo o actor video update
  | .videoDeleted video => do
    let row ← Projection.video o video
    let _ ← writeWith (·.removeVideo row.id)
    return .videoDeleted video
  | .videoCensorship isCensored video rationale => do
    let row ← Projection.video o video
    write (·.saveVideo { row with isCensored := isCensored, updatedAt := o.timestamp })
    return .videoCensorshipUpdated video isCensored rationale
  | .featuredVideosSet videos => do
    let _ ← replaceSet o .featuredVideos (videos.map (·.text))
    return .featuredVideosSet videos

end ContentEvent

namespace ContentAcceptance

open Projection

/-- Accepts a data object, and with it every slot that names it. -/
def project (o : Occurrence) (acceptance : ContentAcceptance) : Projection EventData := do
  let object ← dataObject o acceptance.content
  let accepted := { object with liaisonJudgement := .accepted }
  write (·.saveDataObject accepted)
  let _ ← writeWith fun store =>
    store.setSlotAvailability acceptance.content accepted.liaisonJudgement.availability o.timestamp
  return .contentAccepted acceptance.content acceptance.storageProvider

end ContentAcceptance

end ChainProjection
