import ChainProjection.Forum.Event
import ChainProjection.Wire.Asset

/-!
# Content and storage events

What happens in the content directory and to stored data, with the parameters read.  Parameters are
read in order and the first one that does not decode is reported; a few that the chain sends are not
looked at.
-/

namespace ChainProjection

/-- What comes with a new channel. -/
structure ChannelCreation where
  assets : List RawAsset
  payload : Bytes
  rewardAccount : Option String
  deriving DecidableEq

/-- What comes with an update of a channel. -/
structure ChannelUpdate where
  assets : Option (List RawAsset)
  payload : Option Bytes
  rewardAccount : Option String
  deriving DecidableEq

/-- What comes with a new video. -/
structure VideoCreation where
  assets : List RawAsset
  payload : Bytes
  deriving DecidableEq

/-- What comes with an update of a video. -/
structure VideoUpdate where
  assets : Option (List RawAsset)
  payload : Option Bytes
  deriving DecidableEq

/-- A content event. -/
inductive ContentEvent where
  | channelCreated (actor : ContentActor) (channel : ChannelId) (owner : ChannelOwner)
      (creation : ChannelCreation)
  | channelUpdated (actor : ContentActor) (channel : ChannelId) (update : ChannelUpdate)
  | channelCensorship (isCensored : Bool) (channel : ChannelId) (rationale : String)
  | channelCategoryCreated (category : ChannelCategoryId) (payload : Bytes)
  | channelCategoryUpdated (category : ChannelCategoryId) (payload : Bytes)
  | channelCategoryDeleted (category : ChannelCategoryId)
  | videoCategoryCreated (category : VideoCategoryId) (payload : Bytes)
  | videoCategoryUpdated (category : VideoCategoryId) (payload : Bytes)
  | videoCategoryDeleted (category : VideoCategoryId)
  | videoCreated (actor : ContentActor) (channel : ChannelId) (video : VideoId)
      (creation : VideoCreation)
  | videoUpdated (actor : ContentActor) (video : VideoId) (update : VideoUpdate)
  | videoDeleted (video : VideoId)
  | videoCensorship (isCensored : Bool) (video : VideoId) (rationale : String)
  | featuredVideosSet (videos : List VideoId)
  deriving DecidableEq

/-- A storage event: a provider accepted a data object. -/
structure ContentAcceptance where
  content : ContentId
  storageProvider : UInt64
  deriving DecidableEq

namespace ContentEvent

open Json.Fields (struct)
open Wire (required withDefault)

/-- The owner of a channel, out of the chain's record of it. -/
def decodeOwner : Json.Decoder ChannelOwner := struct "ChannelRecord" (required "owner")

/-- What comes with a new channel. -/
def decodeChannelCreation : Json.Decoder ChannelCreation :=
  struct "ChannelCreationParameters" <|
    ChannelCreation.mk <$> withDefault "assets" [] <*> required "meta" <*>
      withDefault "reward_account" none

/-- What comes with an update of a channel. -/
def decodeChannelUpdate : Json.Decoder ChannelUpdate :=
  struct "ChannelUpdateParameters" <|
    ChannelUpdate.mk <$> withDefault "assets" none <*> withDefault "new_meta" none <*>
      withDefault "reward_account" none

/-- The payload of a new category. -/
def decodeCategoryCreation : Json.Decoder Bytes :=
  struct "CategoryCreationParameters" (required "meta")

/-- The payload of an update of a category. -/
def decodeCategoryUpdate : Json.Decoder Bytes :=
  struct "CategoryUpdateParameters" (required "new_meta")

/-- What comes with a new video. -/
def decodeVideoCreation : Json.Decoder VideoCreation :=
  struct "VideoCreationParameters" <|
    VideoCreation.mk <$> withDefault "assets" [] <*> required "meta"

/-- What comes with an update of a video. -/
def decodeVideoUpdate : Json.Decoder VideoUpdate :=
  struct "VideoUpdateParameters" <|
    VideoUpdate.mk <$> withDefault "assets" none <*> withDefault "new_meta" none

/-- Reads a censorship of a channel. -/
def readChannelCensorship (isCensored : Bool) : Reader ContentEvent := fun o => do
  let channel ← o.param 1 "channel_id"
  let rationale ← o.textParam 2 "rationale"
  return .channelCensorship isCensored channel rationale

/-- Reads a censorship of a video. -/
def readVideoCensorship (isCensored : Bool) : Reader ContentEvent := fun o => do
  let video ← o.param 1 "video_id"
  let rationale ← o.textParam 2 "rationale"
  return .videoCensorship isCensored video rationale

/-- The reader of the content event with a name, if there is such an event. -/
def reader? : String → Option (Reader ContentEvent)
  | "content.ChannelCreated" => some fun o => do
    let actor ← o.param 0 "actor"
    let channel ← o.param 1 "channel_id"
    let owner ← o.paramWith decodeOwner 2 "channel"
    let creation ← o.paramWith decodeChannelCreation 3 "params"
    return .channelCreated actor channel owner creation
  | "content.ChannelUpdated" => some fun o => do
    let actor ← o.param 0 "actor"
    let channel ← o.param 1 "channel_id"
    let update ← o.paramWith decodeChannelUpdate 3 "params"
    return .channelUpdated actor channel update
  | "content.ChannelCensored" => some (readChannelCensorship true)
  | "content.ChannelUncensored" => some (readChannelCensorship false)
  | "content.ChannelCategoryCreated" => some fun o => do
    let category ← o.param 0 "category_id"
    let payload ← o.paramWith decodeCategoryCreation 2 "params"
    return .channelCategoryCreated category payload
  | "content.ChannelCategoryUpdated" => some fun o => do
    let category ← o.param 1 "category_id"
    let payload ← o.paramWith decodeCategoryUpdate 2 "params"
    return .channelCategoryUpdated category payload
  | "content.ChannelCategoryDeleted" => some fun o => do
    let category ← o.param 1 "category_id"
    return .channelCategoryDeleted category
  | "content.VideoCategoryCreated" => some fun o => do
    let category ← o.param 1 "category_id"
    let payload ← o.paramWith decodeCategoryCreation 2 "params"
    return .videoCategoryCreated category payload
  | "content.VideoCategoryUpdated" => some fun o => do
    let category ← o.param 1 "category_id"
    let payload ← o.paramWith decodeCategoryUpdate 2 "params"
    return .videoCategoryUpdated category payload
  | "content.VideoCategoryDeleted" => some fun o => do
    let category ← o.param 1 "category_id"
    return .videoCategoryDeleted category
  | "content.VideoCreated" => some fun o => do
    let actor ← o.param 0 "actor"
    let channel ← o.param 1 "channel_id"
    let video ← o.param 2 "video_id"
    let creation ← o.paramWith decodeVideoCreation 3 "params"
    return .videoCreated actor channel video creation
  | "content.VideoUpdated" => some fun o => do
    let actor ← o.param 0 "actor"
    let video ← o.param 1 "video_id"
    let update ← o.paramWith decodeVideoUpdate 2 "params"
    return .videoUpdated actor video update
  | "content.VideoDeleted" => some fun o => do
    let video ← o.param 1 "video_id"
    return .videoDeleted video
  | "content.VideoCensored" => some (readVideoCensorship true)
  | "content.VideoUncensored" => some (readVideoCensorship false)
  | "content.FeaturedVideosSet" => some fun o => do
    let videos ← o.param 1 "video_ids"
    return .featuredVideosSet videos
  | _ => none

end ContentEvent

namespace ContentAcceptance

/-- The reader of the storage event with a name, if there is such an event. -/
def reader? : String → Option (Reader ContentAcceptance)
  | "storage.ContentAccepted" => some fun o => do
    let content : Bytes ← o.param 0 "content_id"
    let provider ← o.param 1 "storage_provider_id"
    return ⟨.ofContent content, provider⟩
  | _ => none

end ContentAcceptance

end ChainProjection
