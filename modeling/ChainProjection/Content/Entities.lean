import ChainProjection.Asset
import ChainProjection.Metadata.Messages

/-!
# Content entities

Channels hold videos; both carry asset slots.  Data objects stand for uploads.  Times are unix
milliseconds of the block that caused the write.
-/

namespace ChainProjection

/-- A content channel. -/
structure Channel where
  id : ChannelId
  owner : Option ChannelOwner := none
  category : Option ChannelCategoryId := none
  rewardAccount : Option String := none
  title : Option String := none
  description : Option String := none
  isPublic : Option Bool := none
  isCensored : Bool := false
  /-- The language code. -/
  language : Option String := none
  coverPhoto : Option AssetRef := none
  avatarPhoto : Option AssetRef := none
  createdInBlock : UInt64
  createdAt : Int64
  updatedAt : Int64
  deriving DecidableEq

/-- The encoding and dimensions of the media of a video. -/
structure MediaMetadata where
  codecName : Option String := none
  container : Option String := none
  mimeMediaType : Option String := none
  pixelWidth : Option UInt32 := none
  pixelHeight : Option UInt32 := none
  /-- The size of the uploaded media in bytes. -/
  size : Option UInt64 := none
  deriving DecidableEq

/-- A video. -/
structure Video where
  id : VideoId
  channel : ChannelId
  category : Option VideoCategoryId := none
  title : Option String := none
  description : Option String := none
  /-- The duration in seconds. -/
  duration : Option UInt32 := none
  /-- The language code. -/
  language : Option String := none
  /-- The row number of the license. -/
  license : Option Nat := none
  hasMarketing : Option Bool := none
  /-- When the video was first published elsewhere, in unix milliseconds. -/
  publishedBefore : Option Int64 := none
  isPublic : Option Bool := none
  isExplicit : Option Bool := none
  isCensored : Bool := false
  isFeatured : Bool := false
  thumbnailPhoto : Option AssetRef := none
  media : Option AssetRef := none
  mediaMetadata : Option MediaMetadata := none
  createdInBlock : UInt64
  createdAt : Int64
  updatedAt : Int64
  deriving DecidableEq

/-- A channel category or a video category. -/
structure ContentCategory (entity : Entity) where
  id : Id entity
  name : Option String
  createdInBlock : UInt64
  createdAt : Int64
  updatedAt : Int64
  deriving DecidableEq

/-- A license as it is kept, with the block it came with. -/
structure StoredLicense where
  license : Metadata.License
  createdInBlock : UInt64
  deriving DecidableEq

/-- A data object. -/
structure DataObject where
  id : ContentId
  owner : DataObjectOwner
  createdInBlock : UInt64
  typeId : UInt64
  /-- The size in bytes. -/
  size : UInt64
  liaisonJudgement : LiaisonJudgement
  /-- The content-addressed id. -/
  ipfsContentId : String
  deriving DecidableEq

end ChainProjection
