import ChainProjection.Content.Entities
import ChainProjection.Forum.Entities
import ChainProjection.Wire.Event

/-!
# Stored forms

A row is stored in columns of a few plain types: texts, truth values, signed 64-bit integers and
JSON values.  `columns` gives the stored form of a row and `ofColumns` reads it back.  Ids are
stored as their texts, a status as the name of its variant beside its event, and an unsigned number
as the signed one with the same bits.  Row numbers stand as the storage hands them out.

Reading takes most unsigned numbers with the bits they have.  The particulars of media and the code
of a license are read with a check instead, and a number that came out negative is refused.  So a
few things can be stored that the storage does not give back, and a few others can be written that
it refuses; `StoreError` has a constructor for each.
-/

namespace ChainProjection

/-! ### What the storage refuses -/

/-- What the storage refuses. -/
inductive StoreError where
  /-- A second record with the id of one in the log. -/
  | duplicateEvent
  /-- A second poll for a thread. -/
  | duplicatePoll
  /-- A second worker with the group and number of one there is. -/
  | duplicateWorker
  /-- A cursor past the signed 64-bit integers. -/
  | unwritable
  /-- Columns that are no stored form of a row. -/
  | unreadable
  deriving DecidableEq, Repr

/-- The words of a store error. -/
def StoreError.message : StoreError → String
  | .duplicateEvent =>
    "Store error: error returned from database: (code: 1555) UNIQUE constraint failed: events.id"
  | .duplicatePoll =>
    "Store error: error returned from database: (code: 2067) UNIQUE constraint failed: " ++
      "forum_polls.thread_id"
  | .duplicateWorker =>
    "Store error: error returned from database: (code: 2067) UNIQUE constraint failed: " ++
      "workers.group_id, workers.runtime_id"
  | .unwritable => "Store error: error occurred while encoding a value"
  | .unreadable => "Store error: error occurred while decoding"

/-! ### Columns -/

namespace Columns

/-- What a reading comes to as a part of a row. -/
def part {ε α : Type} (reading : Except ε α) : Except StoreError α :=
  reading.mapError fun _ => .unreadable

/-- The stored form of a 32-bit number. -/
def ofUInt32 (n : UInt32) : Int64 := n.toUInt64.toInt64

/-- A 64-bit number that must not be stored as a negative one. -/
def uint64 (n : Int64) : Except StoreError UInt64 :=
  if 0 ≤ n.toInt then .ok n.toUInt64 else .error .unreadable

/-- A number that must be stored as one of 32 bits. -/
def uint32 (n : Int64) : Except StoreError UInt32 :=
  if 0 ≤ n.toInt ∧ n.toInt < UInt32.size then .ok n.toUInt64.toUInt32 else .error .unreadable

end Columns

open Columns

/-! ### Forum -/

/-- The stored form of a category. -/
structure CategoryColumns where
  id : String
  parentId : Option String
  title : String
  description : String
  statusKind : String
  statusEventId : Option String
  createdAt : Int64
  updatedAt : Int64

namespace Category

/-- The stored form of a category. -/
def columns (category : Category) : CategoryColumns where
  id := category.id.text
  parentId := category.parent.map (·.text)
  title := category.title
  description := category.description
  statusKind := category.status.kind
  statusEventId := category.status.cause?.map (·.text)
  createdAt := category.createdAt
  updatedAt := category.updatedAt

/-- Reads a category from its stored form. -/
def ofColumns (row : CategoryColumns) : Except StoreError Category := do
  let status ← part (CategoryStatus.ofColumns row.statusKind (row.statusEventId.map Id.mk))
  return {
    id := ⟨row.id⟩
    parent := row.parentId.map Id.mk
    title := row.title
    description := row.description
    status := status
    createdAt := row.createdAt
    updatedAt := row.updatedAt }

end Category

/-- The stored form of a thread. -/
structure ThreadColumns where
  id : String
  categoryId : String
  authorId : String
  title : String
  isSticky : Bool
  statusKind : String
  statusEventId : Option String
  createdAt : Int64
  updatedAt : Int64

namespace Thread

/-- The stored form of a thread. -/
def columns (thread : Thread) : ThreadColumns where
  id := thread.id.text
  categoryId := thread.category.text
  authorId := thread.author.text
  title := thread.title
  isSticky := thread.isSticky
  statusKind := thread.status.kind
  statusEventId := thread.status.cause?.map (·.text)
  createdAt := thread.createdAt
  updatedAt := thread.updatedAt

/-- Reads a thread from its stored form. -/
def ofColumns (row : ThreadColumns) : Except StoreError Thread := do
  let status ← part (ThreadStatus.ofColumns row.statusKind (row.statusEventId.map Id.mk))
  return {
    id := ⟨row.id⟩
    category := ⟨row.categoryId⟩
    author := ⟨row.authorId⟩
    title := row.title
    isSticky := row.isSticky
    status := status
    createdAt := row.createdAt
    updatedAt := row.updatedAt }

end Thread

/-- The stored form of a post. -/
structure PostColumns where
  id : String
  threadId : String
  authorId : String
  text : String
  statusKind : String
  statusEventId : Option String
  originKind : String
  originEventId : Option String
  repliesToId : Option String
  createdAt : Int64
  updatedAt : Int64

namespace Post

/-- The stored form of a post. -/
def columns (post : Post) : PostColumns where
  id := post.id.text
  threadId := post.thread.text
  authorId := post.author.text
  text := post.text
  statusKind := post.status.kind
  statusEventId := post.status.cause?.map (·.text)
  originKind := post.origin.kind
  originEventId := post.origin.cause?.map (·.text)
  repliesToId := post.repliesTo.map (·.text)
  createdAt := post.createdAt
  updatedAt := post.updatedAt

/-- Reads a post from its stored form. -/
def ofColumns (row : PostColumns) : Except StoreError Post := do
  let status ← part (PostStatus.ofColumns row.statusKind (row.statusEventId.map Id.mk))
  let origin ← part (PostOrigin.ofColumns row.originKind (row.originEventId.map Id.mk))
  return {
    id := ⟨row.id⟩
    thread := ⟨row.threadId⟩
    author := ⟨row.authorId⟩
    text := row.text
    status := status
    origin := origin
    repliesTo := row.repliesToId.map Id.mk
    createdAt := row.createdAt
    updatedAt := row.updatedAt }

end Post

/-! ### Asset slots -/

/-- The stored form of an asset slot: links as a JSON list, or the id of a data object, beside an
availability. -/
structure SlotColumns where
  urls : Option Json
  dataObjectId : Option String
  availability : Option String

namespace SlotColumns

/-- The stored form of a slot. -/
def ofSlot : Option AssetRef → SlotColumns
  | none => ⟨none, none, none⟩
  | some (.urls links) => ⟨some (Wire.encode links), none, some AssetAvailability.accepted.stored⟩
  | some (.dataObject id availability) => ⟨none, some id.text, some availability.stored⟩

/-- Reads a slot from its stored form. -/
def slot (row : SlotColumns) : Except StoreError (Option AssetRef) :=
  match row.urls, row.dataObjectId with
  | some links, _ => do
    return some (.urls (← part (Wire.decode links)))
  | none, some id => do
    let stored := row.availability.getD AssetAvailability.pending.stored
    return some (.dataObject ⟨id⟩ (← part (AssetAvailability.ofStored stored)))
  | none, none => return none

end SlotColumns

/-! ### Content -/

/-- The stored form of a channel. -/
structure ChannelColumns where
  id : String
  ownerMemberId : Option String
  ownerCuratorGroupId : Option String
  categoryId : Option String
  rewardAccount : Option String
  title : Option String
  description : Option String
  isPublic : Option Bool
  isCensored : Bool
  languageId : Option String
  coverPhoto : SlotColumns
  avatarPhoto : SlotColumns
  createdInBlock : Int64
  createdAt : Int64
  updatedAt : Int64

namespace Channel

/-- The stored form of a channel. -/
def columns (channel : Channel) : ChannelColumns where
  id := channel.id.text
  ownerMemberId := (channel.owner.bind ChannelOwner.member?).map (·.text)
  ownerCuratorGroupId := (channel.owner.bind ChannelOwner.curatorGroup?).map (·.text)
  categoryId := channel.category.map (·.text)
  rewardAccount := channel.rewardAccount
  title := channel.title
  description := channel.description
  isPublic := channel.isPublic
  isCensored := channel.isCensored
  languageId := channel.language
  coverPhoto := .ofSlot channel.coverPhoto
  avatarPhoto := .ofSlot channel.avatarPhoto
  createdInBlock := channel.createdInBlock.toInt64
  createdAt := channel.createdAt
  updatedAt := channel.updatedAt

/-- The owner two columns name; a member comes before a curator group. -/
def ownerOf (member curatorGroup : Option String) : Option ChannelOwner :=
  match member, curatorGroup with
  | some id, _ => some (.member ⟨id⟩)
  | none, some id => some (.curatorGroup ⟨id⟩)
  | none, none => none

/-- Reads a channel from its stored form. -/
def ofColumns (row : ChannelColumns) : Except StoreError Channel := do
  let coverPhoto ← row.coverPhoto.slot
  let avatarPhoto ← row.avatarPhoto.slot
  return {
    id := ⟨row.id⟩
    owner := ownerOf row.ownerMemberId row.ownerCuratorGroupId
    category := row.categoryId.map Id.mk
    rewardAccount := row.rewardAccount
    title := row.title
    description := row.description
    isPublic := row.isPublic
    isCensored := row.isCensored
    language := row.languageId
    coverPhoto := coverPhoto
    avatarPhoto := avatarPhoto
    createdInBlock := row.createdInBlock.toUInt64
    createdAt := row.createdAt
    updatedAt := row.updatedAt }

end Channel

/-- The stored form of a video; the columns of its media particulars say nothing where it has
none. -/
structure VideoColumns where
  id : String
  channelId : String
  categoryId : Option String
  title : Option String
  description : Option String
  duration : Option Int64
  languageId : Option String
  licenseId : Option Nat
  hasMarketing : Option Bool
  publishedBefore : Option Int64
  isPublic : Option Bool
  isExplicit : Option Bool
  isCensored : Bool
  isFeatured : Bool
  thumbnailPhoto : SlotColumns
  media : SlotColumns
  hasMediaMetadata : Bool
  mediaCodecName : Option String
  mediaContainer : Option String
  mediaMimeType : Option String
  mediaPixelWidth : Option Int64
  mediaPixelHeight : Option Int64
  mediaSize : Option Int64
  createdInBlock : Int64
  createdAt : Int64
  updatedAt : Int64

namespace Video

/-- The stored form of a video. -/
def columns (video : Video) : VideoColumns :=
  let media := video.mediaMetadata.getD {}
  { id := video.id.text
    channelId := video.channel.text
    categoryId := video.category.map (·.text)
    title := video.title
    description := video.description
    duration := video.duration.map ofUInt32
    languageId := video.language
    licenseId := video.license
    hasMarketing := video.hasMarketing
    publishedBefore := video.publishedBefore
    isPublic := video.isPublic
    isExplicit := video.isExplicit
    isCensored := video.isCensored
    isFeatured := video.isFeatured
    thumbnailPhoto := .ofSlot video.thumbnailPhoto
    media := .ofSlot video.media
    hasMediaMetadata := video.mediaMetadata.isSome
    mediaCodecName := media.codecName
    mediaContainer := media.container
    mediaMimeType := media.mimeMediaType
    mediaPixelWidth := media.pixelWidth.map ofUInt32
    mediaPixelHeight := media.pixelHeight.map ofUInt32
    mediaSize := media.size.map (·.toInt64)
    createdInBlock := video.createdInBlock.toInt64
    createdAt := video.createdAt
    updatedAt := video.updatedAt }

/-- Reads the particulars of the media from their columns. -/
def mediaOfColumns (row : VideoColumns) : Except StoreError (Option MediaMetadata) :=
  if row.hasMediaMetadata then do
    let pixelWidth ← row.mediaPixelWidth.mapM uint32
    let pixelHeight ← row.mediaPixelHeight.mapM uint32
    let size ← row.mediaSize.mapM uint64
    return some {
      codecName := row.mediaCodecName
      container := row.mediaContainer
      mimeMediaType := row.mediaMimeType
      pixelWidth := pixelWidth
      pixelHeight := pixelHeight
      size := size }
  else return none

/-- Reads a video from its stored form. -/
def ofColumns (row : VideoColumns) : Except StoreError Video := do
  let mediaMetadata ← mediaOfColumns row
  let duration ← row.duration.mapM uint32
  let thumbnailPhoto ← row.thumbnailPhoto.slot
  let media ← row.media.slot
  return {
    id := ⟨row.id⟩
    channel := ⟨row.channelId⟩
    category := row.categoryId.map Id.mk
    title := row.title
    description := row.description
    duration := duration
    language := row.languageId
    license := row.licenseId
    hasMarketing := row.hasMarketing
    publishedBefore := row.publishedBefore
    isPublic := row.isPublic
    isExplicit := row.isExplicit
    isCensored := row.isCensored
    isFeatured := row.isFeatured
    thumbnailPhoto := thumbnailPhoto
    media := media
    mediaMetadata := mediaMetadata
    createdInBlock := row.createdInBlock.toUInt64
    createdAt := row.createdAt
    updatedAt := row.updatedAt }

end Video

/-- The stored form of a channel category or a video category. -/
structure ContentCategoryColumns where
  id : String
  name : Option String
  createdInBlock : Int64
  createdAt : Int64
  updatedAt : Int64

namespace ContentCategory

/-- The stored form of a category. -/
def columns {entity : Entity} (category : ContentCategory entity) : ContentCategoryColumns where
  id := category.id.text
  name := category.name
  createdInBlock := category.createdInBlock.toInt64
  createdAt := category.createdAt
  updatedAt := category.updatedAt

/-- Reads a category from its stored form. -/
def ofColumns {entity : Entity} (row : ContentCategoryColumns) :
    Except StoreError (ContentCategory entity) :=
  .ok ⟨⟨row.id⟩, row.name, row.createdInBlock.toUInt64, row.createdAt, row.updatedAt⟩

end ContentCategory

/-- The stored form of a data object. -/
structure DataObjectColumns where
  id : String
  ownerKind : String
  ownerId : String
  createdInBlock : Int64
  typeId : Int64
  size : Int64
  liaisonJudgement : String
  ipfsContentId : String

namespace DataObject

/-- The stored form of a data object. -/
def columns (object : DataObject) : DataObjectColumns where
  id := object.id.text
  ownerKind := object.owner.kind
  ownerId := object.owner.id
  createdInBlock := object.createdInBlock.toInt64
  typeId := object.typeId.toInt64
  size := object.size.toInt64
  liaisonJudgement := object.liaisonJudgement.stored
  ipfsContentId := object.ipfsContentId

/-- Reads a data object from its stored form. -/
def ofColumns (row : DataObjectColumns) : Except StoreError DataObject := do
  let owner ← part (DataObjectOwner.ofColumns row.ownerKind row.ownerId)
  let judgement ← part (LiaisonJudgement.ofStored row.liaisonJudgement)
  return {
    id := ⟨row.id⟩
    owner := owner
    createdInBlock := row.createdInBlock.toUInt64
    typeId := row.typeId.toUInt64
    size := row.size.toUInt64
    liaisonJudgement := judgement
    ipfsContentId := row.ipfsContentId }

end DataObject

/-- The stored form of a license. -/
structure LicenseColumns where
  code : Option Int64
  attribution : Option String
  customText : Option String
  createdInBlock : Int64

namespace StoredLicense

/-- The stored form of a license. -/
def columns (stored : StoredLicense) : LicenseColumns where
  code := stored.license.code.map ofUInt32
  attribution := stored.license.attribution
  customText := stored.license.customText
  createdInBlock := stored.createdInBlock.toInt64

end StoredLicense

namespace Metadata.License

/-- Reads a license from its stored form. -/
def ofColumns (row : LicenseColumns) : Except StoreError Metadata.License := do
  return ⟨← row.code.mapM uint32, row.attribution, row.customText⟩

end Metadata.License

/-! ### Records -/

/-- The stored form of an event record; its particulars are a JSON value. -/
structure EventColumns where
  id : String
  eventType : String
  inBlock : Int64
  indexInBlock : Int64
  inExtrinsic : Option String
  createdAt : Int64
  data : Json

namespace EventRecord

/-- The stored form of a record. -/
def columns (record : EventRecord) : EventColumns where
  id := record.id.text
  eventType := record.eventType
  inBlock := record.inBlock.toInt64
  indexInBlock := ofUInt32 record.indexInBlock
  inExtrinsic := record.inExtrinsic
  createdAt := record.createdAt
  data := Wire.encode record.data

/-- Reads a record from its stored form. -/
def ofColumns (row : EventColumns) : Except StoreError EventRecord := do
  let data ← part (Wire.decode row.data)
  return {
    id := ⟨row.id⟩
    eventType := row.eventType
    inBlock := row.inBlock.toUInt64
    indexInBlock := row.indexInBlock.toUInt64.toUInt32
    inExtrinsic := row.inExtrinsic
    createdAt := row.createdAt
    data := data }

end EventRecord

end ChainProjection
