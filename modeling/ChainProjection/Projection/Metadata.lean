import ChainProjection.Date
import ChainProjection.Projection.Assets

/-!
# Changes carried by payloads

A payload is read into the changes it asks for before anything is written: every category, language
and asset place it names is checked then.  Applying the changes merges them into the entity; a field
the payload does not carry keeps its value.  A payload that does not read at all asks for no change.
-/

namespace ChainProjection

open Metadata (CategoryMetadata ChannelMetadata VideoMetadata MediaType)

namespace Projection

/-- The message of a payload; one that does not read is left out. -/
def readPayload {M : Type} (o : Occurrence) (field : String) (schema : Protobuf.Schema M)
    (payload : Bytes) : Projection (Option M) := do
  match schema.decode payload.toList with
  | .ok message => return some message
  | .error failure =>
    leaveOut o field (.undecodablePayload failure)
    return none

/-- The language code a payload names; an empty one names none. -/
def namedLanguage (o : Occurrence) (code : Option String) : Projection (Option String) := do
  match code with
  | none => return none
  | some code =>
    if code.isEmpty then return none
    else return some (← check o (Language.validate code))

/-- The language after a change. -/
def changedLanguage (o : Occurrence) (code current : Option String) :
    Projection (Option String) := do
  match code with
  | none => return current
  | some code => return some (← language o code)

end Projection

/-! ### Channels -/

/-- What a payload asks to change of a channel. -/
structure ChannelChanges where
  title : Option String
  description : Option String
  isPublic : Option Bool
  language : Option String
  category : Option ChannelCategoryId
  coverPhoto : Option RawAsset
  avatarPhoto : Option RawAsset

namespace ChannelChanges

open Projection

/-- Reads and checks the payload of a channel. -/
def read (o : Occurrence) (payload : Bytes) (assets : List RawAsset) :
    Projection (Option ChannelChanges) := do
  match ← readPayload o "channel metadata" Metadata.channel payload with
  | none => return none
  | some m =>
    let category ← m.category.mapM fun number => channelCategory o (.ofNumber number)
    let language ← namedLanguage o m.language
    let coverPhoto ← m.coverPhoto.mapM (selectAsset o assets)
    let avatarPhoto ← m.avatarPhoto.mapM (selectAsset o assets)
    return some {
      title := m.title
      description := m.description
      isPublic := m.isPublic
      language := language
      category := category.map (·.id)
      coverPhoto := coverPhoto
      avatarPhoto := avatarPhoto }

/-- Merges changes into a channel whose uploads belong to `owner`. -/
def apply (changes : ChannelChanges) (o : Occurrence) (owner : DataObjectOwner)
    (channel : Channel) : Projection Channel := do
  let language ← changedLanguage o changes.language channel.language
  let coverPhoto ← fillSlot o owner changes.coverPhoto channel.coverPhoto
  let avatarPhoto ← fillSlot o owner changes.avatarPhoto channel.avatarPhoto
  return { channel with
    title := changes.title <|> channel.title
    description := changes.description <|> channel.description
    isPublic := changes.isPublic <|> channel.isPublic
    category := changes.category <|> channel.category
    language := language
    coverPhoto := coverPhoto
    avatarPhoto := avatarPhoto }

/-- Merges changes into a channel, if there are any. -/
def applyAny (changes : Option ChannelChanges) (o : Occurrence) (owner : DataObjectOwner)
    (channel : Channel) : Projection Channel :=
  match changes with
  | none => return channel
  | some changes => changes.apply o owner channel

end ChannelChanges

/-! ### Videos -/

/-- What a payload asks to change of a video. -/
structure VideoChanges where
  title : Option String
  description : Option String
  duration : Option UInt32
  language : Option String
  license : Option Metadata.License
  category : Option VideoCategoryId
  thumbnailPhoto : Option RawAsset
  media : Option RawAsset
  mediaType : Option MediaType
  mediaPixelWidth : Option UInt32
  mediaPixelHeight : Option UInt32
  hasMarketing : Option Bool
  isPublic : Option Bool
  isExplicit : Option Bool
  publishedBefore : Option Int64

namespace VideoChanges

open Projection

/-- The date of an earlier publication; one that cannot be read is left out. -/
def readDate (o : Occurrence) (date : Option String) : Projection (Option Int64) := do
  match date with
  | none => return none
  | some text => match Date.parse text with
    | some millis => return some (Int64.ofInt millis)
    | none =>
      leaveOut o "published_before_joystream" (.unparsableDate text)
      return none

/-- Reads and checks the payload of a video. -/
def read (o : Occurrence) (payload : Bytes) (assets : List RawAsset) :
    Projection (Option VideoChanges) := do
  match ← readPayload o "video metadata" Metadata.video payload with
  | none => return none
  | some m =>
    let category ← m.category.mapM fun number => videoCategory o (.ofNumber number)
    let publishedBefore ← readDate o (m.earlierPublication.bind (·.date))
    let language ← namedLanguage o m.language
    let thumbnailPhoto ← m.thumbnailPhoto.mapM (selectAsset o assets)
    let media ← m.video.mapM (selectAsset o assets)
    return some {
      title := m.title
      description := m.description
      duration := m.duration
      language := language
      license := m.license
      category := category.map (·.id)
      thumbnailPhoto := thumbnailPhoto
      media := media
      mediaType := m.mediaType
      mediaPixelWidth := m.mediaPixelWidth
      mediaPixelHeight := m.mediaPixelHeight
      hasMarketing := m.hasMarketing
      isPublic := m.isPublic
      isExplicit := m.isExplicit
      publishedBefore := publishedBefore }

/-- The license after a change: a license that comes with the payload gets a row of its own. -/
def changedLicense (o : Occurrence) (license : Option Metadata.License) (current : Option Nat) :
    Projection (Option Nat) := do
  match license with
  | none => return current
  | some license => return some (← writeWith (·.insertLicense license o.block))

/-- The particulars of the media after a change.  New media bring their size, or none if they are
links; a new encoding replaces the particulars as a whole, with the dimensions of the payload. -/
def changedMediaMetadata (changes : VideoChanges) (stored : Option StoredAsset)
    (current : Option MediaMetadata) : Option MediaMetadata :=
  let size := match stored with
    | some asset => asset.size
    | none => current.bind (·.size)
  match changes.mediaType with
  | some mediaType => some {
      codecName := mediaType.codecName
      container := mediaType.container
      mimeMediaType := mediaType.mimeMediaType
      pixelWidth := changes.mediaPixelWidth
      pixelHeight := changes.mediaPixelHeight
      size := size }
  | none => current.map fun old => { old with size := size }

/-- Merges changes into a video whose uploads belong to `owner`.  The date of an earlier publication
is the one field that a payload without it clears. -/
def apply (changes : VideoChanges) (o : Occurrence) (owner : DataObjectOwner) (video : Video) :
    Projection Video := do
  let language ← changedLanguage o changes.language video.language
  let license ← changedLicense o changes.license video.license
  let thumbnailPhoto ← fillSlot o owner changes.thumbnailPhoto video.thumbnailPhoto
  let stored ← changes.media.mapM (storeAsset o owner)
  return { video with
    title := changes.title <|> video.title
    description := changes.description <|> video.description
    duration := changes.duration <|> video.duration
    hasMarketing := changes.hasMarketing <|> video.hasMarketing
    isPublic := changes.isPublic <|> video.isPublic
    isExplicit := changes.isExplicit <|> video.isExplicit
    category := changes.category <|> video.category
    language := language
    license := license
    publishedBefore := changes.publishedBefore
    thumbnailPhoto := thumbnailPhoto
    media := (stored.map (·.slot)) <|> video.media
    mediaMetadata := changes.changedMediaMetadata stored video.mediaMetadata }

/-- Merges changes into a video, if there are any. -/
def applyAny (changes : Option VideoChanges) (o : Occurrence) (owner : DataObjectOwner)
    (video : Video) : Projection Video :=
  match changes with
  | none => return video
  | some changes => changes.apply o owner video

end VideoChanges

/-! ### Categories -/

namespace Projection

/-- The name of a category after a payload. -/
def changedName (o : Occurrence) (field : String) (schema : Protobuf.Schema CategoryMetadata)
    (payload : Bytes) (current : Option String) : Projection (Option String) := do
  match ← readPayload o field schema payload with
  | none => return current
  | some m => return (m.name <|> current)

end Projection

end ChainProjection
