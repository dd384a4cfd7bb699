import ChainProjection.Protobuf.Message

/-!
# Metadata messages

The payloads that content and forum events carry besides their parameters.  Every field may be
absent, and absence is kept apart from an empty value: an update touches only the fields that its
payload carries.  Assets are named by their place in the list that comes with the event.
-/

namespace ChainProjection.Metadata

open Protobuf (Schema)
open Protobuf.Field (bool message string uint32 uint64)

/-- What a channel says about itself. -/
structure ChannelMetadata where
  title : Option String := none
  description : Option String := none
  isPublic : Option Bool := none
  language : Option String := none
  coverPhoto : Option UInt32 := none
  avatarPhoto : Option UInt32 := none
  category : Option UInt64 := none
  deriving DecidableEq, Repr

/-- What a channel or video category says about itself. -/
structure CategoryMetadata where
  name : Option String := none
  deriving DecidableEq, Repr

/-- How the media of a video is encoded. -/
structure MediaType where
  codecName : Option String := none
  container : Option String := none
  mimeMediaType : Option String := none
  deriving DecidableEq, Repr

/-- The license of a video. -/
structure License where
  code : Option UInt32 := none
  attribution : Option String := none
  customText : Option String := none
  deriving DecidableEq, Repr

/-- Whether and when a video was published elsewhere first. -/
structure EarlierPublication where
  isPublished : Option Bool := none
  date : Option String := none
  deriving DecidableEq, Repr

/-- What a video says about itself. -/
structure VideoMetadata where
  title : Option String := none
  description : Option String := none
  video : Option UInt32 := none
  thumbnailPhoto : Option UInt32 := none
  duration : Option UInt32 := none
  mediaPixelHeight : Option UInt32 := none
  mediaPixelWidth : Option UInt32 := none
  mediaType : Option MediaType := none
  language : Option String := none
  license : Option License := none
  earlierPublication : Option EarlierPublication := none
  hasMarketing : Option Bool := none
  isPublic : Option Bool := none
  isExplicit : Option Bool := none
  category : Option UInt64 := none
  deriving DecidableEq, Repr

/-! ### Fields on the wire -/

/-- The message type of channels. -/
def channel : Schema ChannelMetadata where
  name := "ChannelMetadata"
  empty := {}
  fields := [
    string 1 "title" (·.title) fun m x => { m with title := some x },
    string 2 "description" (·.description) fun m x => { m with description := some x },
    bool 3 "is_public" (·.isPublic) fun m x => { m with isPublic := some x },
    string 4 "language" (·.language) fun m x => { m with language := some x },
    uint32 5 "cover_photo" (·.coverPhoto) fun m x => { m with coverPhoto := some x },
    uint32 6 "avatar_photo" (·.avatarPhoto) fun m x => { m with avatarPhoto := some x },
    uint64 7 "category" (·.category) fun m x => { m with category := some x }]

/-- The one field of a category. -/
def categoryName : Protobuf.Field CategoryMetadata :=
  string 1 "name" (·.name) fun m x => { m with name := some x }

/-- The message type of channel categories. -/
def channelCategory : Schema CategoryMetadata where
  name := "ChannelCategoryMetadata"
  empty := {}
  fields := [categoryName]

/-- The message type of video categories. -/
def videoCategory : Schema CategoryMetadata where
  name := "VideoCategoryMetadata"
  empty := {}
  fields := [categoryName]

/-- The message type of media encodings. -/
def mediaType : Schema MediaType where
  name := "MediaType"
  empty := {}
  fields := [
    string 1 "codec_name" (·.codecName) fun m x => { m with codecName := some x },
    string 2 "container" (·.container) fun m x => { m with container := some x },
    string 3 "mime_media_type" (·.mimeMediaType)
      fun m x => { m with mimeMediaType := some x }]

/-- The message type of licenses. -/
def license : Schema License where
  name := "License"
  empty := {}
  fields := [
    uint32 1 "code" (·.code) fun m x => { m with code := some x },
    string 2 "attribution" (·.attribution) fun m x => { m with attribution := some x },
    string 3 "custom_text" (·.customText) fun m x => { m with customText := some x }]

/-- The message type of earlier publications. -/
def earlierPublication : Schema EarlierPublication where
  name := "PublishedBeforeJoystream"
  empty := {}
  fields := [
    bool 1 "is_published" (·.isPublished) fun m x => { m with isPublished := some x },
    string 2 "date" (·.date) fun m x => { m with date := some x }]

/-- The message type of videos. -/
def video : Schema VideoMetadata where
  name := "VideoMetadata"
  empty := {}
  fields := [
    string 1 "title" (·.title) fun m x => { m with title := some x },
    string 2 "description" (·.description) fun m x => { m with description := some x },
    uint32 3 "video" (·.video) fun m x => { m with video := some x },
    uint32 4 "thumbnail_photo" (·.thumbnailPhoto)
      fun m x => { m with thumbnailPhoto := some x },
    uint32 5 "duration" (·.duration) fun m x => { m with duration := some x },
    uint32 6 "media_pixel_height" (·.mediaPixelHeight)
      fun m x => { m with mediaPixelHeight := some x },
    uint32 7 "media_pixel_width" (·.mediaPixelWidth)
      fun m x => { m with mediaPixelWidth := some x },
    message 8 "media_type" mediaType (·.mediaType)
      fun m x => { m with mediaType := some x },
    string 9 "language" (·.language) fun m x => { m with language := some x },
    message 10 "license" license (·.license) fun m x => { m with license := some x },
    message 11 "published_before_joystream" earlierPublication (·.earlierPublication)
      fun m x => { m with earlierPublication := some x },
    bool 12 "has_marketing" (·.hasMarketing) fun m x => { m with hasMarketing := some x },
    bool 13 "is_public" (·.isPublic) fun m x => { m with isPublic := some x },
    bool 14 "is_explicit" (·.isExplicit) fun m x => { m with isExplicit := some x },
    uint64 16 "category" (·.category) fun m x => { m with category := some x }]

end ChainProjection.Metadata
