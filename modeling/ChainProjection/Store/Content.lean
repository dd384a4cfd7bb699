import ChainProjection.Store.Basic

/-!
# Content rows

An entity that is saved again takes on the new values one by one, and the block and time of its
creation are not among them.
-/

namespace ChainProjection

/-!
### Rows saved again

Each of these lists what the old row takes on.  The id is in the lists only because rows are found
by it: where a row stands under its own id, it is the same in both.
-/

/-- An old channel with the values of a new one. -/
def Channel.rewrittenAs (old row : Channel) : Channel :=
  { old with
    id := row.id
    owner := row.owner
    category := row.category
    rewardAccount := row.rewardAccount
    title := row.title
    description := row.description
    isPublic := row.isPublic
    isCensored := row.isCensored
    language := row.language
    coverPhoto := row.coverPhoto
    avatarPhoto := row.avatarPhoto
    updatedAt := row.updatedAt }

/-- An old video with the values of a new one. -/
def Video.rewrittenAs (old row : Video) : Video :=
  { old with
    id := row.id
    channel := row.channel
    category := row.category
    title := row.title
    description := row.description
    duration := row.duration
    language := row.language
    license := row.license
    hasMarketing := row.hasMarketing
    publishedBefore := row.publishedBefore
    isPublic := row.isPublic
    isExplicit := row.isExplicit
    isCensored := row.isCensored
    isFeatured := row.isFeatured
    thumbnailPhoto := row.thumbnailPhoto
    media := row.media
    mediaMetadata := row.mediaMetadata
    updatedAt := row.updatedAt }

/-- An old category with the values of a new one. -/
def ContentCategory.rewrittenAs {entity : Entity} (old row : ContentCategory entity) :
    ContentCategory entity :=
  { old with
    id := row.id
    name := row.name
    updatedAt := row.updatedAt }

/-- An old data object with the values of a new one. -/
def DataObject.rewrittenAs (old row : DataObject) : DataObject :=
  { old with
    id := row.id
    owner := row.owner
    typeId := row.typeId
    size := row.size
    liaisonJudgement := row.liaisonJudgement
    ipfsContentId := row.ipfsContentId }

namespace Store

/-! ### Channels and videos -/

/-- Saves a channel. -/
def saveChannel (store : Store) (channel : Channel) : Store :=
  { store with channels := store.channels.upsert channel.id Channel.rewrittenAs channel }

/-- The channel with an id, read back from its stored form. -/
def loadChannel (store : Store) (id : ChannelId) : Except StoreError (Option Channel) :=
  store.channels[id]?.mapM fun row => Channel.ofColumns row.columns

/-- The video with an id, read back from its stored form. -/
def loadVideo (store : Store) (id : VideoId) : Except StoreError (Option Video) :=
  store.videos[id]?.mapM fun row => Video.ofColumns row.columns

/-- Saves a video. -/
def saveVideo (store : Store) (video : Video) : Store :=
  { store with videos := store.videos.upsert video.id Video.rewrittenAs video }

/-- Removes a video; says whether there was one. -/
def removeVideo (store : Store) (id : VideoId) : Bool × Store :=
  (store.videos.contains id, { store with videos := store.videos.erase id })

/-! ### Categories -/

/-- Saves a category in a table of categories. -/
def putCategory {entity : Entity} (table : Table (Id entity) (ContentCategory entity))
    (category : ContentCategory entity) : Table (Id entity) (ContentCategory entity) :=
  table.upsert category.id ContentCategory.rewrittenAs category

/-- Saves a channel category. -/
def saveChannelCategory (store : Store) (category : ContentCategory .channelCategory) : Store :=
  { store with channelCategories := putCategory store.channelCategories category }

/-- Saves a video category. -/
def saveVideoCategory (store : Store) (category : ContentCategory .videoCategory) : Store :=
  { store with videoCategories := putCategory store.videoCategories category }

/-- The channel category with an id, read back from its stored form. -/
def loadChannelCategory (store : Store) (id : ChannelCategoryId) :
    Except StoreError (Option (ContentCategory .channelCategory)) :=
  store.channelCategories[id]?.mapM fun row => ContentCategory.ofColumns row.columns

/-- The video category with an id, read back from its stored form. -/
def loadVideoCategory (store : Store) (id : VideoCategoryId) :
    Except StoreError (Option (ContentCategory .videoCategory)) :=
  store.videoCategories[id]?.mapM fun row => ContentCategory.ofColumns row.columns

/-- Removes a channel category; says whether there was one. -/
def removeChannelCategory (store : Store) (id : ChannelCategoryId) : Bool × Store :=
  (store.channelCategories.contains id,
    { store with channelCategories := store.channelCategories.erase id })

/-- Removes a video category; says whether there was one. -/
def removeVideoCategory (store : Store) (id : VideoCategoryId) : Bool × Store :=
  (store.videoCategories.contains id,
    { store with videoCategories := store.videoCategories.erase id })

/-! ### Data objects and the slots that name them -/

/-- Saves a data object. -/
def saveDataObject (store : Store) (object : DataObject) : Store :=
  { store with
    dataObjects := store.dataObjects.upsert object.id DataObject.rewrittenAs object }

/-- The data object with an id, read back from its stored form. -/
def loadDataObject (store : Store) (id : ContentId) : Except StoreError (Option DataObject) :=
  store.dataObjects[id]?.mapM fun row => DataObject.ofColumns row.columns

/-- Whether a slot names a data object. -/
def slotNames (id : ContentId) (slot : Option AssetRef) : Bool :=
  slot.bind AssetRef.dataObject? == some id

/-- The slot with a new availability, if it names the data object. -/
def refreshSlot (id : ContentId) (availability : AssetAvailability) (slot : Option AssetRef) :
    Option AssetRef :=
  if slotNames id slot then some (.dataObject id availability) else slot

/-- How many of some slots name a data object. -/
def countSlots (id : ContentId) (slots : List (Option AssetRef)) : Nat :=
  slots.countP (slotNames id)

/-- A channel after the availability of a data object changed. -/
def refreshChannel (id : ContentId) (availability : AssetAvailability) (updatedAt : Int64)
    (channel : Channel) : Channel :=
  if countSlots id [channel.coverPhoto, channel.avatarPhoto] = 0 then channel
  else { channel with
    coverPhoto := refreshSlot id availability channel.coverPhoto
    avatarPhoto := refreshSlot id availability channel.avatarPhoto
    updatedAt := updatedAt }

/-- A video after the availability of a data object changed. -/
def refreshVideo (id : ContentId) (availability : AssetAvailability) (updatedAt : Int64)
    (video : Video) : Video :=
  if countSlots id [video.thumbnailPhoto, video.media] = 0 then video
  else { video with
    thumbnailPhoto := refreshSlot id availability video.thumbnailPhoto
    media := refreshSlot id availability video.media
    updatedAt := updatedAt }

/-- The asset slots of all channels and videos. -/
def slots (store : Store) : List (Option AssetRef) :=
  (store.channels.toList.flatMap fun (_, channel) => [channel.coverPhoto, channel.avatarPhoto]) ++
    store.videos.toList.flatMap fun (_, video) => [video.thumbnailPhoto, video.media]

/-- Writes an availability into every slot that names a data object; counts the slots. -/
def setSlotAvailability (store : Store) (id : ContentId) (availability : AssetAvailability)
    (updatedAt : Int64) : Nat × Store :=
  (countSlots id store.slots,
    { store with
      channels := store.channels.map fun _ => refreshChannel id availability updatedAt
      videos := store.videos.map fun _ => refreshVideo id availability updatedAt })

/-! ### Languages and licenses -/

/-- Makes sure a language code has a row. -/
def ensureLanguage (store : Store) (code : String) (block : UInt64) : Store :=
  { store with languages := store.languages.insertIfNew code block }

/-- Whether a language code has a row. -/
def languageExists (store : Store) (code : String) : Bool := store.languages.contains code

/-- Adds a license; gives its row number. -/
def insertLicense (store : Store) (license : Metadata.License) (block : UInt64) : Nat × Store :=
  let id := store.licenseRows + 1
  (id, { store with licenses := store.licenses.insert id ⟨license, block⟩, licenseRows := id })

/-- The license with a row number, read back from its stored form. -/
def loadLicense (store : Store) (id : Nat) : Except StoreError (Option Metadata.License) :=
  store.licenses[id]?.mapM fun row => Metadata.License.ofColumns row.columns

end Store

end ChainProjection
