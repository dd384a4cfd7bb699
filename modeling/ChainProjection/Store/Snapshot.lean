import ChainProjection.Store.Content
import ChainProjection.Store.Forum
import ChainProjection.Wire.Actor
import ChainProjection.Wire.Asset
import ChainProjection.Wire.Event
import ChainProjection.Wire.Status

/-!
# Snapshots of a store

A snapshot shows the tables of a store as sections of rows, each row under a key.  The changes
between two snapshots are the rows that are new or different, and the keys of those that are gone.
A row that was saved but does not read back is shown as the error of reading it.
-/

namespace ChainProjection

open Json (ofMembers ofOption)
open Wire (encode)

/-! ### Rows -/

/-- The row of a category with its moderators. -/
def Category.row (category : Category) (moderators : List WorkerId) : Json := ofMembers [
  ("id", encode category.id),
  ("parent", encode category.parent),
  ("title", encode category.title),
  ("description", encode category.description),
  ("status", encode category.status),
  ("moderators", encode moderators),
  ("created_at", encode category.createdAt),
  ("updated_at", encode category.updatedAt)]

/-- The row of a thread. -/
def Thread.row (thread : Thread) : Json := ofMembers [
  ("id", encode thread.id),
  ("category", encode thread.category),
  ("author", encode thread.author),
  ("title", encode thread.title),
  ("is_sticky", encode thread.isSticky),
  ("status", encode thread.status),
  ("created_at", encode thread.createdAt),
  ("updated_at", encode thread.updatedAt)]

/-- The row of a post. -/
def Post.row (post : Post) : Json := ofMembers [
  ("id", encode post.id),
  ("thread", encode post.thread),
  ("author", encode post.author),
  ("text", encode post.text),
  ("status", encode post.status),
  ("origin", encode post.origin),
  ("replies_to", encode post.repliesTo),
  ("created_at", encode post.createdAt),
  ("updated_at", encode post.updatedAt)]

/-- The row of an alternative of a poll. -/
def PollAlternative.row (alternative : PollAlternative) : Json := ofMembers [
  ("id", .nat alternative.id),
  ("index", .nat alternative.index),
  ("text", encode alternative.text)]

/-- The row of a poll. -/
def Poll.row (poll : Poll) : Json := ofMembers [
  ("id", .nat poll.id),
  ("description", encode poll.description),
  ("end_time", encode poll.endTime),
  ("created_at", encode poll.createdAt),
  ("alternatives", .array (poll.alternatives.map PollAlternative.row))]

/-- The row of a worker. -/
def Worker.row (worker : Worker) : Json := ofMembers [
  ("id", encode worker.id),
  ("group_id", encode worker.groupId),
  ("runtime_id", encode worker.runtimeId),
  ("membership", encode worker.membership),
  ("is_lead", encode worker.isLead),
  ("is_active", encode worker.isActive)]

/-- The row of a member or a language, which has only the block that first named it; it is shown as
a signed number. -/
def firstNamed (block : UInt64) : Json := ofMembers [
  ("created_in_block", encode block.toInt64)]

/-- The row of a license. -/
def Metadata.License.row (license : Metadata.License) : Json := ofMembers [
  ("code", encode license.code),
  ("attribution", encode license.attribution),
  ("custom_text", encode license.customText)]

/-- The columns of an asset slot. -/
def AssetRef.row (slot : AssetRef) : Json := ofMembers [
  ("urls", encode slot.urls?),
  ("data_object", encode slot.dataObject?),
  ("availability", .string slot.availability.stored)]

/-- The row of a channel. -/
def Channel.row (channel : Channel) : Json := ofMembers [
  ("id", encode channel.id),
  ("owner", encode channel.owner),
  ("category", encode channel.category),
  ("reward_account", encode channel.rewardAccount),
  ("title", encode channel.title),
  ("description", encode channel.description),
  ("is_public", encode channel.isPublic),
  ("is_censored", encode channel.isCensored),
  ("language", encode channel.language),
  ("cover_photo", ofOption AssetRef.row channel.coverPhoto),
  ("avatar_photo", ofOption AssetRef.row channel.avatarPhoto),
  ("created_in_block", encode channel.createdInBlock),
  ("created_at", encode channel.createdAt),
  ("updated_at", encode channel.updatedAt)]

/-- The columns of the particulars of media. -/
def MediaMetadata.row (media : MediaMetadata) : Json := ofMembers [
  ("codec_name", encode media.codecName),
  ("container", encode media.container),
  ("mime_media_type", encode media.mimeMediaType),
  ("pixel_width", encode media.pixelWidth),
  ("pixel_height", encode media.pixelHeight),
  ("size", encode media.size)]

/-- The row of a video. -/
def Video.row (video : Video) : Json := ofMembers [
  ("id", encode video.id),
  ("channel", encode video.channel),
  ("category", encode video.category),
  ("title", encode video.title),
  ("description", encode video.description),
  ("duration", encode video.duration),
  ("language", encode video.language),
  ("license", ofOption Json.nat video.license),
  ("has_marketing", encode video.hasMarketing),
  ("published_before_joystream", encode video.publishedBefore),
  ("is_public", encode video.isPublic),
  ("is_explicit", encode video.isExplicit),
  ("is_censored", encode video.isCensored),
  ("is_featured", encode video.isFeatured),
  ("thumbnail_photo", ofOption AssetRef.row video.thumbnailPhoto),
  ("media", ofOption AssetRef.row video.media),
  ("media_metadata", ofOption MediaMetadata.row video.mediaMetadata),
  ("created_in_block", encode video.createdInBlock),
  ("created_at", encode video.createdAt),
  ("updated_at", encode video.updatedAt)]

/-- The row of a channel category or a video category. -/
def ContentCategory.row {entity : Entity} (category : ContentCategory entity) : Json := ofMembers [
  ("id", encode category.id),
  ("name", encode category.name),
  ("created_in_block", encode category.createdInBlock),
  ("created_at", encode category.createdAt),
  ("updated_at", encode category.updatedAt)]

/-- The row of a data object. -/
def DataObject.row (object : DataObject) : Json := ofMembers [
  ("id", encode object.id),
  ("owner", encode object.owner),
  ("created_in_block", encode object.createdInBlock),
  ("type_id", encode object.typeId),
  ("size", encode object.size),
  ("liaison_judgement", .string object.liaisonJudgement.stored),
  ("ipfs_content_id", encode object.ipfsContentId)]

/-- An error of the store in place of a row. -/
def StoreError.row (error : StoreError) : Json := ofMembers [
  ("error", .string "Store"),
  ("message", .string error.message)]

/-! ### Sections -/

/-- Rows by key. -/
abbrev Section := List (String × Json)

/-- The sections of a store by name. -/
abbrev Snapshot := List (String × Section)

/-- The section of a table whose keys are ids. -/
def Table.rows {entity : Entity} {α : Type} (table : Table (Id entity) α)
    (row : Id entity → α → Json) : Section :=
  table.toList.map fun (id, x) => (id.text, row id x)

/-- The row of a video as it reads back. -/
def Store.videoRow (store : Store) (id : VideoId) : Json :=
  match store.loadVideo id with
  | .ok video => ofOption Video.row video
  | .error error => error.row

/-- All tables of a store. -/
def Store.snapshot (store : Store) : Snapshot := [
  ("categories", Table.rows store.categories fun id c => c.row (store.moderatorsOf id)),
  ("threads", Table.rows store.threads fun _ => Thread.row),
  ("posts", Table.rows store.posts fun _ => Post.row),
  ("polls", Table.rows store.polls fun _ => Poll.row),
  ("workers", store.workers.map fun worker => (worker.id.text, worker.row)),
  ("members", Table.rows store.members fun _ => firstNamed),
  ("languages", store.languages.toList.map fun (code, block) => (code, firstNamed block)),
  ("licenses", store.licenses.toList.map fun (id, stored) => (decimal id, stored.license.row)),
  ("channels", Table.rows store.channels fun _ => Channel.row),
  ("videos", Table.rows store.videos fun id _ => store.videoRow id),
  ("channel_categories", Table.rows store.channelCategories fun _ => ContentCategory.row),
  ("video_categories", Table.rows store.videoCategories fun _ => ContentCategory.row),
  ("data_objects", Table.rows store.dataObjects fun _ => DataObject.row),
  ("events", store.log.map fun record => (record.id.text, encode record)),
  ("cursor", [("last_block_number", encode store.cursor)])]

/-! ### Changes -/

/-- The rows that are new or different, and `null` for those that are gone. -/
def Section.changes (before after : Section) : Section :=
  let isKept (entry : String × Json) : Bool :=
    match before.lookup entry.1 with
    | some row => row.same entry.2
    | none => false
  let gone := before.filter fun entry => (after.lookup entry.1).isNone
  after.filter (fun entry => !isKept entry) ++ gone.map fun entry => (entry.1, .null)

/-- The changes of every section that has any. -/
def Snapshot.changes (before after : Snapshot) : Json :=
  let changed := after.map fun (name, rows) =>
    (name, Section.changes ((before.lookup name).getD []) rows)
  ofMembers ((changed.filter fun (_, rows) => !rows.isEmpty).map fun (name, rows) =>
    (name, ofMembers rows))

end ChainProjection
