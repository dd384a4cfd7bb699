import ChainProjection.Event
import ChainProjection.Wire.Basic

/-!
# Wire forms of events

Blocks and runtime events as the feed carries them, and records as readers get them.  The name of
the variant of an `EventData` is the member `type` among its fields.
-/

namespace ChainProjection.Wire

open Json (ofMembers)

instance : Wire RuntimeEvent where
  encode e := ofMembers [
    ("name", encode e.name),
    ("index_in_block", encode e.indexInBlock),
    ("extrinsic_hash", encode e.extrinsicHash),
    ("params", encode e.params)]
  decode := Json.Fields.struct "SubstrateEvent" <|
    RuntimeEvent.mk <$> required "name" <*> required "index_in_block" <*>
      withDefault "extrinsic_hash" none <*> withDefault "params" []

instance : Wire Block where
  encode b := ofMembers [
    ("block_number", encode b.number),
    ("block_timestamp", encode b.timestamp),
    ("events", encode b.events)]
  decode := Json.Fields.struct "BlockEvents" <|
    Block.mk <$> required "block_number" <*> required "block_timestamp" <*>
      withDefault "events" []

/-- The particulars of an event by its variant and fields. -/
def ofType (type : String) (members : List (String × Json)) : Json :=
  Json.withTag "type" type members

instance : Wire EventData where
  encode
    | .categoryCreated category => ofType "CategoryCreated" [("category", encode category)]
    | .categoryUpdated category newArchivalStatus actor => ofType "CategoryUpdated" [
        ("category", encode category),
        ("new_archival_status", encode newArchivalStatus),
        ("actor", encode actor)]
    | .categoryDeleted category actor => ofType "CategoryDeleted" [
        ("category", encode category), ("actor", encode actor)]
    | .threadCreated thread title text => ofType "ThreadCreated" [
        ("thread", encode thread), ("title", encode title), ("text", encode text)]
    | .threadModerated thread rationale actor => ofType "ThreadModerated" [
        ("thread", encode thread), ("rationale", encode rationale), ("actor", encode actor)]
    | .threadTitleUpdated thread newTitle => ofType "ThreadTitleUpdated" [
        ("thread", encode thread), ("new_title", encode newTitle)]
    | .threadDeleted thread => ofType "ThreadDeleted" [("thread", encode thread)]
    | .threadMoved thread oldCategory newCategory actor => ofType "ThreadMoved" [
        ("thread", encode thread),
        ("old_category", encode oldCategory),
        ("new_category", encode newCategory),
        ("actor", encode actor)]
    | .voteOnPoll pollAlternative votingMember => ofType "VoteOnPoll" [
        ("poll_alternative", encode pollAlternative), ("voting_member", encode votingMember)]
    | .postAdded post isEditable text => ofType "PostAdded" [
        ("post", encode post), ("is_editable", encode isEditable), ("text", encode text)]
    | .postModerated post rationale actor => ofType "PostModerated" [
        ("post", encode post), ("rationale", encode rationale), ("actor", encode actor)]
    | .postDeleted posts rationale actor => ofType "PostDeleted" [
        ("posts", encode posts), ("rationale", encode rationale), ("actor", encode actor)]
    | .postTextUpdated post newText => ofType "PostTextUpdated" [
        ("post", encode post), ("new_text", encode newText)]
    | .categoryStickyThreadUpdate category newStickyThreads actor =>
      ofType "CategoryStickyThreadUpdate" [
        ("category", encode category),
        ("new_sticky_threads", encode newStickyThreads),
        ("actor", encode actor)]
    | .categoryMembershipOfModeratorUpdated category moderator newCanModerateValue =>
      ofType "CategoryMembershipOfModeratorUpdated" [
        ("category", encode category),
        ("moderator", encode moderator),
        ("new_can_moderate_value", encode newCanModerateValue)]
    | .channelCreated channel => ofType "ChannelCreated" [("channel", encode channel)]
    | .channelUpdated channel => ofType "ChannelUpdated" [("channel", encode channel)]
    | .channelCensorshipUpdated channel isCensored rationale =>
      ofType "ChannelCensorshipUpdated" [
        ("channel", encode channel),
        ("is_censored", encode isCensored),
        ("rationale", encode rationale)]
    | .channelCategoryCreated category =>
      ofType "ChannelCategoryCreated" [("category", encode category)]
    | .channelCategoryUpdated category =>
      ofType "ChannelCategoryUpdated" [("category", encode category)]
    | .channelCategoryDeleted category =>
      ofType "ChannelCategoryDeleted" [("category", encode category)]
    | .videoCategoryCreated category =>
      ofType "VideoCategoryCreated" [("category", encode category)]
    | .videoCategoryUpdated category =>
      ofType "VideoCategoryUpdated" [("category", encode category)]
    | .videoCategoryDeleted category =>
      ofType "VideoCategoryDeleted" [("category", encode category)]
    | .videoCreated channel video => ofType "VideoCreated" [
        ("channel", encode channel), ("video", encode video)]
    | .videoUpdated video => ofType "VideoUpdated" [("video", encode video)]
    | .videoDeleted video => ofType "VideoDeleted" [("video", encode video)]
    | .videoCensorshipUpdated video isCensored rationale => ofType "VideoCensorshipUpdated" [
        ("video", encode video),
        ("is_censored", encode isCensored),
        ("rationale", encode rationale)]
    | .featuredVideosSet videos => ofType "FeaturedVideosSet" [("videos", encode videos)]
    | .contentAccepted content storageProvider => ofType "ContentAccepted" [
        ("content", encode content), ("storage_provider", encode storageProvider)]
  decode := Json.tagged "type" "EventData" [
    ("CategoryCreated", EventData.categoryCreated <$> required "category"),
    ("CategoryUpdated", EventData.categoryUpdated <$> required "category" <*>
      required "new_archival_status" <*> required "actor"),
    ("CategoryDeleted", EventData.categoryDeleted <$> required "category" <*> required "actor"),
    ("ThreadCreated", EventData.threadCreated <$> required "thread" <*> required "title" <*>
      required "text"),
    ("ThreadModerated", EventData.threadModerated <$> required "thread" <*>
      required "rationale" <*> required "actor"),
    ("ThreadTitleUpdated", EventData.threadTitleUpdated <$> required "thread" <*>
      required "new_title"),
    ("ThreadDeleted", EventData.threadDeleted <$> required "thread"),
    ("ThreadMoved", EventData.threadMoved <$> required "thread" <*> required "old_category" <*>
      required "new_category" <*> required "actor"),
    ("VoteOnPoll", EventData.voteOnPoll <$> required "poll_alternative" <*>
      required "voting_member"),
    ("PostAdded", EventData.postAdded <$> required "post" <*> required "is_editable" <*>
      required "text"),
    ("PostModerated", EventData.postModerated <$> required "post" <*> required "rationale" <*>
      required "actor"),
    ("PostDeleted", EventData.postDeleted <$> required "posts" <*> required "rationale" <*>
      required "actor"),
    ("PostTextUpdated", EventData.postTextUpdated <$> required "post" <*> required "new_text"),
    ("CategoryStickyThreadUpdate", EventData.categoryStickyThreadUpdate <$>
      required "category" <*> required "new_sticky_threads" <*> required "actor"),
    ("CategoryMembershipOfModeratorUpdated", EventData.categoryMembershipOfModeratorUpdated <$>
      required "category" <*> required "moderator" <*> required "new_can_moderate_value"),
    ("ChannelCreated", EventData.channelCreated <$> required "channel"),
    ("ChannelUpdated", EventData.channelUpdated <$> required "channel"),
    ("ChannelCensorshipUpdated", EventData.channelCensorshipUpdated <$> required "channel" <*>
      required "is_censored" <*> required "rationale"),
    ("ChannelCategoryCreated", EventData.channelCategoryCreated <$> required "category"),
    ("ChannelCategoryUpdated", EventData.channelCategoryUpdated <$> required "category"),
    ("ChannelCategoryDeleted", EventData.channelCategoryDeleted <$> required "category"),
    ("VideoCategoryCreated", EventData.videoCategoryCreated <$> required "category"),
    ("VideoCategoryUpdated", EventData.videoCategoryUpdated <$> required "category"),
    ("VideoCategoryDeleted", EventData.videoCategoryDeleted <$> required "category"),
    ("VideoCreated", EventData.videoCreated <$> required "channel" <*> required "video"),
    ("VideoUpdated", EventData.videoUpdated <$> required "video"),
    ("VideoDeleted", EventData.videoDeleted <$> required "video"),
    ("VideoCensorshipUpdated", EventData.videoCensorshipUpdated <$> required "video" <*>
      required "is_censored" <*> required "rationale"),
    ("FeaturedVideosSet", EventData.featuredVideosSet <$> required "videos"),
    ("ContentAccepted", EventData.contentAccepted <$> required "content" <*>
      required "storage_provider")]

instance : Wire EventRecord where
  encode r := ofMembers [
    ("id", encode r.id),
    ("event_type", encode r.eventType),
    ("in_block", encode r.inBlock),
    ("index_in_block", encode r.indexInBlock),
    ("in_extrinsic", encode r.inExtrinsic),
    ("created_at", encode r.createdAt),
    ("data", encode r.data)]
  decode := Json.Fields.struct "EventRecord" <|
    EventRecord.mk <$> required "id" <*> required "event_type" <*> required "in_block" <*>
      required "index_in_block" <*> nullable "in_extrinsic" <*> required "created_at" <*>
      required "data"

instance : Wire SyncState where
  encode s := ofMembers [
    ("last_block_number", encode s.lastBlockNumber),
    ("updated_at", encode s.updatedAt)]
  decode := Json.Fields.struct "SyncState" <|
    SyncState.mk <$> nullable "last_block_number" <*> required "updated_at"

end ChainProjection.Wire
