import ChainProjection.Id
import ChainProjection.Json.Basic

/-!
# Events and their records

What comes in: blocks of runtime events, whose parameters are JSON values by position.  What stays:
one immutable record for each event the projection knows, with the particulars of the event.  The
id of a record is made of the block and the place of the event in it.
-/

namespace ChainProjection

/-- A runtime event as the feed delivers it. -/
structure RuntimeEvent where
  /-- Section and method, such as `forum.CategoryCreated`. -/
  name : String
  /-- The place of the event in its block. -/
  indexInBlock : UInt32
  /-- The hash of the extrinsic that emitted the event. -/
  extrinsicHash : Option String
  /-- The parameters by position. -/
  params : List Json

/-- A block with its events in order. -/
structure Block where
  /-- The number of the block. -/
  number : UInt64
  /-- The time of the block in unix milliseconds. -/
  timestamp : Int64
  /-- The events of the block. -/
  events : List RuntimeEvent

/-- The particulars of a recorded event. -/
inductive EventData where
  | categoryCreated (category : CategoryId)
  | categoryUpdated (category : CategoryId) (newArchivalStatus : Bool) (actor : WorkerId)
  | categoryDeleted (category : CategoryId) (actor : WorkerId)
  | threadCreated (thread : ThreadId) (title text : String)
  | threadModerated (thread : ThreadId) (rationale : String) (actor : WorkerId)
  | threadTitleUpdated (thread : ThreadId) (newTitle : String)
  | threadDeleted (thread : ThreadId)
  | threadMoved (thread : ThreadId) (oldCategory newCategory : CategoryId) (actor : WorkerId)
  | voteOnPoll (pollAlternative : Int) (votingMember : MemberId)
  | postAdded (post : PostId) (isEditable : Bool) (text : String)
  | postModerated (post : PostId) (rationale : String) (actor : WorkerId)
  | postDeleted (posts : List PostId) (rationale : String) (actor : MemberId)
  | postTextUpdated (post : PostId) (newText : String)
  | categoryStickyThreadUpdate (category : CategoryId) (newStickyThreads : List ThreadId)
      (actor : WorkerId)
  | categoryMembershipOfModeratorUpdated (category : CategoryId) (moderator : WorkerId)
      (newCanModerateValue : Bool)
  | channelCreated (channel : ChannelId)
  | channelUpdated (channel : ChannelId)
  | channelCensorshipUpdated (channel : ChannelId) (isCensored : Bool) (rationale : String)
  | channelCategoryCreated (category : ChannelCategoryId)
  | channelCategoryUpdated (category : ChannelCategoryId)
  | channelCategoryDeleted (category : ChannelCategoryId)
  | videoCategoryCreated (category : VideoCategoryId)
  | videoCategoryUpdated (category : VideoCategoryId)
  | videoCategoryDeleted (category : VideoCategoryId)
  | videoCreated (channel : ChannelId) (video : VideoId)
  | videoUpdated (video : VideoId)
  | videoDeleted (video : VideoId)
  | videoCensorshipUpdated (video : VideoId) (isCensored : Bool) (rationale : String)
  | featuredVideosSet (videos : List VideoId)
  | contentAccepted (content : ContentId) (storageProvider : UInt64)
  deriving DecidableEq

/-- The immutable record of an event. -/
structure EventRecord where
  /-- The id, made of the block and the place in it. -/
  id : EventId
  /-- The name of the runtime event. -/
  eventType : String
  /-- The number of the block. -/
  inBlock : UInt64
  /-- The place in the block. -/
  indexInBlock : UInt32
  /-- The hash of the extrinsic that emitted the event. -/
  inExtrinsic : Option String
  /-- The time of the block in unix milliseconds. -/
  createdAt : Int64
  /-- The particulars. -/
  data : EventData
  deriving DecidableEq

/-- How far the projection has come. -/
structure SyncState where
  /-- The last block projected as a whole; none before the first. -/
  lastBlockNumber : Option UInt64
  /-- When the cursor last moved, in unix seconds. -/
  updatedAt : Int64
  deriving DecidableEq

end ChainProjection
