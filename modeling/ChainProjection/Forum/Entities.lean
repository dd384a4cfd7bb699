import ChainProjection.Status

/-!
# Forum entities

Categories hold threads and threads hold posts.  Times are unix milliseconds of the block that
caused the write.
-/

namespace ChainProjection

/-- A forum category. -/
structure Category where
  id : CategoryId
  /-- The category around this one; it need not exist. -/
  parent : Option CategoryId
  title : String
  description : String
  status : CategoryStatus
  createdAt : Int64
  updatedAt : Int64
  deriving DecidableEq

/-- A forum thread. -/
structure Thread where
  id : ThreadId
  /-- The category the thread is in now. -/
  category : CategoryId
  author : MemberId
  title : String
  /-- Whether the thread is pinned in its category. -/
  isSticky : Bool
  status : ThreadStatus
  createdAt : Int64
  updatedAt : Int64
  deriving DecidableEq

/-- A forum post. -/
structure Post where
  id : PostId
  thread : ThreadId
  author : MemberId
  text : String
  status : PostStatus
  origin : PostOrigin
  /-- The post this one answers. -/
  repliesTo : Option PostId
  createdAt : Int64
  updatedAt : Int64
  deriving DecidableEq

/-- An alternative of a poll. -/
structure PollAlternative where
  /-- The row number. -/
  id : Nat
  /-- The place in the poll. -/
  index : Nat
  text : String
  deriving DecidableEq

/-- The poll of a thread. -/
structure Poll where
  /-- The row number. -/
  id : Nat
  description : String
  /-- When the poll ends, in unix milliseconds. -/
  endTime : Int64
  createdAt : Int64
  /-- The alternatives in order of their places. -/
  alternatives : List PollAlternative
  deriving DecidableEq

/-- A worker of a working group. -/
structure Worker where
  id : WorkerId
  /-- The working group. -/
  groupId : String
  /-- The number of the worker within the group. -/
  runtimeId : UInt64
  membership : Option MemberId
  isLead : Bool
  isActive : Bool
  deriving DecidableEq

/-- The working group whose workers moderate the forum. -/
def forumGroup : String := "forumWorkingGroup"

end ChainProjection
