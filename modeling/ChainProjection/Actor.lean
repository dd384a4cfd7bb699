import ChainProjection.Id

/-!
# Actors

Who acts on the forum and on content, and who owns a channel.  Actors are named by the numbers of
the chain; owners by ids.
-/

namespace ChainProjection

/-- Who may moderate the forum. -/
inductive PrivilegedActor where
  /-- The lead of the forum working group. -/
  | lead
  /-- A worker of the group, by the number within it. -/
  | moderator (runtimeId : UInt64)
  deriving DecidableEq, Repr

/-- What an actor is called in messages. -/
def PrivilegedActor.describe : PrivilegedActor → String
  | .lead => "Lead"
  | .moderator runtimeId => "Moderator(" ++ decimal runtimeId.toNat ++ ")"

/-- Who acts on content. -/
inductive ContentActor where
  /-- The lead of the content working group. -/
  | lead
  /-- A curator, by the numbers of the curator group and of the curator in it. -/
  | curator (group curator : UInt64)
  /-- A member. -/
  | member (number : UInt64)
  deriving DecidableEq, Repr

/-- Who owns a channel. -/
inductive ChannelOwner where
  | member (id : MemberId)
  | curatorGroup (id : CuratorGroupId)
  deriving DecidableEq, Repr

namespace ChannelOwner

/-- The member that owns the channel, if one does. -/
def member? : ChannelOwner → Option MemberId
  | .member id => some id
  | .curatorGroup _ => none

/-- The curator group that owns the channel, if one does. -/
def curatorGroup? : ChannelOwner → Option CuratorGroupId
  | .member _ => none
  | .curatorGroup id => some id

end ChannelOwner

end ChainProjection
