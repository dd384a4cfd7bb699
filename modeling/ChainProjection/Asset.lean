import ChainProjection.Actor
import ChainProjection.DomainError

/-!
# Assets

An event brings its assets as links or as uploads.  An upload becomes a data object, which a storage
provider accepts later; an asset slot of a channel or a video holds links or names a data object,
never both, and repeats the availability of the object it names.
-/

namespace ChainProjection

/-- The particulars of an upload. -/
structure ContentParameters where
  /-- The content id the uploader chose. -/
  contentId : Bytes
  /-- The kind of data object. -/
  typeId : UInt64
  /-- The size in bytes. -/
  size : UInt64
  /-- The content-addressed id. -/
  ipfsContentId : Bytes
  deriving DecidableEq, Repr

/-- An asset as an event brings it. -/
inductive RawAsset where
  | urls (links : List String)
  | upload (parameters : ContentParameters)
  deriving DecidableEq, Repr

/-- What the storage provider says of a data object. -/
inductive LiaisonJudgement where
  | pending
  | accepted
  deriving DecidableEq, Repr

/-- What a reader is told of the asset in a slot. -/
inductive AssetAvailability where
  | pending
  | accepted
  deriving DecidableEq, Repr

namespace LiaisonJudgement

/-- The availability that goes with a judgement. -/
def availability : LiaisonJudgement → AssetAvailability
  | .pending => .pending
  | .accepted => .accepted

/-- The stored form. -/
def stored : LiaisonJudgement → String
  | .pending => "PENDING"
  | .accepted => "ACCEPTED"

/-- Rebuilds a judgement from its stored form. -/
def ofStored (text : String) : Except DomainError LiaisonJudgement :=
  match text with
  | "PENDING" => .ok .pending
  | "ACCEPTED" => .ok .accepted
  | other => .error (.unknownVariant .liaisonJudgement other)

/-- The stored form rebuilds the judgement. -/
theorem ofStored_stored (judgement : LiaisonJudgement) :
    ofStored judgement.stored = .ok judgement := by
  cases judgement <;> rfl

end LiaisonJudgement

namespace AssetAvailability

/-- The stored form. -/
def stored : AssetAvailability → String
  | .pending => "PENDING"
  | .accepted => "ACCEPTED"

/-- Rebuilds an availability from its stored form. -/
def ofStored (text : String) : Except DomainError AssetAvailability :=
  match text with
  | "PENDING" => .ok .pending
  | "ACCEPTED" => .ok .accepted
  | other => .error (.unknownVariant .assetAvailability other)

/-- The stored form rebuilds the availability. -/
theorem ofStored_stored (availability : AssetAvailability) :
    ofStored availability.stored = .ok availability := by
  cases availability <;> rfl

end AssetAvailability

/-- Who owns a data object. -/
inductive DataObjectOwner where
  | member (id : MemberId)
  | channel (id : ChannelId)
  | curatorGroup (id : CuratorGroupId)
  deriving DecidableEq, Repr

namespace DataObjectOwner

/-- The stored name of the kind of owner. -/
def kind : DataObjectOwner → String
  | .member _ => "Member"
  | .channel _ => "Channel"
  | .curatorGroup _ => "CuratorGroup"

/-- The stored id of the owner. -/
def id : DataObjectOwner → String
  | .member id => id.text
  | .channel id => id.text
  | .curatorGroup id => id.text

/-- Rebuilds an owner from its stored form. -/
def ofColumns (kind id : String) : Except DomainError DataObjectOwner :=
  match kind with
  | "Member" => .ok (.member ⟨id⟩)
  | "Channel" => .ok (.channel ⟨id⟩)
  | "CuratorGroup" => .ok (.curatorGroup ⟨id⟩)
  | other => .error (.unknownVariant .dataObjectOwner other)

/-- The stored form rebuilds the owner. -/
theorem ofColumns_kind_id (owner : DataObjectOwner) :
    ofColumns owner.kind owner.id = .ok owner := by
  cases owner <;> rfl

end DataObjectOwner

/-- The owner of what an actor uploads into a channel: always the channel, whoever uploads. -/
def ContentActor.assetOwner (_actor : ContentActor) (channel : ChannelId) : DataObjectOwner :=
  .channel channel

/-- What an asset slot holds. -/
inductive AssetRef where
  /-- Links to a copy elsewhere. -/
  | urls (links : List String)
  /-- A data object, with the availability that follows from its judgement. -/
  | dataObject (id : ContentId) (availability : AssetAvailability)
  deriving DecidableEq, Repr

namespace AssetRef

/-- Whether the asset can be had: links always can. -/
def availability : AssetRef → AssetAvailability
  | .urls _ => .accepted
  | .dataObject _ availability => availability

/-- The links in the slot, if it holds links. -/
def urls? : AssetRef → Option (List String)
  | .urls links => some links
  | .dataObject .. => none

/-- The data object in the slot, if it holds one. -/
def dataObject? : AssetRef → Option ContentId
  | .urls _ => none
  | .dataObject id _ => some id

end AssetRef

end ChainProjection
