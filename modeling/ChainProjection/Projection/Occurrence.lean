import ChainProjection.Actor
import ChainProjection.DomainError
import ChainProjection.Store.Membership
import ChainProjection.Wire.Basic

/-!
# Occurrences

An event at its place: what a projection knows while it handles one.  Also here are the ways in
which an occurrence can fail.  An *inconsistency* is something the chain guarantees and the
projected state does not have; it is reported with the event, its id and its block.  A store error
comes from the storage and is reported alone.  An *omission* is no failure: a part of a payload that
cannot be used is left out and the rest is kept.
-/

namespace ChainProjection

/-- An event at its place in a block. -/
structure Occurrence where
  /-- Section and method of the event. -/
  name : String
  /-- The number of the block. -/
  block : UInt64
  /-- The time of the block in unix milliseconds. -/
  timestamp : Int64
  /-- The place of the event in the block. -/
  index : UInt32
  /-- The hash of the extrinsic that emitted the event. -/
  extrinsic : Option String
  /-- The parameters by position. -/
  params : List Json

/-! ### Failures -/

/-- What the chain guarantees and the projected state does not have. -/
inductive Inconsistency where
  | undecodableParameter (index : Nat) (name : String) (cause : Json.DecodeError)
  | notFound (entity : Entity) (id : String)
  | noPrivilegedWorker (actor : PrivilegedActor)
  | noForumWorker (runtimeId : UInt64)
  | noPollAlternative (index : UInt32) (thread : ThreadId)
  | notInScope (set : FlaggedSet) (ids : List String)
  | noAsset (index : UInt32) (count : Nat)
  | pollEndTime (endTime : UInt64)
  | threadElsewhere (thread : ThreadId) (actual claimed : CategoryId)
  | domain (error : DomainError)
  deriving DecidableEq, Repr

/-- What a thing of a kind is called in messages. -/
def Entity.label : Entity → String
  | .category => "Forum category"
  | .thread => "Forum thread"
  | .post => "Forum post"
  | .member => "Member"
  | .worker => "Worker"
  | .channel => "Channel"
  | .channelCategory => "Channel category"
  | .video => "Video"
  | .videoCategory => "Video category"
  | .curatorGroup => "Curator group"
  | .content => "Data object"
  | .event => "Event"

/-- The words of an inconsistency. -/
def Inconsistency.message : Inconsistency → String
  | .undecodableParameter index name cause =>
    "parameter #" ++ decimal index ++ " (" ++ name ++ ") does not decode: " ++ cause.message
  | .notFound entity id => entity.label ++ " not found by id: " ++ id
  | .noPrivilegedWorker actor =>
    "Corresponding worker not found by forum privileged actor: " ++ actor.describe
  | .noForumWorker runtimeId =>
    "Worker not found by id: " ++ (Id.ofWorker forumGroup runtimeId).text
  | .noPollAlternative index thread =>
    "Forum poll alternative not found by index " ++ decimal index.toNat ++ " in thread " ++
      thread.text
  | .notInScope set ids => set.describe ++ " not found by id: " ++ Text.quotedList ids
  | .noAsset index count =>
    "Non-existing asset extraction requested (asset index " ++ decimal index.toNat ++ ", " ++
      decimal count ++ " assets provided)"
  | .pollEndTime endTime => "Poll end time " ++ decimal endTime.toNat ++ " out of range"
  | .threadElsewhere thread actual claimed =>
    "Forum thread " ++ thread.text ++ " is in category " ++ actual.text ++ ", not " ++
      claimed.text
  | .domain error => error.message

/-- Why an event cannot be projected. -/
inductive ProjectionError where
  | inconsistent (event : String) (id : EventId) (block : UInt64) (what : Inconsistency)
  | store (error : StoreError)
  deriving DecidableEq, Repr

/-- The words of a projection error. -/
def ProjectionError.message : ProjectionError → String
  | .inconsistent event id block what =>
    "Inconsistent state in " ++ event ++ " (event " ++ id.text ++ ", block " ++
      decimal block.toNat ++ "): " ++ what.message
  | .store error => error.message

/-! ### Omissions -/

/-- Why a part of a payload is left out. -/
inductive Reason where
  | undecodablePayload (failure : Protobuf.Failure)
  | unparsableDate (text : String)
  | unknownReplyTarget (post : PostId)
  | notModerator (worker : WorkerId) (category : CategoryId)
  deriving DecidableEq, Repr

/-- The words of a reason. -/
def Reason.message : Reason → String
  | .undecodablePayload _ => "Metadata decode failed"
  | .unparsableDate text => "unparsable date " ++ Text.quoted text
  | .unknownReplyTarget post => "post " ++ post.text ++ " not found"
  | .notModerator worker category =>
    "worker " ++ worker.text ++ " does not moderate category " ++ category.text

/-- A part of a payload that was left out. -/
structure Omission where
  /-- The event whose payload it was. -/
  event : EventId
  /-- What was left out. -/
  field : String
  reason : Reason
  deriving DecidableEq

/-- The words of an omission. -/
def Omission.message (omission : Omission) : String := "Omitting field: " ++ omission.reason.message

/-! ### What an occurrence gives -/

namespace Occurrence

/-- An event at its place in a block. -/
def ofEvent (block : UInt64) (timestamp : Int64) (event : RuntimeEvent) : Occurrence :=
  ⟨event.name, block, timestamp, event.indexInBlock, event.extrinsicHash, event.params⟩

/-- The id of the record the event will have. -/
def id (o : Occurrence) : EventId := Id.ofEvent o.block o.index

/-- An inconsistency at this place. -/
def inconsistent (o : Occurrence) (what : Inconsistency) : ProjectionError :=
  .inconsistent o.name o.id o.block what

/-- The parameter at a position, as a decoder reads it; one past the end is `null`. -/
def paramWith {α : Type} (o : Occurrence) (decode : Json.Decoder α) (index : Nat)
    (name : String) : Except Inconsistency α :=
  (decode (o.params[index]?.getD .null)).mapError (.undecodableParameter index name)

/-- The parameter at a position, in its wire form. -/
def param {α : Type} [Wire α] (o : Occurrence) (index : Nat) (name : String) :
    Except Inconsistency α :=
  o.paramWith Wire.decode index name

/-- The text of a byte string parameter. -/
def textParam (o : Occurrence) (index : Nat) (name : String) : Except Inconsistency String := do
  let bytes : Bytes ← o.param index name
  return bytes.toText

/-- The record of the event. -/
def record (o : Occurrence) (data : EventData) : EventRecord :=
  ⟨o.id, o.name, o.block, o.index, o.extrinsic, o.timestamp, data⟩

end Occurrence

end ChainProjection
