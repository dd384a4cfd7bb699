import ChainProjection.Bytes

/-!
# Identifiers

Everything the chain numbers is known here by a text: the decimal number it has on the chain, or a
text built from several numbers.  An identifier remembers what kind of thing it names, so ids of
different kinds do not mix.  Ids are ordered as their texts, code point by code point.
-/

namespace ChainProjection

/-- The kinds of things that have ids of their own. -/
inductive Entity where
  | category
  | thread
  | post
  | member
  | worker
  | channel
  | channelCategory
  | video
  | videoCategory
  | curatorGroup
  | content
  | event
  deriving DecidableEq, Repr

/-- The id of a thing of one kind. -/
structure Id (entity : Entity) where
  /-- The text of the id. -/
  text : String
  deriving DecidableEq, Repr

/-- Id of a forum category. -/
abbrev CategoryId := Id .category

/-- Id of a forum thread. -/
abbrev ThreadId := Id .thread

/-- Id of a forum post. -/
abbrev PostId := Id .post

/-- Id of a membership. -/
abbrev MemberId := Id .member

/-- Id of a worker of a working group. -/
abbrev WorkerId := Id .worker

/-- Id of a content channel. -/
abbrev ChannelId := Id .channel

/-- Id of a channel category. -/
abbrev ChannelCategoryId := Id .channelCategory

/-- Id of a video. -/
abbrev VideoId := Id .video

/-- Id of a video category. -/
abbrev VideoCategoryId := Id .videoCategory

/-- Id of a curator group. -/
abbrev CuratorGroupId := Id .curatorGroup

/-- Id of a stored data object. -/
abbrev ContentId := Id .content

/-- Id of the record of an event. -/
abbrev EventId := Id .event

/-- A number in decimal digits. -/
def decimal (n : Nat) : String := toString n

namespace Id

/-- The id of the thing with this number on the chain. -/
def ofNumber {entity : Entity} (n : UInt64) : Id entity := ⟨decimal n.toNat⟩

instance {entity : Entity} : Ord (Id entity) := ⟨fun a b => compare a.text b.text⟩

instance {entity : Entity} : Std.TransOrd (Id entity) where
  eq_swap {a b} := Std.OrientedOrd.eq_swap (a := a.text) (b := b.text)
  isLE_trans {a b c} hab hbc :=
    (inferInstance : Std.TransOrd String).isLE_trans (a := a.text) (b := b.text) (c := c.text)
      hab hbc

instance {entity : Entity} : Std.LawfulEqOrd (Id entity) where
  compare_self {a} :=
    (inferInstance : Std.LawfulEqOrd String).compare_self (a := a.text)
  eq_of_compare {a b} h := by
    have : a.text = b.text := (inferInstance : Std.LawfulEqOrd String).eq_of_compare h
    cases a
    cases b
    exact congrArg Id.mk this

/-- The id of a worker: the working group and the number within it. -/
def ofWorker (group : String) (runtimeId : UInt64) : WorkerId :=
  ⟨group ++ "-" ++ decimal runtimeId.toNat⟩

/-- The id of a data object: its content id as hexadecimal text. -/
def ofContent (content : Bytes) : ContentId := ⟨content.toHex⟩

/-- The id of an event record: the block and the place of the event within it.  It is known before
the record is written, so a status can name the event that causes it. -/
def ofEvent (block : UInt64) (index : UInt32) : EventId :=
  ⟨decimal block.toNat ++ "-" ++ decimal index.toNat⟩

end Id

end ChainProjection
