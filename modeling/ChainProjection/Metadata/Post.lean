import ChainProjection.Id
import ChainProjection.Metadata.Messages

/-!
# What a post says

The payload of a post is a message with a text and a reply target, or else the text itself.  A
payload that reads as a message without either field is taken as text too.
-/

namespace ChainProjection.Metadata

open Protobuf (Schema)
open Protobuf.Field (string uint32)

/-- The message that a post may be. -/
structure PostMetadata where
  text : Option String := none
  repliesTo : Option UInt32 := none
  deriving DecidableEq, Repr

/-- The message type of forum posts. -/
def post : Schema PostMetadata where
  name := "ForumPostMetadata"
  empty := {}
  fields := [
    string 1 "text" (·.text) fun m x => { m with text := some x },
    uint32 2 "replies_to" (·.repliesTo) fun m x => { m with repliesTo := some x }]

/-- The text of a post and the post it answers. -/
structure PostContent where
  text : String
  repliesTo : Option PostId
  deriving DecidableEq

/-- Reads the payload of a post. -/
def PostContent.ofPayload (payload : Bytes) : PostContent :=
  let plain : PostContent := ⟨payload.toText, none⟩
  match post.decode payload.toList with
  | .error _ => plain
  | .ok ⟨none, none⟩ => plain
  | .ok message => ⟨message.text.getD "", message.repliesTo.map fun n => .ofNumber n.toUInt64⟩

end ChainProjection.Metadata
