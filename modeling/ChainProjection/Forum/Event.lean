import ChainProjection.Projection.Occurrence
import ChainProjection.Wire.Actor

/-!
# Forum events

What happens on the forum, with the parameters read.  Parameters are read in order and the first one
that does not decode is reported; a few that the chain sends are not looked at.  Free-form text
arrives as byte strings.
-/

namespace ChainProjection

/-- A poll that comes with a new thread. -/
structure PollInput where
  description : String
  /-- When the poll ends, in unix milliseconds. -/
  endTime : UInt64
  alternatives : List String
  deriving DecidableEq

/-- A forum event. -/
inductive ForumEvent where
  | categoryCreated (category : CategoryId) (parent : Option CategoryId)
      (title description : String)
  | categoryUpdated (category : CategoryId) (archived : Bool) (actor : PrivilegedActor)
  | categoryDeleted (category : CategoryId) (actor : PrivilegedActor)
  | threadCreated (category : CategoryId) (thread : ThreadId) (post : PostId) (author : MemberId)
      (title text : String) (poll : Option PollInput)
  | threadModerated (thread : ThreadId) (rationale : String) (actor : PrivilegedActor)
  | threadTitleUpdated (thread : ThreadId) (title : String)
  | threadDeleted (thread : ThreadId) (hide : Bool)
  | threadMoved (thread : ThreadId) (newCategory : CategoryId) (actor : PrivilegedActor)
      (oldCategory : CategoryId)
  | voteOnPoll (thread : ThreadId) (index : UInt32) (voter : MemberId)
  | postAdded (post : PostId) (author : MemberId) (thread : ThreadId) (payload : Bytes)
      (editable : Bool)
  | postModerated (post : PostId) (rationale : String) (actor : PrivilegedActor)
  | postDeleted (rationale : String) (actor : MemberId) (posts : List PostId) (hide : Bool)
  | postTextUpdated (post : PostId) (text : String)
  | categoryStickyThreadUpdate (category : CategoryId) (threads : List ThreadId)
      (actor : PrivilegedActor)
  | categoryMembershipOfModeratorUpdated (moderator : UInt64) (category : CategoryId)
      (canModerate : Bool)
  deriving DecidableEq

namespace Wire

instance : Wire PollInput where
  encode poll := Json.ofMembers [
    ("description", encode (Bytes.mk (Utf8.encode poll.description))),
    ("end_time", encode poll.endTime),
    ("alternatives", encode (poll.alternatives.map fun text => Bytes.mk (Utf8.encode text)))]
  decode := Json.Fields.struct "PollInput" <|
    (fun (description : Bytes) endTime (alternatives : List Bytes) =>
      ⟨description.toText, endTime, alternatives.map Bytes.toText⟩) <$>
      required "description" <*> required "end_time" <*> withDefault "alternatives" []

end Wire

/-- Reads an event from its occurrence. -/
abbrev Reader (α : Type) := Occurrence → Except Inconsistency α

namespace ForumEvent

/-- The reader of the forum event with a name, if there is such an event. -/
def reader? : String → Option (Reader ForumEvent)
  | "forum.CategoryCreated" => some fun o => do
    let category ← o.param 0 "category_id"
    let parent ← o.param 1 "parent_id"
    let title ← o.textParam 2 "title"
    let description ← o.textParam 3 "description"
    return .categoryCreated category parent title description
  | "forum.CategoryUpdated" => some fun o => do
    let category ← o.param 0 "category_id"
    let archived ← o.param 1 "new_archival_status"
    let actor ← o.param 2 "actor"
    return .categoryUpdated category archived actor
  | "forum.CategoryDeleted" => some fun o => do
    let category ← o.param 0 "category_id"
    let actor ← o.param 1 "actor"
    return .categoryDeleted category actor
  | "forum.ThreadCreated" => some fun o => do
    let category ← o.param 0 "category_id"
    let thread ← o.param 1 "thread_id"
    let post ← o.param 2 "post_id"
    let author ← o.param 3 "member_id"
    let title ← o.textParam 4 "title"
    let text ← o.textParam 5 "text"
    let poll ← o.param 6 "poll"
    return .threadCreated category thread post author title text poll
  | "forum.ThreadModerated" => some fun o => do
    let thread ← o.param 0 "thread_id"
    let rationale ← o.textParam 1 "rationale"
    let actor ← o.param 2 "actor"
    return .threadModerated thread rationale actor
  | "forum.ThreadTitleUpdated" => some fun o => do
    let thread ← o.param 0 "thread_id"
    let title ← o.textParam 3 "new_title"
    return .threadTitleUpdated thread title
  | "forum.ThreadDeleted" => some fun o => do
    let thread ← o.param 0 "thread_id"
    let hide ← o.param 3 "hide"
    return .threadDeleted thread hide
  | "forum.ThreadMoved" => some fun o => do
    let thread ← o.param 0 "thread_id"
    let newCategory ← o.param 1 "new_category_id"
    let actor ← o.param 2 "actor"
    let oldCategory ← o.param 3 "old_category_id"
    return .threadMoved thread newCategory actor oldCategory
  | "forum.VoteOnPoll" => some fun o => do
    let thread ← o.param 0 "thread_id"
    let index ← o.param 1 "alternative_index"
    let voter ← o.param 2 "member_id"
    return .voteOnPoll thread index voter
  | "forum.PostAdded" => some fun o => do
    let post ← o.param 0 "post_id"
    let author ← o.param 1 "member_id"
    let thread ← o.param 3 "thread_id"
    let payload ← o.param 4 "metadata"
    let editable ← o.param 5 "editable"
    return .postAdded post author thread payload editable
  | "forum.PostModerated" => some fun o => do
    let post ← o.param 0 "post_id"
    let rationale ← o.textParam 1 "rationale"
    let actor ← o.param 2 "actor"
    return .postModerated post rationale actor
  | "forum.PostDeleted" => some fun o => do
    let rationale ← o.textParam 0 "rationale"
    let actor ← o.param 1 "member_id"
    let posts ← o.param 2 "post_ids"
    let hide ← o.param 3 "hide"
    return .postDeleted rationale actor posts hide
  | "forum.PostTextUpdated" => some fun o => do
    let post ← o.param 0 "post_id"
    let text ← o.textParam 4 "new_text"
    return .postTextUpdated post text
  | "forum.CategoryStickyThreadUpdate" => some fun o => do
    let category ← o.param 0 "category_id"
    let threads ← o.param 1 "thread_ids"
    let actor ← o.param 2 "actor"
    return .categoryStickyThreadUpdate category threads actor
  | "forum.CategoryMembershipOfModeratorUpdated" => some fun o => do
    let moderator ← o.param 0 "moderator_id"
    let category ← o.param 1 "category_id"
    let canModerate ← o.param 2 "can_moderate"
    return .categoryMembershipOfModeratorUpdated moderator category canModerate
  | _ => none

end ForumEvent

end ChainProjection
