import ChainProjection.Forum.Event
import ChainProjection.Metadata.Post
import ChainProjection.Projection.Basic

/-!
# Projecting forum events

What each forum event does to the store.  Every function gives the particulars that go into the
record of the event; writing the record is left to the caller.
-/

namespace ChainProjection.ForumEvent

open Projection

/-- The end of a poll as a time; the chain may send one that is none. -/
def pollEnd (o : Occurrence) (endTime : UInt64) : Projection Int64 :=
  if isSigned endTime.toNat then return endTime.toInt64 else fail o (.pollEndTime endTime)

/-- Checks that the poll of a new thread ends at a time. -/
def checkPoll (o : Occurrence) (poll : Option PollInput) :
    Projection (Option (PollInput × Int64)) := do
  match poll with
  | none => return none
  | some poll => return some (poll, ← pollEnd o poll.endTime)

/-- Attaches the poll of a new thread. -/
def attachPoll (o : Occurrence) (thread : ThreadId) (poll : Option (PollInput × Int64)) :
    Projection Unit := do
  match poll with
  | none => return ()
  | some (poll, endTime) =>
    let (_, store) ← ofStore <|
      (← store).insertPoll thread poll.description endTime poll.alternatives o.timestamp
    write fun _ => store

/-- A new thread with its poll and its first post. -/
def createThread (o : Occurrence) (category : CategoryId) (thread : ThreadId) (post : PostId)
    (author : MemberId) (title text : String) (poll : Option PollInput) :
    Projection EventData := do
  let category ← Projection.category o category
  let author ← member o author
  let poll ← checkPoll o poll
  write (·.saveThread {
    id := thread
    category := category.id
    author := author
    title := title
    isSticky := false
    status := .active
    createdAt := o.timestamp
    updatedAt := o.timestamp })
  attachPoll o thread poll
  write (·.savePost {
    id := post
    thread := thread
    author := author
    text := text
    status := .active
    origin := .threadInitial o.id
    repliesTo := none
    createdAt := o.timestamp
    updatedAt := o.timestamp })
  return .threadCreated thread title text

/-- Moves a thread; the chain's idea of where it was must be right. -/
def moveThread (o : Occurrence) (thread : ThreadId) (newCategory : CategoryId)
    (actor : PrivilegedActor) (oldCategory : CategoryId) : Projection EventData := do
  let row ← Projection.thread o thread
  let worker ← actorWorker o actor
  let target ← Projection.category o newCategory
  if row.category ≠ oldCategory then fail o (.threadElsewhere thread row.category oldCategory)
  write (·.saveThread { row with category := target.id, updatedAt := o.timestamp })
  return .threadMoved thread oldCategory newCategory worker.id

/-- The post a new post answers, if there is such a post. -/
def replyTarget (o : Occurrence) (target : Option PostId) : Projection (Option PostId) := do
  match target with
  | none => return none
  | some id => match ← ofStore ((← store).loadPost id) with
    | some post => return some post.id
    | none =>
      leaveOut o "replies_to" (.unknownReplyTarget id)
      return none

/-- A new post in a thread. -/
def addPost (o : Occurrence) (post : PostId) (author : MemberId) (thread : ThreadId)
    (payload : Bytes) (editable : Bool) : Projection EventData := do
  let row ← Projection.thread o thread
  let content := Metadata.PostContent.ofPayload payload
  let repliesTo ← replyTarget o content.repliesTo
  let author ← member o author
  write (·.savePost {
    id := post
    thread := row.id
    author := author
    text := content.text
    status := .initial editable
    origin := .threadReply o.id
    repliesTo := repliesTo
    createdAt := o.timestamp
    updatedAt := o.timestamp })
  return .postAdded post editable content.text

/-- The rows of posts after their deletion; each must be there and allow it. -/
def deletedPosts (o : Occurrence) (hide : Bool) : List PostId → Projection (List Post)
  | [] => return []
  | id :: rest => do
    let row ← Projection.post o id
    let status ← check o (row.status.delete hide o.id)
    let rows ← deletedPosts o hide rest
    return { row with status := status, updatedAt := o.timestamp } :: rows

/-- Deletes posts, all or none. -/
def deletePosts (o : Occurrence) (rationale : String) (actor : MemberId) (posts : List PostId)
    (hide : Bool) : Projection EventData := do
  let rows ← deletedPosts o hide posts
  let actor ← member o actor
  write fun store => rows.foldl Store.savePost store
  return .postDeleted posts rationale actor

/-- Makes a worker a moderator of a category, or no moderator. -/
def setModerator (o : Occurrence) (category : CategoryId) (worker : WorkerId)
    (canModerate : Bool) : Projection Unit := do
  if canModerate then
    let _ ← writeWith (·.addModerator category worker)
  else
    let removed ← writeWith (·.removeModerator category worker)
    if !removed then leaveOut o "moderators" (.notModerator worker category)

/-- What an event does; the particulars of its record. -/
def project (o : Occurrence) : ForumEvent → Projection EventData
  | .categoryCreated category parent title description => do
    write (·.saveCategory {
      id := category
      parent := parent
      title := title
      description := description
      status := .active
      createdAt := o.timestamp
      updatedAt := o.timestamp })
    return .categoryCreated category
  | .categoryUpdated category archived actor => do
    let row ← Projection.category o category
    let worker ← actorWorker o actor
    let status ← check o (row.status.withArchival archived o.id)
    write (·.saveCategory { row with status := status, updatedAt := o.timestamp })
    return .categoryUpdated category archived worker.id
  | .categoryDeleted category actor => do
    let row ← Projection.category o category
    let worker ← actorWorker o actor
    write (·.saveCategory { row with status := .removed o.id, updatedAt := o.timestamp })
    return .categoryDeleted category worker.id
  | .threadCreated category thread post author title text poll =>
    createThread o category thread post author title text poll
  | .threadModerated thread rationale actor => do
    let worker ← actorWorker o actor
    let row ← Projection.thread o thread
    let status ← check o (row.status.moderate o.id)
    write (·.saveThread { row with status := status, updatedAt := o.timestamp })
    return .threadModerated thread rationale worker.id
  | .threadTitleUpdated thread title => do
    let row ← Projection.thread o thread
    write (·.saveThread { row with title := title, updatedAt := o.timestamp })
    return .threadTitleUpdated thread title
  | .threadDeleted thread hide => do
    let row ← Projection.thread o thread
    let status ← check o (row.status.delete hide o.id)
    write (·.saveThread { row with status := status, updatedAt := o.timestamp })
    return .threadDeleted thread
  | .threadMoved thread newCategory actor oldCategory =>
    moveThread o thread newCategory actor oldCategory
  | .voteOnPoll thread index voter => do
    let alternative ← pollAlternative o thread index
    let voter ← member o voter
    return .voteOnPoll alternative.id voter
  | .postAdded post author thread payload editable => addPost o post author thread payload editable
  | .postModerated post rationale actor => do
    let worker ← actorWorker o actor
    let row ← Projection.post o post
    write (·.savePost { row with status := .moderated o.id, updatedAt := o.timestamp })
    return .postModerated post rationale worker.id
  | .postDeleted rationale actor posts hide => deletePosts o rationale actor posts hide
  | .postTextUpdated post text => do
    let row ← Projection.post o post
    write (·.savePost { row with text := text, updatedAt := o.timestamp })
    return .postTextUpdated post text
  | .categoryStickyThreadUpdate category threads actor => do
    let row ← Projection.category o category
    let worker ← actorWorker o actor
    let _ ← replaceSet o (.stickyThreads row.id) (threads.map (·.text))
    return .categoryStickyThreadUpdate category threads worker.id
  | .categoryMembershipOfModeratorUpdated moderator category canModerate => do
    let worker ← forumWorker o moderator
    let row ← Projection.category o category
    setModerator o row.id worker.id canModerate
    write (·.saveCategory { row with updatedAt := o.timestamp })
    return .categoryMembershipOfModeratorUpdated category worker.id canModerate

end ChainProjection.ForumEvent
