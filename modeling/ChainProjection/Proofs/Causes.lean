import ChainProjection.Proofs.Keys

/-!
# Causes

A status or an origin that names an event names a record in the log, and the record says that it was
this event that brought the status about: it is of the right kind and names the same entity.

The main result, `causedIn_of_reachable`, is an invariant of steps carried along runs.  What makes
it less than immediate is the order of writes: **an event writes its rows before its record**, so
after the rows are written and before the record is, a status names a record that is not there.
What is said of the rows is therefore said of the log of another store, the one with the record.
`Store.CausedIn` has two stores for this, and a step keeps it for every log that has the new record
(`Handles.causedIn`); the log of the store before can be replaced by the longer one because causes
are never lost (`Store.CausedIn.mono`, which asks only that records are kept).

It rests on two things besides: that rows stand under their own ids (`Store.Keyed`), since a record
names an id and a look-up a key, and on the steps of forum events.  Content events write no row that
has a cause.
-/

namespace ChainProjection

open Store Table

/-- The log has a record with this id and these particulars. -/
def Store.Recorded (s : Store) (id : EventId) (data : EventData) : Prop :=
  ∃ record, s.event? id = some record ∧ record.data = data

/-- The cause of the status of a category: an update that archives it, or its deletion. -/
def CategoryStatus.CausedIn (s : Store) (id : CategoryId) : CategoryStatus → Prop
  | .active => True
  | .archived event => ∃ actor, s.Recorded event (.categoryUpdated id true actor)
  | .removed event => ∃ actor, s.Recorded event (.categoryDeleted id actor)

/-- The cause of the status of a thread: its deletion or its moderation. -/
def ThreadStatus.CausedIn (s : Store) (id : ThreadId) : ThreadStatus → Prop
  | .active => True
  | .locked event => s.Recorded event (.threadDeleted id)
  | .moderated event => ∃ rationale actor, s.Recorded event (.threadModerated id rationale actor)
  | .removed event => s.Recorded event (.threadDeleted id)

/-- The cause of the status of a post with an origin: a deletion of posts among which it is, or its
moderation.  A post that is locked without an event was added so. -/
def PostStatus.CausedIn (s : Store) (id : PostId) (origin : PostOrigin) : PostStatus → Prop
  | .active => True
  | .locked none =>
    ∃ event text, origin = .threadReply event ∧ s.Recorded event (.postAdded id false text)
  | .locked (some event) =>
    ∃ posts rationale actor, id ∈ posts ∧
      s.Recorded event (.postDeleted posts rationale actor)
  | .moderated event => ∃ rationale actor, s.Recorded event (.postModerated id rationale actor)
  | .removed event =>
    ∃ posts rationale actor, id ∈ posts ∧
      s.Recorded event (.postDeleted posts rationale actor)

/-- The cause of a post in a thread: the creation of the thread, or its own addition. -/
def PostOrigin.CausedIn (s : Store) (id : PostId) (thread : ThreadId) : PostOrigin → Prop
  | .threadInitial event => ∃ title text, s.Recorded event (.threadCreated thread title text)
  | .threadReply event => ∃ editable text, s.Recorded event (.postAdded id editable text)

/-- Every status and every origin in `s` has its cause in the log of `u`. -/
structure Store.CausedIn (u s : Store) : Prop where
  categories : Forall (fun id row ↦ row.status.CausedIn u id) s.categories
  threads : Forall (fun id row ↦ row.status.CausedIn u id) s.threads
  posts : Forall (fun id row ↦ row.status.CausedIn u id row.origin ∧
    row.origin.CausedIn u id row.thread) s.posts

variable {s s' t u : Store} {o : Occurrence} {d : EventData}

/-! ### Longer logs -/

/-- A category keeps its cause in a longer log. -/
theorem CategoryStatus.CausedIn.mono {id : CategoryId} {status : CategoryStatus}
    (hlog : ∀ id data, s.Recorded id data → u.Recorded id data) (h : status.CausedIn s id) :
    status.CausedIn u id := by
  cases status with
  | active => trivial
  | archived event => exact h.imp fun actor ↦ hlog _ _
  | removed event => exact h.imp fun actor ↦ hlog _ _

/-- A thread keeps its cause in a longer log. -/
theorem ThreadStatus.CausedIn.mono {id : ThreadId} {status : ThreadStatus}
    (hlog : ∀ id data, s.Recorded id data → u.Recorded id data) (h : status.CausedIn s id) :
    status.CausedIn u id := by
  cases status with
  | active => trivial
  | locked event => exact hlog _ _ h
  | moderated event => exact h.imp fun rationale ↦ Exists.imp fun actor ↦ hlog _ _
  | removed event => exact hlog _ _ h

/-- A post keeps the cause of its status in a longer log. -/
theorem PostStatus.CausedIn.mono {id : PostId} {origin : PostOrigin} {status : PostStatus}
    (hlog : ∀ id data, s.Recorded id data → u.Recorded id data)
    (h : status.CausedIn s id origin) : status.CausedIn u id origin := by
  rcases status with - | (- | event) | event | event
  · trivial
  · obtain ⟨event, text, horigin, hrecorded⟩ := h
    exact ⟨event, text, horigin, hlog _ _ hrecorded⟩
  · obtain ⟨posts, rationale, actor, hmem, hrecorded⟩ := h
    exact ⟨posts, rationale, actor, hmem, hlog _ _ hrecorded⟩
  · exact h.imp fun rationale ↦ Exists.imp fun actor ↦ hlog _ _
  · obtain ⟨posts, rationale, actor, hmem, hrecorded⟩ := h
    exact ⟨posts, rationale, actor, hmem, hlog _ _ hrecorded⟩

/-- A post keeps the cause of its origin in a longer log. -/
theorem PostOrigin.CausedIn.mono {id : PostId} {thread : ThreadId} {origin : PostOrigin}
    (hlog : ∀ id data, s.Recorded id data → u.Recorded id data)
    (h : origin.CausedIn s id thread) : origin.CausedIn u id thread := by
  cases origin with
  | threadInitial event => exact h.imp fun title ↦ Exists.imp fun text ↦ hlog _ _
  | threadReply event => exact h.imp fun editable ↦ Exists.imp fun text ↦ hlog _ _

/-- **Causes are never lost**: a log that has the records of an earlier one has its causes. -/
theorem Store.CausedIn.mono (hlog : ∀ id data, s.Recorded id data → u.Recorded id data)
    (h : s.CausedIn t) : u.CausedIn t where
  categories := h.categories.imp fun _ _ hrow ↦ hrow.mono hlog
  threads := h.threads.imp fun _ _ hrow ↦ hrow.mono hlog
  posts := h.posts.imp fun _ _ hrow ↦ ⟨hrow.1.mono hlog, hrow.2.mono hlog⟩

/-! ### Transitions -/

/-- An update archives a category by its own event or makes it active. -/
theorem CategoryStatus.eq_of_withArchival {status status' : CategoryStatus} {archived : Bool}
    {event : EventId} (h : status.withArchival archived event = .ok status') :
    status' = if archived then .archived event else .active := by
  cases status <;> cases h <;> rfl

/-- A thread leaves its active status for the one asked for. -/
theorem ThreadStatus.eq_of_leaveActive {status target status' : ThreadStatus}
    (h : status.leaveActive target = .ok status') : status' = target := by
  cases status <;> cases h
  rfl

/-- A deletion removes a post or locks it, by its own event. -/
theorem PostStatus.eq_of_delete {status status' : PostStatus} {hide : Bool} {event : EventId}
    (h : status.delete hide event = .ok status') :
    status' = if hide then .removed event else .locked (some event) := by
  cases status <;> cases h <;> rfl

/-! ### Writes -/

namespace Store.CausedIn

/-- A category may be saved with a status that has its cause. -/
theorem saveCategory (h : u.CausedIn s) {category : Category}
    (hstatus : category.status.CausedIn u category.id) : u.CausedIn (s.saveCategory category) :=
  { h with categories := h.categories.upsert rfl fun _ ↦ hstatus }

theorem saveThread (h : u.CausedIn s) {thread : Thread}
    (hstatus : thread.status.CausedIn u thread.id) : u.CausedIn (s.saveThread thread) :=
  { h with threads := h.threads.upsert rfl fun _ ↦ hstatus }

/-- A post may be saved if its status and its origin have their causes. -/
theorem savePost (h : u.CausedIn s) {post : Post}
    (hstatus : post.status.CausedIn u post.id post.origin)
    (horigin : post.origin.CausedIn u post.id post.thread) : u.CausedIn (s.savePost post) :=
  { h with posts := h.posts.upsert rfl fun _ ↦ ⟨hstatus, horigin⟩ }

/-- Posts may be saved one after the other if each of them may. -/
theorem foldl_savePost (h : u.CausedIn s) {posts : List Post}
    (hposts : ∀ post ∈ posts, post.status.CausedIn u post.id post.origin ∧
      post.origin.CausedIn u post.id post.thread) :
    u.CausedIn (posts.foldl Store.savePost s) := by
  induction posts generalizing s with
  | nil => exact h
  | cons post rest ih =>
    rw [List.forall_mem_cons] at hposts
    exact ih (h.savePost hposts.1.1 hposts.1.2) hposts.2

/-- A poll says nothing of statuses and origins. -/
theorem poll (h : u.CausedIn s) {thread : ThreadId} {poll : Option PollInput}
    (polled : ForumEvent.PollStep o s thread poll s') : u.CausedIn s' := by
  cases polled with
  | none => exact h
  | some _ attached =>
    obtain rfl := insertPoll_eq_ok attached
    exact { h with }

/-- Content events write no row that has a cause. -/
theorem writesContent (h : u.CausedIn s) (hwrites : WritesContent s s') : u.CausedIn s' where
  categories := hwrites.categories ▸ h.categories
  threads := hwrites.threads ▸ h.threads
  posts := hwrites.posts ▸ h.posts

/-! ### Rows that are found -/

theorem category (h : u.CausedIn s) (hkeyed : s.Keyed) {id : CategoryId} {row : Category}
    (found : s.categories[id]? = some row) : row.status.CausedIn u row.id := by
  rw [hkeyed.categories found]
  exact h.categories found

theorem thread (h : u.CausedIn s) (hkeyed : s.Keyed) {id : ThreadId} {row : Thread}
    (found : s.threads[id]? = some row) : row.status.CausedIn u row.id := by
  rw [hkeyed.threads found]
  exact h.threads found

/-- A post that is found has its causes under its own id. -/
theorem post (h : u.CausedIn s) (hkeyed : s.Keyed) {id : PostId} {row : Post}
    (found : s.posts[id]? = some row) :
    row.status.CausedIn u row.id row.origin ∧ row.origin.CausedIn u row.id row.thread := by
  rw [hkeyed.posts found]
  exact h.posts found

end Store.CausedIn

/-! ### Steps -/

/-- A deletion gives each of its posts a status that has the deletion for its cause. -/
theorem ForumEvent.DeletesTo.causedIn {hide : Bool} {id : PostId} {post : Post}
    {posts : List PostId} {rationale : String} {actor : MemberId} (hkeyed : s.Keyed)
    (h : u.CausedIn s) (hrecorded : u.Recorded o.id (.postDeleted posts rationale actor))
    (hmem : id ∈ posts) (deleted : DeletesTo o s hide id post) :
    post.status.CausedIn u post.id post.origin ∧ post.origin.CausedIn u post.id post.thread := by
  obtain ⟨row, status, found, allowed, rfl⟩ := deleted
  refine ⟨?_, (h.post hkeyed found).2⟩
  show status.CausedIn u row.id row.origin
  rw [PostStatus.eq_of_delete allowed, hkeyed.posts found]
  cases hide with
  | true => exact ⟨posts, rationale, actor, hmem, hrecorded⟩
  | false => exact ⟨posts, rationale, actor, hmem, hrecorded⟩

/-- A forum event keeps causes in every log that has its own record. -/
theorem ForumEvent.Step.causedIn {e : ForumEvent} (hkeyed : s.Keyed) (h : u.CausedIn s)
    (hrecorded : u.Recorded o.id d) (step : Step o s e d s') : u.CausedIn s' := by
  cases step with
  | categoryCreated => exact h.saveCategory trivial
  | @categoryUpdated category archived actor row worker status found granted allowed =>
    -- Unarchiving makes the category active, which needs no cause.
    refine h.saveCategory ?_
    show status.CausedIn u row.id
    rw [CategoryStatus.eq_of_withArchival allowed, hkeyed.categories found]
    cases archived with
    | false => trivial
    | true => exact ⟨worker.id, hrecorded⟩
  | @categoryDeleted category actor row worker found granted =>
    refine h.saveCategory ?_
    show CategoryStatus.CausedIn u row.id (.removed o.id)
    rw [hkeyed.categories found]
    exact ⟨worker.id, hrecorded⟩
  | @threadCreated category thread post author title text poll row s' found polled =>
    -- The thread is active; its first post has the creation of this thread for its origin.
    have hmember : u.CausedIn (s.ensureMember author o.block) := { h with }
    refine ((hmember.saveThread ?_).poll polled).savePost ?_ ?_
    · trivial
    · trivial
    · exact ⟨title, text, hrecorded⟩
  | @threadModerated thread rationale actor row worker status granted found allowed =>
    refine h.saveThread ?_
    show status.CausedIn u row.id
    rw [ThreadStatus.eq_of_leaveActive allowed, hkeyed.threads found]
    exact ⟨rationale, worker.id, hrecorded⟩
  | threadTitleUpdated found =>
    have hstatus := h.thread hkeyed found
    exact h.saveThread hstatus
  | @threadDeleted thread hide row status found allowed =>
    refine h.saveThread ?_
    show status.CausedIn u row.id
    rw [ThreadStatus.eq_of_leaveActive allowed, hkeyed.threads found]
    cases hide with
    | true => exact hrecorded
    | false => exact hrecorded
  | threadMoved found granted there =>
    have hstatus := h.thread hkeyed found
    exact h.saveThread hstatus
  | voteOnPoll => exact { h with }
  | @postAdded post author thread payload editable row found =>
    have hmember : u.CausedIn (s.ensureMember author o.block) := { h with }
    -- A post that cannot be edited is locked at once, and its own addition says so.
    refine hmember.savePost ?_ ⟨editable, _, hrecorded⟩
    cases editable with
    | true => trivial
    | false => exact ⟨o.id, _, rfl, hrecorded⟩
  | @postModerated post rationale actor row worker granted found =>
    refine h.savePost ?_ (h.post hkeyed found).2
    show PostStatus.CausedIn u row.id row.origin (.moderated o.id)
    rw [hkeyed.posts found]
    exact ⟨rationale, worker.id, hrecorded⟩
  | @postDeleted rationale actor posts hide rows allowed =>
    have hmember : u.CausedIn (s.ensureMember actor o.block) := { h with }
    refine hmember.foldl_savePost fun post hpost ↦ ?_
    obtain ⟨id, hmem, deleted⟩ := exists_deletesTo allowed hpost
    exact deleted.causedIn hkeyed h hrecorded hmem
  | postTextUpdated found =>
    obtain ⟨hstatus, horigin⟩ := h.post hkeyed found
    exact h.savePost hstatus horigin
  | categoryStickyThreadUpdate found granted replaced =>
    have hrows := forall_replaceSticky replaced h.threads fun _ _ _ hrow ↦ hrow
    rw [replaceSticky_frame replaced]
    exact { h with threads := hrows }
  | @categoryMembershipOfModeratorUpdated moderator category canModerate row worker granted found =>
    have hflag : u.CausedIn (s.withModerator row.id worker.id canModerate) := by
      cases canModerate <;> exact { h with }
    have hstatus := h.category hkeyed found
    exact hflag.saveCategory hstatus

/-- Every step keeps causes in every log that has its own record. -/
theorem Handles.causedIn (hkeyed : s.Keyed) (h : u.CausedIn s) (hrecorded : u.Recorded o.id d)
    (handled : Handles o s d s') : u.CausedIn s' := by
  rcases handled with ⟨-, -, step⟩ | ⟨-, -, step⟩ | ⟨-, -, step⟩
  · exact step.causedIn hkeyed h hrecorded
  · exact h.writesContent step.writesContent
  · exact h.writesContent step.writesContent

namespace Store

/-- The records of a visited store name the causes of all its statuses and origins. -/
theorem Visited.causedIn {admits : Occurrence → Prop} (h : Visited admits s) :
    s.CausedIn s := by
  induction h with
  | seeded h =>
    rw [h.eq]
    exact ⟨forall_empty, forall_empty, forall_empty⟩
  | @event s t o d visited _ handled fresh ih =>
    -- The rows are judged by the log that has the new record already, so that the step may name it.
    have hgrown : (t.withRecord (o.record d)).CausedIn s := by
      refine ih.mono fun id data ⟨record, hrecord, hdata⟩ ↦ ?_
      exact ⟨record, handled.event?_withRecord fresh hrecord, hdata⟩
    have hrecorded : (t.withRecord (o.record d)).Recorded o.id d :=
      ⟨o.record d, event?_withRecord_self .., rfl⟩
    exact { handled.causedIn visited.keyed hgrown hrecorded with }
  | cursor _ _ ih => exact ⟨ih.categories, ih.threads, ih.posts⟩

/-- In a reachable store every status and every origin that names an event names the record of an
event that brought it about. -/
theorem causedIn_of_reachable (h : s.Reachable) : s.CausedIn s :=
  h.visited.causedIn

/-- The lead of the forum. -/
def forumLead : Worker where
  id := .ofWorker forumGroup 0
  groupId := forumGroup
  runtimeId := 0
  membership := none
  isLead := true
  isActive := true

/-- A category is created and archived in one block. -/
def archivalBlock : Block where
  number := 0
  timestamp := 0
  events := [
    ⟨"forum.CategoryCreated", 0, none, [.string "7", .null, .string "0x", .string "0x"]⟩,
    ⟨"forum.CategoryUpdated", 1, none, [.string "7", .bool true, .string "Lead"]⟩]

/-- The store after the category was created and archived. -/
def archivalStore : Store := afterBlock { workers := [forumLead] } archivalBlock

/-- The category is archived by the second event of the block, and the log has its record. -/
theorem causedIn_of_reachable_archivalStore :
    archivalStore.Reachable ∧
      (∃ row, archivalStore.categories[(⟨"7"⟩ : CategoryId)]? = some row ∧
        row.status = .archived ⟨"0-1"⟩) ∧
      archivalStore.CausedIn archivalStore := by
  have hseeded : Store.Seeded { workers := [forumLead] } := .worker .fresh rfl
  have hreachable : archivalStore.Reachable := .block (.seeded hseeded) _ fun _ _ ↦ trivial
  have hstatus : archivalStore.categories[(⟨"7"⟩ : CategoryId)]?.map (·.status) =
      some (.archived ⟨"0-1"⟩) := by decide +kernel
  exact ⟨hreachable, by simpa using hstatus, causedIn_of_reachable hreachable⟩

end Store

end ChainProjection
