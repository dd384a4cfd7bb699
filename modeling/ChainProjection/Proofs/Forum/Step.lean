import ChainProjection.Forum.Project
import ChainProjection.Proofs.Projection.Rows
import Mathlib.Data.List.Forall2

/-!
# Steps of forum events

Everything a forum event can do to a store when it succeeds, one constructor of `Step` for each kind
of event: what must be there, what must be allowed, the particulars of the record and the store that
is left.  **`yields_project` is the equivalence of the steps with the projection**, and it is proved
by taking each handler apart with the rules of its parts.  Nothing proved of forum events opens
their projection again: what a handler keeps is a case analysis over `Step`, and when it succeeds is
a question of building one.

Each constructor has the guards of its handler as hypotheses, in the order in which the handler
looks at them.  Where a part does more than look, it has a relation of its own: `PollStep` for the
poll that a thread may bring, `DeletesTo` for what a deletion makes of one post.  The order matters
for failures, which `Step` does not have; they are read off the rules by the modules that need them.

The last section says which errors of the storage a forum event can end with: there is one, for a
second poll of a thread (`fails_project_store`).
-/

namespace ChainProjection

/-- The store once a worker may or may not moderate a category. -/
def Store.withModerator (s : Store) (category : CategoryId) (worker : WorkerId)
    (canModerate : Bool) : Store :=
  if canModerate then (s.addModerator category worker).2 else (s.removeModerator category worker).2

namespace ForumEvent

open Projection

variable {o : Occurrence} {s s' : Store}

/-! ### Parts -/

/-- The end of a poll is a time that the storage can take. -/
@[simp]
theorem yields_pollEnd {endTime : UInt64} {time : Int64} :
    (pollEnd o endTime).Yields s time s' ↔
      isSigned endTime.toNat = true ∧ time = endTime.toInt64 ∧ s' = s := by
  rw [pollEnd]
  split <;> simp_all

/-- A time past the signed numbers is an inconsistency, reported with the time as it came. -/
@[simp]
theorem fails_pollEnd {endTime : UInt64} {error : ProjectionError} :
    (pollEnd o endTime).Fails s error s' ↔
      ¬isSigned endTime.toNat = true ∧ error = o.inconsistent (.pollEndTime endTime) ∧
        s' = s := by
  rw [pollEnd]
  split <;> simp_all

/-- What becomes of the poll of a new thread: a poll needs a time for its end and a thread that has
none yet. -/
inductive PollStep (o : Occurrence) (s : Store) (thread : ThreadId) :
    Option PollInput → Store → Prop
  | none : PollStep o s thread none s
  | some {poll : PollInput} {row : Nat} {s' : Store} (ends : isSigned poll.endTime.toNat = true)
      (attached : s.insertPoll thread poll.description poll.endTime.toInt64 poll.alternatives
        o.timestamp = .ok (row, s')) :
      PollStep o s thread (some poll) s'

/-- The post a reply is stored with: its target, if that exists. -/
def repliedTo (s : Store) (target : Option PostId) : Option PostId :=
  target.bind fun id ↦ s.posts[id]?.map (·.id)

/-- A target that does not exist is left out and does not fail the event. -/
@[simp]
theorem yields_replyTarget {target answered : Option PostId} :
    (replyTarget o target).Yields s answered s' ↔ answered = repliedTo s target ∧ s' = s := by
  rcases target with - | id
  · simp [replyTarget, repliedTo]
  · rcases h : s.posts[id]? with - | row
    · simp [replyTarget, repliedTo, h, and_assoc]
    · simp [replyTarget, repliedTo, h, and_assoc]

/-- Whoever may moderate is put in, and whoever may not is taken out. -/
@[simp]
theorem yields_setModerator {category : CategoryId} {worker : WorkerId} {canModerate : Bool}
    {x : Unit} :
    (setModerator o category worker canModerate).Yields s x s' ↔
      s' = s.withModerator category worker canModerate := by
  cases canModerate with
  | true => simp [setModerator, Store.withModerator]
  | false =>
    rcases h : (s.removeModerator category worker).1 with _ | _ <;>
      simp [setModerator, Store.withModerator, h]

/-- What a deletion makes of a post that allows it. -/
def DeletesTo (o : Occurrence) (s : Store) (hide : Bool) (id : PostId) (post : Post) : Prop :=
  ∃ row status, s.posts[id]? = some row ∧ row.status.delete hide o.id = .ok status ∧
    post = { row with status := status, updatedAt := o.timestamp }

/-- The rows of a deletion are those of the posts it lists, one by one and in order, each as the
deletion leaves it. -/
@[simp]
theorem yields_deletedPosts {hide : Bool} {ids : List PostId} {rows : List Post} :
    (deletedPosts o hide ids).Yields s rows s' ↔
      List.Forall₂ (DeletesTo o s hide) ids rows ∧ s' = s := by
  induction ids generalizing s rows s' with
  | nil => simp [deletedPosts]
  | cons id rest ih =>
    simp only [deletedPosts, yields_bind, yields_post, yields_check, yields_pure, ih]
    constructor
    · rintro ⟨row, _, ⟨hrow, rfl⟩, status, _, ⟨hstatus, rfl⟩, _, _, ⟨hrest, rfl⟩, rfl, rfl⟩
      exact ⟨.cons ⟨row, status, hrow, hstatus, rfl⟩ hrest, rfl⟩
    · rintro ⟨_ | ⟨⟨row, status, hrow, hstatus, rfl⟩, hrest⟩, rfl⟩
      exact ⟨row, _, ⟨hrow, rfl⟩, status, _, ⟨hstatus, rfl⟩, _, _, ⟨hrest, rfl⟩, rfl, rfl⟩

/-- Each row of a deletion is one of the posts it lists. -/
theorem exists_deletesTo {hide : Bool} {ids : List PostId} {rows : List Post}
    (h : List.Forall₂ (DeletesTo o s hide) ids rows) {post : Post} (hpost : post ∈ rows) :
    ∃ id ∈ ids, DeletesTo o s hide id post := by
  induction h with
  | nil => cases hpost
  | cons hfirst _ ih =>
    rcases List.mem_cons.1 hpost with rfl | hrest
    · exact ⟨_, List.mem_cons_self, hfirst⟩
    · obtain ⟨id, hid, hdeletes⟩ := ih hrest
      exact ⟨id, List.mem_cons_of_mem _ hid, hdeletes⟩

/-! ### Events -/

/-- What a forum event can do. -/
inductive Step (o : Occurrence) (s : Store) : ForumEvent → EventData → Store → Prop
  | categoryCreated {category : CategoryId} {parent : Option CategoryId}
      {title description : String} :
      Step o s (.categoryCreated category parent title description) (.categoryCreated category)
        (s.saveCategory {
          id := category
          parent := parent
          title := title
          description := description
          status := .active
          createdAt := o.timestamp
          updatedAt := o.timestamp })
  | categoryUpdated {category : CategoryId} {archived : Bool} {actor : PrivilegedActor}
      {row : Category} {worker : Worker} {status : CategoryStatus}
      (found : s.categories[category]? = some row)
      (granted : s.privileged? actor = some worker)
      (allowed : row.status.withArchival archived o.id = .ok status) :
      Step o s (.categoryUpdated category archived actor)
        (.categoryUpdated category archived worker.id)
        (s.saveCategory { row with status := status, updatedAt := o.timestamp })
  | categoryDeleted {category : CategoryId} {actor : PrivilegedActor} {row : Category}
      {worker : Worker}
      (found : s.categories[category]? = some row)
      (granted : s.privileged? actor = some worker) :
      Step o s (.categoryDeleted category actor) (.categoryDeleted category worker.id)
        (s.saveCategory { row with status := .removed o.id, updatedAt := o.timestamp })
  | threadCreated {category : CategoryId} {thread : ThreadId} {post : PostId} {author : MemberId}
      {title text : String} {poll : Option PollInput} {row : Category} {s' : Store}
      (found : s.categories[category]? = some row)
      (polled : PollStep o ((s.ensureMember author o.block).saveThread {
          id := thread
          category := row.id
          author := author
          title := title
          isSticky := false
          status := .active
          createdAt := o.timestamp
          updatedAt := o.timestamp }) thread poll s') :
      Step o s (.threadCreated category thread post author title text poll)
        (.threadCreated thread title text)
        (s'.savePost {
          id := post
          thread := thread
          author := author
          text := text
          status := .active
          origin := .threadInitial o.id
          repliesTo := none
          createdAt := o.timestamp
          updatedAt := o.timestamp })
  | threadModerated {thread : ThreadId} {rationale : String} {actor : PrivilegedActor}
      {row : Thread} {worker : Worker} {status : ThreadStatus}
      (granted : s.privileged? actor = some worker)
      (found : s.threads[thread]? = some row)
      (allowed : row.status.moderate o.id = .ok status) :
      Step o s (.threadModerated thread rationale actor)
        (.threadModerated thread rationale worker.id)
        (s.saveThread { row with status := status, updatedAt := o.timestamp })
  | threadTitleUpdated {thread : ThreadId} {title : String} {row : Thread}
      (found : s.threads[thread]? = some row) :
      Step o s (.threadTitleUpdated thread title) (.threadTitleUpdated thread title)
        (s.saveThread { row with title := title, updatedAt := o.timestamp })
  | threadDeleted {thread : ThreadId} {hide : Bool} {row : Thread} {status : ThreadStatus}
      (found : s.threads[thread]? = some row)
      (allowed : row.status.delete hide o.id = .ok status) :
      Step o s (.threadDeleted thread hide) (.threadDeleted thread)
        (s.saveThread { row with status := status, updatedAt := o.timestamp })
  | threadMoved {thread : ThreadId} {newCategory : CategoryId} {actor : PrivilegedActor}
      {row : Thread} {worker : Worker} {target : Category}
      (found : s.threads[thread]? = some row)
      (granted : s.privileged? actor = some worker)
      (there : s.categories[newCategory]? = some target) :
      Step o s (.threadMoved thread newCategory actor row.category)
        (.threadMoved thread row.category newCategory worker.id)
        (s.saveThread { row with category := target.id, updatedAt := o.timestamp })
  | voteOnPoll {thread : ThreadId} {index : UInt32} {voter : MemberId}
      {alternative : PollAlternative}
      (found : s.pollAlternative? thread index = some alternative) :
      Step o s (.voteOnPoll thread index voter) (.voteOnPoll alternative.id voter)
        (s.ensureMember voter o.block)
  | postAdded {post : PostId} {author : MemberId} {thread : ThreadId} {payload : Bytes}
      {editable : Bool} {row : Thread}
      (found : s.threads[thread]? = some row) :
      Step o s (.postAdded post author thread payload editable)
        (.postAdded post editable (Metadata.PostContent.ofPayload payload).text)
        ((s.ensureMember author o.block).savePost {
          id := post
          thread := row.id
          author := author
          text := (Metadata.PostContent.ofPayload payload).text
          status := .initial editable
          origin := .threadReply o.id
          repliesTo := repliedTo s (Metadata.PostContent.ofPayload payload).repliesTo
          createdAt := o.timestamp
          updatedAt := o.timestamp })
  | postModerated {post : PostId} {rationale : String} {actor : PrivilegedActor} {row : Post}
      {worker : Worker}
      (granted : s.privileged? actor = some worker)
      (found : s.posts[post]? = some row) :
      Step o s (.postModerated post rationale actor) (.postModerated post rationale worker.id)
        (s.savePost { row with status := .moderated o.id, updatedAt := o.timestamp })
  | postDeleted {rationale : String} {actor : MemberId} {posts : List PostId} {hide : Bool}
      {rows : List Post}
      (allowed : List.Forall₂ (DeletesTo o s hide) posts rows) :
      Step o s (.postDeleted rationale actor posts hide) (.postDeleted posts rationale actor)
        (rows.foldl Store.savePost (s.ensureMember actor o.block))
  | postTextUpdated {post : PostId} {text : String} {row : Post}
      (found : s.posts[post]? = some row) :
      Step o s (.postTextUpdated post text) (.postTextUpdated post text)
        (s.savePost { row with text := text, updatedAt := o.timestamp })
  | categoryStickyThreadUpdate {category : CategoryId} {threads : List ThreadId}
      {actor : PrivilegedActor} {row : Category} {worker : Worker} {change : SetChange}
      {s' : Store}
      (found : s.categories[category]? = some row)
      (granted : s.privileged? actor = some worker)
      (replaced : s.replaceSet (.stickyThreads row.id) (threads.map (·.text)) o.timestamp =
        .ok (change, s')) :
      Step o s (.categoryStickyThreadUpdate category threads actor)
        (.categoryStickyThreadUpdate category threads worker.id) s'
  | categoryMembershipOfModeratorUpdated {moderator : UInt64} {category : CategoryId}
      {canModerate : Bool} {row : Category} {worker : Worker}
      (granted : s.groupWorker? forumGroup moderator = some worker)
      (found : s.categories[category]? = some row) :
      Step o s (.categoryMembershipOfModeratorUpdated moderator category canModerate)
        (.categoryMembershipOfModeratorUpdated category worker.id canModerate)
        ((s.withModerator row.id worker.id canModerate).saveCategory
          { row with updatedAt := o.timestamp })

/-- A thread is created exactly in the ways `Step` allows. -/
theorem yields_createThread {category : CategoryId} {thread : ThreadId} {post : PostId}
    {author : MemberId} {title text : String} {poll : Option PollInput} {d : EventData} :
    (createThread o category thread post author title text poll).Yields s d s' ↔
      Step o s (.threadCreated category thread post author title text poll) d s' := by
  cases poll with
  | none =>
    simp only [createThread, checkPoll, attachPoll, yields_bind, yields_category, yields_member,
      yields_pure, yields_write, exists_eq_left, exists_const, ↓existsAndEq, and_true, true_and]
    constructor
    · rintro ⟨row, found, rfl, rfl⟩
      exact .threadCreated found .none
    · intro h
      cases h with
      | threadCreated found polled =>
        cases polled
        exact ⟨_, found, rfl, rfl⟩
  | some poll =>
    -- With a poll there is one more check and one more write, in this order.
    simp only [createThread, checkPoll, attachPoll, yields_bind, yields_category, yields_member,
      yields_pollEnd, yields_pure, and_assoc, exists_and_left, ↓existsAndEq, true_and, yields_write,
      exists_eq_left, exists_const, yields_store, yields_ofStore, Prod.exists, exists_eq_right']
    constructor
    · rintro ⟨row, found, ends, t, ⟨_, attached⟩, rfl, rfl⟩
      exact .threadCreated found (.some ends attached)
    · intro h
      cases h with
      | threadCreated found polled =>
        cases polled with
        | some ends attached => exact ⟨_, found, ends, _, ⟨_, attached⟩, rfl, rfl⟩

/-- **A forum event succeeds exactly in the ways `Step` allows.** -/
theorem yields_project {e : ForumEvent} {d : EventData} :
    (project o e).Yields s d s' ↔ Step o s e d s' := by
  cases e with
  | categoryCreated category parent title description =>
    simp only [project, yields_bind, yields_write, yields_pure, exists_eq_left, exists_const]
    constructor
    · rintro ⟨rfl, rfl⟩
      exact .categoryCreated
    · intro h
      cases h with
      | categoryCreated => exact ⟨rfl, rfl⟩
  | categoryUpdated category archived actor =>
    simp only [project, yields_bind, yields_category, yields_actorWorker, yields_check,
      yields_write, yields_pure, exists_eq_left, exists_const, ↓existsAndEq, and_true]
    constructor
    · rintro ⟨row, found, worker, granted, status, allowed, rfl, rfl⟩
      exact .categoryUpdated found granted allowed
    · intro h
      cases h with
      | categoryUpdated found granted allowed => exact ⟨_, found, _, granted, _, allowed, rfl, rfl⟩
  | categoryDeleted category actor =>
    simp only [project, yields_bind, yields_category, yields_actorWorker, yields_write, yields_pure,
      exists_eq_left, exists_const, ↓existsAndEq, and_true]
    constructor
    · rintro ⟨row, found, worker, granted, rfl, rfl⟩
      exact .categoryDeleted found granted
    · intro h
      cases h with
      | categoryDeleted found granted => exact ⟨_, found, _, granted, rfl, rfl⟩
  | threadCreated category thread post author title text poll => exact yields_createThread
  | threadModerated thread rationale actor =>
    simp only [project, yields_bind, yields_actorWorker, yields_thread, yields_check, yields_write,
      yields_pure, exists_eq_left, exists_const, ↓existsAndEq, and_true]
    constructor
    · rintro ⟨worker, granted, row, found, status, allowed, rfl, rfl⟩
      exact .threadModerated granted found allowed
    · intro h
      cases h with
      | threadModerated granted found allowed => exact ⟨_, granted, _, found, _, allowed, rfl, rfl⟩
  | threadTitleUpdated thread title =>
    simp only [project, yields_bind, yields_thread, yields_write, yields_pure, exists_eq_left,
      exists_const, ↓existsAndEq, and_true]
    constructor
    · rintro ⟨row, found, rfl, rfl⟩
      exact .threadTitleUpdated found
    · intro h
      cases h with
      | threadTitleUpdated found => exact ⟨_, found, rfl, rfl⟩
  | threadDeleted thread hide =>
    simp only [project, yields_bind, yields_thread, yields_check, yields_write, yields_pure,
      exists_eq_left, exists_const, ↓existsAndEq, and_true]
    constructor
    · rintro ⟨row, found, status, allowed, rfl, rfl⟩
      exact .threadDeleted found allowed
    · intro h
      cases h with
      | threadDeleted found allowed => exact ⟨_, found, _, allowed, rfl, rfl⟩
  | threadMoved thread newCategory actor oldCategory =>
    simp only [project, moveThread, ne_eq, ite_not, yields_bind, yields_thread, yields_actorWorker,
      yields_category, ↓existsAndEq, and_true]
    constructor
    · rintro ⟨row, found, worker, granted, target, there, h⟩
      -- The event says where the thread was; it has to be there.
      split at h
      · simp only [yields_bind, yields_write, yields_pure, exists_eq_left, exists_const] at h
        obtain ⟨rfl, rfl⟩ := h
        subst oldCategory
        exact .threadMoved found granted there
      · simp at h
    · intro h
      cases h with
      | threadMoved found granted there =>
        refine ⟨_, found, _, granted, _, there, ?_⟩
        simp
  | voteOnPoll thread index voter =>
    simp only [project, yields_bind, yields_pollAlternative, yields_member, yields_pure,
      exists_eq_right_right', ↓existsAndEq, true_and, and_true]
    constructor
    · rintro ⟨alternative, found, rfl, rfl⟩
      exact .voteOnPoll found
    · intro h
      cases h with
      | voteOnPoll found => exact ⟨_, found, rfl, rfl⟩
  | postAdded post author thread payload editable =>
    simp only [project, addPost, yields_bind, yields_thread, yields_replyTarget, yields_member,
      yields_write, yields_pure, exists_eq_left, exists_const, ↓existsAndEq, and_true]
    constructor
    · rintro ⟨row, found, rfl, rfl⟩
      exact .postAdded found
    · intro h
      cases h with
      | postAdded found => exact ⟨_, found, rfl, rfl⟩
  | postModerated post rationale actor =>
    simp only [project, yields_bind, yields_actorWorker, yields_post, yields_write, yields_pure,
      exists_eq_left, exists_const, ↓existsAndEq, and_true]
    constructor
    · rintro ⟨worker, granted, row, found, rfl, rfl⟩
      exact .postModerated granted found
    · intro h
      cases h with
      | postModerated granted found => exact ⟨_, granted, _, found, rfl, rfl⟩
  | postDeleted rationale actor posts hide =>
    simp only [project, deletePosts, yields_bind, yields_deletedPosts, yields_member, yields_write,
      yields_pure, exists_eq_left, exists_const, ↓existsAndEq, and_true]
    constructor
    · rintro ⟨rows, allowed, rfl, rfl⟩
      exact .postDeleted allowed
    · intro h
      cases h with
      | postDeleted allowed => exact ⟨_, allowed, rfl, rfl⟩
  | postTextUpdated post text =>
    simp only [project, yields_bind, yields_post, yields_write, yields_pure, exists_eq_left,
      exists_const, ↓existsAndEq, and_true]
    constructor
    · rintro ⟨row, found, rfl, rfl⟩
      exact .postTextUpdated found
    · intro h
      cases h with
      | postTextUpdated found => exact ⟨_, found, rfl, rfl⟩
  | categoryStickyThreadUpdate category threads actor =>
    simp only [project, yields_bind, yields_category, yields_actorWorker, yields_replaceSet,
      yields_pure, exists_eq_right_right', exists_and_right, ↓existsAndEq, and_true]
    constructor
    · rintro ⟨row, found, worker, granted, ⟨change, replaced⟩, rfl⟩
      exact .categoryStickyThreadUpdate found granted replaced
    · intro h
      cases h with
      | categoryStickyThreadUpdate found granted replaced =>
        exact ⟨_, found, _, granted, ⟨_, replaced⟩, rfl⟩
  | categoryMembershipOfModeratorUpdated moderator category canModerate =>
    simp only [project, yields_bind, yields_forumWorker, yields_category, yields_setModerator,
      yields_write, yields_pure, exists_eq_left, exists_const, ↓existsAndEq, and_true]
    constructor
    · rintro ⟨worker, granted, row, found, rfl, rfl⟩
      exact .categoryMembershipOfModeratorUpdated granted found
    · intro h
      cases h with
      | categoryMembershipOfModeratorUpdated granted found =>
        exact ⟨_, granted, _, found, rfl, rfl⟩

/-! ### Store errors -/

/-- Looking for the target of a reply never fails. -/
theorem not_fails_replyTarget {target : Option PostId} {error : ProjectionError} :
    ¬(replyTarget o target).Fails s error s' := by
  rcases target with - | id
  · simp [replyTarget]
  · rcases h : s.posts[id]? with - | row <;> simp [replyTarget, h]

/-- Nor does setting a moderator. -/
theorem not_fails_setModerator {category : CategoryId} {worker : WorkerId} {canModerate : Bool}
    {error : ProjectionError} :
    ¬(setModerator o category worker canModerate).Fails s error s' := by
  cases canModerate with
  | true => simp [setModerator]
  | false =>
    rcases h : (s.removeModerator category worker).1 with _ | _ <;> simp [setModerator, h]

/-- Posts always load, so a deletion is never refused by the storage. -/
theorem not_fails_deletedPosts_store {hide : Bool} {ids : List PostId} {error : StoreError} :
    ¬(deletedPosts o hide ids).Fails s (.store error) s' := by
  induction ids generalizing s with
  | nil => simp [deletedPosts]
  | cons id rest ih => simp [deletedPosts, ih]

/-- The thread that gets a poll, if the event brings one. -/
def polled? : ForumEvent → Option ThreadId
  | .threadCreated _ thread _ _ _ _ (some _) => some thread
  | _ => none

/-- A poll is refused only to a thread that has one. -/
theorem mem_polls_of_insertPoll_eq_error {thread : ThreadId} {description : String}
    {endTime createdAt : Int64} {alternatives : List String} {error : StoreError}
    (h : s.insertPoll thread description endTime alternatives createdAt = .error error) :
    error = .duplicatePoll ∧ thread ∈ s.polls := by
  rw [Store.insertPoll] at h
  split at h
  · next hpolled =>
    cases h
    exact ⟨rfl, Std.ExtTreeMap.mem_iff_contains.2 hpolled⟩
  · cases h

/-- The storage refuses a forum event only for a second poll of a thread; it reads every row that a
forum event needs. -/
theorem fails_project_store {e : ForumEvent} {error : StoreError}
    (h : (project o e).Fails s (.store error) s') :
    error = .duplicatePoll ∧ ∃ thread, e.polled? = some thread ∧ thread ∈ s.polls := by
  cases e with
  | threadCreated category thread post author title text poll =>
    cases poll with
    | none => simp [project, createThread, checkPoll, attachPoll] at h
    | some poll =>
      simp only [project, createThread, checkPoll, attachPoll, fails_bind, fails_category,
        getElem?_eq_none_iff, Occurrence.store_ne_inconsistent, false_and, and_false,
        yields_category, fails_member, yields_member, fails_pollEnd, Bool.not_eq_true,
        yields_pollEnd, fails_pure, exists_false, exists_const, or_self, yields_bind, yields_pure,
        exists_eq_right_right', ↓existsAndEq, true_and, fails_write, yields_write, or_false,
        exists_eq_left, false_or, and_true, fails_store, yields_store, fails_ofStore,
        ProjectionError.store.injEq, yields_ofStore] at h
      obtain ⟨row, -, -, -, hpoll⟩ := h
      -- Neither the author nor the thread that was saved before touches the polls.
      obtain ⟨rfl, hpolled⟩ := mem_polls_of_insertPoll_eq_error hpoll
      exact ⟨rfl, thread, rfl, hpolled⟩
  | threadMoved thread newCategory actor oldCategory =>
    simp only [project, moveThread, ne_eq, ite_not, fails_bind, fails_thread, getElem?_eq_none_iff,
      Occurrence.store_ne_inconsistent, false_and, and_false, yields_thread, fails_actorWorker,
      yields_actorWorker, fails_category, yields_category, ↓existsAndEq, and_true, false_or] at h
    obtain ⟨row, -, worker, -, target, -, h⟩ := h
    split at h <;> simp at h
  | postDeleted rationale actor posts hide =>
    simp [project, deletePosts, not_fails_deletedPosts_store] at h
  | postAdded post author thread payload editable =>
    simp [project, addPost, not_fails_replyTarget] at h
  | categoryMembershipOfModeratorUpdated moderator category canModerate =>
    simp [project, not_fails_setModerator] at h
  | _ => simp [project] at h

/-- No forum event meets a row that cannot be read. -/
theorem not_fails_project_unreadable {e : ForumEvent} :
    ¬(project o e).Fails s (.store .unreadable) s' := by
  intro h
  obtain ⟨heq, -⟩ := fails_project_store h
  cases heq

end ForumEvent

end ChainProjection
