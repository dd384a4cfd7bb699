import ChainProjection.Proofs.Pins

/-!
# Lifecycles

What an event can do to the status of a category, a thread or a post that it does not create.
**Each kind has its own transitions, and each transition its own kind of event**, which must name
the entity (`MovesCategory`, `MovesThread`, `MovesPost`); all other events save rows as a whole and
leave the status in them as it was.  A new status names the event, except that a category that is
active again names none.

Along a run that creates an entity only once this leaves little room.  A thread that is no longer
active has its last status, a removed category stays removed, and all that can still happen to a
post that was moderated or removed is to be moderated again.  The clause about creation is needed:
an id can be created a second time, and then everything starts over.

The main result, `lifecycles_of_visited`, has a half for one event and a half for runs.  The first
is a case analysis over the steps (`Step.movesCategory` and its likes), where the one argument that
repeats is `Table.exists_map_upsert`: saving a row that was found under its key changes the status
of that row at most.  The second half uses the first and looks at no event again; it goes along the
run with `Follows.rel`, for which each of the three statements has to be a transitive relation
between statuses.
-/

namespace ChainProjection

open Projection Store Table

variable {o : Occurrence} {s s' t u : Store} {d : EventData}

/-- Saving a row that was found under its key gives what is new in it to the row it was found as,
and to no other. -/
theorem Table.exists_map_upsert {κ α σ : Type} [Ord κ] [Std.TransOrd κ] [Std.LawfulEqOrd κ]
    [DecidableEq κ] {table : Table κ α} {keyOf : α → κ} {rewrite : α → α → α} {f : α → σ}
    {key id : κ} {row saved : α} {status : σ} {Moves : σ → Prop}
    (hkeyed : Forall (fun key row ↦ keyOf row = key) table) (found : table[key]? = some row)
    (hid : keyOf saved = keyOf row) (hf : ∀ old, f (rewrite old saved) = f saved)
    (hold : table[id]?.map f = some status)
    (hmoved : key = id → f row = status → f saved = status ∨ Moves (f saved)) :
    ∃ status', (table.upsert (keyOf saved) rewrite saved)[id]?.map f = some status' ∧
      (status' = status ∨ Moves status') := by
  rw [map_getElem?_upsert hf, hid, hkeyed found]
  split
  · next heq =>
    subst heq
    exact ⟨_, rfl, hmoved rfl (by simpa [found] using hold)⟩
  · exact ⟨status, hold, Or.inl rfl⟩

namespace Store

/-! ### Statuses -/

/-- The status of the category with an id. -/
def categoryStatus? (s : Store) (id : CategoryId) : Option CategoryStatus :=
  s.categories[id]?.map (·.status)

/-- The status of the thread with an id. -/
def threadStatus? (s : Store) (id : ThreadId) : Option ThreadStatus :=
  s.threads[id]?.map (·.status)

/-- The status of the post with an id. -/
def postStatus? (s : Store) (id : PostId) : Option PostStatus :=
  s.posts[id]?.map (·.status)

/-- The status of a category is the one it was saved with. -/
theorem categoryStatus?_saveCategory (s : Store) (category : Category) (id : CategoryId) :
    (s.saveCategory category).categoryStatus? id =
      if category.id = id then some category.status else s.categoryStatus? id :=
  map_getElem?_upsert (fun _ ↦ rfl) ..

/-- The status of a thread is the one it was saved with. -/
theorem threadStatus?_saveThread (s : Store) (thread : Thread) (id : ThreadId) :
    (s.saveThread thread).threadStatus? id =
      if thread.id = id then some thread.status else s.threadStatus? id :=
  map_getElem?_upsert (fun _ ↦ rfl) ..

/-- The status of a post is the one it was saved with. -/
theorem postStatus?_savePost (s : Store) (post : Post) (id : PostId) :
    (s.savePost post).postStatus? id =
      if post.id = id then some post.status else s.postStatus? id :=
  map_getElem?_upsert (fun _ ↦ rfl) ..

/-- Saving posts in order, some of them maybe more than once, gives a post the status of one of
them. -/
theorem postStatus?_foldl_savePost (posts : List Post) (s : Store) (id : PostId) :
    (posts.foldl savePost s).postStatus? id = s.postStatus? id ∨
      ∃ post ∈ posts, post.id = id ∧
        (posts.foldl savePost s).postStatus? id = some post.status := by
  induction posts generalizing s with
  | nil => exact Or.inl rfl
  | cons post rest ih =>
    rw [List.foldl_cons]
    rcases ih (s.savePost post) with hsame | ⟨later, hlater, hid, hstatus⟩
    · rw [hsame, postStatus?_savePost]
      split
      · next hid => exact Or.inr ⟨post, List.mem_cons_self, hid, rfl⟩
      · exact Or.inl rfl
    · exact Or.inr ⟨later, List.mem_cons_of_mem _ hlater, hid, hstatus⟩

/-- Pinning threads leaves their statuses alone. -/
theorem threadStatus?_replaceSticky {category : CategoryId} {wanted : List String}
    {updatedAt : Int64} {change : SetChange}
    (replaced : s.replaceSet (.stickyThreads category) wanted updatedAt = .ok (change, s'))
    (id : ThreadId) : s'.threadStatus? id = s.threadStatus? id := by
  rw [threadStatus?, getElem?_replaceSticky replaced, Option.map_map]
  refine congrArg (Option.map · _) (funext fun row ↦ ?_)
  show (row.repinned _ _ _).status = row.status
  rw [Thread.repinned]
  split <;> rfl

end Store

/-! ### Transitions -/

namespace ForumEvent

/-- The event creates the category. -/
def CreatesCategory (id : CategoryId) : ForumEvent → Prop
  | .categoryCreated category _ _ _ => category = id
  | _ => False

/-- The event creates the thread. -/
def CreatesThread (id : ThreadId) : ForumEvent → Prop
  | .threadCreated _ thread _ _ _ _ _ => thread = id
  | _ => False

/-- The event creates the post, with its thread or as a reply. -/
def CreatesPost (id : PostId) : ForumEvent → Prop
  | .threadCreated _ _ post _ _ _ _ => post = id
  | .postAdded post _ _ _ _ => post = id
  | _ => False

/-- The transitions of the category `id`; `cause` is the event. -/
inductive MovesCategory (cause : EventId) (id : CategoryId) :
    ForumEvent → CategoryStatus → CategoryStatus → Prop
  | updated {archived : Bool} {actor : PrivilegedActor} {status : CategoryStatus}
      (present : ∀ event, status ≠ .removed event) :
      MovesCategory cause id (.categoryUpdated id archived actor) status
        (if archived then .archived cause else .active)
  | deleted {actor : PrivilegedActor} {status : CategoryStatus} :
      MovesCategory cause id (.categoryDeleted id actor) status (.removed cause)

/-- The transitions of the thread `id`; `cause` is the event. -/
inductive MovesThread (cause : EventId) (id : ThreadId) :
    ForumEvent → ThreadStatus → ThreadStatus → Prop
  | moderated {rationale : String} {actor : PrivilegedActor} :
      MovesThread cause id (.threadModerated id rationale actor) .active (.moderated cause)
  | deleted {hide : Bool} :
      MovesThread cause id (.threadDeleted id hide) .active
        (if hide then .removed cause else .locked cause)

/-- The transitions of the post `id`; `cause` is the event. -/
inductive MovesPost (cause : EventId) (id : PostId) :
    ForumEvent → PostStatus → PostStatus → Prop
  | moderated {rationale : String} {actor : PrivilegedActor} {status : PostStatus} :
      MovesPost cause id (.postModerated id rationale actor) status (.moderated cause)
  | deleted {rationale : String} {actor : MemberId} {posts : List PostId} {hide : Bool}
      {status : PostStatus} (listed : id ∈ posts)
      (deletable : status = .active ∨ ∃ event, status = .locked event) :
      MovesPost cause id (.postDeleted rationale actor posts hide) status
        (if hide then .removed cause else .locked (some cause))

end ForumEvent

/-- An update of a category needs one that is not removed. -/
theorem CategoryStatus.ne_removed_of_withArchival {status status' : CategoryStatus}
    {archived : Bool} {event : EventId} (h : status.withArchival archived event = .ok status')
    (cause : EventId) : status ≠ .removed cause := by
  rintro rfl
  cases h

/-- Only an active thread can leave the active status. -/
theorem ThreadStatus.eq_active_of_leaveActive {status target status' : ThreadStatus}
    (h : status.leaveActive target = .ok status') : status = .active := by
  cases status <;> cases h
  rfl

/-- Only an active or a locked post can be deleted. -/
theorem PostStatus.deletable_of_delete {status status' : PostStatus} {hide : Bool}
    {event : EventId} (h : status.delete hide event = .ok status') :
    status = .active ∨ ∃ cause, status = .locked cause := by
  cases status with
  | active => exact Or.inl rfl
  | locked cause => exact Or.inr ⟨cause, rfl⟩
  | moderated => cases h
  | removed => cases h

namespace ForumEvent

/-! ### Steps -/

/-- A forum event keeps the status of a category it does not create, or moves it. -/
theorem Step.movesCategory (hkeyed : s.Keyed) {e : ForumEvent} (step : Step o s e d s')
    {id : CategoryId} {status : CategoryStatus} (hold : s.categoryStatus? id = some status)
    (hother : ¬e.CreatesCategory id) :
    ∃ status', s'.categoryStatus? id = some status' ∧
      (status' = status ∨ e.MovesCategory o.id id status status') := by
  have hsame (heq : s'.categories = s.categories) :
      ∃ status', s'.categoryStatus? id = some status' ∧
        (status' = status ∨ e.MovesCategory o.id id status status') := by
    refine ⟨status, ?_, Or.inl rfl⟩
    rw [categoryStatus?, heq]
    exact hold
  cases step with
  | @categoryCreated category =>
    have hne : category ≠ id := hother
    refine ⟨status, ?_, Or.inl rfl⟩
    rw [categoryStatus?_saveCategory, if_neg hne]
    exact hold
  | categoryUpdated found granted allowed =>
    refine exists_map_upsert hkeyed.categories found rfl (fun _ ↦ rfl) hold ?_
    rintro rfl rfl
    -- The row that is found is the one the status was read from, so the rule speaks of this status.
    rw [CategoryStatus.eq_of_withArchival allowed]
    exact Or.inr (.updated (CategoryStatus.ne_removed_of_withArchival allowed))
  | categoryDeleted found granted =>
    refine exists_map_upsert hkeyed.categories found rfl (fun _ ↦ rfl) hold ?_
    rintro rfl -
    exact Or.inr .deleted
  | @categoryMembershipOfModeratorUpdated _ _ canModerate _ _ granted found =>
    cases canModerate <;>
      exact exists_map_upsert hkeyed.categories found rfl (fun _ ↦ rfl) hold
        fun _ hrow ↦ Or.inl hrow
  | threadCreated found polled =>
    refine hsame ?_
    rw [polled.frame]
    rfl
  | postDeleted =>
    refine hsame ?_
    rw [foldl_savePost]
    rfl
  | categoryStickyThreadUpdate found granted replaced =>
    refine hsame ?_
    rw [replaceSticky_frame replaced]
  | _ => exact hsame rfl

/-- A forum event keeps the status of a thread it does not create, or moves it. -/
theorem Step.movesThread (hkeyed : s.Keyed) {e : ForumEvent} (step : Step o s e d s')
    {id : ThreadId} {status : ThreadStatus} (hold : s.threadStatus? id = some status)
    (hother : ¬e.CreatesThread id) :
    ∃ status', s'.threadStatus? id = some status' ∧
      (status' = status ∨ e.MovesThread o.id id status status') := by
  have hsame (heq : s'.threads = s.threads) :
      ∃ status', s'.threadStatus? id = some status' ∧
        (status' = status ∨ e.MovesThread o.id id status status') := by
    refine ⟨status, ?_, Or.inl rfl⟩
    rw [threadStatus?, heq]
    exact hold
  cases step with
  | @threadCreated _ thread _ author _ _ _ _ _ found polled =>
    have hne : thread ≠ id := hother
    refine ⟨status, ?_, Or.inl rfl⟩
    rw [polled.frame]
    show ((s.ensureMember author o.block).saveThread _).threadStatus? id = some status
    rw [threadStatus?_saveThread, if_neg hne]
    exact hold
  | threadModerated granted found allowed =>
    refine exists_map_upsert hkeyed.threads found rfl (fun _ ↦ rfl) hold ?_
    rintro rfl rfl
    rw [ThreadStatus.eq_active_of_leaveActive allowed, ThreadStatus.eq_of_leaveActive allowed]
    exact Or.inr .moderated
  | threadDeleted found allowed =>
    refine exists_map_upsert hkeyed.threads found rfl (fun _ ↦ rfl) hold ?_
    rintro rfl rfl
    rw [ThreadStatus.eq_active_of_leaveActive allowed, ThreadStatus.eq_of_leaveActive allowed]
    exact Or.inr .deleted
  | threadTitleUpdated found =>
    exact exists_map_upsert hkeyed.threads found rfl (fun _ ↦ rfl) hold fun _ hrow ↦ Or.inl hrow
  | threadMoved found =>
    exact exists_map_upsert hkeyed.threads found rfl (fun _ ↦ rfl) hold fun _ hrow ↦ Or.inl hrow
  | postDeleted =>
    refine hsame ?_
    rw [foldl_savePost]
    rfl
  | categoryStickyThreadUpdate found granted replaced =>
    refine ⟨status, ?_, Or.inl rfl⟩
    rw [threadStatus?_replaceSticky replaced]
    exact hold
  | @categoryMembershipOfModeratorUpdated _ _ canModerate =>
    cases canModerate <;> exact hsame rfl
  | _ => exact hsame rfl

/-- A forum event keeps the status of a post it does not create, or moves it. -/
theorem Step.movesPost (hkeyed : s.Keyed) {e : ForumEvent} (step : Step o s e d s')
    {id : PostId} {status : PostStatus} (hold : s.postStatus? id = some status)
    (hother : ¬e.CreatesPost id) :
    ∃ status', s'.postStatus? id = some status' ∧
      (status' = status ∨ e.MovesPost o.id id status status') := by
  have hsame (heq : s'.posts = s.posts) :
      ∃ status', s'.postStatus? id = some status' ∧
        (status' = status ∨ e.MovesPost o.id id status status') := by
    refine ⟨status, ?_, Or.inl rfl⟩
    rw [postStatus?, heq]
    exact hold
  cases step with
  | @threadCreated _ _ post _ _ _ _ _ _ found polled =>
    have hne : post ≠ id := hother
    refine ⟨status, ?_, Or.inl rfl⟩
    rw [postStatus?_savePost, if_neg hne, polled.frame]
    exact hold
  | @postAdded post =>
    have hne : post ≠ id := hother
    refine ⟨status, ?_, Or.inl rfl⟩
    rw [postStatus?_savePost, if_neg hne]
    exact hold
  | postModerated granted found =>
    refine exists_map_upsert hkeyed.posts found rfl (fun _ ↦ rfl) hold ?_
    rintro rfl -
    exact Or.inr .moderated
  | @postDeleted rationale actor posts hide rows allowed =>
    rcases postStatus?_foldl_savePost rows (s.ensureMember actor o.block) id with
      hunlisted | ⟨post, hpost, rfl, hstatus⟩
    · exact ⟨status, hunlisted.trans hold, Or.inl rfl⟩
    · -- All rows were made before the first was saved, so each starts from the status before.
      obtain ⟨listed, hlisted, row, status', found, hdelete, rfl⟩ := exists_deletesTo allowed hpost
      have hid : row.id = listed := hkeyed.posts found
      obtain rfl : row.status = status := by
        simpa [postStatus?, hid, found] using hold
      refine ⟨_, hstatus, Or.inr ?_⟩
      rw [PostStatus.eq_of_delete hdelete]
      exact .deleted (by rwa [hid]) (PostStatus.deletable_of_delete hdelete)
  | postTextUpdated found =>
    exact exists_map_upsert hkeyed.posts found rfl (fun _ ↦ rfl) hold fun _ hrow ↦ Or.inl hrow
  | categoryStickyThreadUpdate found granted replaced =>
    refine hsame ?_
    rw [replaceSticky_frame replaced]
  | @categoryMembershipOfModeratorUpdated _ _ canModerate =>
    cases canModerate <;> exact hsame rfl
  | _ => exact hsame rfl

end ForumEvent

/-! ### All events -/

namespace Occurrence

/-- The occurrence reads as an event that creates the category. -/
def CreatesCategory (o : Occurrence) (id : CategoryId) : Prop :=
  ∃ e, o.forum? = some e ∧ e.CreatesCategory id

/-- The occurrence reads as an event that creates the thread. -/
def CreatesThread (o : Occurrence) (id : ThreadId) : Prop :=
  ∃ e, o.forum? = some e ∧ e.CreatesThread id

/-- The occurrence reads as an event that creates the post. -/
def CreatesPost (o : Occurrence) (id : PostId) : Prop :=
  ∃ e, o.forum? = some e ∧ e.CreatesPost id

/-- The occurrence reads as an event with a transition of the category. -/
def MovesCategory (o : Occurrence) (id : CategoryId) (status status' : CategoryStatus) : Prop :=
  ∃ e, o.forum? = some e ∧ e.MovesCategory o.id id status status'

/-- The occurrence reads as an event with a transition of the thread. -/
def MovesThread (o : Occurrence) (id : ThreadId) (status status' : ThreadStatus) : Prop :=
  ∃ e, o.forum? = some e ∧ e.MovesThread o.id id status status'

/-- The occurrence reads as an event with a transition of the post. -/
def MovesPost (o : Occurrence) (id : PostId) (status status' : PostStatus) : Prop :=
  ∃ e, o.forum? = some e ∧ e.MovesPost o.id id status status'

/-- From `s` to `t` every category, thread and post that the occurrence does not create keeps its
status or takes one of its transitions. -/
structure MovesStatuses (o : Occurrence) (s t : Store) : Prop where
  categories : ∀ id status, s.categoryStatus? id = some status → ¬o.CreatesCategory id →
    ∃ status', t.categoryStatus? id = some status' ∧
      (status' = status ∨ o.MovesCategory id status status')
  threads : ∀ id status, s.threadStatus? id = some status → ¬o.CreatesThread id →
    ∃ status', t.threadStatus? id = some status' ∧
      (status' = status ∨ o.MovesThread id status status')
  posts : ∀ id status, s.postStatus? id = some status → ¬o.CreatesPost id →
    ∃ status', t.postStatus? id = some status' ∧
      (status' = status ∨ o.MovesPost id status status')

theorem MovesStatuses.refl (o : Occurrence) (s : Store) : o.MovesStatuses s s :=
  ⟨fun _ status hold _ ↦ ⟨status, hold, Or.inl rfl⟩,
    fun _ status hold _ ↦ ⟨status, hold, Or.inl rfl⟩,
    fun _ status hold _ ↦ ⟨status, hold, Or.inl rfl⟩⟩

/-- What leaves the tables of the forum alone moves no status. -/
theorem movesStatuses_of_writesContent (h : WritesContent s s') : o.MovesStatuses s s' where
  categories id status hold _ := by
    refine ⟨status, ?_, Or.inl rfl⟩
    rw [categoryStatus?, h.categories]
    exact hold
  threads id status hold _ := by
    refine ⟨status, ?_, Or.inl rfl⟩
    rw [threadStatus?, h.threads]
    exact hold
  posts id status hold _ := by
    refine ⟨status, ?_, Or.inl rfl⟩
    rw [postStatus?, h.posts]
    exact hold

end Occurrence

/-- A step moves statuses along their transitions only. -/
theorem Handles.movesStatuses (hkeyed : s.Keyed) (h : Handles o s d s') : o.MovesStatuses s s' := by
  rcases h with ⟨known, reads, step⟩ | ⟨-, -, step⟩ | ⟨-, -, step⟩
  · have hforum := Occurrence.forum?_eq_some known reads
    refine ⟨fun id status hold hother ↦ ?_, fun id status hold hother ↦ ?_,
      fun id status hold hother ↦ ?_⟩
    · obtain ⟨status', hnew, hmoved⟩ :=
        step.movesCategory hkeyed hold fun hcreates ↦ hother ⟨_, hforum, hcreates⟩
      exact ⟨status', hnew, hmoved.imp_right fun hmove ↦ ⟨_, hforum, hmove⟩⟩
    · obtain ⟨status', hnew, hmoved⟩ :=
        step.movesThread hkeyed hold fun hcreates ↦ hother ⟨_, hforum, hcreates⟩
      exact ⟨status', hnew, hmoved.imp_right fun hmove ↦ ⟨_, hforum, hmove⟩⟩
    · obtain ⟨status', hnew, hmoved⟩ :=
        step.movesPost hkeyed hold fun hcreates ↦ hother ⟨_, hforum, hcreates⟩
      exact ⟨status', hnew, hmoved.imp_right fun hmove ↦ ⟨_, hforum, hmove⟩⟩
  · exact Occurrence.movesStatuses_of_writesContent step.writesContent
  · exact Occurrence.movesStatuses_of_writesContent step.writesContent

/-! ### Runs -/

/-- The post was moderated or removed. -/
def PostStatus.Closed : PostStatus → Prop
  | .moderated _ => True
  | .removed _ => True
  | _ => False

namespace Store

/-- A category that is removed stays so as long as it is not created again. -/
theorem Follows.removed_category {id : CategoryId} {cause : EventId}
    (h : Follows (fun o ↦ ¬o.CreatesCategory id) s t) (hs : Visited (fun _ ↦ True) s)
    (removed : s.categoryStatus? id = some (.removed cause)) :
    ∃ cause', t.categoryStatus? id = some (.removed cause') := by
  let R (status status' : CategoryStatus) : Prop :=
    (∃ cause, status = .removed cause) → ∃ cause', status' = .removed cause'
  have hrel : ∃ status', t.categoryStatus? id = some status' ∧ R (.removed cause) status' := by
    refine h.rel (categoryStatus? · id) (fun _ hx ↦ hx)
      (fun hxy hyz hx ↦ hyz (hxy hx)) (fun ht admitted handled hold ↦ ?_) (fun _ _ ↦ rfl) hs removed
    obtain ⟨status', hnew, hmoved⟩ :=
      (handled.movesStatuses ht.keyed).categories id _ hold admitted
    refine ⟨status', hnew, ?_⟩
    rintro ⟨cause, rfl⟩
    rcases hmoved with rfl | ⟨e, -, hmove⟩
    · exact ⟨cause, rfl⟩
    · cases hmove with
      | updated present => exact absurd rfl (present cause)
      | deleted => exact ⟨_, rfl⟩
  obtain ⟨status', hnew, hstays⟩ := hrel
  obtain ⟨cause', rfl⟩ := hstays ⟨cause, rfl⟩
  exact ⟨cause', hnew⟩

/-- A thread that is not created again keeps its status, or was active and no longer is. -/
theorem Follows.thread_eq_or {id : ThreadId} {status : ThreadStatus}
    (h : Follows (fun o ↦ ¬o.CreatesThread id) s t) (hs : Visited (fun _ ↦ True) s)
    (hold : s.threadStatus? id = some status) :
    ∃ status', t.threadStatus? id = some status' ∧
      (status' = status ∨ status = .active ∧ status' ≠ .active) := by
  let R (status status' : ThreadStatus) : Prop :=
    status' = status ∨ status = .active ∧ status' ≠ .active
  refine h.rel (threadStatus? · id) (R := R) (fun _ ↦ Or.inl rfl) (fun hxy hyz ↦ ?_)
    (fun ht admitted handled hold ↦ ?_) (fun _ _ ↦ rfl) hs hold
  · rcases hxy with rfl | ⟨hactive, hleft⟩
    · exact hyz
    · rcases hyz with rfl | ⟨hactive', -⟩
      · exact Or.inr ⟨hactive, hleft⟩
      · exact absurd hactive' hleft
  · obtain ⟨status', hnew, hmoved⟩ := (handled.movesStatuses ht.keyed).threads id _ hold admitted
    refine ⟨status', hnew, hmoved.imp_right ?_⟩
    rintro ⟨e, -, hmove⟩
    cases hmove with
    | moderated => exact ⟨rfl, by simp⟩
    | @deleted hide => exact ⟨rfl, by cases hide <;> simp⟩

/-- A post that was moderated or removed keeps its status or is moderated again, as long as it is
not created again. -/
theorem Follows.closed_post {id : PostId} {status : PostStatus}
    (h : Follows (fun o ↦ ¬o.CreatesPost id) s t) (hs : Visited (fun _ ↦ True) s)
    (hold : s.postStatus? id = some status) (closed : status.Closed) :
    ∃ status', t.postStatus? id = some status' ∧
      (status' = status ∨ ∃ cause, status' = .moderated cause) := by
  let R (status status' : PostStatus) : Prop :=
    status.Closed → status' = status ∨ ∃ cause, status' = .moderated cause
  have hrel : ∃ status', t.postStatus? id = some status' ∧ R status status' := by
    refine h.rel (postStatus? · id) (fun _ _ ↦ Or.inl rfl) (fun hxy hyz hx ↦ ?_)
      (fun ht admitted handled hold ↦ ?_) (fun _ _ ↦ rfl) hs hold
    · rcases hxy hx with rfl | ⟨cause, rfl⟩
      · exact hyz hx
      · rcases hyz trivial with rfl | hmoderated
        · exact Or.inr ⟨cause, rfl⟩
        · exact Or.inr hmoderated
    · obtain ⟨status', hnew, hmoved⟩ := (handled.movesStatuses ht.keyed).posts id _ hold admitted
      refine ⟨status', hnew, fun hclosed ↦ hmoved.imp_right ?_⟩
      rintro ⟨e, -, hmove⟩
      cases hmove with
      | moderated => exact ⟨_, rfl⟩
      | deleted listed deletable =>
        -- A post that can be deleted is neither moderated nor removed.
        rcases deletable with rfl | ⟨event, rfl⟩ <;> exact hclosed.elim
  obtain ⟨status', hnew, hstays⟩ := hrel
  exact ⟨status', hnew, hstays closed⟩

/-- What runs from a store on do to the statuses of entities that they do not create again: a
removed category stays removed, a thread changes its status at most once, and a post that was
moderated or removed keeps its status or is moderated again. -/
structure SettlesStatuses (s : Store) : Prop where
  categories : ∀ id cause t, s.categoryStatus? id = some (.removed cause) →
    Follows (fun o ↦ ¬o.CreatesCategory id) s t →
    ∃ cause', t.categoryStatus? id = some (.removed cause')
  threads : ∀ id status t u, s.threadStatus? id = some status →
    Follows (fun o ↦ ¬o.CreatesThread id) s t → Follows (fun o ↦ ¬o.CreatesThread id) t u →
    ∃ status' status'', t.threadStatus? id = some status' ∧ u.threadStatus? id = some status'' ∧
      (status' = status ∨ status'' = status')
  posts : ∀ id status t, s.postStatus? id = some status → status.Closed →
    Follows (fun o ↦ ¬o.CreatesPost id) s t →
    ∃ status', t.postStatus? id = some status' ∧
      (status' = status ∨ ∃ cause, status' = .moderated cause)

theorem Visited.settlesStatuses (h : Visited (fun _ ↦ True) s) : s.SettlesStatuses where
  categories _ _ _ removed hfollows := hfollows.removed_category h removed
  threads _ _ _ _ hold hst htu := by
    obtain ⟨status', hmiddle, hfirst⟩ := hst.thread_eq_or h hold
    obtain ⟨status'', hlast, hsecond⟩ := htu.thread_eq_or (hst.visited h) hmiddle
    refine ⟨status', status'', hmiddle, hlast, hfirst.imp_right ?_⟩
    rintro ⟨-, hleft⟩
    rcases hsecond with hsame | ⟨hactive, -⟩
    · exact hsame
    · exact absurd hactive hleft
  posts _ _ _ hold closed hfollows := hfollows.closed_post h hold closed

/-- In a store that a run meets, an event that succeeds moves statuses along their transitions only,
and what the run does from there on settles them. -/
theorem lifecycles_of_visited (h : Visited (fun _ ↦ True) s) :
    (∀ o known t, (event o).Yields s known t → o.MovesStatuses s t) ∧ s.SettlesStatuses := by
  refine ⟨fun o known t yields ↦ ?_, h.settlesStatuses⟩
  rcases yields_event.1 yields with ⟨-, -, rfl⟩ | ⟨-, -, d, u, handled, -, rfl⟩
  · exact .refl o t
  · have hmoves := handled.movesStatuses h.keyed
    exact ⟨hmoves.categories, hmoves.threads, hmoves.posts⟩

/-- A category, and a thread in it with its first post. -/
def openingBlock : Block where
  number := 0
  timestamp := 0
  events := [
    ⟨"forum.CategoryCreated", 0, none, [.string "7", .null, .string "0x", .string "0x"]⟩,
    ⟨"forum.ThreadCreated", 1, none, [.string "7", .string "1", .string "2", .string "4",
      .string "0x", .string "0x", .null]⟩]

/-- The store with the thread. -/
def openStore : Store := afterBlock { workers := [forumLead] } openingBlock

/-- The thread is deleted and left visible. -/
def threadDeletion : RuntimeEvent :=
  ⟨"forum.ThreadDeleted", 0, none, [.string "1", .null, .null, .bool false]⟩

/-- The thread is locked by its deletion, and whatever blocks without a new thread follow, it keeps
that status. -/
theorem lifecycles_of_visited_openStore :
    Visited (fun _ ↦ True) openStore ∧ openStore.threadStatus? ⟨"1"⟩ = some .active ∧
      (openStore.afterBlock ⟨1, 0, [threadDeletion]⟩).threadStatus? ⟨"1"⟩ =
        some (.locked ⟨"1-0"⟩) ∧
      (∀ t, (event (.ofEvent 1 0 threadDeletion)).Yields openStore true t →
        (Occurrence.ofEvent 1 0 threadDeletion).MovesStatuses openStore t) ∧
      ∀ blocks, (∀ b ∈ blocks, ∀ e ∈ b.events,
          ¬(Occurrence.ofEvent b.number b.timestamp e).CreatesThread ⟨"1"⟩) →
        ((openStore.afterBlock ⟨1, 0, [threadDeletion]⟩).afterBlocks blocks).threadStatus? ⟨"1"⟩ =
          some (.locked ⟨"1-0"⟩) := by
  have hseeded : Store.Seeded { workers := [forumLead] } := .worker .fresh rfl
  have hreachable : openStore.Reachable := .block (.seeded hseeded) _ fun _ _ ↦ trivial
  have hopen : openStore.threadStatus? ⟨"1"⟩ = some .active := by decide +kernel
  have hlocked : (openStore.afterBlock ⟨1, 0, [threadDeletion]⟩).threadStatus? ⟨"1"⟩ =
      some (.locked ⟨"1-0"⟩) := by decide +kernel
  obtain ⟨hmoves, hsettles⟩ := lifecycles_of_visited hreachable.visited
  refine ⟨hreachable.visited, hopen, hlocked, fun t yields ↦ hmoves _ _ t yields,
    fun blocks hblocks ↦ ?_⟩
  have hdeletion : ¬(Occurrence.ofEvent 1 0 threadDeletion).CreatesThread ⟨"1"⟩ := by
    rintro ⟨e, hread, hcreates⟩
    have hevent : (Occurrence.ofEvent 1 0 threadDeletion).forum? =
        some (.threadDeleted ⟨"1"⟩ false) := by decide +kernel
    cases hevent.symm.trans hread
    exact hcreates
  have hfirst : Follows (fun o ↦ ¬o.CreatesThread ⟨"1"⟩) openStore
      (openStore.afterBlocks [⟨1, 0, [threadDeletion]⟩]) := by
    refine Follows.refl.afterBlocks fun b hb e he ↦ ?_
    obtain rfl := List.mem_singleton.1 hb
    obtain rfl := List.mem_singleton.1 he
    exact hdeletion
  obtain ⟨status', status'', hmiddle, hlast, hsame⟩ :=
    hsettles.threads _ _ _ _ hopen hfirst (Follows.refl.afterBlocks hblocks)
  obtain rfl : ThreadStatus.locked ⟨"1-0"⟩ = status' := by
    rw [← Option.some_inj, ← hmiddle]
    exact hlocked.symm
  rcases hsame with hsame | rfl
  · cases hsame
  · exact hlast

end Store

end ChainProjection
