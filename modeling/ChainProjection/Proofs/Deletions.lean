import ChainProjection.Proofs.Causes
import ChainProjection.Proofs.Checks
import ChainProjection.Proofs.Lifecycles
import ChainProjection.Proofs.Projection.Endings

/-!
# Deletions of posts

A deletion names its posts in a list, and **only the set of them counts**.  Every post is judged by
the row it had before the event, so a post that is named again is judged as it was the first time.
The rows are written afterwards, and the same post gets the same row however often it is written:
its time of creation is the one column that a save takes from the row that is there, and that one a
deletion does not change.

So there are two inductions along the list.  `ForumEvent.exists_deletesTo_iff` is about the
judgements, all made in one store, and gives the condition of success, `Store.Deletable` for each
post of the list.  `ForumEvent.getElem?_foldl_savePost` is about the writes; the store changes along
the way, and what the induction carries from the store that was judged is no more than when each
post was created.  Its right side is one `if` on membership in the list, and that is where order and
repetition disappear.

Which posts the event is the cause of is a matter of the whole run and not of the step: a status
could name the event before it happened.  It does not, since every cause is recorded
(`cause?_ne_of_fresh`), and the event is not.

A deletion that fails leaves the store as it was, because judging does not write.  A post that was
hidden is removed and not deletable any more, while a deletion that does not hide locks its posts,
and these can be deleted again; `Store.deletion_of_visited` says this of hidden posts only.
-/

namespace ChainProjection

open Projection Store Table

variable {s s' t : Store} {o : Occurrence} {hide : Bool} {id : PostId} {ids posts : List PostId}
  {rows : List Post}

/-! ### One post -/

/-- The post can be deleted. -/
def PostStatus.Deletable (status : PostStatus) : Prop :=
  status = .active ∨ ∃ cause, status = .locked cause

/-- What a deletion makes of a post. -/
def Post.deleted (post : Post) (hide : Bool) (cause : EventId) (time : Int64) : Post :=
  { post with
    status := if hide then .removed cause else .locked (some cause)
    updatedAt := time }

/-- There is a post with the id and it can be deleted. -/
def Store.Deletable (s : Store) (id : PostId) : Prop :=
  ∃ post, s.posts[id]? = some post ∧ post.status.Deletable

/-- When the post with an id was created. -/
def Store.postCreation? (s : Store) (id : PostId) : Option Int64 :=
  s.posts[id]?.map (·.createdAt)

/-- A status is changed by a deletion exactly if it can be deleted, and it is removed or locked
then. -/
theorem PostStatus.delete_eq_ok {status status' : PostStatus} {event : EventId} :
    status.delete hide event = .ok status' ↔
      status.Deletable ∧ status' = if hide then .removed event else .locked (some event) := by
  constructor
  · intro h
    exact ⟨deletable_of_delete h, eq_of_delete h⟩
  · rintro ⟨rfl | ⟨cause, rfl⟩, rfl⟩ <;> cases hide <;> rfl

theorem PostStatus.not_deletable_removed (cause : EventId) : ¬(removed cause).Deletable := by
  rintro (h | ⟨cause, h⟩) <;> cases h

namespace ForumEvent

/-- A post is deleted from the row that is stored under its id. -/
theorem deletesTo_iff {post : Post} : DeletesTo o s hide id post ↔
    ∃ row, s.posts[id]? = some row ∧ row.status.Deletable ∧
      post = row.deleted hide o.id o.timestamp := by
  simp only [DeletesTo, PostStatus.delete_eq_ok]
  constructor
  · rintro ⟨row, _, found, ⟨deletable, rfl⟩, rfl⟩
    exact ⟨row, found, deletable, rfl⟩
  · rintro ⟨row, found, deletable, rfl⟩
    exact ⟨row, _, found, ⟨deletable, rfl⟩, rfl⟩

/-! ### Lists of posts -/

/-- The posts of a list can be deleted together exactly if each of them can. -/
theorem exists_deletesTo_iff :
    (∃ rows, List.Forall₂ (DeletesTo o s hide) ids rows) ↔ ∀ id ∈ ids, s.Deletable id := by
  induction ids with
  | nil => simp
  | cons id ids ih =>
    simp only [List.forall₂_cons_left_iff, List.forall_mem_cons, ← ih, deletesTo_iff]
    constructor
    · rintro ⟨_, _, rest, ⟨row, found, deletable, -⟩, hrest, -⟩
      exact ⟨⟨row, found, deletable⟩, rest, hrest⟩
    · rintro ⟨⟨row, found, deletable⟩, rest, hrest⟩
      exact ⟨_, _, rest, ⟨row, found, deletable, rfl⟩, hrest, rfl⟩

/-- A deleted post is stored as it is over a row with the same time of creation. -/
theorem getElem?_savePost_deleted {row : Post} (hide : Bool) (cause : EventId) (time : Int64)
    (hcreated : t.postCreation? row.id = some row.createdAt) (id : PostId) :
    (t.savePost (row.deleted hide cause time)).posts[id]? =
      if row.id = id then some (row.deleted hide cause time) else t.posts[id]? := by
  obtain ⟨old, found, hold⟩ := Option.map_eq_some_iff.1 hcreated
  rw [savePost, getElem?_upsert]
  simp only [Post.deleted, Post.rewrittenAs, found, Option.elim_some, hold]

/-- Once the rows of a deletion are written, the posts it lists are deleted and the others are as
they were. -/
theorem getElem?_foldl_savePost (hkeyed : s.Keyed)
    (allowed : List.Forall₂ (DeletesTo o s hide) ids rows)
    (hcreated : ∀ id, t.postCreation? id = s.postCreation? id) (id : PostId) :
    (rows.foldl savePost t).posts[id]? =
      if id ∈ ids then s.posts[id]?.map (·.deleted hide o.id o.timestamp) else t.posts[id]? := by
  -- The store that is written to changes along the list; all it keeps is the times of creation.
  induction allowed generalizing t with
  | nil => rw [if_neg List.not_mem_nil, List.foldl_nil]
  | @cons first _ ids _ hfirst _ ih =>
    obtain ⟨row, found, -, rfl⟩ := deletesTo_iff.1 hfirst
    obtain rfl : row.id = first := hkeyed.posts found
    have hrow : t.postCreation? row.id = some row.createdAt := by
      rw [hcreated, postCreation?, found, Option.map_some]
    have hsaved := getElem?_savePost_deleted hide o.id o.timestamp hrow
    have hcreated' (id : PostId) :
        (t.savePost (row.deleted hide o.id o.timestamp)).postCreation? id = s.postCreation? id := by
      rw [postCreation?, hsaved]
      split
      · next hid => rw [← hid, ← hcreated, hrow, Option.map_some, Post.deleted]
      · exact hcreated id
    rw [List.foldl_cons, ih hcreated', hsaved]
    by_cases hmem : id ∈ ids
    · rw [if_pos hmem, if_pos (List.mem_cons_of_mem _ hmem)]
    · rw [if_neg hmem]
      by_cases hid : row.id = id
      · subst hid
        rw [if_pos rfl, if_pos List.mem_cons_self, found, Option.map_some]
      · rw [if_neg hid, if_neg (by simp [hmem, Ne.symm hid])]

end ForumEvent

/-! ### Causes -/

/-- The status of a post names no event that is not recorded yet. -/
theorem cause?_ne_of_fresh (hcaused : s.CausedIn s) {event : EventId}
    (fresh : s.event? event = none) {post : Post} (found : s.posts[id]? = some post) :
    post.status.cause? ≠ some event := by
  have hrecorded {event' : EventId} {data : EventData} (h : s.Recorded event' data) :
      some event' ≠ some event := by
    rintro ⟨rfl⟩
    obtain ⟨record, hrecord, -⟩ := h
    rw [fresh] at hrecord
    cases hrecord
  have hcause : post.status.CausedIn s id post.origin := (hcaused.posts found).1
  rcases hstatus : post.status with - | (- | cause) | cause | cause <;> rw [hstatus] at hcause
  · nofun
  · nofun
  · obtain ⟨_, _, _, -, h⟩ := hcause
    exact hrecorded h
  · obtain ⟨_, _, h⟩ := hcause
    exact hrecorded h
  · obtain ⟨_, _, _, -, h⟩ := hcause
    exact hrecorded h

/-- The status of a deleted post names the deletion, whether it hid the post or locked it. -/
theorem Post.cause?_deleted (post : Post) (hide : Bool) (cause : EventId) (time : Int64) :
    (post.deleted hide cause time).status.cause? = some cause := by
  cases hide <;> rfl

/-! ### Events -/

section Events

variable {rationale : String} {actor : MemberId}
  (reads : o.forum? = some (.postDeleted rationale actor posts hide))
include reads

/-- A deletion succeeds exactly if all its posts can be deleted. -/
theorem exists_yields_deletion_iff (fresh : s.event? o.id = none) :
    (∃ s', (event o).Yields s true s') ↔ ∀ id ∈ posts, s.Deletable id := by
  rw [← ForumEvent.exists_deletesTo_iff]
  simp only [yields_event_of_forum reads, fresh, true_and]
  constructor
  · rintro ⟨s', d, t, step, -⟩
    cases step with
    | postDeleted allowed => exact ⟨_, allowed⟩
  · rintro ⟨rows, allowed⟩
    exact ⟨_, _, _, .postDeleted allowed, rfl⟩

/-- A deletion that succeeds deletes its posts and no others, and its record has the list. -/
theorem posts_of_yields_deletion (hkeyed : s.Keyed) (yields : (event o).Yields s true s') :
    s'.event? o.id = some (o.record (.postDeleted posts rationale actor)) ∧
      ∀ id, s'.posts[id]? =
        if id ∈ posts then s.posts[id]?.map (·.deleted hide o.id o.timestamp)
        else s.posts[id]? := by
  obtain ⟨-, d, t, step, rfl⟩ := (yields_event_of_forum reads).1 yields
  cases step with
  | postDeleted allowed =>
    exact ⟨event?_withRecord_self .., ForumEvent.getElem?_foldl_savePost hkeyed allowed fun _ ↦ rfl⟩

/-- The posts whose status names a deletion that succeeded are the ones it lists. -/
theorem exists_cause?_eq_iff (hkeyed : s.Keyed) (hcaused : s.CausedIn s)
    (fresh : s.event? o.id = none) (yields : (event o).Yields s true s') :
    (∃ post, s'.posts[id]? = some post ∧ post.status.cause? = some o.id) ↔ id ∈ posts := by
  have hposts := (posts_of_yields_deletion reads hkeyed yields).2 id
  constructor
  · rintro ⟨post, found, hcause⟩
    by_contra hmem
    rw [hposts, if_neg hmem] at found
    exact cause?_ne_of_fresh hcaused fresh found hcause
  · intro hmem
    obtain ⟨post, found, -⟩ := (exists_yields_deletion_iff reads fresh).1 ⟨s', yields⟩ id hmem
    rw [hposts, if_pos hmem, found]
    exact ⟨_, rfl, post.cause?_deleted hide o.id o.timestamp⟩

/-- A post that was hidden cannot be deleted. -/
theorem not_deletable_of_yields_hiding (hkeyed : s.Keyed) (hides : hide = true)
    (yields : (event o).Yields s true s') (hmem : id ∈ posts) : ¬s'.Deletable id := by
  rintro ⟨post, found, deletable⟩
  rw [(posts_of_yields_deletion reads hkeyed yields).2 id, if_pos hmem,
    Option.map_eq_some_iff] at found
  obtain ⟨post, -, rfl⟩ := found
  subst hides
  exact PostStatus.not_deletable_removed o.id deletable

/-- A deletion that does not succeed has judged its posts and written nothing. -/
theorem exists_fails_deletion (fresh : s.event? o.id = none)
    (hrefused : ¬∀ id ∈ posts, s.Deletable id) : ∃ error, (event o).Fails s error s := by
  simp only [fails_event_of_forum reads fresh]
  rcases yields_or_fails (ForumEvent.project o (.postDeleted rationale actor posts hide)) s with
    ⟨d, t, yields⟩ | ⟨error, t, fails⟩
  · cases ForumEvent.yields_project.1 yields with
    | postDeleted allowed => exact absurd (ForumEvent.exists_deletesTo_iff.1 ⟨_, allowed⟩) hrefused
  · have hposts : (ForumEvent.deletedPosts o hide posts).Fails s error t := by
      simpa [ForumEvent.project, ForumEvent.deletePosts] using fails
    -- Writing comes last and cannot fail; so the judging has failed, and it only looks at the
    -- store.
    obtain rfl := (ForumEvent.looks_deletedPosts o hide posts).eq_of_fails hposts
    exact ⟨error, fails⟩

/-- The posts after a deletion depend on which posts it lists, and when. -/
theorem posts_eq_of_same_set (hkeyed : s.Keyed) {o' : Occurrence} {rationale' : String}
    {actor' : MemberId} {posts' : List PostId} {s₁ s₂ : Store}
    (reads' : o'.forum? = some (.postDeleted rationale' actor' posts' hide)) (hid : o'.id = o.id)
    (htime : o'.timestamp = o.timestamp) (hsame : ∀ id, id ∈ posts' ↔ id ∈ posts)
    (yields : (event o).Yields s true s₁) (yields' : (event o').Yields s true s₂) :
    s₂.posts = s₁.posts := by
  refine Std.ExtTreeMap.ext_getElem? fun id ↦ ?_
  rw [(posts_of_yields_deletion reads' hkeyed yields').2 id,
    (posts_of_yields_deletion reads hkeyed yields).2 id]
  simp only [hsame, hid, htime]

end Events

namespace Store

/-- In a store that a run meets, a deletion that is not recorded yet succeeds exactly if each of its
posts is there and is active or locked.  It then deletes these posts, which are the ones whose
status names it, leaves the others alone and has the list in its record; else it fails and changes
nothing.  Another list of the same posts does the same.  No post that was hidden can be deleted
again. -/
theorem deletion_of_visited (h : Visited (fun _ ↦ True) s) {rationale : String} {actor : MemberId}
    (reads : o.forum? = some (.postDeleted rationale actor posts hide))
    (fresh : s.event? o.id = none) :
    ((∃ s', (event o).Yields s true s') ↔ ∀ id ∈ posts, s.Deletable id) ∧
      (∀ s', (event o).Yields s true s' →
        s'.event? o.id = some (o.record (.postDeleted posts rationale actor)) ∧
        (∀ id, s'.posts[id]? = if id ∈ posts then s.posts[id]?.map (·.deleted hide o.id o.timestamp)
          else s.posts[id]?) ∧
        ∀ id, (∃ post, s'.posts[id]? = some post ∧ post.status.cause? = some o.id) ↔ id ∈ posts) ∧
      ((¬∀ id ∈ posts, s.Deletable id) → ∃ error, (event o).Fails s error s) ∧
      (∀ (o' : Occurrence) (rationale' : String) (actor' : MemberId) (posts' : List PostId),
        o'.forum? = some (.postDeleted rationale' actor' posts' hide) → o'.id = o.id →
        o'.timestamp = o.timestamp → (∀ id, id ∈ posts' ↔ id ∈ posts) →
        ((∃ s', (event o').Yields s true s') ↔ ∃ s', (event o).Yields s true s') ∧
          ∀ s₁ s₂, (event o).Yields s true s₁ → (event o').Yields s true s₂ →
            s₂.posts = s₁.posts) ∧
      (hide = true → ∀ s', (event o).Yields s true s' → ∀ (o' : Occurrence) (rationale' : String)
        (actor' : MemberId) (posts' : List PostId) (hide' : Bool),
        o'.forum? = some (.postDeleted rationale' actor' posts' hide') →
        s'.event? o'.id = none → (∃ id ∈ posts', id ∈ posts) →
          ∃ error, (event o').Fails s' error s') := by
  refine ⟨exists_yields_deletion_iff reads fresh, fun s' yields ↦ ?_,
    exists_fails_deletion reads fresh,
    fun o' rationale' actor' posts' reads' hid htime hsame ↦ ⟨?_, fun s₁ s₂ ↦ ?_⟩,
    fun hides s' yields o' rationale' actor' posts' hide' reads' fresh' hlisted ↦ ?_⟩
  · obtain ⟨hrecord, hposts⟩ := posts_of_yields_deletion reads h.keyed yields
    exact ⟨hrecord, hposts, fun id ↦ exists_cause?_eq_iff reads h.keyed h.causedIn fresh yields⟩
  · rw [exists_yields_deletion_iff reads fresh, exists_yields_deletion_iff reads' (hid ▸ fresh)]
    simp only [hsame]
  · exact posts_eq_of_same_set reads h.keyed reads' hid htime hsame
  · obtain ⟨id, hmem', hmem⟩ := hlisted
    refine exists_fails_deletion reads' fresh' fun hall ↦ ?_
    exact not_deletable_of_yields_hiding reads h.keyed hides yields hmem (hall id hmem')

/-- A thread with an active post and a locked one. -/
def postsBlock : Block where
  number := 0
  timestamp := 0
  events := [
    ⟨"forum.CategoryCreated", 0, none, [.string "7", .null, .string "0x", .string "0x"]⟩,
    ⟨"forum.ThreadCreated", 1, none, [.string "7", .string "1", .string "2", .string "4",
      .string "0x", .string "0x", .null]⟩,
    ⟨"forum.PostAdded", 2, none, [.string "3", .string "4", .null, .string "1", .string "0x",
      .bool false]⟩]

/-- The store with the two posts. -/
def postsStore : Store := afterBlock {} postsBlock

/-- A deletion that hides the posts of a list. -/
def hidingPosts (index : UInt32) (posts : List String) : Occurrence := .ofEvent 1 5
  ⟨"forum.PostDeleted", index, none, [.string "0x", .string "4", .array (posts.map .string),
    .bool true]⟩

/-- What the deletion reads as. -/
def hidingEvent (posts : List PostId) : ForumEvent := .postDeleted "" ⟨"4"⟩ posts true

/-- Both posts are hidden by a list that names one of them twice, as by one that names each once,
and neither of them can be hidden again; a list with a post that is not there hides none. -/
theorem deletion_of_visited_postsStore :
    Visited (fun _ ↦ True) postsStore ∧
      (hidingPosts 0 ["3", "2", "3"]).forum? = some (hidingEvent [⟨"3"⟩, ⟨"2"⟩, ⟨"3"⟩]) ∧
      (hidingPosts 0 ["2", "3"]).forum? = some (hidingEvent [⟨"2"⟩, ⟨"3"⟩]) ∧
      (∃ s', (event (hidingPosts 0 ["3", "2", "3"])).Yields postsStore true s' ∧
        s'.posts[(⟨"2"⟩ : PostId)]?.map (·.status) = some (.removed ⟨"1-0"⟩) ∧
        s'.posts[(⟨"3"⟩ : PostId)]?.map (·.status) = some (.removed ⟨"1-0"⟩) ∧
        (∀ s₂, (event (hidingPosts 0 ["2", "3"])).Yields postsStore true s₂ → s₂.posts = s'.posts) ∧
        ∃ error, (event (hidingPosts 1 ["3"])).Fails s' error s') ∧
      (∃ s₂, (event (hidingPosts 0 ["2", "3"])).Yields postsStore true s₂) ∧
      ∃ error, (event (hidingPosts 0 ["2", "9"])).Fails postsStore error postsStore := by
  have hreachable : postsStore.Reachable := .block (.seeded .fresh) _ fun _ _ ↦ trivial
  have hfresh (posts : List String) : postsStore.event? (hidingPosts 0 posts).id = none := by
    show postsStore.event? (hidingPosts 0 []).id = none
    decide +kernel
  have hfirst : (hidingPosts 0 ["3", "2", "3"]).forum? =
      some (hidingEvent [⟨"3"⟩, ⟨"2"⟩, ⟨"3"⟩]) := by decide +kernel
  have hsecond : (hidingPosts 0 ["2", "3"]).forum? = some (hidingEvent [⟨"2"⟩, ⟨"3"⟩]) := by
    decide +kernel
  have hagain : (hidingPosts 1 ["3"]).forum? = some (hidingEvent [⟨"3"⟩]) := by decide +kernel
  have hmissing : (hidingPosts 0 ["2", "9"]).forum? = some (hidingEvent [⟨"2"⟩, ⟨"9"⟩]) := by
    decide +kernel
  obtain ⟨-, -, -, hset, hclosed⟩ :=
    deletion_of_visited hreachable.visited hfirst (hfresh _)
  have hsame := hset (hidingPosts 0 ["2", "3"]) _ _ _ hsecond rfl rfl (by simp [or_comm])
  have hyields : (event (hidingPosts 0 ["3", "2", "3"])).Yields postsStore true
      (event (hidingPosts 0 ["3", "2", "3"]) postsStore).store := ⟨by decide +kernel, rfl⟩
  refine ⟨hreachable.visited, hfirst, hsecond, ⟨_, hyields, by decide +kernel, by decide +kernel,
    fun s₂ ↦ hsame.2 _ s₂ hyields, ?_⟩, hsame.1.2 ⟨_, hyields⟩, ?_⟩
  · exact hclosed rfl _ hyields (hidingPosts 1 ["3"]) _ _ _ _ hagain (by decide +kernel)
      ⟨⟨"3"⟩, by simp, by simp⟩
  · refine (deletion_of_visited hreachable.visited hmissing (hfresh _)).2.2.1 fun hall ↦ ?_
    obtain ⟨post, found, -⟩ := hall ⟨"9"⟩ (by simp)
    have hnone : postsStore.posts[(⟨"9"⟩ : PostId)]? = none := by decide +kernel
    cases hnone.symm.trans found

end Store

end ChainProjection
