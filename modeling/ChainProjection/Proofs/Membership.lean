import ChainProjection.Proofs.Flags

/-!
# Replacing a set

An event that carries a whole set replaces the flags of the entities in scope.  What that comes to
is said here for both kinds of sets at once, through one look-up: the flag of the entity in scope
that has an id (`Store.flag?`).

* **Replacing is possible if and only if this look-up finds every wanted id**
  (`exists_replaceSet_eq_ok`).
* It then makes the flag of every entity in scope say whether the entity is wanted
  (`flag?_replaceSet`), and touches no other row.
* Since it writes only the rows for which this is news, doing it again writes nothing
  (`Replaces.again`).  This goes by the flags alone: after the first call every flag says what is
  wanted, and where it does there is nothing to replace (`replaceSet_of_flags`), so the second call
  need not be run.

The two lists of ids it reports are read off the same look-up.  They are in ascending order because
tables are, and for the same reason no id is in them twice, however often it is wanted.  All of it
is put together in `Store.Replaces`, and `replacesSet` says it of the projection.
-/

namespace ChainProjection

open Projection Table

variable {s s' : Store} {set : FlaggedSet} {wanted : List String} {updatedAt : Int64}
  {change : SetChange} {id : String}

/-! ### Entities in scope -/

namespace Store

/-- The flag of the entity with an id, if there is one in scope. -/
def flag? (s : Store) (set : FlaggedSet) (id : String) : Option Bool :=
  match set with
  | .stickyThreads category =>
    (s.threads[(⟨id⟩ : ThreadId)]?.filter fun row ↦ row.category = category).map (·.isSticky)
  | .featuredVideos => s.videos[(⟨id⟩ : VideoId)]?.map (·.isFeatured)

/-- The entities in scope are those with a flag. -/
theorem mem_inScope {flag : Bool} :
    (id, flag) ∈ s.inScope set ↔ s.flag? set id = some flag := by
  cases set with
  | stickyThreads category =>
    rw [mem_inScope_stickyThreads, flag?]
    simp only [Option.map_eq_some_iff, Option.filter_eq_some_iff, decide_eq_true_eq, and_assoc]
    constructor
    · rintro ⟨⟨text⟩, row, found, hscope, rfl, hflag⟩
      exact ⟨row, found, hscope, hflag⟩
    · rintro ⟨row, found, hscope, hflag⟩
      exact ⟨⟨id⟩, row, found, hscope, rfl, hflag⟩
  | featuredVideos =>
    rw [flag?, Option.map_eq_some_iff]
    show ((⟨id⟩ : VideoId).text, flag) ∈ s.inScope .featuredVideos ↔ _
    exact mem_inScope_featuredVideos

/-- The missing ids are the wanted ones that no entity in scope has. -/
theorem mem_missingFrom :
    id ∈ s.missingFrom set wanted ↔ id ∈ wanted ∧ s.flag? set id = none := by
  have hscope : ((s.inScope set).any fun c ↦ c.1 = id) = (s.flag? set id).isSome := by
    rw [Bool.eq_iff_iff, Option.isSome_iff_exists, List.any_eq_true]
    constructor
    · rintro ⟨⟨text, flag⟩, hmem, heq⟩
      obtain rfl : text = id := of_decide_eq_true heq
      exact ⟨flag, mem_inScope.1 hmem⟩
    · rintro ⟨flag, hflag⟩
      exact ⟨(id, flag), mem_inScope.2 hflag, decide_eq_true rfl⟩
  rw [missingFrom, List.mem_filter, hscope]
  simp

/-- Which ids come in: those of the entities in scope that are wanted and not flagged. -/
theorem mem_added :
    id ∈ (s.changeTo set wanted).added ↔ s.flag? set id = some false ∧ id ∈ wanted := by
  simp [changeTo, mem_inScope]

/-- Which ids go out: those of the entities in scope that are flagged and not wanted. -/
theorem mem_removed :
    id ∈ (s.changeTo set wanted).removed ↔ s.flag? set id = some true ∧ id ∉ wanted := by
  simp [changeTo, mem_inScope]

/-! ### Replacing -/

end Store

/-- A thread after a set was replaced: only the set of the pinned threads of its category concerns
it. -/
def FlaggedSet.onThread (set : FlaggedSet) (isWanted : Bool) (updatedAt : Int64) (row : Thread) :
    Thread :=
  match set with
  | .stickyThreads category => row.repinned category isWanted updatedAt
  | .featuredVideos => row

/-- A video after a set was replaced: only the set of the featured videos concerns it. -/
def FlaggedSet.onVideo (set : FlaggedSet) (isWanted : Bool) (updatedAt : Int64) (row : Video) :
    Video :=
  match set with
  | .stickyThreads _ => row
  | .featuredVideos => row.refeatured isWanted updatedAt

/-- What it means that a set was replaced by the wanted ids: from `s` to `s'`, with `change`. -/
structure Store.Replaces (s : Store) (set : FlaggedSet) (wanted : List String)
    (updatedAt : Int64) (change : SetChange) (s' : Store) : Prop where
  /-- The flagged entities in scope are the wanted ones. -/
  flagged : ∀ id, s'.flag? set id = some true ↔ id ∈ wanted
  /-- No entity comes into scope, and none leaves it. -/
  scope : ∀ id, (s'.flag? set id).isSome = (s.flag? set id).isSome
  /-- A thread whose flag flips gets the time; any other is as it was. -/
  threads : ∀ id : ThreadId, s'.threads[id]? =
    s.threads[id]?.map (set.onThread (decide (id.text ∈ wanted)) updatedAt)
  /-- A video whose flag flips gets the time; any other is as it was. -/
  videos : ∀ id : VideoId, s'.videos[id]? =
    s.videos[id]?.map (set.onVideo (decide (id.text ∈ wanted)) updatedAt)
  /-- Nothing else is written. -/
  others : s' = { s with threads := s'.threads, videos := s'.videos }
  added : ∀ id, id ∈ change.added ↔ s.flag? set id = some false ∧ s'.flag? set id = some true
  removed : ∀ id, id ∈ change.removed ↔ s.flag? set id = some true ∧ s'.flag? set id = some false
  /-- In ascending order, and so without repetition. -/
  added_ascending : change.added.Pairwise (· < ·)
  /-- In ascending order, and so without repetition. -/
  removed_ascending : change.removed.Pairwise (· < ·)

/-- Pins do not move a thread. -/
theorem Thread.category_repinned (row : Thread) (category : CategoryId) (isWanted : Bool)
    (updatedAt : Int64) : (row.repinned category isWanted updatedAt).category = row.category := by
  rw [repinned]
  split <;> rfl

/-- A thread in scope has the wanted flag. -/
theorem Thread.isSticky_repinned {row : Thread} {category : CategoryId}
    (hscope : row.category = category) (isWanted : Bool) (updatedAt : Int64) :
    (row.repinned category isWanted updatedAt).isSticky = isWanted := by
  rw [repinned]
  split
  · rfl
  · next hkept => exact Decidable.of_not_not fun hne ↦ hkept ⟨hscope, hne⟩

/-- Every video has the wanted flag. -/
theorem Video.isFeatured_refeatured (row : Video) (isWanted : Bool) (updatedAt : Int64) :
    (row.refeatured isWanted updatedAt).isFeatured = isWanted := by
  rw [refeatured]
  split
  · rfl
  · next hkept => exact Decidable.of_not_not hkept

namespace Store

/-- Setting the flag of no entity changes nothing. -/
theorem setFlag_nil (s : Store) (set : FlaggedSet) (flag : Bool) (updatedAt : Int64) :
    s.setFlag set [] flag updatedAt = s := by
  cases set with
  | stickyThreads category =>
    have hthreads : s.threads.map (fun _ row ↦ row) = s.threads :=
      Std.ExtTreeMap.ext_getElem? fun id ↦ by simp
    show { s with threads := s.threads.map fun _ row ↦ row } = s
    rw [hthreads]
  | featuredVideos =>
    have hvideos : s.videos.map (fun _ row ↦ row) = s.videos :=
      Std.ExtTreeMap.ext_getElem? fun id ↦ by simp
    show { s with videos := s.videos.map fun _ row ↦ row } = s
    rw [hvideos]

/-- Replacing a set is possible exactly if every wanted id is that of an entity in scope. -/
theorem exists_replaceSet_eq_ok :
    (∃ change s', s.replaceSet set wanted updatedAt = .ok (change, s')) ↔
      ∀ id ∈ wanted, (s.flag? set id).isSome := by
  have hmissing : s.missingFrom set wanted = [] ↔ ∀ id ∈ wanted, (s.flag? set id).isSome := by
    simp [List.eq_nil_iff_forall_not_mem, mem_missingFrom, Option.isSome_iff_ne_none]
  rw [← hmissing, replaceSet_eq]
  rcases s.missingFrom set wanted with - | ⟨id, rest⟩ <;> simp

/-- What is reported as missing is what is missing. -/
theorem replaceSet_eq_error {missing : List String}
    (refused : s.replaceSet set wanted updatedAt = .error missing) :
    missing = s.missingFrom set wanted := by
  rw [replaceSet_eq] at refused
  split at refused
  · cases refused
  · exact (Except.error.inj refused).symm

/-- Every thread is left as `FlaggedSet.onThread` says. -/
theorem threads_replaceSet (replaced : s.replaceSet set wanted updatedAt = .ok (change, s'))
    (id : ThreadId) : s'.threads[id]? =
      s.threads[id]?.map (set.onThread (decide (id.text ∈ wanted)) updatedAt) := by
  cases set with
  | stickyThreads category => exact getElem?_replaceSticky replaced id
  | featuredVideos =>
    rw [replaceFeatured_frame replaced]
    exact Option.map_id'.symm

/-- Every video is left as `FlaggedSet.onVideo` says. -/
theorem videos_replaceSet (replaced : s.replaceSet set wanted updatedAt = .ok (change, s'))
    (id : VideoId) : s'.videos[id]? =
      s.videos[id]?.map (set.onVideo (decide (id.text ∈ wanted)) updatedAt) := by
  cases set with
  | stickyThreads category =>
    rw [replaceSticky_frame replaced]
    exact Option.map_id'.symm
  | featuredVideos => exact getElem?_replaceFeatured replaced id

/-- No other table is written. -/
theorem replaceSet_frame (replaced : s.replaceSet set wanted updatedAt = .ok (change, s')) :
    s' = { s with threads := s'.threads, videos := s'.videos } := by
  cases set with
  | stickyThreads category =>
    rw [replaceSticky_frame replaced]
  | featuredVideos =>
    rw [replaceFeatured_frame replaced]

/-- The flag of an entity in scope says whether the entity was wanted. -/
theorem flag?_replaceSet (replaced : s.replaceSet set wanted updatedAt = .ok (change, s'))
    (id : String) : s'.flag? set id = (s.flag? set id).map fun _ ↦ decide (id ∈ wanted) := by
  cases set with
  | stickyThreads category =>
    rw [flag?, flag?, getElem?_replaceSticky replaced]
    rcases s.threads[(⟨id⟩ : ThreadId)]? with - | row
    · rfl
    · rw [Option.map_some, Option.filter_some, Option.filter_some, Thread.category_repinned]
      by_cases hscope : row.category = category
      · rw [if_pos (decide_eq_true hscope), if_pos (decide_eq_true hscope)]
        exact congrArg some (Thread.isSticky_repinned hscope _ _)
      · rw [if_neg (by simpa using hscope), if_neg (by simpa using hscope)]
        rfl
  | featuredVideos =>
    rw [flag?, flag?, getElem?_replaceFeatured replaced, Option.map_map, Option.map_map]
    exact congrArg (Option.map · _) (funext fun row ↦ row.isFeatured_refeatured _ _)

/-- Where every flag in scope says whether the entity is wanted, there is nothing to replace. -/
theorem replaceSet_of_flags (hwanted : ∀ id ∈ wanted, (s.flag? set id).isSome)
    (hflags : ∀ id flag, s.flag? set id = some flag → flag = decide (id ∈ wanted)) :
    s.replaceSet set wanted updatedAt = .ok (⟨[], []⟩, s) := by
  have hpossible : ∃ change s', s.replaceSet set wanted updatedAt = .ok (change, s') :=
    exists_replaceSet_eq_ok.2 hwanted
  obtain ⟨change, s', replaced⟩ := hpossible
  obtain ⟨hchange, hwritten⟩ := replaceSet_eq_ok replaced
  have hadded : change.added = [] := by
    rw [hchange, List.eq_nil_iff_forall_not_mem]
    intro id hmem
    obtain ⟨hflag, hid⟩ := mem_added.1 hmem
    simpa [hid] using hflags id false hflag
  have hremoved : change.removed = [] := by
    rw [hchange, List.eq_nil_iff_forall_not_mem]
    intro id hmem
    obtain ⟨hflag, hid⟩ := mem_removed.1 hmem
    simpa [hid] using hflags id true hflag
  have hstore : s' = s := by
    rw [hwritten, hadded, hremoved, setFlag_nil, setFlag_nil]
  have hnothing : change = ⟨[], []⟩ := by
    rcases change with ⟨added, removed⟩
    exact congrArg₂ SetChange.mk hadded hremoved
  rw [replaced, hnothing, hstore]

/-- What `replaceSet` gives is the set replaced by the wanted ids. -/
theorem replaces_of_replaceSet
    (replaced : s.replaceSet set wanted updatedAt = .ok (change, s')) :
    s.Replaces set wanted updatedAt change s' := by
  have hinScope : ∀ id ∈ wanted, (s.flag? set id).isSome :=
    exists_replaceSet_eq_ok.1 ⟨change, s', replaced⟩
  have hflag := flag?_replaceSet replaced
  obtain ⟨rfl, -⟩ := replaceSet_eq_ok replaced
  exact {
    flagged id := by
      rw [hflag, Option.map_eq_some_iff]
      constructor
      · rintro ⟨flag, -, hid⟩
        exact of_decide_eq_true hid
      · -- A wanted id is in scope, because the set was replaced at all.
        intro hid
        obtain ⟨flag, found⟩ := Option.isSome_iff_exists.1 (hinScope id hid)
        exact ⟨flag, found, decide_eq_true hid⟩
    scope id := by rw [hflag, Option.isSome_map]
    threads := threads_replaceSet replaced
    videos := videos_replaceSet replaced
    others := replaceSet_frame replaced
    added id := by
      rw [mem_added, hflag]
      refine and_congr_right fun found ↦ ?_
      rw [found, Option.map_some, Option.some_inj, decide_eq_true_iff]
    removed id := by
      rw [mem_removed, hflag]
      refine and_congr_right fun found ↦ ?_
      rw [found, Option.map_some, Option.some_inj, decide_eq_false_iff_not]
    added_ascending := (s.pairwise_changeTo set wanted).1
    removed_ascending := (s.pairwise_changeTo set wanted).2 }

/-- Once a set was replaced, replacing it by the same ids changes nothing more. -/
theorem Replaces.again (h : s.Replaces set wanted updatedAt change s') {wanted' : List String}
    (hsame : ∀ id, id ∈ wanted' ↔ id ∈ wanted) (updatedAt' : Int64) :
    s'.replaceSet set wanted' updatedAt' = .ok (⟨[], []⟩, s') := by
  refine replaceSet_of_flags (fun id hid ↦ ?_) fun id flag found ↦ ?_
  · rw [(h.flagged id).2 ((hsame id).1 hid)]
    rfl
  · have hflagged : flag = true ↔ id ∈ wanted' := by
      rw [hsame, ← h.flagged, found, Option.some_inj]
    rw [Bool.eq_iff_iff, hflagged, decide_eq_true_iff]

end Store

namespace Projection

/-- Replacing a set succeeds exactly if every wanted id is that of an entity in scope.  Then it
replaces the set, and replacing it by the same ids once more, at whatever time and in whatever
order, reports no change and makes none.  If it fails, it does so with an inconsistency that names
the wanted ids out of scope, and the store is as it was. -/
theorem replacesSet (o : Occurrence) (s : Store) (set : FlaggedSet) (wanted : List String) :
    ((∃ change s', (replaceSet o set wanted).Yields s change s') ↔
        ∀ id ∈ wanted, (s.flag? set id).isSome) ∧
      (∀ change s', (replaceSet o set wanted).Yields s change s' →
        s.Replaces set wanted o.timestamp change s' ∧
          ∀ (o' : Occurrence) (wanted' : List String), (∀ id, id ∈ wanted' ↔ id ∈ wanted) →
            (replaceSet o' set wanted').Yields s' ⟨[], []⟩ s') ∧
      ∀ error s', (replaceSet o set wanted).Fails s error s' →
        s' = s ∧ ∃ missing, error = o.inconsistent (.notInScope set missing) ∧
          ∀ id, id ∈ missing ↔ id ∈ wanted ∧ s.flag? set id = none := by
  refine ⟨?_, fun change s' yields ↦ ?_, fun error s' fails ↦ ?_⟩
  · simp only [yields_replaceSet]
    exact Store.exists_replaceSet_eq_ok
  · have hreplaces := Store.replaces_of_replaceSet (yields_replaceSet.1 yields)
    refine ⟨hreplaces, fun o' wanted' hsame ↦ ?_⟩
    exact yields_replaceSet.2 (hreplaces.again hsame o'.timestamp)
  · obtain ⟨missing, refused, rfl, rfl⟩ := fails_replaceSet.1 fails
    refine ⟨rfl, missing, rfl, fun id ↦ ?_⟩
    rw [Store.replaceSet_eq_error refused, Store.mem_missingFrom]

end Projection

end ChainProjection
