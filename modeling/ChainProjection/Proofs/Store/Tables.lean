import ChainProjection.Store.Content
import ChainProjection.Store.Forum
import ChainProjection.Store.Membership
import Mathlib.Data.List.Sort

/-!
# Tables

What a store is found to have after a row was saved or removed.  Most of what is said about a store
is said of every row of a table under its key, so the rules here are about `Table.Forall`: which
rows have to be looked at again after a write.

**A save is said of once, for all tables.**  Each table has its own list of what an old row takes on
from a new one, and every rule about `Table.upsert` has the list as a parameter.  What the rules ask
of it is only that a row rewritten as itself is that row, which holds by definition for each of the
lists.  That is what makes one case of two: a new row is a rewritten one too, and a property of rows
has to be shown of `rewrite old row` alone.

**Replacing a set is a difference of sets.**  `replaceSet` selects the flagged entities and the
candidates and subtracts; `replaceSet_eq` says what comes of that entity by entity, in the order of
the table, and this is the form that all proofs about pinned threads and featured videos start from.
It rests on the order of the entities in scope (`pairwise_inScope`): two ascending lists with the
same members are one.
-/

namespace ChainProjection

namespace Table

variable {κ α : Type} [Ord κ] [Std.TransOrd κ] {P Q : κ → α → Prop} {table : Table κ α}

/-- Every row of the table has a property, which may speak of its key. -/
def Forall (P : κ → α → Prop) (table : Table κ α) : Prop :=
  ∀ ⦃key row⦄, table[key]? = some row → P key row

theorem Forall.imp (h : Forall P table) (himp : ∀ key row, P key row → Q key row) :
    Forall Q table :=
  fun _ _ hrow ↦ himp _ _ (h hrow)

theorem forall_empty : Forall P (∅ : Table κ α) := by
  intro key row hrow
  simp at hrow

theorem mem_of_getElem?_eq_some {key : κ} {row : α} (h : table[key]? = some row) : key ∈ table :=
  (Std.ExtTreeMap.getElem?_eq_some_iff.1 h).1

/-- Where rows stand under their own keys, the key of a row that is found is there. -/
theorem Forall.key_mem {keyOf : α → κ} (h : Forall (fun key row ↦ keyOf row = key) table) {key : κ}
    {row : α} (found : table[key]? = some row) : keyOf row ∈ table := by
  rw [h found]
  exact mem_of_getElem?_eq_some found

variable [Std.LawfulEqOrd κ] [DecidableEq κ]

theorem getElem?_insert (table : Table κ α) (key key' : κ) (row : α) :
    (table.insert key row)[key']? = if key = key' then some row else table[key']? := by
  simp [Std.ExtTreeMap.getElem?_insert]

theorem getElem?_erase (table : Table κ α) (key key' : κ) :
    (table.erase key)[key']? = if key = key' then none else table[key']? := by
  simp [Std.ExtTreeMap.getElem?_erase]

/-- A row that is put in has to have the property; the others are the ones there were. -/
theorem Forall.insert (h : Forall P table) {key : κ} {row : α} (hrow : P key row) :
    Forall P (table.insert key row) := by
  intro key' row' hrow'
  rw [getElem?_insert] at hrow'
  split at hrow'
  · cases hrow'
    simp_all
  · exact h hrow'

/-- Fewer rows have it still. -/
theorem Forall.erase (h : Forall P table) (key : κ) : Forall P (table.erase key) := by
  intro key' row' hrow'
  rw [getElem?_erase] at hrow'
  split at hrow'
  · cases hrow'
  · exact h hrow'

omit [DecidableEq κ] in
/-- What is done to every row is shown of one row. -/
theorem Forall.map (h : Forall P table) {f : κ → α → α}
    (hf : ∀ key row, P key row → Q key (f key row)) : Forall Q (table.map f) := by
  intro key row hrow
  rw [Std.ExtTreeMap.getElem?_map, Option.map_eq_some_iff] at hrow
  obtain ⟨row, hrow, rfl⟩ := hrow
  exact hf _ _ (h hrow)

/-! ### Upserts -/

section Upsert

variable {key key' : κ} {rewrite : α → α → α} {row found : α}

/-- A save writes the row under its key, or else what it makes of the row that is there. -/
theorem getElem?_upsert (table : Table κ α) (key key' : κ) (rewrite : α → α → α) (row : α) :
    (table.upsert key rewrite row)[key']? =
      if key = key' then some (table[key]?.elim row (rewrite · row)) else table[key']? := by
  rw [upsert, getElem?_insert]
  cases table[key]? <;> rfl

/-- **Under the key of a save** stands the row itself, or what it makes of the older one. -/
theorem getElem?_upsert_of_eq (h : key = key') :
    (table.upsert key rewrite row)[key']? = some (table[key']?.elim row (rewrite · row)) := by
  rw [getElem?_upsert, if_pos h, h]

/-- What is found under the key of a save is the row that was saved, but for what is kept of an
older one. -/
theorem exists_getElem?_upsert (table : Table κ α) (hself : rewrite row row = row)
    (h : key = key') : ∃ old, (table.upsert key rewrite row)[key']? = some (rewrite old row) := by
  rw [getElem?_upsert_of_eq h]
  cases table[key']? with
  | none => exact ⟨row, congrArg some hself.symm⟩
  | some old => exact ⟨old, rfl⟩

/-- Under any other key stands what stood there. -/
theorem getElem?_upsert_of_ne (h : key ≠ key') :
    (table.upsert key rewrite row)[key']? = table[key']? := by
  rw [getElem?_upsert, if_neg h]

omit [DecidableEq κ] in
/-- A save adds the row and removes none. -/
theorem mem_upsert : key' ∈ table.upsert key rewrite row ↔ key = key' ∨ key' ∈ table := by
  simp [upsert]

/-- Every row has a property after a save if any row rewritten as the saved one has it. -/
theorem Forall.upsert (h : Forall P table) (hself : rewrite row row = row)
    (hrow : ∀ old, P key (rewrite old row)) : Forall P (table.upsert key rewrite row) := by
  refine h.insert ?_
  split
  · exact hrow _
  · rw [← hself]
    exact hrow row

/-- A row that is found after a save is the one saved, but for what is kept of an older one, or was
there. -/
theorem getElem?_upsert_eq_some (hself : rewrite row row = row)
    (h : (table.upsert key rewrite row)[key']? = some found) :
    (∃ old, key' = key ∧ found = rewrite old row) ∨ key' ≠ key ∧ table[key']? = some found := by
  by_cases heq : key = key'
  · obtain ⟨old, hsaved⟩ := exists_getElem?_upsert table hself heq
    exact Or.inl ⟨old, heq.symm, Option.some_inj.1 (h.symm.trans hsaved)⟩
  · rw [getElem?_upsert_of_ne heq] at h
    exact Or.inr ⟨Ne.symm heq, h⟩

/-- What a look-up shows after a save, if it shows nothing that is kept of an older row. -/
theorem map_getElem?_upsert {β : Type} {f : α → β} (hf : ∀ old, f (rewrite old row) = f row)
    (table : Table κ α) (key key' : κ) :
    (table.upsert key rewrite row)[key']?.map f =
      if key = key' then some (f row) else table[key']?.map f := by
  rw [getElem?_upsert]
  split
  · cases table[key]? with
    | none => rfl
    | some old => exact congrArg some (hf old)
  · rfl

/-- A row that is found under its key and saved keeps what is the same in the saved one. -/
theorem map_getElem?_upsert_of_found {β : Type} {f : α → β} {before : α}
    (found : table[key']? = some before) (hkey : key = key')
    (hf : ∀ old, f (rewrite old row) = f row) (hsame : f row = f before) (other : κ) :
    (table.upsert key rewrite row)[other]?.map f = table[other]?.map f := by
  rw [map_getElem?_upsert hf]
  split
  · next heq => rw [← heq, hkey, found, Option.map_some, hsame]
  · rfl

end Upsert

omit [DecidableEq κ] in
/-- Every row keeps a property when some rows are changed, if a row that is changed keeps it. -/
theorem Forall.map_if (h : Forall P table) {f : α → α} (chosen : κ → Bool)
    (hf : ∀ key row, P key row → P key (f row)) :
    Forall P (table.map fun key row ↦ if chosen key then f row else row) := by
  refine h.map fun key row hrow ↦ ?_
  split
  · exact hf key row hrow
  · exact hrow

end Table

namespace Store

open Table

variable {s s' : Store}

/-! ### Posts saved in a row -/

/-- Posts saved one after the other have a property if each has it, whatever it takes over from an
older post. -/
theorem forall_foldl_savePost {P : PostId → Post → Prop} {posts : List Post}
    (h : Forall P s.posts)
    (hposts : ∀ post ∈ posts, ∀ old : Post, P post.id (old.rewrittenAs post)) :
    Forall P (posts.foldl savePost s).posts := by
  induction posts generalizing s with
  | nil => exact h
  | cons post rest ih =>
    rw [List.forall_mem_cons] at hposts
    exact ih (h.upsert rfl hposts.1) hposts.2

/-- Saving posts one after the other writes no other table. -/
theorem foldl_savePost (posts : List Post) (s : Store) :
    posts.foldl savePost s = { s with posts := (posts.foldl savePost s).posts } := by
  induction posts generalizing s with
  | nil => rfl
  | cons post rest ih =>
    rw [List.foldl_cons, ih]
    rfl

/-! ### Members -/

theorem mem_members_ensureMember (s : Store) (id : MemberId) (block : UInt64) :
    id ∈ (s.ensureMember id block).members := by
  simp [ensureMember]

/-- Making a member known that is known already changes nothing. -/
theorem ensureMember_of_mem {id : MemberId} (h : id ∈ s.members) (block : UInt64) :
    s.ensureMember id block = s := by
  have hsame : s.members.insertIfNew id block = s.members := by
    refine Std.ExtTreeMap.ext_getElem? fun id' ↦ ?_
    rw [Std.ExtTreeMap.getElem?_insertIfNew]
    split
    · next hid =>
      obtain ⟨hcompare, hnew⟩ := hid
      exact absurd h hnew
    · rfl
  rw [ensureMember, hsame]

/-- Making a new member known changes the store. -/
theorem ensureMember_ne {id : MemberId} (h : id ∉ s.members) (block : UInt64) :
    s.ensureMember id block ≠ s := by
  intro heq
  have hmem := s.mem_members_ensureMember id block
  rw [heq] at hmem
  exact h hmem

/-! ### Flags -/

section Flags

variable {set : FlaggedSet} {wanted : List String} {updatedAt : Int64}

/-- The entities in scope come in ascending order of their ids. -/
theorem pairwise_inScope (s : Store) (set : FlaggedSet) :
    (s.inScope set).Pairwise fun a b ↦ a.1 < b.1 := by
  have hlt {entity : Entity} {a b : Id entity} (h : compare a b = .lt) : a.text < b.text :=
    compareOfLessAndEq_eq_lt.1 h
  cases set with
  | stickyThreads category =>
    have hthreads := Std.ExtTreeMap.ordered_keys_toList (t := s.threads)
    exact List.Pairwise.map _ (fun _ _ h ↦ hlt h) (hthreads.filter _)
  | featuredVideos =>
    have hvideos := Std.ExtTreeMap.ordered_keys_toList (t := s.videos)
    exact List.Pairwise.map _ (fun _ _ h ↦ hlt h) hvideos

/-- The wanted ids that no entity in scope has, in ascending order and without repetition. -/
def missingFrom (s : Store) (set : FlaggedSet) (wanted : List String) : List String :=
  (Std.ExtTreeSet.ofList wanted).toList.filter fun id ↦ !(s.inScope set).any fun c ↦ c.1 = id

/-- Which flags change when a set is replaced. -/
def changeTo (s : Store) (set : FlaggedSet) (wanted : List String) : SetChange where
  added := ((s.inScope set).filter fun (id, flag) ↦ !flag && wanted.contains id).map Prod.fst
  removed := ((s.inScope set).filter fun (id, flag) ↦ flag && !wanted.contains id).map Prod.fst

/-- The ids that come in are in ascending order, and so are those that go out. -/
theorem pairwise_changeTo (s : Store) (set : FlaggedSet) (wanted : List String) :
    (s.changeTo set wanted).added.Pairwise (· < ·) ∧
      (s.changeTo set wanted).removed.Pairwise (· < ·) := by
  have hfilter (p : String × Bool → Bool) :
      (((s.inScope set).filter p).map Prod.fst).Pairwise (· < ·) :=
    List.Pairwise.map _ (fun _ _ h ↦ h) ((s.pairwise_inScope set).filter p)
  exact ⟨hfilter _, hfilter _⟩

/-- Without a limit all ids with the flag are selected. -/
theorem mem_selectIds_none {flagged : Bool} {id : String} :
    id ∈ s.selectIds set flagged none ↔ (id, flagged) ∈ s.inScope set := by
  simp [selectIds]

/-- Within a set only those of the set are selected; an empty set needs no case of its own. -/
theorem mem_selectIds_some {flagged : Bool} {within : Std.ExtTreeSet String} {id : String} :
    id ∈ s.selectIds set flagged (some within) ↔ (id, flagged) ∈ s.inScope set ∧ id ∈ within := by
  rw [selectIds]
  split
  · next hempty => simp [Std.ExtTreeSet.isEmpty_iff.1 hempty]
  · simp

/-- A set in ascending order is the ascending list of its members. -/
theorem toList_eq_of_mem_iff {ids : Std.ExtTreeSet String} {list : List String}
    (hlist : list.Pairwise (· < ·)) (h : ∀ id, id ∈ ids ↔ id ∈ list) : ids.toList = list := by
  have hordered := Std.ExtTreeSet.ordered_toList (t := ids)
  have hids : ids.toList.Pairwise (· < ·) :=
    hordered.imp fun hlt ↦ compareOfLessAndEq_eq_lt.1 hlt
  refine hids.eq_of_mem_iff hlist fun id ↦ ?_
  rw [Std.ExtTreeSet.mem_toList, h]

/-- Replacing a set, entity by entity: it fails with the wanted ids that no entity in scope has, and
else clears the flags of the entities that are not wanted and sets those of the wanted ones. -/
theorem replaceSet_eq (s : Store) (set : FlaggedSet) (wanted : List String) (updatedAt : Int64) :
    s.replaceSet set wanted updatedAt =
      match s.missingFrom set wanted with
      | [] =>
        .ok (s.changeTo set wanted,
          (s.setFlag set (s.changeTo set wanted).removed false updatedAt).setFlag set
            (s.changeTo set wanted).added true updatedAt)
      | missing => .error missing := by
  -- The queries look at flagged ids and at wanted ones that are not flagged; between them they find
  -- every wanted id that is in scope.
  have hmissing : ((Std.ExtTreeSet.ofList wanted).toList.filter fun id ↦
      !(s.selectIds set true none).contains id &&
        !(s.selectIds set false (some (.ofList wanted))).contains id) =
      s.missingFrom set wanted := by
    refine List.filter_congr fun id hid ↦ ?_
    rw [Std.ExtTreeSet.mem_toList] at hid
    rw [← Bool.not_or, Bool.not_inj_iff, Bool.eq_iff_iff, Bool.or_eq_true, List.any_eq_true,
      Std.ExtTreeSet.contains_iff_mem, Std.ExtTreeSet.contains_iff_mem, mem_selectIds_none,
      mem_selectIds_some, and_iff_left hid]
    simp [or_comm]
  have hadded : (s.selectIds set false (some (.ofList wanted))).toList =
      (s.changeTo set wanted).added :=
    toList_eq_of_mem_iff (s.pairwise_changeTo set wanted).1 fun id ↦ by
      simp [mem_selectIds_some, changeTo]
  have hremoved : (s.selectIds set true none \ .ofList wanted).toList =
      (s.changeTo set wanted).removed :=
    toList_eq_of_mem_iff (s.pairwise_changeTo set wanted).2 fun id ↦ by
      simp [Std.ExtTreeSet.mem_diff_iff, mem_selectIds_none, changeTo]
  cases hcase : s.missingFrom set wanted with
  | nil =>
    rw [hcase] at hmissing
    simp only [replaceSet, hmissing, hadded, hremoved]
  | cons id rest =>
    rw [hcase] at hmissing
    simp only [replaceSet, hmissing]

end Flags

/-- What replacing a set did, if it was possible: both kinds of flags were written. -/
theorem replaceSet_eq_ok {set : FlaggedSet} {wanted : List String} {updatedAt : Int64}
    {change : SetChange} (h : s.replaceSet set wanted updatedAt = .ok (change, s')) :
    change = s.changeTo set wanted ∧
      s' = (s.setFlag set change.removed false updatedAt).setFlag set change.added true
        updatedAt := by
  rw [replaceSet_eq] at h
  split at h
  · cases h
    exact ⟨rfl, rfl⟩
  · cases h

/-- Replacing the pinned threads of a category writes flags and times of threads. -/
theorem forall_replaceSticky {P : ThreadId → Thread → Prop} {category : CategoryId}
    {wanted : List String} {updatedAt : Int64} {change : SetChange}
    (h : s.replaceSet (.stickyThreads category) wanted updatedAt = .ok (change, s'))
    (hold : Forall P s.threads)
    (hrow : ∀ id thread flag, P id thread →
      P id { thread with isSticky := flag, updatedAt := updatedAt }) :
    Forall P s'.threads := by
  obtain ⟨-, rfl⟩ := replaceSet_eq_ok h
  have hcleared := hold.map_if (fun id ↦ change.removed.contains id.text) (hrow · · false)
  exact hcleared.map_if (fun id ↦ change.added.contains id.text) (hrow · · true)

/-- Replacing the featured videos writes flags and times of videos. -/
theorem forall_replaceFeatured {P : VideoId → Video → Prop} {wanted : List String}
    {updatedAt : Int64} {change : SetChange}
    (h : s.replaceSet .featuredVideos wanted updatedAt = .ok (change, s'))
    (hold : Forall P s.videos)
    (hrow : ∀ id video flag, P id video →
      P id { video with isFeatured := flag, updatedAt := updatedAt }) :
    Forall P s'.videos := by
  obtain ⟨-, rfl⟩ := replaceSet_eq_ok h
  have hcleared := hold.map_if (fun id ↦ change.removed.contains id.text) (hrow · · false)
  exact hcleared.map_if (fun id ↦ change.added.contains id.text) (hrow · · true)

/-- Replacing the pinned threads of a category writes the threads alone. -/
theorem replaceSticky_frame {category : CategoryId} {wanted : List String} {updatedAt : Int64}
    {change : SetChange}
    (h : s.replaceSet (.stickyThreads category) wanted updatedAt = .ok (change, s')) :
    s' = { s with threads := s'.threads } := by
  obtain ⟨-, rfl⟩ := replaceSet_eq_ok h
  rfl

/-- Replacing the featured videos writes the videos alone. -/
theorem replaceFeatured_frame {wanted : List String} {updatedAt : Int64} {change : SetChange}
    (h : s.replaceSet .featuredVideos wanted updatedAt = .ok (change, s')) :
    s' = { s with videos := s'.videos } := by
  obtain ⟨-, rfl⟩ := replaceSet_eq_ok h
  rfl

end Store

end ChainProjection
