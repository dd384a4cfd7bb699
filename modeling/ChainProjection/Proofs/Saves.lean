import ChainProjection.Projection.Occurrence
import ChainProjection.Proofs.Store.Tables

/-!
# Saves and stamps

A row says when it was created and when it was last written, and events see to it without looking at
the columns one by one.  They hand over a whole row with new stamps in it, whether it is new or not;
that a row keeps its creation is **the work of the save**, whose list of rewritten columns leaves
the stamps of the creation out.  That it gets the time of the event is the work of the event, and so
the rules here ask for it.

The rules are about one row, or the lack of one, before and after (`Occurrence.Saves`), and not
about tables, so that they compose: a row may be written twice in one event.  `savesIf_upsert` is
the one rule for a save, and it has the table and the list of rewritten columns as parameters; what
it asks of the list is one equation on stamps, which holds by definition for each of the seven kinds
of rows.
-/

namespace ChainProjection

open Store Table

variable {o : Occurrence} {s : Store}

/-! ### Stamps -/

/-- The columns of a row that say when it was created and when it was last written; `none` for a
column that rows of its kind do not have. -/
structure Stamps where
  createdInBlock : Option UInt64 := none
  createdAt : Option Int64 := none
  updatedAt : Option Int64 := none

/-- Rows with stamps. -/
class Stamped (α : Type) where
  /-- The stamps of a row. -/
  stamps : α → Stamps

export Stamped (stamps)

instance : Stamped Category where
  stamps row := { createdAt := row.createdAt, updatedAt := row.updatedAt }

instance : Stamped Thread where
  stamps row := { createdAt := row.createdAt, updatedAt := row.updatedAt }

instance : Stamped Post where
  stamps row := { createdAt := row.createdAt, updatedAt := row.updatedAt }

instance : Stamped Channel where
  stamps row := ⟨row.createdInBlock, row.createdAt, row.updatedAt⟩

instance : Stamped Video where
  stamps row := ⟨row.createdInBlock, row.createdAt, row.updatedAt⟩

instance {entity : Entity} : Stamped (ContentCategory entity) where
  stamps row := ⟨row.createdInBlock, row.createdAt, row.updatedAt⟩

instance : Stamped DataObject where
  stamps row := { createdInBlock := row.createdInBlock }

variable {α : Type} [Stamped α]

/-- The occurrence is the last write of a row, as far as the row tells. -/
def Occurrence.Updates (o : Occurrence) (row : α) : Prop :=
  (stamps row).updatedAt.getD o.timestamp = o.timestamp

/-- The occurrence is the creation of a row, as far as the row tells. -/
structure Occurrence.Creates (o : Occurrence) (row : α) : Prop where
  inBlock : (stamps row).createdInBlock.getD o.block = o.block
  atTime : (stamps row).createdAt.getD o.timestamp = o.timestamp

/-- Two rows have one creation. -/
structure SameCreation (row row' : α) : Prop where
  inBlock : (stamps row').createdInBlock = (stamps row).createdInBlock
  atTime : (stamps row').createdAt = (stamps row).createdAt

/-- What an occurrence makes of a row, or of the lack of one, when it saves a row there: the
creation of a row that was there is kept. -/
inductive Occurrence.Saves (o : Occurrence) : Option α → Option α → Prop
  | created {row : α} (creates : o.Creates row) (updates : o.Updates row) : Saves o none (some row)
  | rewritten {row row' : α} (kept : SameCreation row row') (updates : o.Updates row') :
      Saves o (some row) (some row')

/-- Two saves of one row by one event are a save: the first creation is the one that is kept. -/
theorem Occurrence.Saves.trans {x y z : Option α} (h : o.Saves x y) (h' : o.Saves y z) :
    o.Saves x z := by
  cases h' with
  | created => cases h
  | rewritten kept updates =>
    cases h with
    | created creates =>
      refine .created ⟨?_, ?_⟩ updates
      · rw [kept.inBlock]
        exact creates.inBlock
      · rw [kept.atTime]
        exact creates.atTime
    | rewritten kept' =>
      exact .rewritten ⟨kept.inBlock.trans kept'.inBlock, kept.atTime.trans kept'.atTime⟩ updates

/-- A row is left alone, unless a condition holds and it is saved. -/
def Occurrence.SavesIf (o : Occurrence) (p : Prop) (x y : Option α) : Prop :=
  y = x ∨ p ∧ o.Saves x y

namespace Occurrence.SavesIf

variable {p q : Prop} {x y z : Option α}

theorem refl (o : Occurrence) (p : Prop) (x : Option α) : o.SavesIf p x x :=
  Or.inl rfl

theorem of_eq (h : y = x) : o.SavesIf p x y :=
  Or.inl h

theorem imp (h : o.SavesIf p x y) (hpq : p → q) : o.SavesIf q x y :=
  h.imp_right fun hsaves ↦ ⟨hpq hsaves.1, hsaves.2⟩

/-- Two writes under one condition are one. -/
theorem trans (h : o.SavesIf p x y) (h' : o.SavesIf p y z) : o.SavesIf p x z := by
  rcases h with rfl | ⟨hp, hsaves⟩
  · exact h'
  · rcases h' with rfl | ⟨-, hsaves'⟩
    · exact Or.inr ⟨hp, hsaves⟩
    · exact Or.inr ⟨hp, hsaves.trans hsaves'⟩

end Occurrence.SavesIf

/-- A row is left alone, unless a condition holds and it is saved or removed. -/
def Occurrence.WritesIf (o : Occurrence) (p : Prop) (x y : Option α) : Prop :=
  y = x ∨ p ∧ (o.Saves x y ∨ y = none)

theorem Occurrence.WritesIf.refl (o : Occurrence) (p : Prop) (x : Option α) : o.WritesIf p x x :=
  Or.inl rfl

/-- A save is one of the two ways to write. -/
theorem Occurrence.SavesIf.writesIf {p : Prop} {x y : Option α} (h : o.SavesIf p x y) :
    o.WritesIf p x y :=
  h.imp_right fun hsaves ↦ ⟨hsaves.1, Or.inl hsaves.2⟩

/-! ### Tables -/

namespace Table

variable {κ β : Type} [Ord κ] [Std.TransOrd κ] [Std.LawfulEqOrd κ] [DecidableEq κ]

/-- A save changes the row under one key.  It asks for the time of the occurrence in the row that is
saved, and for the creation of the row where there was none; where there was one, its creation is
kept because the row is rewritten with the stamps of the old one. -/
theorem savesIf_upsert {table : Table κ α} {saved key : κ} {rewrite : α → α → α} {row : α}
    (key' : κ) (hkey : saved = key)
    (hstamps : ∀ old,
      stamps (rewrite old row) = { stamps old with updatedAt := (stamps row).updatedAt })
    (updates : o.Updates row) (creates : table[key]? = none → o.Creates row) :
    o.SavesIf (some key = some key') table[key']? (table.upsert saved rewrite row)[key']? := by
  subst hkey
  rw [getElem?_upsert]
  split
  · next heq =>
    subst heq
    refine Or.inr ⟨rfl, ?_⟩
    cases hold : table[saved]? with
    | none => exact .created (creates hold) updates
    | some old =>
      have hkept : SameCreation old (rewrite old row) := by
        constructor <;> rw [hstamps]
      have hupdates : o.Updates (rewrite old row) := by
        rw [Occurrence.Updates, hstamps]
        exact updates
      exact .rewritten hkept hupdates
  · exact .refl _ _ _

/-- A removal takes away the row under one key. -/
theorem writesIf_erase {table : Table κ α} {key removed : κ} (key' : κ) (hkey : removed = key) :
    o.WritesIf (some key = some key') table[key']? (table.erase removed)[key']? := by
  subst hkey
  rw [getElem?_erase]
  split
  · next heq => exact Or.inr ⟨congrArg some heq, Or.inr rfl⟩
  · exact .refl _ _ _

omit [Std.LawfulEqOrd κ] [DecidableEq κ] in
theorem absurd_of_found {table : Table κ β} {key : κ} {row : β} {p : Prop}
    (found : table[key]? = some row) (absent : table[key]? = none) : p := by
  rw [found] at absent
  cases absent

/-- One table has at most one row more than another, and the same rows besides. -/
def AddsAtMostOne (table table' : Table κ β) : Prop :=
  table' = table ∨ ∃ key row, key ∉ table ∧ table' = table.insert key row

/-- What is put in only where nothing stands hides nothing. -/
theorem addsAtMostOne_insertIfNew (table : Table κ β) (key : κ) (row : β) :
    AddsAtMostOne table (table.insertIfNew key row) := by
  by_cases hmem : key ∈ table
  · refine Or.inl (Std.ExtTreeMap.ext_getElem? fun key' ↦ ?_)
    simp [Std.ExtTreeMap.getElem?_insertIfNew, hmem]
  · refine Or.inr ⟨key, row, hmem, Std.ExtTreeMap.ext_getElem? fun key' ↦ ?_⟩
    simp [Std.ExtTreeMap.getElem?_insertIfNew, getElem?_insert, hmem]

end Table

namespace Store

/-- Posts that are there are saved in order, some of them maybe more than once. -/
theorem savesIf_foldl_savePost {posts : List Post} (id : PostId)
    (updates : ∀ post ∈ posts, o.Updates post) (there : ∀ post ∈ posts, post.id ∈ s.posts) :
    o.SavesIf (∃ post ∈ posts, post.id = id) s.posts[id]? (posts.foldl savePost s).posts[id]? := by
  induction posts generalizing s with
  | nil => exact .refl _ _ _
  | cons post rest ih =>
    rw [List.forall_mem_cons] at updates there
    have hfirst : o.SavesIf (some post.id = some id) s.posts[id]? (s.savePost post).posts[id]? :=
      savesIf_upsert id rfl (fun _ ↦ rfl) updates.1 fun absent ↦
        absurd there.1 ((getElem?_eq_none_iff ..).1 absent)
    have hrest := ih (s := s.savePost post) updates.2 fun post' hpost' ↦
      mem_upsert.2 (Or.inr (there.2 post' hpost'))
    refine (hfirst.imp fun hid ↦ ?_).trans (hrest.imp ?_)
    · exact ⟨post, List.mem_cons_self, Option.some_inj.1 hid⟩
    · rintro ⟨later, hlater, hid⟩
      exact ⟨later, List.mem_cons_of_mem _ hlater, hid⟩

end Store

end ChainProjection
