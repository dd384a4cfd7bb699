import ChainProjection.Id
import Mathlib.Data.List.Basic
import Std.Data.String.ToNat

/-!
# Ids are told apart

An id that is made of numbers gives the numbers back: `ofNumber_injective` for one number,
`ofEvent_injective2` for the record of an event and `ofWorker_injective2` for a worker.

For one number this is what decimal digits are for.  Where a number stands behind a dash, it is
**found behind the last dash** of the text, since no digit is one; what stands before that dash may
be any text.  So the name of a working group may have dashes and end in digits: `a-1-2` is worker 2
of the group `a-1` and nothing else.  The obvious reading, to split at the first dash, would not do
here, and neither would counting dashes.

The split is a fact about lists (`append_cons_inj_of_notMem_right`); `append_decimal_inj` is its
form for texts, and both kinds of ids with a dash use it.
-/

namespace ChainProjection

/-! ### Numbers behind a dash -/

theorem dash_notMem_decimal (n : Nat) : '-' ∉ (decimal n).toList := by
  intro hmem
  rw [decimal, Nat.toString_eq_repr, Nat.toList_repr] at hmem
  have hdigit := Nat.isDigit_of_mem_toDigits (by decide) (by decide) hmem
  cases hdigit

/-- A list is split in one way only at the last of its members that are `a`. -/
theorem append_cons_inj_of_notMem_right {α : Type} {a : α} {before before' after after' : List α}
    (h : a ∉ after) (h' : a ∉ after') (heq : before ++ a :: after = before' ++ a :: after') :
    before = before' ∧ after = after' := by
  -- Were one of the places further on, it would be among what comes after the other.
  rcases List.append_eq_append_iff.1 heq with ⟨between, rfl, hrest⟩ | ⟨between, rfl, hrest⟩
  · cases between with
    | nil => simpa using hrest
    | cons b between =>
      obtain ⟨-, rfl⟩ := List.cons.inj hrest
      exact absurd (List.mem_append_right _ List.mem_cons_self) h
  · cases between with
    | nil => simpa using hrest.symm
    | cons b between =>
      obtain ⟨-, rfl⟩ := List.cons.inj hrest
      exact absurd (List.mem_append_right _ List.mem_cons_self) h'

/-- The text before the last dash and the number behind it are read off the whole. -/
theorem append_decimal_inj {text text' : String} {n n' : Nat}
    (h : text ++ "-" ++ decimal n = text' ++ "-" ++ decimal n') : text = text' ∧ n = n' := by
  have hlists : text.toList ++ '-' :: (decimal n).toList =
      text'.toList ++ '-' :: (decimal n').toList := by
    simpa using congrArg String.toList h
  obtain ⟨htext, hdigits⟩ := append_cons_inj_of_notMem_right (dash_notMem_decimal n)
    (dash_notMem_decimal n') hlists
  exact ⟨String.toList_inj.1 htext, Nat.repr_inj.1 (String.toList_inj.1 hdigits)⟩

/-! ### Ids -/

namespace Id

/-- The id of a numbered thing says the number. -/
theorem ofNumber_injective (entity : Entity) :
    Function.Injective fun n ↦ (Id.ofNumber n : Id entity) :=
  fun _ _ h ↦ UInt64.toNat_inj.1 (Nat.repr_inj.1 (congrArg text h))

/-- The id of a record says the block and the place in it. -/
theorem ofEvent_injective2 : Function.Injective2 Id.ofEvent := by
  intro block block' index index' h
  obtain ⟨hblock, hindex⟩ := append_decimal_inj (congrArg text h)
  exact ⟨UInt64.toNat_inj.1 (Nat.repr_inj.1 hblock), UInt32.toNat_inj.1 hindex⟩

/-- The id of a worker says the group and the number within it, whatever the group is called. -/
theorem ofWorker_injective2 : Function.Injective2 Id.ofWorker := by
  intro group group' runtimeId runtimeId' h
  obtain ⟨hgroup, hnumber⟩ := append_decimal_inj (congrArg text h)
  exact ⟨hgroup, UInt64.toNat_inj.1 hnumber⟩

end Id

end ChainProjection
