import ChainProjection.Proofs.Wire.Fields
import ChainProjection.Wire.Basic

/-!
# Wire forms read back

A type is a `LawfulWire` one if what is written of its values reads back.  The class is about values
of its own type only: that a reader takes more forms than its writer uses does not count against it.

Numbers are read in a range, and `decodeRange_int` is the law of all of them.  Row numbers are not
lawful: they are integers without bounds here, and the wire takes those of 64 bits with a sign.
Where they occur, in the particulars of a vote, the law has a condition and is stated apart from the
class.

A list reads back if its items do, and a field that must be there reads back from what was written
under its name (`reads_required`); the fields of a record are put together from that.
-/

namespace ChainProjection

/-- A type whose values read back from their JSON form. -/
class LawfulWire (α : Type) [Wire α] : Prop where
  decode_encode (x : α) : Wire.decode (Wire.encode x) = .ok x

namespace Wire

open Json (decodeRange decodeItems)

export LawfulWire (decode_encode)

variable {α : Type} [Wire α]

/-! ### Plain values -/

instance : LawfulWire Bool := ⟨fun _ ↦ rfl⟩

instance : LawfulWire String := ⟨fun _ ↦ rfl⟩

/-- An integer in a range reads as itself. -/
theorem decodeRange_int {low high n : Int} {expected : String} (h : low ≤ n ∧ n < high) :
    decodeRange low high expected (.int n) = .ok n :=
  if_pos h

/-- An integer outside a range is refused. -/
theorem decodeRange_int_of_not {low high n : Int} {expected : String}
    (h : ¬(low ≤ n ∧ n < high)) :
    decodeRange low high expected (.int n) = .error (.invalidValue (.int n) expected) :=
  if_neg h

instance : LawfulWire UInt64 where
  decode_encode n := by
    have hrange : (0 : Int) ≤ n.toNat ∧ (n.toNat : Int) < UInt64.size := by
      have := n.toNat_lt_size
      omega
    show Json.decodeUInt64 (.nat n.toNat) = _
    rw [Json.decodeUInt64, Json.nat, decodeRange_int hrange, Except.map, Int.toNat_natCast,
      UInt64.ofNat_toNat]

/-! ### Ids -/

instance {entity : Entity} : LawfulWire (Id entity) where
  decode_encode id := by cases entity <;> rfl

/-! ### Lists -/

/-- Items are read back one by one, and no item is refused. -/
theorem decodeItems_map_encode [LawfulWire α] (xs : List α) :
    decodeItems decode (xs.map encode) = .ok xs := by
  induction xs with
  | nil => rfl
  | cons x rest ih =>
    show (do
      let x ← decode (encode x)
      let xs ← decodeItems decode (rest.map encode)
      return x :: xs) = _
    rw [decode_encode, ih]
    rfl

instance [LawfulWire α] : LawfulWire (List α) := ⟨decodeItems_map_encode⟩

/-! ### Fields -/

/-- A field reads back from the value that was written under its name. -/
theorem reads_required [LawfulWire α] {value? : String → Option Json} {name : String} {x : α}
    (h : value? name = some (encode x)) : (required name).Reads value? x :=
  Json.Fields.reads_field h (decode_encode x)

end Wire

end ChainProjection
