import ChainProjection.Proofs.Readers
import ChainProjection.Protobuf.Wire

/-!
# Bytes that the readers accept

What integers (`Varint`), keys (`Key`), delimited bytes (`Delimited`) and payloads (`Payload`) look
like on the wire, said without the readers; and that **the readers take them for what they are,
whatever is behind them**, which is `Reads` for each.  An integer may have more digits than it
needs, so these are more bytes than the writers write; what the writers write is among them.

An integer has at most ten bytes, and the tenth holds one bit only.  The relation has the bytes that
are left as an index, as the reader does, and asks for the limit on the last digit where none are
left; the value the reader has so far is a multiple of the unit it is at, and this is what its
induction is over (`Varint.readVarintFrom_eq`).

A payload of a field nobody declared is skipped, and a group in it is skipped field by field
(`Payload.skipPayload_eq`).  Payloads are defined by recursion on the depth and groups by an
inductive over them, so the proof has an induction on the depth with one along the group inside.
The fuel is a bound on the length: a group spends two for each of its fields, which have a key each.
-/

namespace ChainProjection.Protobuf

variable {bytesLeft depth fuel n tag : Nat} {wireType : WireType} {bytes content : List UInt8}

/-! ### Integers -/

/-- The ways to write an integer in base 128, lowest digits first, in at most `bytesLeft` bytes.
Where ten were left, the tenth is zero or one. -/
inductive Varint : (bytesLeft n : Nat) → List UInt8 → Prop where
  | last {bytesLeft digit : Nat} (hdigit : digit < 128) (hlast : bytesLeft = 0 → digit ≤ 1) :
    Varint (bytesLeft + 1) digit [UInt8.ofNat digit]
  | more {bytesLeft digit n : Nat} {rest : List UInt8} (hdigit : digit < 128)
    (hrest : Varint bytesLeft n rest) :
    Varint (bytesLeft + 1) (digit + 128 * n) (UInt8.ofNat (digit + 128) :: rest)

namespace Varint

theorem length_pos (h : Varint bytesLeft n bytes) : 0 < bytes.length := by
  cases h with
  | last => exact Nat.zero_lt_one
  | more => exact Nat.zero_lt_succ _

/-- From any place on, an integer is read as its value in units of the place. -/
theorem readVarintFrom_eq (h : Varint bytesLeft n bytes) (unit : Nat) (rest : List UInt8) :
    readVarintFrom unit bytesLeft (bytes ++ rest) = .ok (n * unit, rest) := by
  induction h generalizing unit with
  | @last bytesLeft digit hdigit hlast =>
    have hbyte : (UInt8.ofNat digit).toNat = digit :=
      UInt8.toNat_ofNat_of_lt' (Nat.lt_trans hdigit (by decide))
    rw [List.singleton_append, readVarintFrom, hbyte, if_pos hdigit, if_neg]
    exact fun h ↦ Nat.not_lt.mpr (hlast h.1) h.2
  | @more bytesLeft digit n bytes hdigit _ ih =>
    have hbyte : (UInt8.ofNat (digit + 128)).toNat = digit + 128 :=
      UInt8.toNat_ofNat_of_lt' (Nat.add_lt_add_right hdigit 128)
    rw [List.cons_append, readVarintFrom, hbyte, if_neg (by omega), ih, Nat.add_sub_cancel,
      Nat.add_mul, Nat.mul_comm 128 n, Nat.mul_assoc, Nat.mul_comm 128 unit]
    rfl

theorem reads (h : Varint 10 n bytes) : Reads readVarint bytes n := by
  intro rest
  rw [readVarint, h.readVarintFrom_eq, Nat.mul_one]

end Varint

/-- What is written of a number that fits into the bytes is an integer of this value. -/
theorem varint_writeVarintTo (h : n < 2 * Nat.pow 128 bytesLeft) :
    Varint (bytesLeft + 1) n (writeVarintTo n bytesLeft) := by
  induction bytesLeft generalizing n with
  | zero =>
    have hn : n < 2 := h
    rw [writeVarintTo, Nat.mod_eq_of_lt (by omega)]
    exact .last (by omega) fun _ ↦ by omega
  | succ bytesLeft ih =>
    rw [writeVarintTo]
    split
    · next hn => exact .last hn nofun
    · have hrest : n / 128 < 2 * Nat.pow 128 bytesLeft := by
        rw [Nat.div_lt_iff_lt_mul (by decide), Nat.mul_assoc]
        exact h
      have hmore := Varint.more (Nat.mod_lt n (by decide)) (ih hrest)
      rwa [Nat.mod_add_div] at hmore

/-- What is written of a number of 64 bits is an integer of this value. -/
theorem varint_writeVarint (n : UInt64) : Varint 10 n.toNat (writeVarint n) :=
  varint_writeVarintTo n.toNat_lt

/-- What is written of a natural number below the limit is an integer of this value. -/
theorem varint_writeVarint_ofNat (h : n < UInt64.size) :
    Varint 10 n (writeVarint (UInt64.ofNat n)) := by
  have hvarint := varint_writeVarint (UInt64.ofNat n)
  rwa [UInt64.toNat_ofNat_of_lt' h] at hvarint

/-! ### Keys -/

/-- The tags that there is room for in a key. -/
def ValidTag (tag : Nat) : Prop :=
  tag ≠ 0 ∧ tag * 8 < UInt32.size
  deriving Decidable

/-- The ways to write a key. -/
structure Key (tag : Nat) (wireType : WireType) (bytes : List UInt8) : Prop where
  valid : ValidTag tag
  varint : Varint 10 (tag * 8 + wireType.code) bytes

theorem WireType.code_lt (wireType : WireType) : wireType.code < 8 := by
  cases wireType <;> decide

@[simp]
theorem WireType.ofCode?_code (wireType : WireType) : ofCode? wireType.code = some wireType := by
  cases wireType <;> rfl

theorem Key.reads (h : Key tag wireType bytes) : Reads readKey bytes (tag, wireType) := by
  intro rest
  obtain ⟨⟨htag, hlimit⟩, hvarint⟩ := h
  have hcode := wireType.code_lt
  have hsize : UInt32.size = 8 * 536870912 := rfl
  rw [readKey, hvarint.reads]
  simp only [bind, Except.bind, show ¬UInt32.size ≤ tag * 8 + wireType.code by omega, if_false,
    show (tag * 8 + wireType.code) % 8 = wireType.code by omega, WireType.ofCode?_code,
    show (tag * 8 + wireType.code) / 8 = tag by omega, htag]
  rfl

/-- What is written for a tag that there is room for is a key. -/
theorem key_writeKey (h : ValidTag tag) : Key tag wireType (writeKey tag wireType) where
  valid := h
  varint := by
    have hlimit := h.2
    have hcode := wireType.code_lt
    have hsize : UInt32.size + 8 < UInt64.size := by decide
    exact varint_writeVarint_ofNat (by omega)

/-! ### Payloads -/

/-- The ways to write bytes behind their length. -/
inductive Delimited (content : List UInt8) : List UInt8 → Prop where
  | intro {length : List UInt8} (hlength : Varint 10 content.length length) :
    Delimited content (length ++ content)

theorem Delimited.reads (h : Delimited content bytes) : Reads readDelimited bytes content := by
  intro rest
  obtain ⟨hlength⟩ := h
  rw [List.append_assoc, readDelimited, hlength.reads]
  simp [bind, Except.bind, pure, Except.pure]

/-- What is written of bytes whose length fits is the bytes behind their length. -/
theorem delimited_writeDelimited (h : content.length < UInt64.size) :
    Delimited content (writeDelimited content) :=
  .intro (varint_writeVarint_ofNat h)

/-- The fields of a group with the key that ends it, by what payloads they may have. -/
inductive Group (payload : Nat → WireType → List UInt8 → Prop) (tag : Nat) : List UInt8 → Prop where
  | close {key : List UInt8} (hkey : Key tag .endGroup key) : Group payload tag key
  | field {inner : Nat} {wireType : WireType} {key content rest : List UInt8}
    (hkey : Key inner wireType key) (hcontent : payload inner wireType content)
    (hrest : Group payload tag rest) : Group payload tag (key ++ content ++ rest)

/-- The payloads of a tag and a wire type; `depth` bounds how deep groups are nested. -/
def Payload : (depth tag : Nat) → WireType → List UInt8 → Prop
  | 0, _, _, _ => False
  | _ + 1, _, .varint, bytes => ∃ n, Varint 10 n bytes
  | _ + 1, _, .fixed32, bytes => bytes.length = 4
  | _ + 1, _, .fixed64, bytes => bytes.length = 8
  | _ + 1, _, .lengthDelimited, bytes => ∃ content, Delimited content bytes
  | depth + 1, tag, .startGroup, bytes => Group (Payload depth) tag bytes
  | _ + 1, _, .endGroup, _ => False

theorem dropBytes_append (bytes rest : List UInt8) :
    dropBytes bytes.length (bytes ++ rest) = .ok rest := by
  simp [dropBytes]

/-- Groups are skipped where the payloads in them are. -/
theorem Group.skipGroup_eq (h : Group (Payload depth) tag bytes)
    (hskip : ∀ {fuel tag wireType bytes}, Payload depth tag wireType bytes →
      2 * bytes.length < fuel → ∀ rest, skipPayload fuel depth tag wireType (bytes ++ rest) =
        .ok rest)
    (hfuel : 2 * bytes.length ≤ fuel) (rest : List UInt8) :
    skipGroup fuel (depth + 1) tag (bytes ++ rest) = .ok rest := by
  induction h generalizing fuel with
  | close hkey =>
    have hpos := hkey.varint.length_pos
    obtain ⟨fuel, rfl⟩ : ∃ fuel', fuel = fuel' + 1 := ⟨fuel - 1, by omega⟩
    rw [skipGroup, hkey.reads]
    simp [bind, Except.bind, pure, Except.pure]
  | @field inner wireType key content bytes hkey hcontent _ ih =>
    have hpos := hkey.varint.length_pos
    rw [List.length_append, List.length_append] at hfuel
    obtain ⟨fuel, rfl⟩ : ∃ fuel', fuel = fuel' + 1 := ⟨fuel - 1, by omega⟩
    -- A key that ends a group has no payload, so it is none of the fields.
    have hopen : wireType ≠ .endGroup := by
      rintro rfl
      cases depth <;> exact hcontent
    rw [List.append_assoc, List.append_assoc, skipGroup, hkey.reads]
    simp only [bind, Except.bind, hopen, if_false, Nat.add_sub_cancel,
      hskip hcontent (show 2 * content.length < fuel by omega)]
    exact ih (by omega)

/-- The payload of a field nobody declared is skipped, with nothing behind it touched. -/
theorem Payload.skipPayload_eq (h : Payload depth tag wireType bytes)
    (hfuel : 2 * bytes.length < fuel) (rest : List UInt8) :
    skipPayload fuel depth tag wireType (bytes ++ rest) = .ok rest := by
  induction depth generalizing fuel tag wireType bytes rest with
  | zero => exact h.elim
  | succ depth ih =>
    obtain ⟨fuel, rfl⟩ : ∃ fuel', fuel = fuel' + 1 := ⟨fuel - 1, by omega⟩
    cases wireType <;> rw [skipPayload, if_neg (Nat.succ_ne_zero depth)]
    case varint =>
      obtain ⟨n, hn⟩ := h
      exact congrArg (Except.map Prod.snd) (hn.reads rest)
    case fixed32 =>
      rw [Payload] at h
      exact h ▸ dropBytes_append bytes rest
    case fixed64 =>
      rw [Payload] at h
      exact h ▸ dropBytes_append bytes rest
    case lengthDelimited =>
      obtain ⟨content, hcontent⟩ := h
      exact congrArg (Except.map Prod.snd) (hcontent.reads rest)
    case startGroup => exact Group.skipGroup_eq h ih (by omega) rest
    case endGroup => exact h.elim

end ChainProjection.Protobuf
