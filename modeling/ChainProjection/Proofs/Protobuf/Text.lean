import ChainProjection.Proofs.Protobuf.Message

/-!
# Texts read as messages

A text may happen to be a string of well-formed fields: `#$` is a group without fields, and two
blanks are an integer.  **What tells it apart from a message is the tags.**  A key is an integer,
and the last digit of an integer on the wire is its last byte as it stands, also where there are
more digits than needed.  So where no byte is a control character (`Printable`) no key is below 32,
and no tag is below four (`Printable.le_of_readKey`).

This is said of every key that the reader of a message comes to.  Whatever it has read, what it
leaves is an end of the bytes it was given, behind skipped groups as well, and so the next key is
one of the same text.  There is one such lemma, `suffix_of_`, for each reader; the two that skip
call each other and go down by the fuel, so theirs is proved for both at once (`suffix_of_skip`).

It follows that the fields of a text are all fields that nobody declared, if the tags of the schema
are small, and what is read of a text is the message without fields
(`Printable.eq_empty_of_decode`).
-/

namespace ChainProjection.Protobuf

variable {M : Type} {schema : Schema M} {m m' : M} {wireType : WireType}
  {bytesLeft count depth fuel n stop tag unit : Nat} {bytes content rest : List UInt8}

/-! ### What readers leave -/

/-- An integer leaves an end of the bytes. -/
theorem suffix_of_readVarintFrom (h : readVarintFrom unit bytesLeft bytes = .ok (n, rest)) :
    rest <:+ bytes := by
  induction bytesLeft generalizing unit bytes n with
  | zero => cases h
  | succ bytesLeft ih =>
    cases bytes with
    | nil => cases h
    | cons byte behind =>
      rw [readVarintFrom] at h
      split at h
      · split at h <;> cases h
        exact List.suffix_cons byte rest
      · obtain ⟨⟨n', after⟩, hmore, heq⟩ := map_eq_ok.mp h
        cases heq
        exact (ih hmore).trans (List.suffix_cons byte behind)

theorem suffix_of_readVarint (h : readVarint bytes = .ok (n, rest)) : rest <:+ bytes :=
  suffix_of_readVarintFrom h

/-- A key is an integer, and the tag is what is left of it without the wire type. -/
theorem exists_readVarint_of_readKey (h : readKey bytes = .ok ((tag, wireType), rest)) :
    ∃ key, readVarint bytes = .ok (key, rest) ∧ tag = key / 8 := by
  obtain ⟨⟨key, behind⟩, hread, h⟩ := bind_eq_ok.mp h
  dsimp only at h
  split at h
  · cases h
  · split at h
    · cases h
    · split at h <;> cases h
      exact ⟨key, hread, rfl⟩

theorem suffix_of_readKey (h : readKey bytes = .ok ((tag, wireType), rest)) : rest <:+ bytes := by
  obtain ⟨key, hread, -⟩ := exists_readVarint_of_readKey h
  exact suffix_of_readVarint hread

theorem suffix_of_dropBytes (h : dropBytes count bytes = .ok rest) : rest <:+ bytes := by
  rw [dropBytes] at h
  split at h <;> cases h
  exact List.drop_suffix count bytes

theorem suffix_of_readDelimited (h : readDelimited bytes = .ok (content, rest)) :
    rest <:+ bytes := by
  obtain ⟨⟨length, behind⟩, hread, h⟩ := bind_eq_ok.mp h
  dsimp only at h
  split at h <;> cases h
  exact (List.drop_suffix length behind).trans (suffix_of_readVarint hread)

/-- A skipped group leaves an end of the bytes, if what is skipped in it does. -/
theorem suffix_of_skipGroup
    (hskip : ∀ {depth tag wireType bytes rest},
      skipPayload fuel depth tag wireType bytes = .ok rest → rest <:+ bytes)
    (hgroup : ∀ {depth tag bytes rest}, skipGroup fuel depth tag bytes = .ok rest → rest <:+ bytes)
    (h : skipGroup (fuel + 1) depth tag bytes = .ok rest) : rest <:+ bytes := by
  rw [skipGroup] at h
  obtain ⟨⟨⟨innerTag, innerType⟩, behind⟩, hkey, h⟩ := bind_eq_ok.mp h
  have hbehind : behind <:+ bytes := suffix_of_readKey hkey
  dsimp only at h
  split at h
  · split at h <;> cases h
    exact hbehind
  · obtain ⟨after, hinner, h⟩ := bind_eq_ok.mp h
    exact ((hgroup h).trans (hskip hinner)).trans hbehind

/-- A skipped payload leaves an end of the bytes, and so does a skipped group. -/
theorem suffix_of_skip (fuel : Nat) :
    (∀ {depth tag wireType bytes rest},
      skipPayload fuel depth tag wireType bytes = .ok rest → rest <:+ bytes) ∧
    ∀ {depth tag bytes rest}, skipGroup fuel depth tag bytes = .ok rest → rest <:+ bytes := by
  induction fuel with
  | zero =>
    constructor
    · intro depth tag wireType bytes rest h
      rw [skipPayload] at h
      cases h
    · intro depth tag bytes rest h
      rw [skipGroup] at h
      cases h
  | succ fuel ih =>
    refine ⟨fun {depth tag wireType bytes rest} h ↦ ?_, suffix_of_skipGroup ih.1 ih.2⟩
    cases wireType <;> rw [skipPayload] at h <;> split at h
    case varint.isFalse =>
      obtain ⟨⟨n, behind⟩, hread, rfl⟩ := map_eq_ok.mp h
      exact suffix_of_readVarint hread
    case fixed32.isFalse => exact suffix_of_dropBytes h
    case fixed64.isFalse => exact suffix_of_dropBytes h
    case lengthDelimited.isFalse =>
      obtain ⟨⟨content, behind⟩, hread, rfl⟩ := map_eq_ok.mp h
      exact suffix_of_readDelimited hread
    case startGroup.isFalse => exact ih.2 h
    all_goals cases h

theorem suffix_of_skipPayload (h : skipPayload fuel depth tag wireType bytes = .ok rest) :
    rest <:+ bytes :=
  (suffix_of_skip fuel).1 h

/-! ### Keys in texts -/

/-- None of the bytes is a control character. -/
def Printable (bytes : List UInt8) : Prop :=
  ∀ byte ∈ bytes, 0x20 ≤ byte

instance (bytes : List UInt8) : Decidable (Printable bytes) :=
  inferInstanceAs (Decidable (∀ byte ∈ bytes, 0x20 ≤ byte))

theorem Printable.of_suffix (h : Printable bytes) (hrest : rest <:+ bytes) : Printable rest :=
  fun byte hbyte ↦ h byte (hrest.subset hbyte)

/-- An integer is at least as large as its last digit says, in whatever place that is. -/
theorem Printable.le_of_readVarintFrom (htext : Printable bytes)
    (h : readVarintFrom unit bytesLeft bytes = .ok (n, rest)) : 32 * unit ≤ n := by
  induction bytesLeft generalizing unit bytes n with
  | zero => cases h
  | succ bytesLeft ih =>
    cases bytes with
    | nil => cases h
    | cons byte behind =>
      have hbyte : 32 ≤ byte.toNat := UInt8.le_iff_toNat_le.mp (htext byte List.mem_cons_self)
      rw [readVarintFrom] at h
      split at h
      · split at h <;> cases h
        exact Nat.mul_le_mul_right unit hbyte
      · obtain ⟨⟨n', after⟩, hmore, heq⟩ := map_eq_ok.mp h
        cases heq
        have hrest : 32 * (unit * 128) ≤ n' :=
          ih (htext.of_suffix (List.suffix_cons byte behind)) hmore
        omega

/-- In a text no tag is below four. -/
theorem Printable.le_of_readKey (htext : Printable bytes)
    (h : readKey bytes = .ok ((tag, wireType), rest)) : 4 ≤ tag := by
  obtain ⟨key, hread, rfl⟩ := exists_readVarint_of_readKey h
  have hkey : 32 * 1 ≤ key := htext.le_of_readVarintFrom hread
  omega

/-! ### Messages in texts -/

section Messages

variable (hschema : ∀ tag ∈ schema.tags, tag < 4)
include hschema

/-- A field in a text is one nobody declared, and so it is skipped. -/
theorem Printable.eq_of_mergeField (htext : Printable bytes)
    (h : schema.mergeField depth m bytes = .ok (m', rest)) : m' = m ∧ Printable rest := by
  obtain ⟨⟨⟨tag, wireType⟩, behind⟩, hkey, h⟩ := bind_eq_ok.mp h
  have hread : readKey bytes = .ok ((tag, wireType), behind) := mapError_eq_ok.mp hkey
  have htag : 4 ≤ tag := htext.le_of_readKey hread
  have hundeclared : schema.field? tag = none :=
    Schema.field?_eq_none fun hmem ↦ Nat.not_lt.mpr htag (hschema tag hmem)
  simp only [hundeclared] at h
  obtain ⟨after, hskip, heq⟩ := bind_eq_ok.mp h
  cases heq
  exact ⟨rfl, htext.of_suffix
    ((suffix_of_skipPayload (mapError_eq_ok.mp hskip)).trans (suffix_of_readKey hread))⟩

/-- Reading the fields of a text changes nothing of the message. -/
theorem Printable.eq_of_mergeFields (htext : Printable bytes)
    (h : schema.mergeFields depth stop fuel m bytes = .ok (m', rest)) : m' = m := by
  induction fuel generalizing m bytes with
  | zero =>
    cases h
    rfl
  | succ fuel ih =>
    rw [Schema.mergeFields] at h
    split at h
    · cases h
      rfl
    · obtain ⟨⟨next, behind⟩, hfield, hmore⟩ := bind_eq_ok.mp h
      obtain ⟨rfl, hbehind⟩ := htext.eq_of_mergeField hschema hfield
      exact ih hbehind hmore

/-- A text that can be read as a message of small tags is one without fields. -/
theorem Printable.eq_empty_of_decode (htext : Printable bytes) (h : schema.decode bytes = .ok m) :
    m = schema.empty := by
  obtain ⟨⟨m', rest⟩, hmerge, rfl⟩ := map_eq_ok.mp h
  exact htext.eq_of_mergeFields hschema hmerge

end Messages

end ChainProjection.Protobuf
