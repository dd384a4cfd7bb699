import ChainProjection.Proofs.Wire.Event
import ChainProjection.Wire.Asset
import ChainProjection.Wire.Status

/-!
# The wire vocabulary reads back

Readers are more generous than writers, so a value can come in several forms: an id as a number, a
record as an array, hexadecimal text in any spelling.  **What is written of a value is one of the
forms it is read from, for each type of the vocabulary; so to read and write settles on that form at
once** (`lossless_vocabulary`).

A type is `Lossless` for the values that fit.  Two facts make it so (`lossless_of_fits`): what is
written of such a value reads back, and whatever is read is such a value.  For most types everything
fits, and the first fact is an instance of `LawfulWire`, put together from the fields of the type.
The particulars of a vote are the only values that have more room here than on the wire, as the row
number in them is an integer without bounds; what is read is always in the bounds
(`fits_of_decode`).

All of this is about JSON values.  A value is stored and sent as a text, and the text of a value
need not read as the value: a floating point number in it may come back as a neighbour.  The
vocabulary itself writes none, and reads back from its text too; this is the matter of
`ChainProjection.Proofs.Wire.Text`.
-/

namespace ChainProjection

/-! ### Byte strings -/

namespace Hex

theorem digitValue?_digit {n : Nat} (h : n < 16) :
    digitValue? (UInt8.ofNat (digit n).toNat).toNat = some n := by
  decide +revert

theorem digit_ne_x {n : Nat} (h : n < 16) : digit n ≠ 'x' := by
  decide +revert

/-- The digits of a byte are its two halves. -/
theorem encode_cons (b : UInt8) (bytes : List UInt8) :
    encode (b :: bytes) = digit (b.toNat / 16) :: digit (b.toNat % 16) :: encode bytes := rfl

theorem high_lt (b : UInt8) : b.toNat / 16 < 16 := by
  have := b.toNat_lt
  omega

theorem low_lt (b : UInt8) : b.toNat % 16 < 16 := Nat.mod_lt _ (by decide)

/-- Digits are in the ASCII range, so each is one byte of text. -/
theorem utf8_encode (bytes : List UInt8) :
    Utf8.encode (String.ofList (encode bytes)) =
      (encode bytes).map fun c ↦ UInt8.ofNat c.toNat := by
  rw [Utf8.encode, String.toList_ofList]
  have hdigit {n : Nat} (h : n < 16) :
      String.utf8EncodeChar (digit n) = [UInt8.ofNat (digit n).toNat] := by
    decide +revert
  induction bytes with
  | nil => rfl
  | cons b rest ih =>
    rw [encode_cons, List.flatMap_cons, List.flatMap_cons, ih, hdigit (high_lt b),
      hdigit (low_lt b)]
    rfl

/-- Digits that were written of bytes are read in pairs as the bytes. -/
theorem decodePairs_encode (position : Nat) (bytes : List UInt8) :
    decodePairs position ((encode bytes).map fun c ↦ UInt8.ofNat c.toNat) = .ok bytes := by
  induction bytes generalizing position with
  | nil => rfl
  | cons b rest ih =>
    have hbyte : UInt8.ofNat (b.toNat / 16 * 16 + b.toNat % 16) = b := by
      rw [Nat.div_add_mod', UInt8.ofNat_toNat]
    rw [encode_cons, List.map_cons, List.map_cons, decodePairs, digitValue?_digit (high_lt b),
      digitValue?_digit (low_lt b), ih]
    simp only [hbyte, Except.map]

theorem length_encode (bytes : List UInt8) : (encode bytes).length = 2 * bytes.length := by
  induction bytes with
  | nil => rfl
  | cons b rest ih =>
    rw [encode_cons, List.length_cons, List.length_cons, ih, List.length_cons]
    omega

theorem decode_encode (bytes : List UInt8) :
    decode (Utf8.encode (String.ofList (encode bytes))) = .ok bytes := by
  rw [utf8_encode, decode, List.length_map, length_encode, if_neg (by omega), decodePairs_encode]

end Hex

namespace Bytes

/-- Behind the marker there is no second one: its letter is no digit. -/
theorem dropMarkers_encode (bytes : List UInt8) :
    dropMarkers ('0' :: 'x' :: Hex.encode bytes) = Hex.encode bytes := by
  rw [dropMarkers]
  cases bytes with
  | nil => rfl
  | cons b rest =>
    rw [Hex.encode_cons, dropMarkers]
    rintro digits heq
    exact Hex.digit_ne_x (Hex.low_lt b) (List.cons.inj (List.cons.inj heq).2).1

/-- Bytes read back from their spelling. -/
theorem ofHex_toHex (bytes : Bytes) : ofHex bytes.toHex = .ok bytes := by
  rw [ofHex, toHex, String.toList_ofList, dropMarkers_encode, Hex.decode_encode]
  rfl

end Bytes

namespace Wire

open Json.Fields (gives_any gives_pure gives_required)
open Json (Fields Payload ofVariant variants tagged tagged_withTag decodeRange)

variable {α β : Type} {value : Json}

/-! ### Plain values -/

instance : LawfulWire Json := ⟨fun _ ↦ rfl⟩

instance : LawfulWire UInt32 where
  decode_encode n := by
    have hrange : (0 : Int) ≤ n.toNat ∧ (n.toNat : Int) < UInt32.size := by
      have := n.toNat_lt_size
      omega
    show Json.decodeUInt32 (.nat n.toNat) = _
    rw [Json.decodeUInt32, Json.nat, decodeRange_int hrange, Except.map, Int.toNat_natCast,
      UInt32.ofNat_toNat]

instance : LawfulWire Int64 where
  decode_encode n := by
    have hrange : -(signedLimit : Int) ≤ n.toInt ∧ n.toInt < signedLimit := by
      have hlow := n.le_toInt
      have hhigh := n.toInt_lt
      rw [signedLimit]
      omega
    show Json.decodeInt64 (.int n.toInt) = _
    rw [Json.decodeInt64, decodeRange_int hrange, Except.map, Int64.ofInt_toInt]

/-- Bytes are read from a text in any spelling. -/
theorem decode_bytes (text : String) :
    (decode (.string text) : Except _ Bytes) = (Bytes.ofHex text).mapError .invalidHex := by
  show ((Json.decodeString (.string text)).bind fun text ↦ _) = _
  rw [Json.decodeString]
  rfl

instance : LawfulWire Bytes where
  decode_encode bytes := by
    have hencode : encode bytes = .string bytes.toHex := rfl
    rw [hencode, decode_bytes, Bytes.ofHex_toHex]
    rfl

/-! ### What may be missing -/

/-- Nothing is written as `null`, so what is there must not be. -/
theorem decode_encode_option [Wire α] [LawfulWire α] (hnull : ∀ x : α, encode x ≠ .null) :
    ∀ x : Option α, decode (encode x) = .ok x
  | none => rfl
  | some x => by
    show Json.decodeOption decode (encode x) = _
    rw [Json.decodeOption, decode_encode]
    · rfl
    · exact hnull x

instance : LawfulWire (Option String) := ⟨decode_encode_option fun _ ↦ Json.noConfusion⟩

instance : LawfulWire (Option UInt64) := ⟨decode_encode_option fun _ ↦ Json.noConfusion⟩

instance {entity : Entity} : LawfulWire (Option (Id entity)) :=
  ⟨decode_encode_option fun _ ↦ Json.noConfusion⟩

section Fields

variable [Wire α] {value? : String → Option Json} {name : String}

/-- A field that may be null reads back from what was written under its name. -/
theorem reads_nullable [LawfulWire (Option α)] {x : Option α}
    (h : value? name = some (encode x)) : (nullable name).Reads value? x :=
  Json.Fields.reads_field h (LawfulWire.decode_encode x)

/-- A field takes the item that was written of it. -/
theorem readsItems_required [LawfulWire α] (name : String) (x : α) (rest : List Json) :
    (required name).ReadsItems (encode x :: rest) x rest := by
  intro shortage position
  show (decode (encode x)).map (·, rest) = _
  rw [decode_encode]
  rfl

/-- A field with a default reads back from what was written under its name. -/
theorem reads_withDefault [LawfulWire α] {standard x : α} (h : value? name = some (encode x)) :
    (withDefault name standard).Reads value? x :=
  Json.Fields.reads_field h (decode_encode x)

end Fields

/-! ### Unions with the name outside -/

section Variants

variable {union name : String} {table : List (String × Payload α)}

/-- A variant that is named outside is read as its payload. -/
theorem variants_ofVariant {payload : Payload α} (h : table.lookup name = some payload) :
    variants union table (ofVariant name value) =
      payload.decode (union ++ "::" ++ name) value := by
  rw [ofVariant, variants, Json.variant?, h]
  rfl

/-- A variant without a payload reads back from its name. -/
theorem variants_unit {x : α} (h : table.lookup name = some (.unit x)) :
    variants union table (.string name) = .ok x := by
  rw [variants, Json.variant?, h]
  rfl

/-- A variant of one value reads back from its name and what is written of the value. -/
theorem variants_value [Wire β] [LawfulWire β] {make : β → α} {x : β}
    (h : table.lookup name = some (.value fun value ↦ (decode value).map make)) :
    variants union table (ofVariant name (encode x)) = .ok (make x) := by
  rw [variants_ofVariant h, Payload.decode, decode_encode]
  rfl

/-- A variant of two values reads back from its name and what is written of them in order. -/
theorem variants_pair {γ : Type} [Wire β] [LawfulWire β] [Wire γ] [LawfulWire γ]
    {make : β → γ → α} {first second : String} {x : β} {y : γ}
    (h : table.lookup name = some (.tuple (make <$> required first <*> required second))) :
    variants union table (ofVariant name (.array [encode x, encode y])) = .ok (make x y) := by
  have hfirst : (make <$> required first).ReadsItems [encode x, encode y] (make x) [encode y] :=
    (Fields.readsItems_pure make).seq (readsItems_required first x _)
  have hitems := hfirst.seq (readsItems_required second y [])
  rw [variants_ofVariant h]
  exact hitems.ofArray

/-- A variant of named fields reads back from its name and the object made of them. -/
theorem variants_record {fields : Json.Fields α} {members : List (String × Json)} {x : α}
    (h : table.lookup name = some (.record fields)) (hnodup : (members.map Prod.fst).Nodup)
    (hreads : fields.Reads (Json.member? · members) x) :
    variants union table (ofVariant name (Json.ofMembers members)) = .ok x := by
  obtain ⟨sorted, heq, hperm⟩ := Json.ofMembers_eq_object hnodup
  rw [variants_ofVariant h, heq]
  exact hreads.ofObject hnodup hperm

end Variants

instance : LawfulWire PrivilegedActor where
  decode_encode
    | .lead => variants_unit rfl
    | .moderator _ => variants_value rfl

instance : LawfulWire ContentActor where
  decode_encode
    | .lead => variants_unit rfl
    | .curator _ _ => variants_pair rfl
    | .member _ => variants_value rfl

instance : LawfulWire ChannelOwner where
  decode_encode
    | .member _ => variants_value rfl
    | .curatorGroup _ => variants_value rfl

instance : LawfulWire LiaisonJudgement where
  decode_encode
    | .pending => variants_unit rfl
    | .accepted => variants_unit rfl

instance : LawfulWire AssetAvailability where
  decode_encode
    | .pending => variants_unit rfl
    | .accepted => variants_unit rfl

instance : LawfulWire DataObjectOwner where
  decode_encode
    | .member _ => variants_value rfl
    | .channel _ => variants_value rfl
    | .curatorGroup _ => variants_value rfl

instance : LawfulWire ContentParameters where
  decode_encode _ := Json.Fields.struct_ofMembers (by simp) <|
    ((((reads_required rfl).map _).seq (reads_required rfl)).seq (reads_required rfl)).seq
      (reads_required rfl)

instance : LawfulWire RawAsset where
  decode_encode
    | .urls _ => variants_value rfl
    | .upload _ => variants_value rfl

instance : LawfulWire AssetRef where
  decode_encode
    | .urls _ => variants_value rfl
    | .dataObject _ _ => variants_record rfl (by simp) <|
      ((reads_required rfl).map _).seq (reads_required rfl)

/-! ### Unions with the name inside -/

instance : LawfulWire CategoryStatus where
  decode_encode
    | .active => tagged_withTag rfl (by simp) (Json.Fields.reads_pure _)
    | .archived _ | .removed _ => tagged_withTag rfl (by simp) ((reads_required rfl).map _)

instance : LawfulWire ThreadStatus where
  decode_encode
    | .active => tagged_withTag rfl (by simp) (Json.Fields.reads_pure _)
    | .locked _ | .moderated _ | .removed _ =>
      tagged_withTag rfl (by simp) ((reads_required rfl).map _)

instance : LawfulWire PostStatus where
  decode_encode
    | .active => tagged_withTag rfl (by simp) (Json.Fields.reads_pure _)
    | .locked _ => tagged_withTag rfl (by simp) ((reads_nullable rfl).map _)
    | .moderated _ | .removed _ => tagged_withTag rfl (by simp) ((reads_required rfl).map _)

instance : LawfulWire PostOrigin where
  decode_encode
    | .threadInitial _ | .threadReply _ =>
      tagged_withTag rfl (by simp) ((reads_required rfl).map _)

/-! ### Blocks and states -/

instance : LawfulWire RuntimeEvent where
  decode_encode _ := Json.Fields.struct_ofMembers (by simp) <|
    ((((reads_required rfl).map _).seq (reads_required rfl)).seq (reads_withDefault rfl)).seq
      (reads_withDefault rfl)

instance : LawfulWire Block where
  decode_encode _ := Json.Fields.struct_ofMembers (by simp) <|
    (((reads_required rfl).map _).seq (reads_required rfl)).seq (reads_withDefault rfl)

instance : LawfulWire SyncState where
  decode_encode _ := Json.Fields.struct_ofMembers (by simp) <|
    ((reads_nullable rfl).map _).seq (reads_required rfl)

/-! ### Records -/

/-- Particulars that were read fit, in whatever form they came. -/
theorem fits_of_decode {data : EventData} (h : decode value = .ok data) : data.Fits := by
  have hrow (value : Json) (row : Int) (h : decode value = .ok row) :
      -signedLimit ≤ row ∧ row < signedLimit := by
    cases value with
    | int n =>
      by_cases hrange : -signedLimit ≤ n ∧ n < signedLimit
      · cases (decodeRange_int hrange).symm.trans h
        exact hrange
      · cases (decodeRange_int_of_not hrange).symm.trans h
    | _ => cases h
  refine Json.of_tagged_eq_ok ?_ h
  simp only [List.forall_mem_cons]
  -- The row number of a vote has been looked at; the other variants fit whatever they hold.
  and_intros
  all_goals first
    | exact fun _ hmem ↦ absurd hmem List.not_mem_nil
    | exact ((gives_pure fun _ hfits _ _ ↦ hfits).seq (gives_required hrow)).seq (gives_any _)
    | exact (gives_pure fun _ _ ↦ trivial).seq (gives_any _)
    | exact ((gives_pure fun _ _ _ _ ↦ trivial).seq (gives_any _)).seq (gives_any _)
    | exact (((gives_pure fun _ _ _ _ _ _ ↦ trivial).seq (gives_any _)).seq (gives_any _)).seq
        (gives_any _)
    | exact ((((gives_pure fun _ _ _ _ _ _ _ _ ↦ trivial).seq (gives_any _)).seq
        (gives_any _)).seq (gives_any _)).seq (gives_any _)

theorem fits_of_decode_eventRecord {record : EventRecord} (h : decode value = .ok record) :
    record.data.Fits := by
  refine Json.Fields.Gives.of_struct_eq_ok (p := (·.data.Fits)) ?_ h
  refine Json.Fields.Gives.seq ?_ (gives_required fun _ _ ↦ fits_of_decode)
  exact ((((((gives_pure fun _ _ _ _ _ _ _ _ _ _ _ _ _ hfits ↦ hfits).seq (gives_any _)).seq
    (gives_any _)).seq (gives_any _)).seq (gives_any _)).seq (gives_any _)).seq (gives_any _)

/-- A record whose particulars fit reads back. -/
theorem decode_encode_eventRecord {record : EventRecord} (h : record.data.Fits) :
    decode (encode record) = .ok record :=
  Json.Fields.struct_ofMembers (by simp) <|
    ((((((((reads_required rfl).map _).seq (reads_required rfl)).seq (reads_required rfl)).seq
      (reads_required rfl)).seq (reads_nullable rfl)).seq (reads_required rfl)).seq
        (Json.Fields.reads_field rfl (decode_encode_eventData h)))

/-! ### The whole vocabulary -/

/-- Reads a value and writes it again. -/
def rewrite (α : Type) [Wire α] (value : Json) : Except Json.DecodeError Json :=
  (decode value : Except _ α).map encode

/-- Every value that fits reads back from what is written of it, only such values are read, and what
was rewritten once stays as it is. -/
structure Lossless (α : Type) [Wire α] (fits : α → Prop) : Prop where
  decode_encode : ∀ x : α, fits x → decode (encode x) = .ok x
  fits_of_decode : ∀ (value : Json) (x : α), decode value = .ok x → fits x
  rewrite_rewrite : ∀ value written, rewrite α value = .ok written → rewrite α written = .ok written

/-- A type is lossless if what fits reads back, and what is read fits. -/
theorem lossless_of_fits [Wire α] {fits : α → Prop}
    (hencode : ∀ x : α, fits x → decode (encode x) = .ok x)
    (hdecode : ∀ (value : Json) (x : α), decode value = .ok x → fits x) : Lossless α fits where
  decode_encode := hencode
  fits_of_decode := hdecode
  rewrite_rewrite value written h := by
    rcases hvalue : (decode value : Except _ α) with error | x
    · rw [rewrite, hvalue] at h
      cases h
    · rw [rewrite, hvalue] at h
      cases h
      rw [rewrite, hencode x (hdecode value x hvalue)]
      rfl

/-- A lawful type is lossless, and everything fits. -/
theorem lossless [Wire α] [LawfulWire α] : Lossless α fun _ ↦ True :=
  lossless_of_fits (fun x _ ↦ LawfulWire.decode_encode x) fun _ _ _ ↦ trivial

/-- Each type of the vocabulary reads back from its JSON form, and rewriting settles at once. -/
theorem lossless_vocabulary :
    (∀ entity, Lossless (Id entity) fun _ ↦ True) ∧
    Lossless Bytes (fun _ ↦ True) ∧
    Lossless PrivilegedActor (fun _ ↦ True) ∧
    Lossless ContentActor (fun _ ↦ True) ∧
    Lossless ChannelOwner (fun _ ↦ True) ∧
    Lossless ContentParameters (fun _ ↦ True) ∧
    Lossless RawAsset (fun _ ↦ True) ∧
    Lossless LiaisonJudgement (fun _ ↦ True) ∧
    Lossless AssetAvailability (fun _ ↦ True) ∧
    Lossless DataObjectOwner (fun _ ↦ True) ∧
    Lossless AssetRef (fun _ ↦ True) ∧
    Lossless CategoryStatus (fun _ ↦ True) ∧
    Lossless ThreadStatus (fun _ ↦ True) ∧
    Lossless PostStatus (fun _ ↦ True) ∧
    Lossless PostOrigin (fun _ ↦ True) ∧
    Lossless EventData EventData.Fits ∧
    Lossless EventRecord (·.data.Fits) ∧
    Lossless RuntimeEvent (fun _ ↦ True) ∧
    Lossless Block (fun _ ↦ True) ∧
    Lossless SyncState (fun _ ↦ True) :=
  ⟨fun _ ↦ lossless, lossless, lossless, lossless, lossless, lossless, lossless, lossless, lossless,
    lossless, lossless, lossless, lossless, lossless, lossless,
    lossless_of_fits (fun _ ↦ decode_encode_eventData) fun _ _ ↦ fits_of_decode,
    lossless_of_fits (fun _ ↦ decode_encode_eventRecord) fun _ _ ↦ fits_of_decode_eventRecord,
    lossless, lossless, lossless⟩

end Wire

end ChainProjection
