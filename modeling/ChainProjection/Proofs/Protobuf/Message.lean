import ChainProjection.Proofs.Protobuf.Wire
import ChainProjection.Proofs.Text.Utf8
import ChainProjection.Protobuf.Message
import Mathlib.Data.List.Forall2

/-!
# Reading messages back

A message on the wire is a string of pieces, one for each field that is present, in any order and
with fields nobody declared anywhere between them.  What these bytes are (`Encodes`) is said by what
the message holds under its tags, without the message type that reads and writes it.

**Reading such a string gives the message back**: the pieces bring one field each, and none of them
touches what another has brought.  The message that has been read so far is the whole message
without the fields whose pieces are still to come.  So what this needs of a message type is a way to
leave fields out of a message (`Schema.LeavesOut`), and of each of its fields that bringing it
undoes leaving it out (`Field.Takes`).  The induction is along the string, `Strung.mergeFields_eq`,
and the order of the fields never comes up in it: it is only asked that no tag comes twice.

Nested messages are read by the same loop up to a stop, so what is shown of the loop
(`Schema.Restores`) has a rest behind the bytes, and a field of messages has the law of the inner
type as its premise (`Field.Takes.message`).  All other kinds of fields are cases of one,
`Field.Takes.scalar`, with a reader and a writer.

A field that comes twice is not covered, and should not be: the second piece replaces a scalar and
is merged into a message.  That a field is absent beforehand is what `without` gives the induction.
-/

namespace ChainProjection.Protobuf

/-! ### Messages on the wire -/

/-- What a message holds under a tag. -/
inductive Content where
  | uint64 (n : UInt64)
  | uint32 (n : UInt32)
  | bool (b : Bool)
  | text (s : String)
  /-- A message, by the bytes it may be written as at each depth. -/
  | message (encodes : (depth : Nat) → List UInt8 → Prop)

/-- What a message holds under each of its tags. -/
abbrev Contents : Type :=
  List (Nat × Option Content)

namespace Content

/-- How the payload of a content is laid out. -/
def wireType : Content → WireType
  | uint64 _ | uint32 _ | bool _ => .varint
  | text _ | message _ => .lengthDelimited

/-- The payloads that carry a content.  Those of a message are one level deeper. -/
def Carried : Content → (depth : Nat) → List UInt8 → Prop
  | uint64 n, _, payload => Varint 10 n.toNat payload
  | uint32 n, _, payload => Varint 10 n.toNat payload
  | bool b, _, payload => Varint 10 b.toNat payload
  | text s, _, payload => Delimited (Utf8.encode s) payload
  | message _, 0, _ => False
  | message encodes, depth + 1, payload => ∃ bytes, encodes depth bytes ∧ Delimited bytes payload

end Content

/-- What is written under a tag: nothing, or a key and a payload. -/
inductive Piece (depth tag : Nat) : Option Content → List UInt8 → Prop where
  | absent : Piece depth tag none []
  | present {content : Content} {key payload : List UInt8} (hkey : Key tag content.wireType key)
    (hpayload : content.Carried depth payload) : Piece depth tag (some content) (key ++ payload)

/-- A field with none of the tags, with groups in it no deeper than `depth` allows. -/
inductive Undeclared (tags : List Nat) (depth : Nat) : List UInt8 → Prop where
  | intro {tag : Nat} {wireType : WireType} {key payload : List UInt8} (htag : tag ∉ tags)
    (hkey : Key tag wireType key) (hpayload : Payload depth tag wireType payload) :
    Undeclared tags depth (key ++ payload)

/-- The pieces of contents in their order, with fields that have none of the tags before, between
and behind them. -/
inductive Strung (tags : List Nat) (depth : Nat) : Contents → List UInt8 → Prop where
  | nil : Strung tags depth [] []
  | declared {tag : Nat} {content : Option Content} {contents : Contents} {bytes rest : List UInt8}
    (hpiece : Piece depth tag content bytes) (hrest : Strung tags depth contents rest) :
    Strung tags depth ((tag, content) :: contents) (bytes ++ rest)
  | undeclared {contents : Contents} {bytes rest : List UInt8}
    (hfield : Undeclared tags depth bytes) (hrest : Strung tags depth contents rest) :
    Strung tags depth contents (bytes ++ rest)

/-- The bytes that a message with these contents may be written as: its pieces in any order, with
fields nobody declared among them. -/
def Encodes (contents : Contents) (depth : Nat) (bytes : List UInt8) : Prop :=
  ∃ ordered : Contents, ordered.Perm contents ∧
    Strung (contents.map Prod.fst) depth ordered bytes

/-! ### Message types -/

variable {M N α : Type} {schema : Schema M} {inner : Schema N} {field : Field M}
  {without : List Nat → M → M} {m m' : M} {depth fuel tag : Nat} {name : String}
  {wireType : WireType} {key payload bytes : List UInt8}

namespace Schema

/-- The tags of the declared fields. -/
def tags (schema : Schema M) : List Nat :=
  schema.fields.map (·.tag)

/-- Leaving fields out of the messages of a type, by their tags. -/
structure LeavesOut (schema : Schema M) (without : List Nat → M → M) : Prop where
  nodup : schema.tags.Nodup
  valid {tag : Nat} (htag : tag ∈ schema.tags) : ValidTag tag
  without_nil (m : M) : without [] m = m
  without_all (m : M) {tags : List Nat} (htags : ∀ tag, tag ∈ tags ↔ tag ∈ schema.tags) :
    without tags m = schema.empty

end Schema

/-- A field takes what the message holds under its tag: to the message without the field, a payload
brings the field.  And it is written as that. -/
structure Field.Takes (without : List Nat → M → M) (depth : Nat) (m : M) (field : Field M)
    (content : Nat × Option Content) : Prop where
  tag_eq : content.1 = field.tag
  absent {tags : List Nat} (hcontent : content.2 = none) (htag : field.tag ∉ tags) :
    without tags m = without (field.tag :: tags) m
  present {x : Content} {payload : List UInt8} {tags : List Nat} (hcontent : content.2 = some x)
    (hpayload : x.Carried depth payload) (htag : field.tag ∉ tags) :
    Reads (field.merge depth (without (field.tag :: tags) m) x.wireType) payload (without tags m)
  write (hvalid : ValidTag field.tag) (hsize : (field.write m).length < UInt64.size) :
    Piece depth field.tag content.2 (field.write m)

/-- The bytes that messages of a type may be written as at a depth are read as the messages, and
what is written is among them. -/
structure Schema.Restores (schema : Schema M) (depth : Nat) (contents : M → Contents) : Prop where
  mergeFields_eq {m : M} {bytes : List UInt8} {fuel : Nat}
    (hbytes : Encodes (contents m) depth bytes) (hfuel : bytes.length ≤ fuel)
    (rest : List UInt8) :
    schema.mergeFields depth rest.length fuel schema.empty (bytes ++ rest) = .ok (m, rest)
  encodes_encode (m : M) (hsize : (schema.encode m).length < UInt64.size) :
    Encodes (contents m) depth (schema.encode m)

/-! ### One field -/

namespace Schema

/-- A declared field is found by its tag, if the tags are apart. -/
theorem field?_eq_some (hnodup : schema.tags.Nodup) (hfield : field ∈ schema.fields) :
    schema.field? field.tag = some field := by
  obtain ⟨before, behind, heq⟩ := List.append_of_mem hfield
  rw [tags, heq, List.map_append, List.map_cons] at hnodup
  rw [field?, List.find?_eq_some_iff_append]
  refine ⟨by simp, before, behind, heq, fun other hother ↦ ?_⟩
  have hne : other.tag ≠ field.tag :=
    (List.nodup_append.mp hnodup).2.2 _ (List.mem_map_of_mem hother) _ List.mem_cons_self
  simpa using hne

theorem field?_eq_none (htag : tag ∉ schema.tags) : schema.field? tag = none := by
  rw [field?, List.find?_eq_none]
  intro field hfield
  have hne : field.tag ≠ tag := fun h ↦ htag (h ▸ List.mem_map_of_mem hfield)
  simpa using hne

/-- A piece with the tag of a field brings what the field reads. -/
theorem mergeField_declared (hnodup : schema.tags.Nodup) (hfield : field ∈ schema.fields)
    (hkey : Key field.tag wireType key)
    (hpayload : Reads (field.merge depth m wireType) payload m') :
    Reads (schema.mergeField depth m) (key ++ payload) m' := by
  intro rest
  rw [List.append_assoc, mergeField, hkey.reads.mapError_eq]
  simp only [bind, Except.bind, field?_eq_some hnodup hfield]
  exact hpayload.mapError_eq _ rest

/-- A piece with none of the tags brings nothing. -/
theorem mergeField_undeclared (h : Undeclared schema.tags depth bytes) :
    Reads (schema.mergeField depth m) bytes m := by
  intro rest
  obtain ⟨htag, hkey, hpayload⟩ := h
  rw [List.append_assoc, mergeField, hkey.reads.mapError_eq]
  simp only [bind, Except.bind, field?_eq_none htag]
  rw [hpayload.skipPayload_eq (by rw [List.length_append]; omega)]
  rfl

/-! ### All fields -/

/-- Fields are merged one at a time. -/
theorem mergeFields_append (hbytes : Reads (schema.mergeField depth m) bytes m')
    (hpos : 0 < bytes.length) (behind rest : List UInt8) :
    schema.mergeFields depth rest.length (fuel + 1) m (bytes ++ behind ++ rest) =
      schema.mergeFields depth rest.length fuel m' (behind ++ rest) := by
  rw [mergeFields, if_neg (by simp only [List.length_append]; omega), List.append_assoc, hbytes]
  rfl

end Schema

/-- A string of pieces brings all of its fields to the message without them. -/
theorem Strung.mergeFields_eq {contents : Contents} (h : Strung schema.tags depth contents bytes)
    (hschema : schema.tags.Nodup)
    (htakes : ∀ content ∈ contents, ∃ field ∈ schema.fields, field.Takes without depth m content)
    (hnodup : (contents.map Prod.fst).Nodup) (hfuel : bytes.length ≤ fuel) (rest : List UInt8) :
    schema.mergeFields depth rest.length fuel (without (contents.map Prod.fst) m) (bytes ++ rest) =
      .ok (without [] m, rest) := by
  -- What has been merged so far is the message without the fields of the pieces to come.
  induction h generalizing fuel with
  | nil =>
    cases fuel with
    | zero => rfl
    | succ fuel => exact if_pos (Nat.le_refl rest.length)
  | @declared tag content contents bytes behind hpiece _ ih =>
    rw [List.length_append] at hfuel
    rw [List.forall_mem_cons] at htakes
    rw [List.map_cons, List.nodup_cons] at hnodup
    rw [List.map_cons]
    obtain ⟨⟨field, hfield, htake⟩, htakes⟩ := htakes
    obtain rfl : tag = field.tag := htake.tag_eq
    cases hpiece with
    | absent =>
      rw [← htake.absent rfl hnodup.1]
      exact ih htakes hnodup.2 (by omega)
    | @present content key payload hkey hpayload =>
      have hpos := hkey.varint.length_pos
      have hread := htake.present rfl hpayload hnodup.1
      rw [List.length_append] at hfuel
      obtain ⟨fuel, rfl⟩ : ∃ fuel', fuel = fuel' + 1 := ⟨fuel - 1, by omega⟩
      rw [Schema.mergeFields_append (Schema.mergeField_declared hschema hfield hkey hread)
        (by rw [List.length_append]; omega)]
      exact ih htakes hnodup.2 (by omega)
  | @undeclared contents bytes behind hfield _ ih =>
    have hpos : 0 < bytes.length := by
      obtain ⟨-, hkey, -⟩ := hfield
      rw [List.length_append]
      exact Nat.add_pos_left hkey.varint.length_pos _
    rw [List.length_append] at hfuel
    obtain ⟨fuel, rfl⟩ : ∃ fuel', fuel = fuel' + 1 := ⟨fuel - 1, by omega⟩
    rw [Schema.mergeFields_append (Schema.mergeField_undeclared hfield) hpos]
    exact ih htakes hnodup (by omega)

section Takes

variable {fields : List (Field M)} {contents : Contents}

/-- Whatever a message holds is taken by one of the fields. -/
theorem exists_takes_of_mem (h : List.Forall₂ (Field.Takes without depth m) fields contents) :
    ∀ content ∈ contents, ∃ field ∈ fields, field.Takes without depth m content := by
  induction h with
  | nil => exact List.forall_mem_nil _
  | cons htake _ ih =>
    refine List.forall_mem_cons.mpr ⟨⟨_, List.mem_cons_self, htake⟩, fun content hcontent ↦ ?_⟩
    obtain ⟨field, hfield, htake⟩ := ih content hcontent
    exact ⟨field, List.mem_cons_of_mem _ hfield, htake⟩

/-- The tags of the contents are those of the fields. -/
theorem map_fst_of_takes (h : List.Forall₂ (Field.Takes without depth m) fields contents) :
    contents.map Prod.fst = fields.map (·.tag) := by
  induction h with
  | nil => rfl
  | cons htake _ ih => rw [List.map_cons, List.map_cons, htake.tag_eq, ih]

/-- What is written of the fields in turn is a string of pieces. -/
theorem strung_flatMap_write {tags : List Nat}
    (h : List.Forall₂ (Field.Takes without depth m) fields contents)
    (hvalid : ∀ field ∈ fields, ValidTag field.tag)
    (hsize : (fields.flatMap (·.write m)).length < UInt64.size) :
    Strung tags depth contents (fields.flatMap (·.write m)) := by
  induction h with
  | nil => exact .nil
  | @cons field content fields contents htake _ ih =>
    rw [List.forall_mem_cons] at hvalid
    rw [List.flatMap_cons, List.length_append] at hsize
    rw [List.flatMap_cons]
    have hpiece := htake.write hvalid.1 (by omega)
    rw [← htake.tag_eq] at hpiece
    exact .declared hpiece (ih hvalid.2 (by omega))

end Takes

/-- A type whose fields take the contents of its messages reads them back. -/
theorem Schema.LeavesOut.restores (h : schema.LeavesOut without) {contents : M → Contents}
    (htakes : ∀ m, List.Forall₂ (Field.Takes without depth m) schema.fields (contents m)) :
    schema.Restores depth contents where
  mergeFields_eq := by
    rintro m bytes fuel ⟨ordered, hperm, hstrung⟩ hfuel rest
    have htags : (contents m).map Prod.fst = schema.tags := map_fst_of_takes (htakes m)
    have hordered : (ordered.map Prod.fst).Perm schema.tags := htags ▸ hperm.map _
    have hempty : without (ordered.map Prod.fst) m = schema.empty :=
      h.without_all m fun _ ↦ hordered.mem_iff
    rw [htags] at hstrung
    have hread := hstrung.mergeFields_eq h.nodup
      (fun content hcontent ↦ exists_takes_of_mem (htakes m) content (hperm.mem_iff.mp hcontent))
      (hordered.nodup_iff.mpr h.nodup) hfuel rest
    rwa [hempty, h.without_nil] at hread
  encodes_encode m hsize :=
    ⟨contents m, .rfl, strung_flatMap_write (htakes m)
      (fun _ hfield ↦ h.valid (List.mem_map_of_mem hfield)) hsize⟩

namespace Schema.Restores

variable {contents : M → Contents}

/-- A nested message is read up to its end. -/
theorem reads_mergeNested (h : schema.Restores depth contents)
    (hbytes : Encodes (contents m) depth bytes) (hpayload : Delimited bytes payload) :
    Reads (schema.mergeNested (depth + 1) schema.empty) payload m := by
  intro rest
  obtain ⟨hlength⟩ := hpayload
  have hfit : ¬(bytes ++ rest).length < bytes.length := by
    rw [List.length_append]
    omega
  have hstop : (bytes ++ rest).length - bytes.length = rest.length := by
    rw [List.length_append, Nat.add_sub_cancel_left]
  have hread := h.mergeFields_eq hbytes (show bytes.length ≤ (bytes ++ rest).length by omega) rest
  rw [List.append_assoc, mergeNested, hlength.reads.mapError_eq]
  simp only [bind, Except.bind, Nat.succ_ne_zero, if_false, hfit, hstop, Nat.add_sub_cancel, hread,
    if_true]
  rfl

end Schema.Restores

/-! ### The kinds of fields -/

/-- The field of a tag is got and set apart from the others: a message is itself without the field,
with what it has there set again. -/
def Separates (without : List Nat → M → M) (tag : Nat) (get : M → Option α) (set : M → α → M) :
    Prop :=
  ∀ (m : M) {tags : List Nat}, tag ∉ tags → without tags m = match get m with
    | none => without (tag :: tags) m
    | some x => set (without (tag :: tags) m) x

namespace Separates

variable {get : M → Option α} {set : M → α → M} {x : α} {tags : List Nat}

theorem without_eq_of_none (h : Separates without tag get set) (hm : get m = none)
    (htag : tag ∉ tags) : without tags m = without (tag :: tags) m := by
  rw [h m htag, hm]

theorem without_eq_of_some (h : Separates without tag get set) (hm : get m = some x)
    (htag : tag ∉ tags) : without tags m = set (without (tag :: tags) m) x := by
  rw [h m htag, hm]

end Separates

namespace Field.Takes

/-- A field of one wire type, where its reader reads the payloads that carry a value and its writer
writes one of them. -/
theorem scalar {get : M → Option α} {set : M → α → M} {content : α → Content}
    {read : List UInt8 → Except Cause (α × List UInt8)} {form : α → List UInt8}
    (h : Separates without tag get set) (hwire : ∀ x, (content x).wireType = wireType)
    (hread : ∀ {x payload}, (content x).Carried depth payload → Reads read payload x)
    (hform : ∀ x, (form x).length < UInt64.size → (content x).Carried depth (form x)) :
    Takes without depth m (Field.scalar tag name wireType read form get set)
      (tag, (get m).map content) where
  tag_eq := rfl
  absent hcontent htag := h.without_eq_of_none (Option.map_eq_none_iff.mp hcontent) htag
  present {_ payload _} hcontent hpayload htag := by
    obtain ⟨x, hm, rfl⟩ := Option.map_eq_some_iff.mp hcontent
    intro rest
    rw [h.without_eq_of_some hm htag, hwire]
    simp only [Field.scalar, expectWireType, if_true, bind, Except.bind, hread hpayload rest]
    rfl
  write hvalid hsize := by
    simp only [Field.scalar] at hvalid hsize ⊢
    cases hm : get m with
    | none => exact .absent
    | some x =>
      rw [hm, List.length_append] at hsize
      exact .present ((hwire x).symm ▸ key_writeKey hvalid) (hform x (by omega))

/-- A field of 64 bits takes its number. -/
theorem uint64 {get : M → Option UInt64} {set : M → UInt64 → M}
    (h : Separates without tag get set) :
    Takes without depth m (Field.uint64 tag name get set) (tag, (get m).map .uint64) := by
  refine scalar h (fun _ ↦ rfl) (fun {x payload} hpayload rest ↦ ?_) fun x _ ↦
    varint_writeVarint x
  rw [Varint.reads hpayload]
  simp only [Except.map, UInt64.ofNat_toNat]

theorem uint32 {get : M → Option UInt32} {set : M → UInt32 → M}
    (h : Separates without tag get set) :
    Takes without depth m (Field.uint32 tag name get set) (tag, (get m).map .uint32) := by
  refine scalar h (fun _ ↦ rfl) (fun {x payload} hpayload rest ↦ ?_) fun x _ ↦ ?_
  · rw [Varint.reads hpayload]
    simp only [Except.map, UInt32.ofNat_toNat]
  · have hvarint := varint_writeVarint x.toUInt64
    rwa [UInt32.toNat_toUInt64] at hvarint

/-- A field of truth values takes its value. -/
theorem bool {get : M → Option Bool} {set : M → Bool → M} (h : Separates without tag get set) :
    Takes without depth m (Field.bool tag name get set) (tag, (get m).map .bool) := by
  refine scalar h (fun _ ↦ rfl) (fun {x payload} hpayload rest ↦ ?_) fun x _ ↦ ?_
  · rw [Varint.reads hpayload]
    cases x <;> rfl
  · cases x with
    | false => exact varint_writeVarint 0
    | true => exact varint_writeVarint 1

/-- A field of texts takes its text, which is read out of its bytes as it was. -/
theorem string {get : M → Option String} {set : M → String → M}
    (h : Separates without tag get set) :
    Takes without depth m (Field.string tag name get set) (tag, (get m).map .text) := by
  refine scalar h (fun _ ↦ rfl) (fun {x payload} hpayload rest ↦ ?_) fun x hsize ↦ ?_
  · rw [Field.readText, Delimited.reads hpayload]
    simp only [bind, Except.bind, Utf8.decode?_encode]
    rfl
  · rw [writeDelimited, List.length_append] at hsize
    exact delimited_writeDelimited (by omega)

/-- A field of messages of a type that is read back one level further in. -/
theorem message {get : M → Option N} {set : M → N → M} {contents : N → Contents}
    (h : Separates without tag get set) (hget : ∀ m tags, get (without (tag :: tags) m) = none)
    (hinner : inner.Restores depth contents) :
    Takes without (depth + 1) m (Field.message tag name inner get set)
      (tag, (get m).map fun x ↦ .message (Encodes (contents x))) where
  tag_eq := rfl
  absent hcontent htag := h.without_eq_of_none (Option.map_eq_none_iff.mp hcontent) htag
  present {_ payload _} hcontent hpayload htag := by
    obtain ⟨x, hm, rfl⟩ := Option.map_eq_some_iff.mp hcontent
    obtain ⟨bytes, hbytes, hdelimited⟩ := hpayload
    have hread := hinner.reads_mergeNested hbytes hdelimited
    intro rest
    rw [h.without_eq_of_some hm htag]
    simp only [Field.message, Content.wireType, expectWireType, if_true, hget, Option.getD_none,
      hread rest]
    rfl
  write hvalid hsize := by
    simp only [Field.message] at hvalid hsize ⊢
    cases hm : get m with
    | none => exact .absent
    | some x =>
      rw [hm, List.length_append, writeDelimited, List.length_append] at hsize
      exact .present (key_writeKey hvalid)
        ⟨_, hinner.encodes_encode x (by omega), delimited_writeDelimited (by omega)⟩

end Field.Takes

/-! ### Whole messages -/

/-- The bytes that a message may be written as are read as the message, and what is written is among
them.  What is written is in memory, and so its length is a number of 64 bits. -/
structure Schema.Faithful (schema : Schema M) (contents : M → Contents) : Prop where
  decode_eq {m : M} {bytes : List UInt8} (hbytes : Encodes (contents m) depthLimit bytes) :
    schema.decode bytes = .ok m
  encodes_encode (m : M) (hsize : (schema.encode m).length < UInt64.size) :
    Encodes (contents m) depthLimit (schema.encode m)

/-- A type that reads its messages back does so from whole payloads. -/
theorem Schema.Restores.faithful {contents : M → Contents}
    (h : schema.Restores depthLimit contents) : schema.Faithful contents where
  decode_eq hbytes := by
    have hread := h.mergeFields_eq hbytes (Nat.le_refl _) []
    rw [List.append_nil] at hread
    exact congrArg (Except.map Prod.fst) hread
  encodes_encode := h.encodes_encode

end ChainProjection.Protobuf
