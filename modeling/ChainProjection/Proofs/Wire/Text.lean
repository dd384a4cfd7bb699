import ChainProjection.Proofs.Json.Text
import ChainProjection.Proofs.Wire.Vocabulary

/-!
# The vocabulary as text

What is written of a value is a JSON value first and a text only then.  The JSON value reads back
for the whole vocabulary; this module takes the second step, and it rests on two facts.

* **What is written is plain.**  Integers of a wire form have 64 bits, objects are made of members
  and so have them in order, and nothing is a floating point number.  `PlainWire` says so of a type,
  with the number of levels its values open, and there is an instance for each type that holds no
  JSON values of its own.
* The text of a plain value reads as the value (`Plain.ofText?_render`), if it nests no deeper than
  the reader goes.

Together they are `readsText_vocabulary`.  The events of a feed are the exception, since their
parameters are JSON values of whatever kind; an event or a block reads back from its text when its
parameters are plain, and has to nest less deep by the levels around them.

**A floating point number need not read back from its text.**  The digits are those of the nearest
number, but the reader rounds the digits as one integer and then scales what it got by a power of
ten that has been rounded too, and the two errors can add up to the last place.  So plainness
is not for convenience here: without it the result is false.
-/

namespace ChainProjection

open Json (Plain depthLimit)

/-- A type whose values are written without floating point numbers, in at most `levels` levels of
arrays and objects. -/
class PlainWire (α : Type) [Wire α] (levels : outParam Nat) : Prop where
  plain_encode {depth : Nat} (x : α) : Plain (depth + levels) (Wire.encode x)

namespace Wire

export PlainWire (plain_encode)

variable {α : Type} {levels depth : Nat}

theorem plain_encode_of_le [Wire α] [PlainWire α levels] (h : levels ≤ depth) (x : α) :
    Plain depth (encode x) := by
  obtain ⟨room, rfl⟩ := Nat.exists_eq_add_of_le' h
  exact plain_encode x

/-! ### Plain types -/

instance : PlainWire Bool 0 := ⟨.bool⟩

instance : PlainWire String 0 := ⟨.string⟩

instance : PlainWire Bytes 0 := ⟨fun bytes ↦ .string bytes.toHex⟩

instance {entity : Entity} : PlainWire (Id entity) 0 := ⟨fun id ↦ .string id.text⟩

theorem plain_nat {n : Nat} (h : n < UInt64.size) : Plain depth (.nat n) :=
  .int ⟨Int.le_trans (by decide) (Int.natCast_nonneg n), Int.ofNat_lt.2 h⟩

instance : PlainWire UInt64 0 := ⟨fun n ↦ plain_nat n.toNat_lt_size⟩

instance : PlainWire UInt32 0 :=
  ⟨fun n ↦ plain_nat (Nat.lt_trans n.toNat_lt_size (by decide))⟩

instance : PlainWire Int64 0 where
  plain_encode n :=
    .int ⟨by simpa [signedLimit] using n.le_toInt, Int.lt_trans n.toInt_lt (by decide)⟩

instance [Wire α] [PlainWire α levels] : PlainWire (Option α) levels where
  plain_encode
    | none => .null
    | some x => plain_encode x

instance [Wire α] [PlainWire α levels] : PlainWire (List α) (levels + 1) where
  plain_encode xs := .array fun item hitem ↦ by
    obtain ⟨x, -, rfl⟩ := List.mem_map.1 hitem
    exact plain_encode x

/-! ### Unions -/

/-- A variant is an object of one member, whose value is the payload. -/
theorem plain_ofVariant {name : String} {payload : Json} (h : Plain depth payload) :
    Plain (depth + 1) (Json.ofVariant name payload) :=
  .object (List.forall_mem_singleton.2 h) (List.pairwise_singleton _ _)

/-- A tag is one text more among the members. -/
theorem plain_withTag {tag name : String} {members : List (String × Json)}
    (h : ∀ member ∈ members, Plain depth member.2) :
    Plain (depth + 1) (Json.withTag tag name members) :=
  Json.plain_ofMembers (List.forall_mem_cons.2 ⟨.string name, h⟩)

instance : PlainWire PrivilegedActor 1 where
  plain_encode
    | .lead => .string _
    | .moderator runtimeId => plain_ofVariant (plain_encode runtimeId)

instance : PlainWire ContentActor 2 where
  plain_encode
    | .lead => .string _
    | .curator group curator => plain_ofVariant <| .array <| by
      simpa using ⟨plain_encode group, plain_encode curator⟩
    | .member number => plain_ofVariant (plain_encode number)

instance : PlainWire ChannelOwner 1 where
  plain_encode
    | .member id => plain_ofVariant (plain_encode id)
    | .curatorGroup id => plain_ofVariant (plain_encode id)

instance : PlainWire LiaisonJudgement 0 where
  plain_encode
    | .pending => .string _
    | .accepted => .string _

instance : PlainWire AssetAvailability 0 where
  plain_encode
    | .pending => .string _
    | .accepted => .string _

instance : PlainWire DataObjectOwner 1 where
  plain_encode
    | .member id => plain_ofVariant (plain_encode id)
    | .channel id => plain_ofVariant (plain_encode id)
    | .curatorGroup id => plain_ofVariant (plain_encode id)

instance : PlainWire ContentParameters 1 where
  plain_encode p := Json.plain_ofMembers <| by
    simpa using ⟨plain_encode p.contentId, plain_encode p.typeId, plain_encode p.size,
      plain_encode p.ipfsContentId⟩

instance : PlainWire RawAsset 2 where
  plain_encode
    | .urls urls => plain_ofVariant (plain_encode urls)
    | .upload parameters => plain_ofVariant (plain_encode parameters)

instance : PlainWire AssetRef 2 where
  plain_encode
    | .urls urls => plain_ofVariant (plain_encode urls)
    | .dataObject id availability => plain_ofVariant <| Json.plain_ofMembers <| by
      simpa using ⟨plain_encode id, plain_encode availability⟩

instance : PlainWire CategoryStatus 1 where
  plain_encode
    | .active => plain_withTag (List.forall_mem_nil _)
    | .archived event | .removed event =>
      plain_withTag (List.forall_mem_singleton.2 (plain_encode event))

instance : PlainWire ThreadStatus 1 where
  plain_encode
    | .active => plain_withTag (List.forall_mem_nil _)
    | .locked event | .moderated event | .removed event =>
      plain_withTag (List.forall_mem_singleton.2 (plain_encode event))

instance : PlainWire PostStatus 1 where
  plain_encode
    | .active => plain_withTag (List.forall_mem_nil _)
    | .locked event => plain_withTag (List.forall_mem_singleton.2 (plain_encode event))
    | .moderated event | .removed event =>
      plain_withTag (List.forall_mem_singleton.2 (plain_encode event))

instance : PlainWire PostOrigin 1 where
  plain_encode
    | .threadInitial event | .threadReply event =>
      plain_withTag (List.forall_mem_singleton.2 (plain_encode event))

instance : PlainWire SyncState 1 where
  plain_encode s := Json.plain_ofMembers <| by
    simpa using ⟨plain_encode s.lastBlockNumber, plain_encode s.updatedAt⟩

/-! ### Records -/

/-- Particulars that fit are plain: a list of ids is the deepest that any of them holds. -/
theorem plain_encode_eventData {data : EventData} (h : data.Fits) :
    Plain (depth + 2) (encode data) := by
  cases data with
  | voteOnPoll row voter =>
    refine plain_withTag ?_
    have hrow : row < UInt64.size := Int.lt_trans h.2 (by decide)
    simp only [List.forall_mem_cons]
    exact ⟨.int ⟨h.1, hrow⟩, .string _, List.forall_mem_nil _⟩
  | _ =>
    refine plain_withTag ?_
    simp only [List.forall_mem_cons]
    and_intros
    all_goals first
      | exact List.forall_mem_nil _
      | exact plain_encode_of_le (by omega) _

/-- A record has one level around its particulars. -/
theorem plain_encode_eventRecord {record : EventRecord} (h : record.data.Fits) :
    Plain (depth + 3) (encode record) :=
  Json.plain_ofMembers <| by
    simpa using ⟨plain_encode record.id, plain_encode record.eventType,
      plain_encode record.inBlock, plain_encode record.indexInBlock,
      plain_encode record.inExtrinsic, plain_encode record.createdAt, plain_encode_eventData h⟩

/-! ### Events of a feed -/

/-- Two levels are around the parameters of an event: its own and that of their list. -/
theorem plain_encode_runtimeEvent {e : RuntimeEvent} (h : ∀ value ∈ e.params, Plain depth value) :
    Plain (depth + 2) (encode e) :=
  Json.plain_ofMembers <| by
    have hparams : Plain (depth + 1) (encode e.params) := .array fun item hitem ↦ by
      obtain ⟨value, hvalue, rfl⟩ := List.mem_map.1 hitem
      exact h value hvalue
    simpa using ⟨plain_encode e.name, plain_encode e.indexInBlock, plain_encode e.extrinsicHash,
      hparams⟩

/-- A block adds two levels more. -/
theorem plain_encode_block {b : Block}
    (h : ∀ e ∈ b.events, ∀ value ∈ e.params, Plain depth value) : Plain (depth + 4) (encode b) :=
  Json.plain_ofMembers <| by
    have hevents : Plain (depth + 3) (encode b.events) := .array fun item hitem ↦ by
      obtain ⟨e, he, rfl⟩ := List.mem_map.1 hitem
      exact plain_encode_runtimeEvent (h e he)
    simpa using ⟨plain_encode b.number, plain_encode b.timestamp, hevents⟩

/-! ### The vocabulary -/

/-- What is written of a value reads back from its text. -/
def ReadsText [Wire α] (x : α) : Prop :=
  ∃ value, Json.ofText? (encode x).render = some value ∧ decode value = .ok x

/-- What is plain, and reads back from its JSON value, reads back from its text. -/
theorem readsText_of_plain [Wire α] {x : α} (plain : Plain (depthLimit - 1) (encode x))
    (hdecode : decode (encode x) = .ok x) : ReadsText x :=
  ⟨encode x, plain.ofText?_render, hdecode⟩

/-- A type of few levels that reads back from its JSON values reads back from its text. -/
theorem readsText [Wire α] [LawfulWire α] [PlainWire α levels] (h : levels < depthLimit) (x : α) :
    ReadsText x :=
  readsText_of_plain (plain_encode_of_le (Nat.le_sub_one_of_lt h) x) (decode_encode x)

/-- **Each type of the vocabulary reads back from its text**; events and blocks do if their
parameters are plain and leave room for the levels around them. -/
theorem readsText_vocabulary :
    (∀ entity, ∀ id : Id entity, ReadsText id) ∧
    (∀ bytes : Bytes, ReadsText bytes) ∧
    (∀ actor : PrivilegedActor, ReadsText actor) ∧
    (∀ actor : ContentActor, ReadsText actor) ∧
    (∀ owner : ChannelOwner, ReadsText owner) ∧
    (∀ parameters : ContentParameters, ReadsText parameters) ∧
    (∀ asset : RawAsset, ReadsText asset) ∧
    (∀ judgement : LiaisonJudgement, ReadsText judgement) ∧
    (∀ availability : AssetAvailability, ReadsText availability) ∧
    (∀ owner : DataObjectOwner, ReadsText owner) ∧
    (∀ slot : AssetRef, ReadsText slot) ∧
    (∀ status : CategoryStatus, ReadsText status) ∧
    (∀ status : ThreadStatus, ReadsText status) ∧
    (∀ status : PostStatus, ReadsText status) ∧
    (∀ origin : PostOrigin, ReadsText origin) ∧
    (∀ data : EventData, data.Fits → ReadsText data) ∧
    (∀ record : EventRecord, record.data.Fits → ReadsText record) ∧
    (∀ e : RuntimeEvent, (∀ value ∈ e.params, Plain (depthLimit - 3) value) → ReadsText e) ∧
    (∀ b : Block, (∀ e ∈ b.events, ∀ value ∈ e.params, Plain (depthLimit - 5) value) →
      ReadsText b) ∧
    ∀ state : SyncState, ReadsText state := by
  have hfew {n : Nat} (h : n ≤ 2) : n < depthLimit := Nat.lt_of_le_of_lt h (by decide)
  refine ⟨fun _ ↦ readsText (hfew (by decide)), readsText (hfew (by decide)),
    readsText (hfew (by decide)), readsText (hfew (by decide)), readsText (hfew (by decide)),
    readsText (hfew (by decide)), readsText (hfew (by decide)), readsText (hfew (by decide)),
    readsText (hfew (by decide)), readsText (hfew (by decide)), readsText (hfew (by decide)),
    readsText (hfew (by decide)), readsText (hfew (by decide)), readsText (hfew (by decide)),
    readsText (hfew (by decide)), fun data h ↦ ?_, fun record h ↦ ?_, fun e h ↦ ?_, fun b h ↦ ?_,
    readsText (hfew (by decide))⟩
  · exact readsText_of_plain (plain_encode_eventData h) (decode_encode_eventData h)
  · exact readsText_of_plain (plain_encode_eventRecord h) (decode_encode_eventRecord h)
  · exact readsText_of_plain (plain_encode_runtimeEvent h) (decode_encode e)
  · exact readsText_of_plain (plain_encode_block h) (decode_encode b)

/-- A floating point number between one and two whose text reads as one of its neighbours. -/
example :
    let x : Json := .float ⟨4608617159269105202⟩
    x.render = "1.3185763806285533" ∧ (Json.ofText? x.render).any (Json.same x) = false := by
  decide +kernel

end Wire

end ChainProjection
