import ChainProjection.Proofs.Wire.Event
import ChainProjection.Store.Content
import ChainProjection.Store.Forum

/-!
# Stored forms read back

Every row reads back from its stored form as it was, **with two exceptions**, and both are about
numbers that the storage can only keep with a sign.

* The size of the media of a video is stored with its bits and read with a check, so a size past the
  signed 64-bit integers comes back negative and is refused: `Video.ofColumns_columns` has the exact
  condition, `Video.SizeFits`.  The size of a data object is stored in the same way, but it is read
  with its bits and comes back; the difference is in the reading alone.
* The record of a vote names a row number, and one past the signed 64-bit integers does not read
  back: `EventRecord.ofColumns_columns`.

For all other rows there is an equation without a condition (`Thread.ofColumns_columns` and its
likes).  **Loading is therefore looking up**, for every table but that of the videos and the log;
`loadCategory_eq` and the equations after it say so, and the rules for projections are stated with
look-ups because of them.
-/

namespace ChainProjection

open Columns SlotColumns Channel

/-! ### Numbers -/

namespace Columns

theorem part_ok {ε α : Type} (x : α) : part (.ok x : Except ε α) = .ok x := rfl

/-- A number keeps its bits as a signed one, which is negative from half the range on. -/
theorem toInt_toInt64 (n : UInt64) :
    n.toInt64.toInt =
      if n.toNat < signedLimit then (n.toNat : Int) else n.toNat - 18446744073709551616 := by
  show n.toBitVec.toInt = _
  rw [BitVec.toInt_eq_toNat_cond, UInt64.toNat_toBitVec, signedLimit]
  by_cases h : n.toNat < 9223372036854775808
  · rw [if_pos h, if_pos (by omega)]
  · rw [if_neg h, if_neg (by omega)]
    rfl

/-- A number read with a check comes back if its sign did not change. -/
theorem uint64_toInt64 (n : UInt64) :
    uint64 n.toInt64 = if n.toNat < signedLimit then .ok n else .error .unreadable := by
  have hlt := n.toNat_lt
  rw [uint64, toInt_toInt64, UInt64.toUInt64_toInt64]
  by_cases h : n.toNat < signedLimit
  · rw [if_pos h, if_pos h, if_pos (by omega)]
  · rw [if_neg h, if_neg h, if_neg (by omega)]

theorem toInt_ofUInt32 (n : UInt32) : (ofUInt32 n).toInt = n.toNat := by
  have hlt := n.toNat_lt
  rw [ofUInt32, toInt_toInt64, UInt32.toNat_toUInt64, if_pos (by rw [signedLimit]; omega)]

theorem uint32_ofUInt32 (n : UInt32) : uint32 (ofUInt32 n) = .ok n := by
  have hlt := n.toNat_lt_size
  rw [uint32, toInt_ofUInt32, if_pos (by omega), ofUInt32, UInt64.toUInt64_toInt64,
    UInt32.toUInt32_toUInt64]

theorem mapM_uint32_ofUInt32 (n : Option UInt32) : (n.map ofUInt32).mapM uint32 = .ok n := by
  cases n with
  | none => rfl
  | some n =>
    rw [Option.map_some, Option.mapM_some, uint32_ofUInt32]
    rfl

/-- A number that may be missing comes back if it is missing or fits. -/
theorem mapM_uint64_toInt64 (n : Option UInt64) :
    (n.map (·.toInt64)).mapM uint64 =
      if n.all (fun size ↦ isSigned size.toNat) = true then .ok n else .error .unreadable := by
  cases n with
  | none => rfl
  | some n =>
    rw [Option.map_some, Option.mapM_some, uint64_toInt64, Option.all_some]
    by_cases h : n.toNat < signedLimit
    · rw [if_pos h, if_pos (isSigned_iff.2 h)]
      rfl
    · rw [if_neg h, if_neg (fun hsigned ↦ h (isSigned_iff.1 hsigned))]
      rfl

end Columns

theorem Id.map_mk_map_text {entity : Entity} (id : Option (Id entity)) :
    (id.map (·.text)).map Id.mk = id := by
  cases id <;> rfl

/-! ### Forum -/

/-- A category reads back from its columns. -/
theorem Category.ofColumns_columns (category : Category) :
    Category.ofColumns category.columns = .ok category := by
  simp only [Category.ofColumns, Category.columns, Id.map_mk_map_text,
    CategoryStatus.ofColumns_kind_cause?, part_ok]
  rfl

theorem Thread.ofColumns_columns (thread : Thread) :
    Thread.ofColumns thread.columns = .ok thread := by
  simp only [Thread.ofColumns, Thread.columns, Id.map_mk_map_text,
    ThreadStatus.ofColumns_kind_cause?, part_ok]
  rfl

theorem Post.ofColumns_columns (post : Post) : Post.ofColumns post.columns = .ok post := by
  simp only [Post.ofColumns, Post.columns, Id.map_mk_map_text, PostStatus.ofColumns_kind_cause?,
    PostOrigin.ofColumns_kind_cause?, part_ok]
  rfl

/-! ### Content -/

/-- A slot reads back, whichever of links and data object it holds. -/
theorem SlotColumns.slot_ofSlot (slot : Option AssetRef) : (ofSlot slot).slot = .ok slot := by
  rcases slot with - | links | ⟨id, availability⟩
  · rfl
  · simp only [SlotColumns.slot, ofSlot, Wire.decode_encode, part_ok]
    rfl
  · simp only [SlotColumns.slot, ofSlot, Option.getD_some, AssetAvailability.ofStored_stored,
      part_ok]
    rfl

/-- The two columns of an owner, of which one is empty, make the owner again. -/
theorem Channel.ownerOf_owner (owner : Option ChannelOwner) :
    ownerOf ((owner.bind ChannelOwner.member?).map (·.text))
      ((owner.bind ChannelOwner.curatorGroup?).map (·.text)) = owner := by
  rcases owner with - | id | id <;> rfl

theorem Channel.ofColumns_columns (channel : Channel) :
    Channel.ofColumns channel.columns = .ok channel := by
  simp only [Channel.ofColumns, Channel.columns, slot_ofSlot, ownerOf_owner, Id.map_mk_map_text,
    UInt64.toUInt64_toInt64]
  rfl

theorem ContentCategory.ofColumns_columns {entity : Entity} (category : ContentCategory entity) :
    ContentCategory.ofColumns category.columns = .ok category := rfl

/-- A data object reads back, **its size with all its bits**. -/
theorem DataObject.ofColumns_columns (object : DataObject) :
    DataObject.ofColumns object.columns = .ok object := by
  simp only [DataObject.ofColumns, DataObject.columns, DataObjectOwner.ofColumns_kind_id,
    LiaisonJudgement.ofStored_stored, part_ok, UInt64.toUInt64_toInt64]
  rfl

/-- The license of a stored license reads back; the block it came with is not read. -/
theorem StoredLicense.ofColumns_columns (stored : StoredLicense) :
    Metadata.License.ofColumns stored.columns = .ok stored.license := by
  simp only [Metadata.License.ofColumns, StoredLicense.columns, mapM_uint32_ofUInt32]
  rfl

/-- The size of the media of the video, if it is known, is a signed 64-bit integer. -/
def Video.SizeFits (video : Video) : Prop :=
  ∀ media ∈ video.mediaMetadata, ∀ size ∈ media.size, size.toNat < signedLimit

/-- Whether the size fits can be computed. -/
theorem Video.sizeFits_iff {video : Video} :
    video.SizeFits ↔
      (video.mediaMetadata.bind (·.size)).all (fun size ↦ isSigned size.toNat) = true := by
  rcases h : video.mediaMetadata with - | media
  · simp [SizeFits, h]
  · rcases hsize : media.size with - | size
    · simp [SizeFits, h, hsize]
    · simp [SizeFits, h, hsize, isSigned_iff]

instance (video : Video) : Decidable video.SizeFits :=
  decidable_of_iff' _ Video.sizeFits_iff

/-- The group of media fields reads back, or its size is refused. -/
theorem Video.mediaOfColumns_columns (video : Video) :
    mediaOfColumns video.columns =
      if video.SizeFits then .ok video.mediaMetadata else .error .unreadable := by
  by_cases hfits : video.SizeFits
  · rw [if_pos hfits]
    rw [sizeFits_iff] at hfits
    rcases h : video.mediaMetadata with - | media
    · simp only [mediaOfColumns, columns, h]
      rfl
    · rw [h, Option.bind_some] at hfits
      simp only [mediaOfColumns, columns, h, Option.getD_some, Option.isSome_some,
        mapM_uint32_ofUInt32, mapM_uint64_toInt64, if_pos hfits, if_true]
      rfl
  · rw [if_neg hfits]
    rw [sizeFits_iff] at hfits
    rcases h : video.mediaMetadata with - | media
    · rw [h] at hfits
      exact absurd rfl hfits
    · rw [h, Option.bind_some] at hfits
      simp only [mediaOfColumns, columns, h, Option.getD_some, Option.isSome_some,
        mapM_uint32_ofUInt32, mapM_uint64_toInt64, if_neg hfits, if_true]
      rfl

/-- A video reads back exactly if the size of its media is one the reading takes. -/
theorem Video.ofColumns_columns (video : Video) :
    ofColumns video.columns = if video.SizeFits then .ok video else .error .unreadable := by
  rw [ofColumns, mediaOfColumns_columns]
  by_cases h : video.SizeFits
  · simp only [if_pos h, columns, mapM_uint32_ofUInt32, slot_ofSlot, Id.map_mk_map_text,
      UInt64.toUInt64_toInt64]
    rfl
  · simp only [if_neg h]
    rfl

/-! ### Records -/

/-- A record reads back exactly if its particulars do. -/
theorem EventRecord.ofColumns_columns (record : EventRecord) :
    ofColumns record.columns = .ok record ↔ record.data.Fits := by
  constructor
  · intro h
    refine Classical.byContradiction fun hfits ↦ ?_
    obtain ⟨error, hdecode⟩ := Wire.decode_encode_eventData_of_not hfits
    rw [ofColumns, columns, hdecode] at h
    cases h
  · intro h
    simp only [ofColumns, columns, Wire.decode_encode_eventData h, part_ok, ofUInt32,
      UInt64.toUInt64_toInt64, UInt32.toUInt32_toUInt64]
    rfl

/-! ### Loading -/

/-- Reading back each row of a look-up is the look-up itself. -/
theorem mapM_eq_ok {α : Type} {read : α → Except StoreError α} {row : Option α}
    (h : ∀ x ∈ row, read x = .ok x) : row.mapM read = .ok row := by
  cases row with
  | none => rfl
  | some x =>
    rw [Option.mapM_some, h x rfl]
    rfl

namespace Store

variable (s : Store)

/-- Loading a category is looking it up. -/
@[simp]
theorem loadCategory_eq (id : CategoryId) : s.loadCategory id = .ok s.categories[id]? :=
  mapM_eq_ok fun row _ ↦ row.ofColumns_columns

@[simp]
theorem loadThread_eq (id : ThreadId) : s.loadThread id = .ok s.threads[id]? :=
  mapM_eq_ok fun row _ ↦ row.ofColumns_columns

@[simp]
theorem loadPost_eq (id : PostId) : s.loadPost id = .ok s.posts[id]? :=
  mapM_eq_ok fun row _ ↦ row.ofColumns_columns

@[simp]
theorem loadChannel_eq (id : ChannelId) : s.loadChannel id = .ok s.channels[id]? :=
  mapM_eq_ok fun row _ ↦ row.ofColumns_columns

@[simp]
theorem loadChannelCategory_eq (id : ChannelCategoryId) :
    s.loadChannelCategory id = .ok s.channelCategories[id]? :=
  mapM_eq_ok fun row _ ↦ row.ofColumns_columns

@[simp]
theorem loadVideoCategory_eq (id : VideoCategoryId) :
    s.loadVideoCategory id = .ok s.videoCategories[id]? :=
  mapM_eq_ok fun row _ ↦ row.ofColumns_columns

@[simp]
theorem loadDataObject_eq (id : ContentId) : s.loadDataObject id = .ok s.dataObjects[id]? :=
  mapM_eq_ok fun row _ ↦ row.ofColumns_columns

/-- Of a license the block it came with is not loaded. -/
@[simp]
theorem loadLicense_eq (id : Nat) :
    s.loadLicense id = .ok (s.licenses[id]?.map (·.license)) := by
  rw [loadLicense]
  cases s.licenses[id]? with
  | none => rfl
  | some row =>
    rw [Option.mapM_some, row.ofColumns_columns]
    rfl

/-- A video loads as it is, or not at all. -/
theorem loadVideo_eq (id : VideoId) :
    s.loadVideo id = match s.videos[id]? with
      | none => .ok none
      | some row => if row.SizeFits then .ok (some row) else .error .unreadable := by
  rw [loadVideo]
  cases s.videos[id]? with
  | none => rfl
  | some row =>
    rw [Option.mapM_some, row.ofColumns_columns]
    by_cases h : row.SizeFits
    · simp only [if_pos h]
      rfl
    · simp only [if_neg h]
      rfl

/-- A video loads if it is missing or its size fits. -/
@[simp]
theorem loadVideo_eq_ok {id : VideoId} {video : Option Video} :
    s.loadVideo id = .ok video ↔
      s.videos[id]? = video ∧ ∀ row ∈ s.videos[id]?, row.SizeFits := by
  rw [loadVideo_eq]
  rcases h : s.videos[id]? with - | row
  · simp
  · by_cases hfits : row.SizeFits
    · simp [hfits]
    · simp [hfits]

/-- A video is refused for one reason only. -/
@[simp]
theorem loadVideo_eq_error {id : VideoId} {error : StoreError} :
    s.loadVideo id = .error error ↔
      error = .unreadable ∧ ∃ row ∈ s.videos[id]?, ¬row.SizeFits := by
  rw [loadVideo_eq]
  rcases h : s.videos[id]? with - | row
  · simp
  · by_cases hfits : row.SizeFits
    · simp [hfits]
    · simp [hfits, eq_comm]

/-- Loading a record gives the record, if the particulars of all records read back. -/
theorem loadEvent_eq {s : Store} (h : ∀ record ∈ s.log, record.data.Fits) (id : EventId) :
    s.loadEvent id = .ok (s.event? id) := by
  refine mapM_eq_ok fun record hrecord ↦ ?_
  have hmem : record ∈ s.log := List.mem_of_find?_eq_some hrecord
  exact record.ofColumns_columns.2 (h record hmem)

end Store

end ChainProjection
