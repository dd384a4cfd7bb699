import ChainProjection.Proofs.Keys

/-!
# Assets

A slot of a channel or a video that names a data object repeats the availability of the object.  The
copy is written in two ways: when an asset is put into a slot, and in all slots at once when the
object is accepted.  **It stays right because whatever else writes data objects changes no
judgement**, and a judgement changes only when the object is accepted, which the log records.

The main result, `slotsFit_and_keepsObjects_of_reachable`, has three parts, and each rests on one of
three things said of steps.

* All four slots fit (`Handles.slotsFit`).  For content events this is `Store.Registers`: an upload
  that names an object there already takes over its judgement and does not reset it.  That a new
  object is pending and that an object which is missing counts as pending are one case and not two
  (`Store.judgement`), which is what lets a slot be filled before the object is saved.
* Data objects stay, and acceptances are not taken back (`Store.KeepsObjects.of_handles`).
* The accepted objects are those whose acceptance the log records (`Visited.judgement_eq_accepted`):
  no other kind of event leaves such a record or changes such a judgement.

For the acceptance itself the slots are rewritten by a pass over all rows that skips rows which do
not name the object.  That the pass skips no row it should not is
`refreshSlot_eq_self_of_countSlots`.
-/

namespace ChainProjection

open Store Table

/-- A slot that names a data object names one that is there, with the availability that goes with
its judgement. -/
def Store.SlotFits (s : Store) (slot : Option AssetRef) : Prop :=
  ∀ id availability, slot = some (.dataObject id availability) →
    ∃ object, s.dataObjects[id]? = some object ∧
      availability = object.liaisonJudgement.availability

/-- All four slots fit. -/
structure Store.SlotsFit (s : Store) : Prop where
  channels : Forall (fun _ row ↦ s.SlotFits row.coverPhoto ∧ s.SlotFits row.avatarPhoto) s.channels
  videos : Forall (fun _ row ↦ s.SlotFits row.thumbnailPhoto ∧ s.SlotFits row.media) s.videos

/-- The log has a record that a data object was accepted. -/
def Store.RecordsAcceptance (s : Store) (id : ContentId) : Prop :=
  ∃ record ∈ s.log, ∃ provider, record.data = .contentAccepted id provider

/-- No data object of `s` is missing in `t`, and none that is accepted in `s` is pending in `t`. -/
def Store.KeepsObjects (s t : Store) : Prop :=
  ∀ (id : ContentId) (object : DataObject), s.dataObjects[id]? = some object →
    ∃ object', t.dataObjects[id]? = some object' ∧
      (object.liaisonJudgement = .accepted → object'.liaisonJudgement = .accepted)

variable {s s' t u : Store} {o : Occurrence} {d : EventData} {id : ContentId}

/-! ### Judgements -/

/-- The judgement of an object that is there is the one in its row. -/
theorem Store.judgement_of_found {object : DataObject} (h : s.dataObjects[id]? = some object) :
    s.judgement id = object.liaisonJudgement := by
  rw [judgement, h]

/-- An object is accepted exactly if it is there with this judgement. -/
theorem Store.judgement_eq_accepted :
    s.judgement id = .accepted ↔
      ∃ object, s.dataObjects[id]? = some object ∧ object.liaisonJudgement = .accepted := by
  rcases h : s.dataObjects[id]? with - | object
  · simp [judgement, h]
  · simp [judgement, h]

/-- A slot fits if it repeats the judgement of an object that is there. -/
theorem Store.slotFits_iff {slot : Option AssetRef} :
    s.SlotFits slot ↔ ∀ id availability, slot = some (.dataObject id availability) →
      id ∈ s.dataObjects ∧ availability = (s.judgement id).availability := by
  refine forall₃_congr fun id availability _ ↦ ?_
  rw [Std.ExtTreeMap.mem_iff_isSome_getElem?, Option.isSome_iff_exists]
  constructor
  · rintro ⟨object, found, rfl⟩
    exact ⟨⟨object, found⟩, by rw [judgement_of_found found]⟩
  · rintro ⟨⟨object, found⟩, rfl⟩
    exact ⟨object, found, by rw [judgement_of_found found]⟩

theorem Store.mem_saveDataObject {object : DataObject} :
    id ∈ (s.saveDataObject object).dataObjects ↔ object.id = id ∨ id ∈ s.dataObjects := by
  exact mem_upsert

/-- A data object that is saved has the judgement it is saved with; no other judgement changes. -/
theorem Store.judgement_saveDataObject (s : Store) (object : DataObject) (id : ContentId) :
    (s.saveDataObject object).judgement id =
      if object.id = id then object.liaisonJudgement else s.judgement id := by
  rw [judgement, saveDataObject, getElem?_upsert]
  by_cases heq : object.id = id
  · rw [if_pos heq, if_pos heq]
    cases s.dataObjects[object.id]? <;> rfl
  · rw [if_neg heq, if_neg heq, judgement]

/-! ### Keeping judgements -/

/-- Every data object of `s` is in `t`, and no judgement changes; a new data object is pending, as
one is that is not there. -/
structure Store.KeepsJudgements (s t : Store) : Prop where
  present : ∀ id, id ∈ s.dataObjects → id ∈ t.dataObjects
  judgement : ∀ id, t.judgement id = s.judgement id

namespace Store.KeepsJudgements

/-- What does not write data objects keeps all judgements. -/
theorem of_eq (objects : t.dataObjects = s.dataObjects) : s.KeepsJudgements t where
  present id hid := objects ▸ hid
  judgement id := by rw [Store.judgement, objects, Store.judgement]

theorem trans (h : s.KeepsJudgements t) (h' : t.KeepsJudgements u) : s.KeepsJudgements u where
  present id hid := h'.present id (h.present id hid)
  judgement id := (h'.judgement id).trans (h.judgement id)

/-- A slot that fits still fits. -/
theorem slotFits (h : s.KeepsJudgements t) {slot : Option AssetRef} (hslot : s.SlotFits slot) :
    t.SlotFits slot := by
  rw [slotFits_iff] at hslot ⊢
  intro id availability heq
  obtain ⟨hid, rfl⟩ := hslot id availability heq
  exact ⟨h.present id hid, by rw [h.judgement]⟩

end Store.KeepsJudgements

/-- Going from `s` to `t` registers assets: it keeps all judgements and writes no slot. -/
structure Store.Registers (s t : Store) : Prop extends s.KeepsJudgements t where
  channels : t.channels = s.channels
  videos : t.videos = s.videos

namespace Store.Registers

theorem of_eq (objects : t.dataObjects = s.dataObjects) (channels : t.channels = s.channels)
    (videos : t.videos = s.videos) : s.Registers t :=
  { KeepsJudgements.of_eq objects with channels := channels, videos := videos }

theorem trans (h : s.Registers t) (h' : t.Registers u) : s.Registers u where
  toKeepsJudgements := h.toKeepsJudgements.trans h'.toKeepsJudgements
  channels := h'.channels.trans h.channels
  videos := h'.videos.trans h.videos

/-- **Slots fit on**: nothing that registers assets writes a slot or a judgement. -/
theorem slotsFit (h : s.Registers t) (hs : s.SlotsFit) : t.SlotsFit where
  channels := by
    rw [h.channels]
    exact hs.channels.imp fun _ _ hrow ↦ ⟨h.slotFits hrow.1, h.slotFits hrow.2⟩
  videos := by
    rw [h.videos]
    exact hs.videos.imp fun _ _ hrow ↦ ⟨h.slotFits hrow.1, h.slotFits hrow.2⟩

end Store.Registers

/-- Registering an upload keeps the judgement of an object that is there already; a new object is
pending, as an object is that is not there. -/
theorem Store.registers_withAsset (s : Store) (o : Occurrence) (owner : DataObjectOwner)
    (asset : RawAsset) : s.Registers (s.withAsset o owner asset) := by
  cases asset with
  | urls links => exact .of_eq rfl rfl rfl
  | upload parameters =>
    refine ⟨⟨fun id hid ↦ mem_saveDataObject.2 (Or.inr hid), fun id ↦ ?_⟩, rfl, rfl⟩
    -- Of the object that is saved the judgement is read before it is saved.
    rw [withAsset, judgement_saveDataObject]
    split
    · next heq => rw [← heq]
    · rfl

/-- Registering an asset that may be missing is registering assets. -/
theorem Store.registers_withAsset? (s : Store) (o : Occurrence) (owner : DataObjectOwner)
    (asset : Option RawAsset) : s.Registers (s.withAsset? o owner asset) := by
  cases asset with
  | none => exact .of_eq rfl rfl rfl
  | some asset => exact s.registers_withAsset o owner asset

/-- What a slot is filled with fits once the asset is registered. -/
theorem Store.slotFits_filled {owner : DataObjectOwner} {asset : Option RawAsset}
    {current : Option AssetRef} (h : s.SlotFits current) :
    (s.withAsset? o owner asset).SlotFits (s.filled asset current) := by
  rcases asset with - | links | parameters
  · exact h
  · intro id availability heq
    cases heq
  · rw [slotFits_iff]
    intro id availability heq
    cases heq
    constructor
    · exact mem_saveDataObject.2 (Or.inl rfl)
    · rw [(s.registers_withAsset? o owner (some (.upload parameters))).judgement]

/-! ### Merging -/

theorem LanguageStep.registers {current code language : Option String}
    (h : LanguageStep o s current code language s') : s.Registers s' := by
  cases h with
  | kept => exact .of_eq rfl rfl rfl
  | named valid => exact .of_eq rfl rfl rfl

theorem LicenseStep.registers {current row : Option Nat} {license : Option Metadata.License}
    (h : LicenseStep o s current license row s') : s.Registers s' := by
  cases h with
  | kept => exact .of_eq rfl rfl rfl
  | stored => exact .of_eq rfl rfl rfl

theorem Store.registers_withOwner (s : Store) (o : Occurrence) (owner : ChannelOwner) :
    s.Registers (s.withOwner o owner) := by
  cases owner <;> exact .of_eq rfl rfl rfl

/-- Merging changes into a channel registers their assets. -/
theorem ChannelChanges.Merging.registers {owner : DataObjectOwner} {channel channel' : Channel}
    {changes : Option ChannelChanges} (h : Merging o owner s channel changes channel' s') :
    s.Registers s' := by
  cases h with
  | kept => exact .of_eq rfl rfl rfl
  | merged spoken =>
    exact (spoken.registers.trans (registers_withAsset? ..)).trans (registers_withAsset? ..)

/-- Merging changes into a video registers their assets. -/
theorem VideoChanges.Merging.registers {owner : DataObjectOwner} {video video' : Video}
    {changes : Option VideoChanges} (h : Merging o owner s video changes video' s') :
    s.Registers s' := by
  cases h with
  | kept => exact .of_eq rfl rfl rfl
  | merged spoken licensed pictured =>
    subst pictured
    exact ((spoken.registers.trans licensed.registers).trans (registers_withAsset? ..)).trans
      (registers_withAsset? ..)

/-- Merging changes into a channel leaves its slots fitting. -/
theorem ChannelChanges.Merging.slotsFit {owner : DataObjectOwner} {channel channel' : Channel}
    {changes : Option ChannelChanges} (h : Merging o owner s channel changes channel' s')
    (hcover : s.SlotFits channel.coverPhoto) (havatar : s.SlotFits channel.avatarPhoto) :
    s'.SlotFits channel'.coverPhoto ∧ s'.SlotFits channel'.avatarPhoto := by
  cases h with
  | kept => exact ⟨hcover, havatar⟩
  | @merged changes language t spoken =>
    have hcovered := spoken.registers.trans (t.registers_withAsset? o owner changes.coverPhoto)
    have hfaced := (t.withAsset? o owner changes.coverPhoto).registers_withAsset? o owner
      changes.avatarPhoto
    -- The cover was filled when the store did not have the avatar yet.
    refine ⟨hfaced.slotFits (slotFits_filled ?_), slotFits_filled (hcovered.slotFits havatar)⟩
    exact spoken.registers.slotFits hcover

/-- Merging changes into a video leaves its slots fitting. -/
theorem VideoChanges.Merging.slotsFit {owner : DataObjectOwner} {video video' : Video}
    {changes : Option VideoChanges} (h : Merging o owner s video changes video' s')
    (hthumbnail : s.SlotFits video.thumbnailPhoto) (hmedia : s.SlotFits video.media) :
    s'.SlotFits video'.thumbnailPhoto ∧ s'.SlotFits video'.media := by
  cases h with
  | kept => exact ⟨hthumbnail, hmedia⟩
  | @merged changes language license t u v spoken licensed pictured =>
    subst pictured
    have hbefore := spoken.registers.trans licensed.registers
    have hpictured := hbefore.trans (u.registers_withAsset? o owner changes.thumbnailPhoto)
    have hshown := (u.withAsset? o owner changes.thumbnailPhoto).registers_withAsset? o owner
      changes.media
    refine ⟨hshown.slotFits (slotFits_filled ?_), slotFits_filled (hpictured.slotFits hmedia)⟩
    exact hbefore.slotFits hthumbnail

/-! ### Content events -/

namespace Store.SlotsFit

/-- A channel may be saved if its own two slots fit. -/
theorem saveChannel (h : s.SlotsFit) {channel : Channel} (hcover : s.SlotFits channel.coverPhoto)
    (havatar : s.SlotFits channel.avatarPhoto) : (s.saveChannel channel).SlotsFit where
  channels := h.channels.upsert rfl fun _ ↦ ⟨hcover, havatar⟩
  videos := h.videos

/-- A video may be saved if its own two slots fit. -/
theorem saveVideo (h : s.SlotsFit) {video : Video} (hthumbnail : s.SlotFits video.thumbnailPhoto)
    (hmedia : s.SlotFits video.media) : (s.saveVideo video).SlotsFit where
  channels := h.channels
  videos := h.videos.upsert rfl fun _ ↦ ⟨hthumbnail, hmedia⟩

end Store.SlotsFit

theorem Store.slotFits_none : s.SlotFits none := by
  intro id availability heq
  cases heq

/-- A content event keeps all judgements and leaves all slots fitting. -/
theorem ContentEvent.Step.slotsFit {e : ContentEvent} (step : Step o s e d s') (h : s.SlotsFit) :
    s.KeepsJudgements s' ∧ s'.SlotsFit := by
  cases step with
  | @channelCreated actor id owner _ _ _ _ read merged =>
    -- A new channel starts from empty slots, and an empty slot fits.
    have hreg := (s.registers_withOwner o owner).trans merged.registers
    obtain ⟨hcover, havatar⟩ := merged.slotsFit slotFits_none slotFits_none
    exact ⟨{ hreg with }, (hreg.slotsFit h).saveChannel hcover havatar⟩
  | channelUpdated found asked merged =>
    -- A stored one starts from slots that fit the judgements there were, which the merge keeps.
    obtain ⟨hcover, havatar⟩ := h.channels found
    obtain ⟨hcover, havatar⟩ := merged.slotsFit hcover havatar
    exact ⟨{ merged.registers with }, (merged.registers.slotsFit h).saveChannel hcover havatar⟩
  | channelCensorship found =>
    obtain ⟨hcover, havatar⟩ := h.channels found
    exact ⟨.of_eq rfl, h.saveChannel hcover havatar⟩
  | videoCreated found read merged =>
    obtain ⟨hthumbnail, hmedia⟩ := merged.slotsFit slotFits_none slotFits_none
    exact ⟨{ merged.registers with }, (merged.registers.slotsFit h).saveVideo hthumbnail hmedia⟩
  | videoUpdated found fits asked merged =>
    obtain ⟨hthumbnail, hmedia⟩ := h.videos found
    obtain ⟨hthumbnail, hmedia⟩ := merged.slotsFit hthumbnail hmedia
    exact ⟨{ merged.registers with }, (merged.registers.slotsFit h).saveVideo hthumbnail hmedia⟩
  | videoDeleted => exact ⟨.of_eq rfl, h.channels, h.videos.erase _⟩
  | videoCensorship found fits =>
    obtain ⟨hthumbnail, hmedia⟩ := h.videos found
    exact ⟨.of_eq rfl, h.saveVideo hthumbnail hmedia⟩
  | featuredVideosSet replaced =>
    have hrows := forall_replaceFeatured replaced h.videos fun _ _ _ hrow ↦ hrow
    rw [replaceFeatured_frame replaced]
    exact ⟨.of_eq rfl, h.channels, hrows⟩
  | _ => exact ⟨.of_eq rfl, { h with }⟩

/-! ### Acceptance -/

/-- A row is passed over only if none of its two slots names the object, and then refreshing them
would change nothing. -/
theorem Store.refreshSlot_eq_self_of_countSlots {availability : AssetAvailability}
    {first second : Option AssetRef} (h : countSlots id [first, second] = 0) :
    refreshSlot id availability first = first ∧ refreshSlot id availability second = second := by
  simp only [countSlots, List.countP_eq_zero, List.mem_cons, List.not_mem_nil, or_false,
    Bool.not_eq_true, forall_eq_or_imp, forall_eq] at h
  simp [refreshSlot, h]

theorem Store.refreshChannel_slots (id : ContentId) (availability : AssetAvailability)
    (updatedAt : Int64) (channel : Channel) :
    (refreshChannel id availability updatedAt channel).coverPhoto =
        refreshSlot id availability channel.coverPhoto ∧
      (refreshChannel id availability updatedAt channel).avatarPhoto =
        refreshSlot id availability channel.avatarPhoto := by
  rw [refreshChannel]
  split
  · next hnone => exact (refreshSlot_eq_self_of_countSlots hnone).imp Eq.symm Eq.symm
  · exact ⟨rfl, rfl⟩

theorem Store.refreshVideo_slots (id : ContentId) (availability : AssetAvailability)
    (updatedAt : Int64) (video : Video) :
    (refreshVideo id availability updatedAt video).thumbnailPhoto =
        refreshSlot id availability video.thumbnailPhoto ∧
      (refreshVideo id availability updatedAt video).media =
        refreshSlot id availability video.media := by
  rw [refreshVideo]
  split
  · next hnone => exact (refreshSlot_eq_self_of_countSlots hnone).imp Eq.symm Eq.symm
  · exact ⟨rfl, rfl⟩

/-- When one object is accepted and no other judgement changes, a slot that fitted fits again once
it is refreshed. -/
theorem Store.slotFits_refreshSlot {slot : Option AssetRef} (h : s.SlotFits slot)
    (present : ∀ id, id ∈ s.dataObjects → id ∈ t.dataObjects)
    (judgement : ∀ id', t.judgement id' = if id = id' then .accepted else s.judgement id') :
    t.SlotFits (refreshSlot id .accepted slot) := by
  rw [slotFits_iff] at h ⊢
  intro id' availability heq
  rw [refreshSlot] at heq
  split at heq
  · next hnames =>
    cases heq
    rcases slot with - | links | ⟨id'', availability⟩
    · simp [slotNames] at hnames
    · simp [slotNames, AssetRef.dataObject?] at hnames
    · simp only [slotNames, Option.bind_some, AssetRef.dataObject?, beq_iff_eq,
        Option.some_inj] at hnames
      subst hnames
      exact ⟨present _ (h _ _ rfl).1, by rw [judgement, if_pos rfl]; rfl⟩
  · next hnames =>
    -- The slot names another object, whose judgement did not change.
    obtain ⟨hid, rfl⟩ := h id' availability heq
    have hne : id ≠ id' := by
      rintro rfl
      simp [heq, slotNames, AssetRef.dataObject?] at hnames
    exact ⟨present _ hid, by rw [judgement, if_neg hne]⟩

/-- The acceptance of a data object keeps all data objects. -/
theorem ContentAcceptance.Step.present {acceptance : ContentAcceptance}
    (step : Step o s acceptance d s') (hid : id ∈ s.dataObjects) : id ∈ s'.dataObjects := by
  cases step with
  | accepted found => exact mem_saveDataObject.2 (Or.inr hid)

/-- The acceptance of a data object changes its judgement and no other. -/
theorem ContentAcceptance.Step.judgement {acceptance : ContentAcceptance} (hkeyed : s.Keyed)
    (step : Step o s acceptance d s') (id : ContentId) :
    s'.judgement id = if acceptance.content = id then .accepted else s.judgement id := by
  cases step with
  | @accepted object found =>
    have hid : object.id = acceptance.content := hkeyed.dataObjects found
    rw [← hid]
    exact judgement_saveDataObject s { object with liaisonJudgement := .accepted } id

/-- The acceptance of a data object leaves all slots fitting. -/
theorem ContentAcceptance.Step.slotsFit {acceptance : ContentAcceptance} (hkeyed : s.Keyed)
    (step : Step o s acceptance d s') (h : s.SlotsFit) : s'.SlotsFit := by
  have hpresent (id : ContentId) : id ∈ s.dataObjects → id ∈ s'.dataObjects := step.present
  have hjudgement := step.judgement hkeyed
  cases step with
  | accepted found =>
    refine ⟨h.channels.map fun _ channel hrow ↦ ?_, h.videos.map fun _ video hrow ↦ ?_⟩
    · obtain ⟨hcover, havatar⟩ := refreshChannel_slots acceptance.content .accepted o.timestamp
        channel
      rw [hcover, havatar]
      exact ⟨slotFits_refreshSlot hrow.1 hpresent hjudgement,
        slotFits_refreshSlot hrow.2 hpresent hjudgement⟩
    · obtain ⟨hthumbnail, hmedia⟩ := refreshVideo_slots acceptance.content .accepted o.timestamp
        video
      rw [hthumbnail, hmedia]
      exact ⟨slotFits_refreshSlot hrow.1 hpresent hjudgement,
        slotFits_refreshSlot hrow.2 hpresent hjudgement⟩

/-! ### All events -/

/-- No forum event is recorded as an acceptance. -/
theorem ForumEvent.Step.data_ne {e : ForumEvent} (step : Step o s e d s') (id : ContentId)
    (provider : UInt64) : d ≠ .contentAccepted id provider := by
  cases step <;> exact EventData.noConfusion

/-- No content event is recorded as an acceptance. -/
theorem ContentEvent.Step.data_ne {e : ContentEvent} (step : Step o s e d s') (id : ContentId)
    (provider : UInt64) : d ≠ .contentAccepted id provider := by
  cases step <;> exact EventData.noConfusion

/-- What a step says of data objects: they stay, and the accepted ones are those that were accepted
before and the one whose acceptance it records. -/
theorem Handles.judgement (hkeyed : s.Keyed) (h : s.SlotsFit) (handled : Handles o s d s')
    (id : ContentId) :
    (id ∈ s.dataObjects → id ∈ s'.dataObjects) ∧
      (s'.judgement id = .accepted ↔
        (∃ provider, d = .contentAccepted id provider) ∨ s.judgement id = .accepted) := by
  -- Forum and content events change no judgement and are not recorded as acceptances.
  have hother (hkeeps : s.KeepsJudgements s')
      (hdata : ∀ provider, d ≠ .contentAccepted id provider) :
      (id ∈ s.dataObjects → id ∈ s'.dataObjects) ∧
        (s'.judgement id = .accepted ↔
          (∃ provider, d = .contentAccepted id provider) ∨ s.judgement id = .accepted) := by
    refine ⟨hkeeps.present id, ?_⟩
    rw [hkeeps.judgement, or_iff_right fun ⟨provider, heq⟩ ↦ hdata provider heq]
  rcases handled with ⟨-, -, step⟩ | ⟨-, -, step⟩ | ⟨-, -, step⟩
  · exact hother (.of_eq step.writesForum.dataObjects) (step.data_ne id)
  · exact hother (step.slotsFit h).1 (step.data_ne id)
  · refine ⟨step.present, ?_⟩
    rw [step.judgement hkeyed]
    cases step with
    | accepted found =>
      split
      · next heq =>
        rw [heq]
        exact iff_of_true rfl (Or.inl ⟨_, rfl⟩)
      · next hne =>
        rw [or_iff_right]
        rintro ⟨provider, heq⟩
        cases heq
        exact hne rfl

/-- Every step leaves all slots fitting. -/
theorem Handles.slotsFit (hkeyed : s.Keyed) (h : s.SlotsFit) (handled : Handles o s d s') :
    s'.SlotsFit := by
  rcases handled with ⟨-, -, step⟩ | ⟨-, -, step⟩ | ⟨-, -, step⟩
  · have hwrites := step.writesForum
    exact Registers.slotsFit (.of_eq hwrites.dataObjects hwrites.channels hwrites.videos) h
  · exact (step.slotsFit h).2
  · exact step.slotsFit hkeyed h

namespace Store

variable {admits : Occurrence → Prop}

/-- In a visited store all slots fit. -/
theorem Visited.slotsFit (h : Visited admits s) : s.SlotsFit := by
  induction h with
  | seeded h =>
    rw [h.eq]
    exact ⟨forall_empty, forall_empty⟩
  | event visited _ handled _ ih =>
    have hfit := handled.slotsFit visited.keyed ih
    exact ⟨hfit.channels, hfit.videos⟩
  | cursor _ _ ih => exact ⟨ih.channels, ih.videos⟩

/-- A record on top is one more that can say so. -/
theorem recordsAcceptance_withRecord {record : EventRecord} :
    (t.withRecord record).RecordsAcceptance id ↔
      (∃ provider, record.data = .contentAccepted id provider) ∨ t.RecordsAcceptance id := by
  simp only [RecordsAcceptance, withRecord, List.exists_mem_cons_iff]

/-- In a visited store the accepted data objects are those whose acceptance the log records. -/
theorem Visited.judgement_eq_accepted (h : Visited admits s) (id : ContentId) :
    s.judgement id = .accepted ↔ s.RecordsAcceptance id := by
  induction h with
  | seeded h =>
    rw [h.eq]
    simp [RecordsAcceptance, judgement]
  | @event s t o d visited _ handled _ ih =>
    have hstep := (handled.judgement visited.keyed visited.slotsFit id).2
    have hlog : t.RecordsAcceptance id ↔ s.RecordsAcceptance id := by
      rw [RecordsAcceptance, handled.past_eq.1, RecordsAcceptance]
    rw [recordsAcceptance_withRecord, hlog, ← ih]
    exact hstep
  | cursor _ _ ih => exact ih

namespace KeepsObjects

theorem refl (s : Store) : s.KeepsObjects s :=
  fun _ object found ↦ ⟨object, found, fun h ↦ h⟩

theorem trans (h : s.KeepsObjects t) (h' : t.KeepsObjects u) : s.KeepsObjects u := by
  intro id object found
  obtain ⟨object', found', haccepted⟩ := h id object found
  obtain ⟨object'', found'', haccepted'⟩ := h' id object' found'
  exact ⟨object'', found'', fun heq ↦ haccepted' (haccepted heq)⟩

/-- A step keeps data objects and never takes an acceptance back. -/
theorem of_handles (visited : Visited admits s) (handled : Handles o s d t) : s.KeepsObjects t := by
  intro id object found
  obtain ⟨hpresent, haccepted⟩ := handled.judgement visited.keyed visited.slotsFit id
  have hthere : id ∈ t.dataObjects := by
    refine hpresent ?_
    rw [Std.ExtTreeMap.mem_iff_isSome_getElem?, found]
    rfl
  rw [Std.ExtTreeMap.mem_iff_isSome_getElem?, Option.isSome_iff_exists] at hthere
  obtain ⟨object', found'⟩ := hthere
  rw [judgement_of_found found, judgement_of_found found'] at haccepted
  exact ⟨object', found', fun heq ↦ haccepted.2 (Or.inr heq)⟩

end KeepsObjects

/-- In a reachable store every slot that names a data object names one that is there, with the
availability of its judgement; along every run from there, data objects stay and so do acceptances;
and the accepted data objects are those whose acceptance the log records. -/
theorem slotsFit_and_keepsObjects_of_reachable (h : s.Reachable) :
    s.SlotsFit ∧ (∀ blocks, s.KeepsObjects (s.afterBlocks blocks)) ∧
      ∀ id, (∃ object, s.dataObjects[id]? = some object ∧ object.liaisonJudgement = .accepted) ↔
        s.RecordsAcceptance id := by
  refine ⟨h.visited.slotsFit, fun blocks ↦ ?_, fun id ↦ ?_⟩
  · refine rel_afterBlocks .refl .trans ?_ ?_ h.visited fun _ _ _ _ ↦ trivial
    · intro s t o d visited _ handled _
      have hkeeps : s.KeepsObjects t := .of_handles visited handled
      exact hkeeps
    · intro s number
      exact KeepsObjects.refl s
  · rw [← Store.judgement_eq_accepted, h.visited.judgement_eq_accepted]

/-- An upload as an event brings it, always of the same content id. -/
def coverUpload : Json :=
  .object [("Upload", .object [("content_id", .string "0x01"), ("ipfs_content_id", .string "0x"),
    ("size", .int 1), ("type_id", .int 0)])]

/-- A channel is created with a cover that is accepted, and then takes the same upload for its
avatar. -/
def uploadBlock : Block where
  number := 0
  timestamp := 0
  events := [
    ⟨"content.ChannelCreated", 0, none, [.string "Lead", .int 1,
      .object [("owner", .object [("Member", .int 1)])],
      .object [("assets", .array [coverUpload]), ("meta", .string "0x2800")]]⟩,
    ⟨"storage.ContentAccepted", 1, none, [.string "0x01", .int 0]⟩,
    ⟨"content.ChannelUpdated", 2, none, [.string "Lead", .int 1, .null,
      .object [("assets", .array [coverUpload]), ("new_meta", .string "0x3000")]]⟩]

/-- The store after the upload was accepted and repeated. -/
def uploadStore : Store := afterBlock {} uploadBlock

/-- Both slots of the channel name the accepted data object. -/
theorem slotsFit_and_keepsObjects_of_reachable_uploadStore :
    uploadStore.Reachable ∧
      uploadStore.channels[(⟨"1"⟩ : ChannelId)]?.map (fun row ↦ (row.coverPhoto, row.avatarPhoto)) =
        some (some (.dataObject ⟨"0x01"⟩ .accepted), some (.dataObject ⟨"0x01"⟩ .accepted)) ∧
      uploadStore.SlotsFit ∧ (∀ blocks, uploadStore.KeepsObjects (uploadStore.afterBlocks blocks)) ∧
      ∀ id, (∃ object, uploadStore.dataObjects[id]? = some object ∧
        object.liaisonJudgement = .accepted) ↔ uploadStore.RecordsAcceptance id := by
  have hreachable : uploadStore.Reachable := .block (.seeded .fresh) _ fun _ _ ↦ trivial
  refine ⟨hreachable, ?_, slotsFit_and_keepsObjects_of_reachable hreachable⟩
  decide +kernel

end Store

end ChainProjection
