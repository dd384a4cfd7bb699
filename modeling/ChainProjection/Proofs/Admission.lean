import ChainProjection.Proofs.Checks
import ChainProjection.Proofs.Failures
import ChainProjection.Proofs.Payloads

/-!
# Events with a payload

Which events that create or update a channel or a video succeed.  Everything they can be refused for
is looked at before the first write: that the entity is there, and what the payload refers to.  **So
the condition is one on the store before the event and on the event** (`ContentEvent.AdmittedBy`),
and where it holds, merging the payload succeeds, whatever it writes.

What a payload refers to is data (`PayloadReferences`), and `PayloadReferences.Hold` says that all
of it is there.  A payload that does not read refers to nothing, and so it is always admitted; the
condition must not ask for a message.  Each reference has its own reader in the rules, and each
reader an `exists … iff`; `PayloadReferences.hold_iff` collects them once, for a payload with a
category, a language and two places, which is what channels and videos both have.

The two directions of the result differ in what they need.  From a step to the condition, the
premises of the step are enough (`ChannelChanges.exists_reading_iff`,
`VideoChanges.exists_reading_iff`).  From the condition to a step, a merge has to be shown possible
in a store that is not the one the payload was read in, since a language and a license are written
in between; this is why `Reading.exists_merging` is about every store.

The one thing that is not in the hands of the event is a row that cannot be read.  It does not come
up in runs whose uploads have sizes that fit, and this is all that `admittedBy_of_visited` asks of a
run.
-/

namespace ChainProjection

open Metadata (ChannelMetadata VideoMetadata)
open Projection Store Table

variable {o : Occurrence} {s s' t : Store} {d : EventData} {payload : Bytes}
  {assets : List RawAsset}

/-! ### What a payload refers to -/

/-- What a payload refers to. -/
structure PayloadReferences where
  /-- The number of a category. -/
  category : Option UInt64
  /-- The code of a language. -/
  language : Option String
  /-- Places in the list of assets, one for each slot. -/
  places : List (Option UInt32)

/-- What the payload of a channel refers to. -/
def Metadata.ChannelMetadata.references (m : ChannelMetadata) : PayloadReferences :=
  ⟨m.category, m.language, [m.coverPhoto, m.avatarPhoto]⟩

/-- What the payload of a video refers to. -/
def Metadata.VideoMetadata.references (m : VideoMetadata) : PayloadReferences :=
  ⟨m.category, m.language, [m.thumbnailPhoto, m.video]⟩

/-- All that a payload refers to is there: the category is filed, the language is none or one of the
codes, and the list of assets reaches past every place. -/
structure PayloadReferences.Hold (references : PayloadReferences) (filed : UInt64 → Prop)
    (assets : List RawAsset) : Prop where
  category : ∀ number ∈ references.category, filed number
  language : ∀ code ∈ references.language, code ≠ "" → Language.isCode code = true
  places : ∀ place ∈ references.places, ∀ i ∈ place, i.toNat < assets.length

/-- The payload of a channel does not read, or all that it refers to is there. -/
def Store.AdmitsChannel (s : Store) (payload : Bytes) (assets : List RawAsset) : Prop :=
  ∀ m, Metadata.channel.decode payload.toList = .ok m →
    m.references.Hold (fun n ↦ (Id.ofNumber n : ChannelCategoryId) ∈ s.channelCategories) assets

/-- The payload of a video does not read, or all that it refers to is there. -/
def Store.AdmitsVideo (s : Store) (payload : Bytes) (assets : List RawAsset) : Prop :=
  ∀ m, Metadata.video.decode payload.toList = .ok m →
    m.references.Hold (fun n ↦ (Id.ofNumber n : VideoCategoryId) ∈ s.videoCategories) assets

/-! ### Reading -/

/-- A reference resolves exactly if what it names is found. -/
theorem exists_resolves_iff {ι α : Type} {find : ι → Option α} {reference : Option ι} :
    (∃ x, Resolves find reference x) ↔ ∀ i ∈ reference, (find i).isSome := by
  rcases reference with - | i
  · simp
  · simp [Option.isSome_iff_exists]

/-- A category that a payload names by its number resolves exactly if it is filed under the id made
of the number. -/
theorem exists_resolves_category_iff {entity : Entity}
    {table : Table (Id entity) (ContentCategory entity)} {number : Option UInt64} :
    (∃ row, Resolves (fun n ↦ table[(Id.ofNumber n : Id entity)]?) number row) ↔
      ∀ n ∈ number, (Id.ofNumber n : Id entity) ∈ table := by
  simp only [exists_resolves_iff, Std.ExtTreeMap.mem_iff_isSome_getElem?]

/-- A place resolves exactly if the list of assets reaches past it.  The length itself is no place.
-/
theorem exists_resolves_asset_iff {place : Option UInt32} :
    (∃ asset, Resolves (fun i : UInt32 ↦ assets[i.toNat]?) place asset) ↔
      ∀ i ∈ place, i.toNat < assets.length := by
  simp only [exists_resolves_iff, isSome_getElem?]

/-- A code names a language exactly if it is none, empty or one of the codes. -/
theorem exists_namesLanguage_iff {code : Option String} :
    (∃ language, NamesLanguage code language) ↔
      ∀ text ∈ code, text ≠ "" → Language.isCode text = true := by
  constructor
  · rintro ⟨language, names⟩ text rfl hne
    cases names with
    | empty hempty => exact absurd (String.isEmpty_iff.1 hempty) hne
    | named _ valid => exact (Language.validate_eq_ok.1 valid).1
  · intro h
    rcases code with - | text
    · exact ⟨none, .missing⟩
    · by_cases hempty : text.isEmpty = true
      · exact ⟨none, .empty hempty⟩
      · have hne : text ≠ "" := fun heq ↦ hempty (String.isEmpty_iff.2 heq)
        have hvalid := Language.validate_eq_ok.2 ⟨h text rfl hne, rfl⟩
        exact ⟨some text, .named (Bool.not_eq_true _ ▸ hempty) hvalid⟩

/-- All that a payload with two slots refers to is there exactly if every reference is found. -/
theorem PayloadReferences.hold_iff {entity : Entity}
    {table : Table (Id entity) (ContentCategory entity)} {category : Option UInt64}
    {language : Option String} {first second : Option UInt32} :
    (⟨category, language, [first, second]⟩ : PayloadReferences).Hold
        (fun n ↦ (Id.ofNumber n : Id entity) ∈ table) assets ↔
      (∃ row, Resolves (fun n ↦ table[(Id.ofNumber n : Id entity)]?) category row) ∧
        (∃ named, NamesLanguage language named) ∧
        (∃ asset, Resolves (fun i : UInt32 ↦ assets[i.toNat]?) first asset) ∧
        ∃ asset, Resolves (fun i : UInt32 ↦ assets[i.toNat]?) second asset := by
  rw [exists_resolves_category_iff, exists_namesLanguage_iff, exists_resolves_asset_iff,
    exists_resolves_asset_iff]
  constructor
  · intro h
    obtain ⟨hfirst, hrest⟩ := List.forall_mem_cons.1 h.places
    exact ⟨h.category, h.language, hfirst, List.forall_mem_singleton.1 hrest⟩
  · intro ⟨hcategory, hlanguage, hfirst, hsecond⟩
    refine ⟨hcategory, hlanguage, List.forall_mem_cons.2 ⟨hfirst, ?_⟩⟩
    exact List.forall_mem_singleton.2 hsecond

/-- The payload of a channel is read exactly if it is admitted. -/
theorem ChannelChanges.exists_reading_iff :
    (∃ changes, Reading s payload assets changes) ↔ s.AdmitsChannel payload assets := by
  constructor
  · intro ⟨changes, read⟩ m decoded
    cases read with
    | undecodable undecoded => cases decoded.symm.trans undecoded
    | decoded decoded' filed named covered faced =>
      cases decoded.symm.trans decoded'
      exact PayloadReferences.hold_iff.2 ⟨⟨_, filed⟩, ⟨_, named⟩, ⟨_, covered⟩, _, faced⟩
  · intro admitted
    rcases hdecode : Metadata.channel.decode payload.toList with failure | m
    · exact ⟨none, .undecodable hdecode⟩
    · obtain ⟨⟨category, filed⟩, ⟨language, named⟩, ⟨cover, covered⟩, avatar, faced⟩ :=
        PayloadReferences.hold_iff.1 (admitted m hdecode)
      exact ⟨_, .decoded hdecode filed named covered faced⟩

/-- The payload of a video is read exactly if it is admitted. -/
theorem VideoChanges.exists_reading_iff :
    (∃ changes, Reading s payload assets changes) ↔ s.AdmitsVideo payload assets := by
  constructor
  · intro ⟨changes, read⟩ m decoded
    cases read with
    | undecodable undecoded => cases decoded.symm.trans undecoded
    | decoded decoded' filed named pictured shown =>
      cases decoded.symm.trans decoded'
      exact PayloadReferences.hold_iff.2 ⟨⟨_, filed⟩, ⟨_, named⟩, ⟨_, pictured⟩, _, shown⟩
  · intro admitted
    rcases hdecode : Metadata.video.decode payload.toList with failure | m
    · exact ⟨none, .undecodable hdecode⟩
    · obtain ⟨⟨category, filed⟩, ⟨language, named⟩, ⟨thumbnail, pictured⟩, media, shown⟩ :=
        PayloadReferences.hold_iff.1 (admitted m hdecode)
      exact ⟨_, .decoded hdecode filed named pictured shown⟩

/-- An update of a channel asks for changes exactly if its payload, if there is one, is admitted. -/
theorem ChannelChanges.exists_asked_iff {update : ChannelUpdate} :
    (∃ changes, Asked s update changes) ↔
      ∀ payload ∈ update.payload, s.AdmitsChannel payload (update.assets.getD []) := by
  rcases hpayload : update.payload with - | payload
  · simp [Asked, hpayload]
  · simp [Asked, hpayload, exists_reading_iff]

/-- An update of a video asks for changes exactly if its payload, if there is one, is admitted. -/
theorem VideoChanges.exists_asked_iff {update : VideoUpdate} :
    (∃ changes, Asked s update changes) ↔
      ∀ payload ∈ update.payload, s.AdmitsVideo payload (update.assets.getD []) := by
  rcases hpayload : update.payload with - | payload
  · simp [Asked, hpayload]
  · simp [Asked, hpayload, exists_reading_iff]

/-! ### Merging -/

/-- A language that a payload names can be made known. -/
theorem NamesLanguage.exists_step {code named : Option String} (names : NamesLanguage code named)
    (o : Occurrence) (s : Store) (current : Option String) :
    ∃ language t, LanguageStep o s current named language t := by
  cases names with
  | missing => exact ⟨_, _, .kept⟩
  | empty => exact ⟨_, _, .kept⟩
  | named _ valid =>
    obtain ⟨hcode, rfl⟩ := Language.validate_eq_ok.1 valid
    exact ⟨_, _, .named (Language.validate_eq_ok.2 ⟨hcode, rfl⟩)⟩

/-- A license can be stored whatever it is: none of its fields is checked. -/
theorem exists_licenseStep (o : Occurrence) (s : Store) (current : Option Nat)
    (license : Option Metadata.License) : ∃ row t, LicenseStep o s current license row t := by
  cases license with
  | none => exact ⟨_, _, .kept⟩
  | some license => exact ⟨_, _, .stored⟩

/-- What was read off the payload of a channel can be merged, into any channel and any store. -/
theorem ChannelChanges.Reading.exists_merging {changes : Option ChannelChanges}
    (read : Reading s payload assets changes) (o : Occurrence) (owner : DataObjectOwner) (t : Store)
    (channel : Channel) : ∃ channel' s', Merging o owner t channel changes channel' s' := by
  cases read with
  | undecodable => exact ⟨_, _, .kept⟩
  | decoded decoded filed named covered faced =>
    obtain ⟨language, u, spoken⟩ := named.exists_step o t channel.language
    exact ⟨_, _, .merged spoken⟩

/-- What was read off the payload of a video can be merged, into any video and any store. -/
theorem VideoChanges.Reading.exists_merging {changes : Option VideoChanges}
    (read : Reading s payload assets changes) (o : Occurrence) (owner : DataObjectOwner) (t : Store)
    (video : Video) : ∃ video' s', Merging o owner t video changes video' s' := by
  cases read with
  | undecodable => exact ⟨_, _, .kept⟩
  | @decoded m _ _ _ _ decoded filed named pictured shown =>
    obtain ⟨language, u, spoken⟩ := named.exists_step o t video.language
    -- The language is written first, and the license into the store that has it.
    obtain ⟨license, v, licensed⟩ := exists_licenseStep o u video.license m.license
    exact ⟨_, _, .merged spoken licensed rfl⟩

/-- What an update of a channel asks for can be merged; an update without a payload asks for
nothing. -/
theorem ChannelChanges.Asked.exists_merging {update : ChannelUpdate}
    {changes : Option ChannelChanges} (asked : Asked s update changes) (o : Occurrence)
    (owner : DataObjectOwner) (t : Store) (channel : Channel) :
    ∃ channel' s', Merging o owner t channel changes channel' s' := by
  rw [Asked] at asked
  split at asked
  · subst asked
    exact ⟨_, _, .kept⟩
  · exact asked.exists_merging o owner t channel

/-- What an update of a video asks for can be merged; an update without a payload asks for nothing.
-/
theorem VideoChanges.Asked.exists_merging {update : VideoUpdate} {changes : Option VideoChanges}
    (asked : Asked s update changes) (o : Occurrence) (owner : DataObjectOwner) (t : Store)
    (video : Video) : ∃ video' s', Merging o owner t video changes video' s' := by
  rw [Asked] at asked
  split at asked
  · subst asked
    exact ⟨_, _, .kept⟩
  · exact asked.exists_merging o owner t video

/-! ### Steps -/

namespace ContentEvent

/-- The event is about what a channel or a video says of itself. -/
def Describes : ContentEvent → Prop
  | .channelCreated .. => True
  | .channelUpdated .. => True
  | .videoCreated .. => True
  | .videoUpdated .. => True
  | _ => False

/-- What an event that brings such a payload needs: the channel or the video it is about, and a
payload that is admitted, if there is one. -/
def AdmittedBy (s : Store) : ContentEvent → Prop
  | .channelCreated _ _ _ creation => s.AdmitsChannel creation.payload creation.assets
  | .channelUpdated _ channel update => channel ∈ s.channels ∧
    ∀ payload ∈ update.payload, s.AdmitsChannel payload (update.assets.getD [])
  | .videoCreated _ channel _ creation => channel ∈ s.channels ∧
    s.AdmitsVideo creation.payload creation.assets
  | .videoUpdated _ video update => video ∈ s.videos ∧
    ∀ payload ∈ update.payload, s.AdmitsVideo payload (update.assets.getD [])
  | _ => True

/-- In a store whose videos can be read, such an event takes its step exactly if it is admitted. -/
theorem exists_step_iff {e : ContentEvent} (hsizes : s.SizesFit) (describes : e.Describes) :
    (∃ d s', Step o s e d s') ↔ e.AdmittedBy s := by
  cases e with
  | channelCreated actor id owner creation =>
    rw [AdmittedBy, ← ChannelChanges.exists_reading_iff]
    constructor
    · rintro ⟨d, s', step⟩
      cases step with
      | channelCreated read merged => exact ⟨_, read⟩
    · rintro ⟨changes, read⟩
      obtain ⟨channel, t, merged⟩ := read.exists_merging o (actor.assetOwner id) _ _
      exact ⟨_, _, .channelCreated read merged⟩
  | channelUpdated actor id update =>
    rw [AdmittedBy, ← ChannelChanges.exists_asked_iff, Std.ExtTreeMap.mem_iff_isSome_getElem?,
      Option.isSome_iff_exists]
    constructor
    · rintro ⟨d, s', step⟩
      cases step with
      | channelUpdated found asked merged => exact ⟨⟨_, found⟩, _, asked⟩
    · rintro ⟨⟨row, found⟩, changes, asked⟩
      obtain ⟨channel, t, merged⟩ := asked.exists_merging o (actor.assetOwner id) s row
      exact ⟨_, _, .channelUpdated found asked merged⟩
  | videoCreated actor channel id creation =>
    rw [AdmittedBy, ← VideoChanges.exists_reading_iff, Std.ExtTreeMap.mem_iff_isSome_getElem?,
      Option.isSome_iff_exists]
    constructor
    · rintro ⟨d, s', step⟩
      cases step with
      | videoCreated found read merged => exact ⟨⟨_, found⟩, _, read⟩
    · rintro ⟨⟨row, found⟩, changes, read⟩
      obtain ⟨video, t, merged⟩ := read.exists_merging o (actor.assetOwner row.id) s _
      exact ⟨_, _, .videoCreated found read merged⟩
  | videoUpdated actor id update =>
    rw [AdmittedBy, ← VideoChanges.exists_asked_iff, Std.ExtTreeMap.mem_iff_isSome_getElem?,
      Option.isSome_iff_exists]
    constructor
    · rintro ⟨d, s', step⟩
      cases step with
      | videoUpdated found fits asked merged => exact ⟨⟨_, found⟩, _, asked⟩
    · rintro ⟨⟨row, found⟩, changes, asked⟩
      obtain ⟨video, t, merged⟩ := asked.exists_merging o (actor.assetOwner row.channel) s row
      exact ⟨_, _, .videoUpdated found (hsizes found) asked merged⟩
  | _ => exact describes.elim

end ContentEvent

/-! ### Slots -/

/-- If a place is named, the slot holds the asset at this place. -/
def HoldsNamed (objects : Table ContentId DataObject) (owner : DataObjectOwner)
    (assets : List RawAsset) (place : Option UInt32) (slot : Option AssetRef) : Prop :=
  ∀ i ∈ place, ∃ asset ref,
    assets[i.toNat]? = some asset ∧ slot = some ref ∧ HoldsAsset objects owner asset ref

/-- A slot that was filled from a place holds the asset at this place. -/
theorem FillsSlot.holdsNamed {objects : Table ContentId DataObject} {owner : DataObjectOwner}
    {current slot : Option AssetRef} {place : Option UInt32}
    (h : FillsSlot objects owner assets current place slot) :
    HoldsNamed objects owner assets place slot := by
  rintro i rfl
  cases h with
  | filled named holds => exact ⟨_, _, named, rfl, holds⟩

/-- Every slot of a channel that a payload names holds the asset it names. -/
def Store.FillsChannel (s : Store) (id : ChannelId) (payload : Bytes) (assets : List RawAsset) :
    Prop :=
  ∀ m, Metadata.channel.decode payload.toList = .ok m → ∃ row, s.channels[id]? = some row ∧
    HoldsNamed s.dataObjects (.channel id) assets m.coverPhoto row.coverPhoto ∧
    HoldsNamed s.dataObjects (.channel id) assets m.avatarPhoto row.avatarPhoto

/-- Every slot of a video that a payload names holds the asset it names. -/
def Store.FillsVideo (s : Store) (id : VideoId) (payload : Bytes) (assets : List RawAsset) :
    Prop :=
  ∀ m, Metadata.video.decode payload.toList = .ok m → ∃ row, s.videos[id]? = some row ∧
    HoldsNamed s.dataObjects (.channel row.channel) assets m.thumbnailPhoto row.thumbnailPhoto ∧
    HoldsNamed s.dataObjects (.channel row.channel) assets m.video row.media

namespace ContentEvent

/-- Every slot that the payload of an event names holds the asset it names. -/
def FillsSlots (s : Store) : ContentEvent → Prop
  | .channelCreated _ channel _ creation => s.FillsChannel channel creation.payload creation.assets
  | .channelUpdated _ channel update =>
    ∀ payload ∈ update.payload, s.FillsChannel channel payload (update.assets.getD [])
  | .videoCreated _ _ video creation => s.FillsVideo video creation.payload creation.assets
  | .videoUpdated _ video update =>
    ∀ payload ∈ update.payload, s.FillsVideo video payload (update.assets.getD [])
  | _ => True

/-- A content event that takes its step fills the slots that its payload names. -/
theorem Step.fillsSlots {e : ContentEvent} (hkeyed : s.Keyed) (hnumbered : s.LicensesNumbered)
    (step : Step o s e d s') : e.FillsSlots s' := by
  cases e with
  | channelCreated actor id owner creation =>
    intro m decoded
    cases step with
    | @channelCreated _ _ _ _ changes channel t read merged =>
      have hmerged := merged.mergedInto read hkeyed decoded
      obtain ⟨old, hsaved⟩ : ∃ old : Channel,
          (t.saveChannel channel).channels[id]? = some (old.rewrittenAs channel) :=
        exists_getElem?_upsert t.channels rfl merged.id_eq
      exact ⟨_, hsaved, hmerged.coverPhoto.holdsNamed, hmerged.avatarPhoto.holdsNamed⟩
  | channelUpdated actor id update =>
    intro payload carried m decoded
    obtain ⟨row, row', found, found', updated⟩ := step.updatesChannel hkeyed carried decoded
    have hid : row.id = id := hkeyed.channels found
    subst hid
    exact ⟨row', found', updated.coverPhoto.holdsNamed, updated.avatarPhoto.holdsNamed⟩
  | videoCreated actor channel id creation =>
    intro m decoded
    cases step with
    | @videoCreated _ _ _ _ row changes video t found read merged =>
      have hmerged := merged.mergedInto read hkeyed hnumbered decoded
      obtain ⟨old, hsaved⟩ : ∃ old : Video,
          (t.saveVideo video).videos[id]? = some (old.rewrittenAs video) :=
        exists_getElem?_upsert t.videos rfl merged.id_eq
      refine ⟨_, hsaved, ?_, ?_⟩
      · show HoldsNamed _ (.channel video.channel) _ _ video.thumbnailPhoto
        rw [hmerged.channel]
        exact hmerged.thumbnailPhoto.holdsNamed
      · show HoldsNamed _ (.channel video.channel) _ _ video.media
        rw [hmerged.channel]
        exact hmerged.media.holdsNamed
  | videoUpdated actor id update =>
    intro payload carried m decoded
    obtain ⟨row, row', -, found', updated⟩ :=
      step.updatesVideo hkeyed hnumbered carried decoded
    refine ⟨row', found', ?_, ?_⟩
    · rw [updated.channel]
      exact updated.thumbnailPhoto.holdsNamed
    · rw [updated.channel]
      exact updated.media.holdsNamed
  | _ => trivial

end ContentEvent

/-! ### Events -/

namespace Projection

/-- In a store whose videos can be read, an event that reads as a content event and is not recorded
yet fails with an inconsistency only. -/
theorem isInconsistency_of_fails_event {e : ContentEvent} {error : ProjectionError}
    (hsizes : s.SizesFit) (reads : o.content? = some e) (fresh : s.event? o.id = none)
    (fails : (event o).Fails s error s') : error.IsInconsistency := by
  rcases error with ⟨name, id, number, what⟩ | error
  · trivial
  · exfalso
    cases refusedIn_of_fails_event fails with
    | unreadable needs =>
      obtain ⟨_, _, _, row, -, -, -, found, hsize⟩ := needs
      -- Of all that a block can be refused for, a stored row that is too large is the only thing
      -- that an update of a content entity could meet.
      exact hsize (hsizes found)
    | secondPoll brings =>
      obtain ⟨read, known, -⟩ := Option.bind_eq_some_iff.1 reads
      rw [Occurrence.polled?, Occurrence.forum?_eq_none_of_content known] at brings
      cases brings
    | secondRecord _ recorded => exact event?_eq_none.1 fresh recorded

end Projection

namespace Store

/-- In a run whose uploads fit, an event that is about what a channel or a video says of itself, and
is not recorded yet, succeeds exactly if what it needs is there.  It then has every slot that its
payload names hold the asset at the place named.  If it fails, it fails with an inconsistency. -/
theorem admittedBy_of_visited (h : Visited Occurrence.UploadsFit s) {e : ContentEvent}
    (reads : o.content? = some e) (describes : e.Describes) (fresh : s.event? o.id = none) :
    ((∃ s', (event o).Yields s true s') ↔ e.AdmittedBy s) ∧
      (∀ s', (event o).Yields s true s' → e.FillsSlots s') ∧
      ∀ error s', (event o).Fails s error s' → error.IsInconsistency := by
  simp only [yields_event_of_content reads, fresh, true_and]
  refine ⟨?_, ?_, fun error s' ↦ isInconsistency_of_fails_event h.sizesFit reads fresh⟩
  · rw [← ContentEvent.exists_step_iff h.sizesFit describes]
    constructor
    · rintro ⟨s', d, t, step, rfl⟩
      exact ⟨d, t, step⟩
    · rintro ⟨d, t, step⟩
      exact ⟨_, d, t, step, rfl⟩
  · rintro s' ⟨d, t, step, rfl⟩
    have hfills := step.fillsSlots h.keyed h.licensesNumbered
    cases e <;> exact hfills

/-- An event that brings no assets for a video brings none that are too large. -/
theorem uploadsFit_of_videoAssets_eq_nil
    (hnone : o.content?.map ContentEvent.videoAssets = some []) : o.UploadsFit := by
  intro read e known reads parameters hmem
  rw [Occurrence.content?_eq_some known reads, Option.map_some, Option.some_inj] at hnone
  rw [hnone] at hmem
  cases hmem

/-- A channel and a category for it. -/
def filingBlock : Block where
  number := 0
  timestamp := 0
  events := [
    ⟨"content.ChannelCategoryCreated", 0, none, [.int 3, .null,
      .object [("meta", .string "0x")]]⟩,
    ⟨"content.ChannelCreated", 1, none, [.string "Lead", .int 1,
      .object [("owner", .object [("Member", .int 1)])], .object [("meta", .string "0x")]]⟩]

/-- The store with the two. -/
def filingStore : Store := afterBlock {} filingBlock

/-- The channel is filed and gets a language, and the place of its cover in a list of one asset. -/
def filedAt (cover : String) : Occurrence := .ofEvent 1 1
  ⟨"content.ChannelUpdated", 0, none, [.string "Lead", .int 1, .null,
    .object [("assets", .array [.object [("Urls", .array [.string "u"])]]),
      ("new_meta", .string ("0x38032202656e28" ++ cover))]]⟩

/-- What the update reads as. -/
def filing (cover : UInt8) : ContentEvent :=
  .channelUpdated .lead ⟨"1"⟩ ⟨some [.urls ["u"]],
    some ⟨[0x38, 0x03, 0x22, 0x02, 0x65, 0x6e, 0x28, cover]⟩, none⟩

/-- The first place is taken, and the second one is refused, since it is the length of the list. -/
theorem admittedBy_of_visited_filingStore :
    Visited Occurrence.UploadsFit filingStore ∧
      (filedAt "00").content? = some (filing 0) ∧ (filedAt "01").content? = some (filing 1) ∧
      (∃ s', (event (filedAt "00")).Yields filingStore true s') ∧
      (∀ s', (event (filedAt "00")).Yields filingStore true s' → (filing 0).FillsSlots s') ∧
      (¬∃ s', (event (filedAt "01")).Yields filingStore true s') ∧
      ∀ error s', (event (filedAt "01")).Fails filingStore error s' → error.IsInconsistency := by
  have hfits : ∀ e ∈ filingBlock.events,
      (Occurrence.ofEvent filingBlock.number filingBlock.timestamp e).UploadsFit := by
    have hnone : ∀ e ∈ filingBlock.events, (Occurrence.ofEvent filingBlock.number
        filingBlock.timestamp e).content?.map ContentEvent.videoAssets = some [] := by
      decide +kernel
    intro e he
    exact uploadsFit_of_videoAssets_eq_nil (hnone e he)
  have hreachable : ReachableBy Occurrence.UploadsFit filingStore :=
    .block (.seeded .fresh) filingBlock hfits
  have hfirst : (filedAt "00").content? = some (filing 0) := by decide +kernel
  have hsecond : (filedAt "01").content? = some (filing 1) := by decide +kernel
  have hfresh (cover : String) : filingStore.event? (filedAt cover).id = none := by
    show filingStore.event? (filedAt "").id = none
    decide +kernel
  obtain ⟨hyields, hfills, -⟩ := admittedBy_of_visited hreachable.visited hfirst trivial (hfresh _)
  obtain ⟨hrefused, -, hfails⟩ :=
    admittedBy_of_visited hreachable.visited hsecond trivial (hfresh _)
  refine ⟨hreachable.visited, hfirst, hsecond, hyields.2 ?_, hfills, fun hyields' ↦ ?_, hfails⟩
  · refine ⟨by decide +kernel, ?_⟩
    rintro payload ⟨⟩ m ⟨⟩
    refine ⟨?_, ?_, ?_⟩
    · rintro number ⟨⟩
      decide +kernel
    · rintro code ⟨⟩ -
      decide +kernel
    · refine List.forall_mem_cons.2 ⟨?_, List.forall_mem_singleton.2 ?_⟩
      · rintro i ⟨⟩
        decide
      · rintro i ⟨⟩
  · obtain ⟨-, hadmitted⟩ := hrefused.1 hyields'
    have hcover := (hadmitted _ rfl _ rfl).places (some 1) List.mem_cons_self 1 rfl
    exact absurd hcover (by decide)

end Store

end ChainProjection
