import ChainProjection.Proofs.Footprints
import ChainProjection.Proofs.Projection.Endings

/-!
# Payloads merged into rows

A payload of a channel or a video says something of a field or nothing, and an update touches what
it says.  **Field by field this is the value of the payload if it has one, and else the value of the
row.**  Three kinds of fields are less plain: an asset comes as a place in a list and turns into
links or a data object (`FillsSlot`), a license comes as a message and turns into the number of a
new row (`TakesLicense`), and an empty language is none.  The date of an earlier publication is
never kept.

The main result for the fields is `updatedBy_of_visited`.  It speaks of three stores, since changes
are read in one and merged into the next: what a slot holds is judged by the store in which all
assets are registered, and a slot that was filled first has to hold its asset still when the second
one is registered (`HoldsAsset.withAsset?`), also if both are one upload.

**The particulars of the media do not follow the rule.**  They are kept as a group, which is there
from the first encoding on; a payload with an encoding replaces all of them, and a payload without
one touches none, whatever dimensions it brings.  `mediaFields_of_visited` has the exact condition
under which this is not the merge.
-/

namespace ChainProjection

open Metadata (ChannelMetadata VideoMetadata)
open Projection Store Table

variable {o : Occurrence} {s s' t : Store} {d : EventData} {owner : DataObjectOwner}
  {payload : Bytes} {assets : List RawAsset}

/-! ### Slots -/

/-- A slot holds an asset: its links, or the data object with its content id, which belongs to the
owner. -/
inductive HoldsAsset (objects : Table ContentId DataObject) (owner : DataObjectOwner) :
    RawAsset → AssetRef → Prop
  | urls {links : List String} : HoldsAsset objects owner (.urls links) (.urls links)
  | upload {parameters : ContentParameters} {object : DataObject}
      (found : objects[Id.ofContent parameters.contentId]? = some object)
      (owned : object.owner = owner) :
      HoldsAsset objects owner (.upload parameters)
        (.dataObject (.ofContent parameters.contentId) object.liaisonJudgement.availability)

/-- A slot after a payload that may name a place: it holds the asset at this place, or what it
held. -/
inductive FillsSlot (objects : Table ContentId DataObject) (owner : DataObjectOwner)
    (assets : List RawAsset) (current : Option AssetRef) : Option UInt32 → Option AssetRef → Prop
  | kept : FillsSlot objects owner assets current none current
  | filled {place : UInt32} {asset : RawAsset} {slot : AssetRef}
      (named : assets[place.toNat]? = some asset) (holds : HoldsAsset objects owner asset slot) :
      FillsSlot objects owner assets current (some place) (some slot)

/-- The data object of an upload that is registered has the owner, and the judgement it had. -/
theorem Store.exists_object_withAsset (s : Store) (o : Occurrence) (owner : DataObjectOwner)
    (parameters : ContentParameters) :
    ∃ object, (s.withAsset o owner (.upload parameters)).dataObjects[
        Id.ofContent parameters.contentId]? = some object ∧
      object.owner = owner ∧
      object.liaisonJudgement = s.judgement (.ofContent parameters.contentId) := by
  refine ⟨_, getElem?_upsert_of_eq rfl, ?_⟩
  -- A data object that was there keeps the block of its creation alone.
  cases s.dataObjects[Id.ofContent parameters.contentId]? <;> exact ⟨rfl, rfl⟩

/-- An asset that is registered is held by the slot it is stored in. -/
theorem Store.holdsAsset_stored (s : Store) (o : Occurrence) (owner : DataObjectOwner)
    (asset : RawAsset) :
    HoldsAsset (s.withAsset o owner asset).dataObjects owner asset (s.stored asset).slot := by
  cases asset with
  | urls links => exact .urls
  | upload parameters =>
    obtain ⟨object, found, owned, hjudgement⟩ := s.exists_object_withAsset o owner parameters
    rw [stored, ← hjudgement]
    exact .upload found owned

/-- A slot still holds its asset once the same owner has another one registered, also if this is an
upload with the same content id. -/
theorem HoldsAsset.withAsset? {asset : RawAsset} {slot : AssetRef}
    (h : HoldsAsset s.dataObjects owner asset slot) (o : Occurrence) (other : Option RawAsset) :
    HoldsAsset (s.withAsset? o owner other).dataObjects owner asset slot := by
  rcases other with - | links | again
  · exact h
  · exact h
  · cases h with
    | urls => exact .urls
    | @upload parameters object found owned =>
      by_cases hid : Id.ofContent again.contentId = Id.ofContent parameters.contentId
      · obtain ⟨object', found', owned', hjudgement⟩ := s.exists_object_withAsset o owner again
        rw [hid] at found' hjudgement
        rw [judgement_of_found found] at hjudgement
        rw [← hjudgement]
        exact .upload found' owned'
      · refine .upload ?_ owned
        rw [Store.withAsset?, withAsset, saveDataObject, getElem?_upsert_of_ne hid]
        exact found

namespace FillsSlot

variable {current slot : Option AssetRef} {place : Option UInt32}

/-- A slot is filled as the payload asks if the asset at the place it names is put into it. -/
theorem of_resolves {asset : Option RawAsset}
    (named : Resolves (fun i : UInt32 ↦ assets[i.toNat]?) place asset) :
    FillsSlot (s.withAsset? o owner asset).dataObjects owner assets current place
      (s.filled asset current) := by
  rcases place with - | i
  · obtain rfl := resolves_none.1 named
    exact .kept
  · obtain ⟨asset, hasset, rfl⟩ := resolves_some.1 named
    exact .filled hasset (s.holdsAsset_stored o owner asset)

/-- A slot that is filled stays so when the same owner has another asset registered. -/
theorem withAsset? (h : FillsSlot s.dataObjects owner assets current place slot) (o : Occurrence)
    (other : Option RawAsset) :
    FillsSlot (s.withAsset? o owner other).dataObjects owner assets current place slot := by
  cases h with
  | kept => exact .kept
  | filled named holds => exact .filled named (holds.withAsset? o other)

end FillsSlot

/-! ### Languages, licenses and categories -/

/-- The language after a payload is the code it names, unless this is empty. -/
theorem LanguageStep.eq_of_names {code named current language : Option String}
    (step : LanguageStep o s current named language s') (names : NamesLanguage code named) :
    language = (code.filter (· ≠ "") <|> current) := by
  cases names with
  | missing =>
    cases step
    rfl
  | @empty code hempty =>
    cases step
    have hcode : code = "" := String.isEmpty_iff.1 hempty
    rw [hcode]
    rfl
  | @named code named hempty valid =>
    obtain ⟨-, hnamed⟩ := Language.validate_eq_ok.1 valid
    have hcode : code ≠ "" := fun heq ↦ by simp [heq] at hempty
    cases step with
    | named again =>
      obtain ⟨-, hagain⟩ := Language.validate_eq_ok.1 again
      rw [hagain, hnamed, Option.filter_some, if_pos (decide_eq_true hcode)]
      rfl

/-- The license of a video after a payload that may bring one: a new row has it, or it is kept. -/
inductive TakesLicense (before after : Table Nat StoredLicense) (block : UInt64)
    (current : Option Nat) : Option Metadata.License → Option Nat → Prop
  | kept : TakesLicense before after block current none current
  | fresh {license : Metadata.License} {number : Nat} (new : number ∉ before)
      (stored : after[number]? = some ⟨license, block⟩) :
      TakesLicense before after block current (some license) (some number)

/-- A license gets a row of its own, under a number that no license has. -/
theorem LicenseStep.takesLicense {current row : Option Nat} {license : Option Metadata.License}
    (step : LicenseStep o s current license row s') (hnumbered : s.LicensesNumbered) :
    TakesLicense s.licenses s'.licenses o.block current license row := by
  cases step with
  | kept => exact .kept
  | stored =>
    refine .fresh (fun hmem ↦ ?_) Std.ExtTreeMap.getElem?_insert_self
    have hle : s.licenseRows + 1 ≤ s.licenseRows := hnumbered _ hmem
    omega

/-- Registering an asset leaves the licenses as they are. -/
theorem Store.licenses_withAsset? (s : Store) (o : Occurrence) (owner : DataObjectOwner)
    (asset : Option RawAsset) : (s.withAsset? o owner asset).licenses = s.licenses := by
  obtain ⟨objects, heq, -⟩ := s.exists_withAsset?_eq o owner asset
  rw [heq]

/-- The category a number refers to stands under the id that the number makes. -/
theorem Resolves.map_id {entity : Entity} {table : Table (Id entity) (ContentCategory entity)}
    {number : Option UInt64} {row : Option (ContentCategory entity)}
    (filed : Resolves (fun n ↦ table[(Id.ofNumber n : Id entity)]?) number row)
    (hkeyed : Forall (fun id row ↦ row.id = id) table) :
    row.map (·.id) = number.map Id.ofNumber := by
  rcases number with - | n
  · obtain rfl := resolves_none.1 filed
    rfl
  · obtain ⟨row, found, rfl⟩ := resolves_some.1 filed
    exact congrArg some (hkeyed found)

/-! ### Particulars of the media -/

/-- The particulars of the media that payloads bring, each on its own. -/
@[ext]
structure MediaFields where
  codecName : Option String := none
  container : Option String := none
  mimeMediaType : Option String := none
  pixelWidth : Option UInt32 := none
  pixelHeight : Option UInt32 := none
  deriving DecidableEq

/-- What a payload says of the media. -/
def Metadata.VideoMetadata.mediaFields (m : VideoMetadata) : MediaFields where
  codecName := m.mediaType.bind (·.codecName)
  container := m.mediaType.bind (·.container)
  mimeMediaType := m.mediaType.bind (·.mimeMediaType)
  pixelWidth := m.mediaPixelWidth
  pixelHeight := m.mediaPixelHeight

/-- What a row says of the media. -/
def Video.mediaFields (row : Video) : MediaFields where
  codecName := row.mediaMetadata.bind (·.codecName)
  container := row.mediaMetadata.bind (·.container)
  mimeMediaType := row.mediaMetadata.bind (·.mimeMediaType)
  pixelWidth := row.mediaMetadata.bind (·.pixelWidth)
  pixelHeight := row.mediaMetadata.bind (·.pixelHeight)

namespace MediaFields

variable {new old : MediaFields}

/-- Merging field by field: a field is the new one, if there is one, and else the old one. -/
def mergedOnto (new old : MediaFields) : MediaFields where
  codecName := new.codecName <|> old.codecName
  container := new.container <|> old.container
  mimeMediaType := new.mimeMediaType <|> old.mimeMediaType
  pixelWidth := new.pixelWidth <|> old.pixelWidth
  pixelHeight := new.pixelHeight <|> old.pixelHeight

/-- The new fields lack one that the old ones have. -/
def Omits (new old : MediaFields) : Prop :=
  new.codecName = none ∧ old.codecName.isSome ∨ new.container = none ∧ old.container.isSome ∨
    new.mimeMediaType = none ∧ old.mimeMediaType.isSome ∨
    new.pixelWidth = none ∧ old.pixelWidth.isSome ∨ new.pixelHeight = none ∧ old.pixelHeight.isSome

/-- The new fields have a dimension that the old ones do not have, or have otherwise. -/
def Resizes (new old : MediaFields) : Prop :=
  new.pixelWidth.isSome ∧ new.pixelWidth ≠ old.pixelWidth ∨
    new.pixelHeight.isSome ∧ new.pixelHeight ≠ old.pixelHeight

/-- Merging is replacing, unless the new fields lack one of the old ones. -/
theorem eq_mergedOnto_iff_not_omits : new = new.mergedOnto old ↔ ¬new.Omits old := by
  have hfield {α : Type} (x y : Option α) : x = (x <|> y) ↔ ¬(x = none ∧ y.isSome) := by
    cases x <;> cases y <;> simp
  rw [MediaFields.ext_iff, mergedOnto, Omits]
  simp only [not_or, ← hfield]

/-- Merging fields without an encoding is keeping the old ones, unless a dimension differs. -/
theorem eq_mergedOnto_iff_not_resizes (hcodec : new.codecName = none)
    (hcontainer : new.container = none) (hmime : new.mimeMediaType = none) :
    old = new.mergedOnto old ↔ ¬new.Resizes old := by
  have hfield (x y : Option UInt32) : y = (x <|> y) ↔ ¬(x.isSome ∧ x ≠ y) := by
    cases x <;> simp [eq_comm]
  rw [MediaFields.ext_iff, mergedOnto, Resizes, hcodec, hcontainer, hmime]
  simp [not_or, ← hfield]

end MediaFields

/-- Changes that were read off a payload replace the particulars of the media by those of the
payload if it has an encoding, and keep them if it has none. -/
theorem VideoChanges.Merging.mediaFields_eq {m : VideoMetadata} {changes : Option VideoChanges}
    {video video' : Video} (merged : Merging o owner t video changes video' s')
    (read : Reading s payload assets changes)
    (decoded : Metadata.video.decode payload.toList = .ok m) :
    video'.mediaMetadata.isSome = (m.mediaType.isSome || video.mediaMetadata.isSome) ∧
      video'.mediaFields = if m.mediaType.isSome then m.mediaFields else video.mediaFields := by
  cases read with
  | undecodable undecoded => cases decoded.symm.trans undecoded
  | decoded decoded' =>
    cases decoded.symm.trans decoded'
    cases merged with
    | merged =>
      rcases htype : m.mediaType with - | mediaType
      · rcases hold : video.mediaMetadata with - | old <;>
          simp [Video.mediaFields, changedMediaMetadata, hold]
      · simp [Video.mediaFields, VideoMetadata.mediaFields, changedMediaMetadata, htype]

/-! ### Merging -/

/-- A channel into which a payload was merged, judged by the store in which its assets are
registered. -/
structure Metadata.ChannelMetadata.MergedInto (m : ChannelMetadata) (s : Store)
    (owner : DataObjectOwner) (assets : List RawAsset) (row row' : Channel) : Prop where
  title : row'.title = (m.title <|> row.title)
  description : row'.description = (m.description <|> row.description)
  isPublic : row'.isPublic = (m.isPublic <|> row.isPublic)
  category : row'.category = (m.category.map Id.ofNumber <|> row.category)
  /-- An empty language is none. -/
  language : row'.language = (m.language.filter (· ≠ "") <|> row.language)
  coverPhoto : FillsSlot s.dataObjects owner assets row.coverPhoto m.coverPhoto row'.coverPhoto
  avatarPhoto : FillsSlot s.dataObjects owner assets row.avatarPhoto m.avatarPhoto row'.avatarPhoto
  id : row'.id = row.id
  owner : row'.owner = row.owner
  isCensored : row'.isCensored = row.isCensored

/-- A video into which a payload was merged on the way from `s` to `s'`. -/
structure Metadata.VideoMetadata.MergedInto (m : VideoMetadata) (s s' : Store) (block : UInt64)
    (owner : DataObjectOwner) (assets : List RawAsset) (row row' : Video) : Prop where
  title : row'.title = (m.title <|> row.title)
  description : row'.description = (m.description <|> row.description)
  duration : row'.duration = (m.duration <|> row.duration)
  hasMarketing : row'.hasMarketing = (m.hasMarketing <|> row.hasMarketing)
  isPublic : row'.isPublic = (m.isPublic <|> row.isPublic)
  isExplicit : row'.isExplicit = (m.isExplicit <|> row.isExplicit)
  category : row'.category = (m.category.map Id.ofNumber <|> row.category)
  /-- An empty language is none. -/
  language : row'.language = (m.language.filter (· ≠ "") <|> row.language)
  license : TakesLicense s.licenses s'.licenses block row.license m.license row'.license
  /-- Whatever the date was, it is now that of the payload, if this has one that can be read. -/
  publishedBefore : row'.publishedBefore =
    (m.earlierPublication.bind (·.date)).bind fun date ↦ (Date.parse date).map Int64.ofInt
  thumbnailPhoto :
    FillsSlot s'.dataObjects owner assets row.thumbnailPhoto m.thumbnailPhoto row'.thumbnailPhoto
  media : FillsSlot s'.dataObjects owner assets row.media m.video row'.media
  /-- Particulars of the media are kept from the first encoding on. -/
  encoded : row'.mediaMetadata.isSome = (m.mediaType.isSome || row.mediaMetadata.isSome)
  /-- An encoding replaces all of them, and without one all of them stay. -/
  mediaFields : row'.mediaFields = if m.mediaType.isSome then m.mediaFields else row.mediaFields
  id : row'.id = row.id
  channel : row'.channel = row.channel
  isCensored : row'.isCensored = row.isCensored
  isFeatured : row'.isFeatured = row.isFeatured

/-- Changes that were read off a payload merge the payload.  They may have been read in an earlier
store than the one in which they are merged. -/
theorem ChannelChanges.Merging.mergedInto {m : ChannelMetadata} {changes : Option ChannelChanges}
    {channel channel' : Channel} (merged : Merging o owner t channel changes channel' s')
    (read : Reading s payload assets changes) (hkeyed : s.Keyed)
    (decoded : Metadata.channel.decode payload.toList = .ok m) :
    m.MergedInto s' owner assets channel channel' := by
  cases read with
  | undecodable undecoded => cases decoded.symm.trans undecoded
  | decoded decoded' filed named covered faced =>
    cases decoded.symm.trans decoded'
    cases merged with
    | merged spoken =>
      exact {
        title := rfl
        description := rfl
        isPublic := rfl
        category := congrArg (· <|> channel.category) (filed.map_id hkeyed.channelCategories)
        language := spoken.eq_of_names named
        coverPhoto := (FillsSlot.of_resolves covered).withAsset? o _
        avatarPhoto := .of_resolves faced
        id := rfl
        owner := rfl
        isCensored := rfl }

/-- Changes that were read off a payload merge the payload. -/
theorem VideoChanges.Merging.mergedInto {m : VideoMetadata} {changes : Option VideoChanges}
    {video video' : Video} (merged : Merging o owner s video changes video' s')
    (read : Reading s payload assets changes) (hkeyed : s.Keyed) (hnumbered : s.LicensesNumbered)
    (decoded : Metadata.video.decode payload.toList = .ok m) :
    m.MergedInto s s' o.block owner assets video video' := by
  obtain ⟨hencoded, hfields⟩ := merged.mediaFields_eq read decoded
  cases read with
  | undecodable undecoded => cases decoded.symm.trans undecoded
  | @decoded _ _ _ thumbnailPhoto media decoded' filed named pictured shown =>
    cases decoded.symm.trans decoded'
    cases merged with
    | @merged _ language license t u v spoken licensed registered =>
      subst registered
      have hspoken : Merges o [] s t := .of_languageStep hnumbered spoken
      have hlicense := licensed.takesLicense hspoken.numbered
      -- The license is written before the slots are filled, and filling them leaves the licenses
      -- alone.
      rw [spoken.licenses_eq, ← u.licenses_withAsset? o owner thumbnailPhoto,
        ← (u.withAsset? o owner thumbnailPhoto).licenses_withAsset? o owner media] at hlicense
      exact {
        title := rfl
        description := rfl
        duration := rfl
        hasMarketing := rfl
        isPublic := rfl
        isExplicit := rfl
        category := congrArg (· <|> video.category) (filed.map_id hkeyed.videoCategories)
        language := spoken.eq_of_names named
        license := hlicense
        publishedBefore := rfl
        thumbnailPhoto := (FillsSlot.of_resolves pictured).withAsset? o _
        media := .of_resolves shown
        encoded := hencoded
        mediaFields := hfields
        id := rfl
        channel := rfl
        isCensored := rfl
        isFeatured := rfl }

/-! ### Updates -/

/-- A channel that an update with a payload has saved. -/
structure Channel.UpdatedBy (row' : Channel) (o : Occurrence) (s' : Store) (update : ChannelUpdate)
    (m : ChannelMetadata) (row : Channel) : Prop
    extends m.MergedInto s' (.channel row.id) (update.assets.getD []) row row' where
  rewardAccount : row'.rewardAccount = (update.rewardAccount <|> row.rewardAccount)
  createdInBlock : row'.createdInBlock = row.createdInBlock
  createdAt : row'.createdAt = row.createdAt
  updatedAt : row'.updatedAt = o.timestamp

/-- A video that an update with a payload has saved. -/
structure Video.UpdatedBy (row' : Video) (o : Occurrence) (s s' : Store) (update : VideoUpdate)
    (m : VideoMetadata) (row : Video) : Prop
    extends m.MergedInto s s' o.block (.channel row.channel) (update.assets.getD []) row row' where
  createdInBlock : row'.createdInBlock = row.createdInBlock
  createdAt : row'.createdAt = row.createdAt
  updatedAt : row'.updatedAt = o.timestamp

/-- No payload changes the reward account; the update does. -/
theorem ChannelChanges.Merging.rewardAccount_eq {channel channel' : Channel}
    {changes : Option ChannelChanges} (merged : Merging o owner s channel changes channel' s') :
    channel'.rewardAccount = channel.rewardAccount := by
  cases merged <;> rfl

namespace ContentEvent

variable {actor : ContentActor}

/-- An update of a channel merges its payload into the row that is there. -/
theorem Step.updatesChannel {id : ChannelId} {update : ChannelUpdate} {m : ChannelMetadata}
    (hkeyed : s.Keyed) (step : Step o s (.channelUpdated actor id update) d s')
    (carried : update.payload = some payload)
    (decoded : Metadata.channel.decode payload.toList = .ok m) :
    ∃ row row', s.channels[id]? = some row ∧ s'.channels[id]? = some row' ∧
      row'.UpdatedBy o s' update m row := by
  cases step with
  | @channelUpdated _ _ _ row channel changes t found asked merged =>
    have read : ChannelChanges.Reading s payload (update.assets.getD []) changes := by
      simpa only [ChannelChanges.Asked, carried] using asked
    have hrow : row.id = id := hkeyed.channels found
    have hkept : t.channels[id]? = some row := merged.registers.channels ▸ found
    have hmerged := merged.mergedInto read hkeyed decoded
    rw [ContentActor.assetOwner, ← hrow] at hmerged
    refine ⟨row, _, found, getElem?_upsert_of_eq (merged.id_eq.trans hrow), ?_⟩
    rw [hkept]
    exact { hmerged with
      rewardAccount := congrArg (update.rewardAccount <|> ·) merged.rewardAccount_eq
      createdInBlock := rfl
      createdAt := rfl
      updatedAt := rfl }

/-- An update of a video merges its payload into the row that is there. -/
theorem Step.updatesVideo {id : VideoId} {update : VideoUpdate} {m : VideoMetadata}
    (hkeyed : s.Keyed) (hnumbered : s.LicensesNumbered)
    (step : Step o s (.videoUpdated actor id update) d s') (carried : update.payload = some payload)
    (decoded : Metadata.video.decode payload.toList = .ok m) :
    ∃ row row', s.loadVideo id = .ok (some row) ∧ s'.videos[id]? = some row' ∧
      row'.UpdatedBy o s s' update m row := by
  cases step with
  | @videoUpdated _ _ _ row video changes t found fits asked merged =>
    have read : VideoChanges.Reading s payload (update.assets.getD []) changes := by
      simpa only [VideoChanges.Asked, carried] using asked
    have hid : video.id = id := merged.id_eq.trans (hkeyed.videos found)
    have hkept : t.videos[id]? = some row := merged.registers.videos ▸ found
    have hloads : s.loadVideo id = .ok (some row) := by
      rw [loadVideo_eq, found]
      exact if_pos fits
    have hmerged := merged.mergedInto read hkeyed hnumbered decoded
    refine ⟨row, _, hloads, getElem?_upsert_of_eq hid, ?_⟩
    rw [hkept]
    exact { hmerged with
      createdInBlock := rfl
      createdAt := rfl
      updatedAt := rfl }

end ContentEvent

namespace Store

/-- An update of a channel that a run meets merges its payload into the row that is there. -/
theorem exists_channelUpdatedBy (h : Visited (fun _ ↦ True) s) (yields : (event o).Yields s true s')
    {actor : ContentActor} {id : ChannelId} {update : ChannelUpdate} {m : ChannelMetadata}
    (reads : o.content? = some (.channelUpdated actor id update))
    (carried : update.payload = some payload)
    (decoded : Metadata.channel.decode payload.toList = .ok m) :
    ∃ row row', s.loadChannel id = .ok (some row) ∧ s'.channels[id]? = some row' ∧
      row'.UpdatedBy o s' update m row := by
  obtain ⟨-, d, t, step, rfl⟩ := (yields_event_of_content reads).1 yields
  obtain ⟨row, row', found, hrow', updated⟩ := step.updatesChannel h.keyed carried decoded
  exact ⟨row, row', by rw [loadChannel_eq, found], hrow', { updated with }⟩

/-- An update of a video that a run meets merges its payload into the row that is there. -/
theorem exists_videoUpdatedBy (h : Visited (fun _ ↦ True) s) (yields : (event o).Yields s true s')
    {actor : ContentActor} {id : VideoId} {update : VideoUpdate} {m : VideoMetadata}
    (reads : o.content? = some (.videoUpdated actor id update))
    (carried : update.payload = some payload)
    (decoded : Metadata.video.decode payload.toList = .ok m) :
    ∃ row row', s.loadVideo id = .ok (some row) ∧ s'.videos[id]? = some row' ∧
      row'.UpdatedBy o s s' update m row := by
  obtain ⟨-, d, t, step, rfl⟩ := (yields_event_of_content reads).1 yields
  obtain ⟨row, row', hloads, hrow', updated⟩ :=
    step.updatesVideo h.keyed h.licensesNumbered carried decoded
  exact ⟨row, row', hloads, hrow', { updated with }⟩

/-- In a store that a run meets, an update with a payload that reads merges the payload into the row
that is there, field by field. -/
theorem updatedBy_of_visited (h : Visited (fun _ ↦ True) s)
    (yields : (event o).Yields s true s') :
    (∀ (actor : ContentActor) (id : ChannelId) (update : ChannelUpdate) (payload : Bytes)
        (m : ChannelMetadata), o.content? = some (.channelUpdated actor id update) →
      update.payload = some payload → Metadata.channel.decode payload.toList = .ok m →
      ∃ row row', s.loadChannel id = .ok (some row) ∧ s'.channels[id]? = some row' ∧
        row'.UpdatedBy o s' update m row) ∧
    ∀ (actor : ContentActor) (id : VideoId) (update : VideoUpdate) (payload : Bytes)
        (m : VideoMetadata), o.content? = some (.videoUpdated actor id update) →
      update.payload = some payload → Metadata.video.decode payload.toList = .ok m →
      ∃ row row', s.loadVideo id = .ok (some row) ∧ s'.videos[id]? = some row' ∧
        row'.UpdatedBy o s s' update m row :=
  ⟨fun _ _ _ _ _ reads carried decoded ↦ exists_channelUpdatedBy h yields reads carried decoded,
    fun _ _ _ _ _ reads carried decoded ↦ exists_videoUpdatedBy h yields reads carried decoded⟩

/-- A channel and a video with a license and a date, each described by a title and more. -/
def describedBlock : Block where
  number := 0
  timestamp := 0
  events := [
    ⟨"content.ChannelCreated", 0, none, [.string "Lead", .int 1,
      .object [("owner", .object [("Member", .int 1)])],
      .object [("meta", .string "0x0a0161120162"), ("reward_account", .string "r")]]⟩,
    ⟨"content.VideoCreated", 1, none, [.string "Lead", .int 1, .int 2, .object [("meta",
      .string "0x0a0161120162520208015a0c120a313937302d30312d3031")]]⟩]

/-- The store with the two. -/
def describedStore : Store := afterBlock {} describedBlock

/-- The channel gets another title and links for its cover. -/
def retitledChannel : Occurrence := .ofEvent 1 7
  ⟨"content.ChannelUpdated", 0, none, [.string "Lead", .int 1, .null,
    .object [("assets", .array [.object [("Urls", .array [.string "u"])]]),
      ("new_meta", .string "0x0a01632800")]]⟩

/-- The video gets another title and license, a language and an upload for its thumbnail. -/
def retitledVideo : Occurrence := .ofEvent 1 7
  ⟨"content.VideoUpdated", 0, none, [.string "Lead", .int 2,
    .object [("assets", .array [coverUpload]),
      ("new_meta", .string "0x0a016320004a02656e52020802")]]⟩

/-- What the payloads bring is there, and of what they do not bring only the date is gone. -/
theorem updatedBy_of_visited_describedStore :
    Visited (fun _ ↦ True) describedStore ∧
      (event retitledChannel).Yields describedStore true
        (event retitledChannel describedStore).store ∧
      (event retitledVideo).Yields describedStore true
        (event retitledVideo describedStore).store ∧
      (∃ row row', describedStore.loadChannel ⟨"1"⟩ = .ok (some row) ∧
        (event retitledChannel describedStore).store.channels[(⟨"1"⟩ : ChannelId)]? = some row' ∧
        row'.title = some "c" ∧ row'.description = row.description ∧
        row'.rewardAccount = row.rewardAccount ∧ row'.coverPhoto = some (.urls ["u"])) ∧
      describedStore.videos[(⟨"2"⟩ : VideoId)]?.bind (·.publishedBefore) = some 0 ∧
      ∃ row row', describedStore.loadVideo ⟨"2"⟩ = .ok (some row) ∧
        (event retitledVideo describedStore).store.videos[(⟨"2"⟩ : VideoId)]? = some row' ∧
        row'.title = some "c" ∧ row'.description = row.description ∧
        row'.language = some "en" ∧ row'.publishedBefore = none ∧
        ∃ number ∉ describedStore.licenses, row'.license = some number := by
  have hreachable : describedStore.Reachable := .block (.seeded .fresh) _ fun _ _ ↦ trivial
  have hchannel : (event retitledChannel).Yields describedStore true
      (event retitledChannel describedStore).store := ⟨by decide +kernel, rfl⟩
  have hvideo : (event retitledVideo).Yields describedStore true
      (event retitledVideo describedStore).store := ⟨by decide +kernel, rfl⟩
  refine ⟨hreachable.visited, hchannel, hvideo, ?_, by decide +kernel, ?_⟩
  · obtain ⟨row, row', hrow, hrow', updated⟩ :=
      (updatedBy_of_visited hreachable.visited hchannel).1 .lead ⟨"1"⟩
        ⟨some [.urls ["u"]], some ⟨[0x0a, 0x01, 0x63, 0x28, 0x00]⟩, none⟩ _
        { title := some "c", coverPhoto := some 0 } (by decide +kernel) rfl rfl
    refine ⟨row, row', hrow, hrow', updated.title, updated.description, updated.rewardAccount, ?_⟩
    have hfills := updated.coverPhoto
    generalize row'.coverPhoto = slot at hfills ⊢
    cases hfills with
    | filled named holds =>
      cases named
      cases holds
      rfl
  · obtain ⟨row, row', hrow, hrow', updated⟩ :=
      (updatedBy_of_visited hreachable.visited hvideo).2 .lead ⟨"2"⟩
        ⟨some [.upload ⟨⟨[1]⟩, 0, 1, ⟨[]⟩⟩],
          some ⟨[0x0a, 0x01, 0x63, 0x20, 0x00, 0x4a, 0x02, 0x65, 0x6e, 0x52, 0x02, 0x08, 0x02]⟩⟩ _
        { title := some "c", thumbnailPhoto := some 0, language := some "en",
          license := some { code := some 2 } } (by decide +kernel) rfl rfl
    refine ⟨row, row', hrow, hrow', updated.title, updated.description, updated.language,
      updated.publishedBefore, ?_⟩
    have htakes := updated.license
    generalize row'.license = number at htakes ⊢
    cases htakes with
    | fresh new => exact ⟨_, new, rfl⟩

/-! ### Where the media are not merged -/

/-- In a store that a run meets, an update of a video with a payload that reads replaces the
particulars of the media if it brings an encoding, and keeps them if it brings none.  That is not
the merge exactly if the encoding comes without a particular that the row has, or a dimension comes
without an encoding and is another one than that of the row. -/
theorem mediaFields_of_visited (h : Visited (fun _ ↦ True) s)
    (yields : (event o).Yields s true s') {actor : ContentActor} {id : VideoId}
    {update : VideoUpdate} {payload : Bytes} {m : VideoMetadata}
    (reads : o.content? = some (.videoUpdated actor id update))
    (carried : update.payload = some payload)
    (decoded : Metadata.video.decode payload.toList = .ok m) :
    ∃ row row', s.loadVideo id = .ok (some row) ∧ s'.videos[id]? = some row' ∧
      row'.mediaMetadata.isSome = (m.mediaType.isSome || row.mediaMetadata.isSome) ∧
      row'.mediaFields = (if m.mediaType.isSome then m.mediaFields else row.mediaFields) ∧
      (row'.mediaFields ≠ m.mediaFields.mergedOnto row.mediaFields ↔
        if m.mediaType.isSome then m.mediaFields.Omits row.mediaFields
        else m.mediaFields.Resizes row.mediaFields) := by
  obtain ⟨row, row', hrow, hrow', updated⟩ := exists_videoUpdatedBy h yields reads carried decoded
  refine ⟨row, row', hrow, hrow', updated.encoded, updated.mediaFields, ?_⟩
  rw [updated.mediaFields]
  rcases htype : m.mediaType with - | mediaType
  · have hnone : m.mediaFields.codecName = none ∧ m.mediaFields.container = none ∧
        m.mediaFields.mimeMediaType = none := by simp [VideoMetadata.mediaFields, htype]
    obtain ⟨hcodec, hcontainer, hmime⟩ := hnone
    have hkept : row.mediaFields = m.mediaFields.mergedOnto row.mediaFields ↔
        ¬m.mediaFields.Resizes row.mediaFields :=
      MediaFields.eq_mergedOnto_iff_not_resizes hcodec hcontainer hmime
    exact (not_congr hkept).trans not_not
  · exact (not_congr MediaFields.eq_mergedOnto_iff_not_omits).trans not_not

/-- A video with an encoding and a width. -/
def measuredBlock : Block where
  number := 0
  timestamp := 0
  events := [
    ⟨"content.ChannelCreated", 0, none, [.string "Lead", .int 1,
      .object [("owner", .object [("Member", .int 1)])], .object [("meta", .string "0x")]]⟩,
    ⟨"content.VideoCreated", 1, none, [.string "Lead", .int 1, .int 2,
      .object [("meta", .string "0x38054200")]]⟩]

/-- The store with the video. -/
def measuredStore : Store := afterBlock {} measuredBlock

/-- An update of the video with a payload. -/
def remeasured (payload : String) : Occurrence := .ofEvent 1 1
  ⟨"content.VideoUpdated", 0, none, [.string "Lead", .int 2,
    .object [("new_meta", .string payload)]]⟩

/-- Another width is dropped if it comes without an encoding, and an encoding without a width
erases the width. -/
theorem mediaFields_of_visited_measuredStore :
    Visited (fun _ ↦ True) measuredStore ∧
      (event (remeasured "0x3806")).Yields measuredStore true
        (event (remeasured "0x3806") measuredStore).store ∧
      (event (remeasured "0x4200")).Yields measuredStore true
        (event (remeasured "0x4200") measuredStore).store ∧
      ∃ row row₁ row₂, measuredStore.loadVideo ⟨"2"⟩ = .ok (some row) ∧
        (event (remeasured "0x3806") measuredStore).store.videos[(⟨"2"⟩ : VideoId)]? = some row₁ ∧
        (event (remeasured "0x4200") measuredStore).store.videos[(⟨"2"⟩ : VideoId)]? = some row₂ ∧
        row.mediaFields = { pixelWidth := some 5 } ∧ row₁.mediaFields = { pixelWidth := some 5 } ∧
        row₂.mediaFields = {} := by
  have hreachable : measuredStore.Reachable := .block (.seeded .fresh) _ fun _ _ ↦ trivial
  have hresized : (event (remeasured "0x3806")).Yields measuredStore true
      (event (remeasured "0x3806") measuredStore).store := ⟨by decide +kernel, rfl⟩
  have hencoded : (event (remeasured "0x4200")).Yields measuredStore true
      (event (remeasured "0x4200") measuredStore).store := ⟨by decide +kernel, rfl⟩
  have hmeasured : measuredStore.videos[(⟨"2"⟩ : VideoId)]?.map (·.mediaFields) =
      some { pixelWidth := some 5 } := by decide +kernel
  have hwidth : (remeasured "0x3806").content? =
      some (.videoUpdated .lead ⟨"2"⟩ ⟨none, some ⟨[0x38, 0x06]⟩⟩) := by decide +kernel
  have hencoding : (remeasured "0x4200").content? =
      some (.videoUpdated .lead ⟨"2"⟩ ⟨none, some ⟨[0x42, 0x00]⟩⟩) := by decide +kernel
  obtain ⟨row, row₁, hrow, hrow₁, -, hkept, -⟩ := mediaFields_of_visited hreachable.visited
    hresized hwidth rfl (m := { mediaPixelWidth := some 6 }) rfl
  obtain ⟨row', row₂, hrow', hrow₂, -, hreplaced, -⟩ := mediaFields_of_visited hreachable.visited
    hencoded hencoding rfl (m := { mediaType := some {} }) rfl
  have hfields : row.mediaFields = { pixelWidth := some 5 } := by
    rwa [((loadVideo_eq_ok _).1 hrow).1, Option.map_some, Option.some_inj] at hmeasured
  exact ⟨hreachable.visited, hresized, hencoded, row, row₁, row₂, hrow, hrow₁, hrow₂, hfields,
    hkept.trans hfields, hreplaced⟩

end Store

end ChainProjection
