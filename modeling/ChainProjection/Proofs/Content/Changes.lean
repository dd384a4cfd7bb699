import ChainProjection.Projection.Metadata
import ChainProjection.Proofs.Projection.Rows

/-!
# Changes read and merged

What a payload is read as and what becomes of the entity it is merged into.  The two halves are kept
apart because they differ in what they do to a store.

**Reading writes nothing**, so it is a relation between a payload and changes on one store
(`ChannelChanges.Reading`, `VideoChanges.Reading`, with `yields_read` for each).  Every reference in
the payload has to be found, which is said once for all kinds of references by `Resolves`; a payload
that cannot be decoded has no references and asks for no changes.

**Merging writes as it goes**: the language, then the license, then the data objects of the slots.
What it makes of the entity depends on the store at each of these moments, since a data object that
one slot has registered is there for the next one, and its judgement with it.  So the stores are
named one by one in `Merging`, and `yields_applyAny` says that nothing else can happen.

Neither half can be refused by the storage (`not_fails_read_store`, `not_fails_applyAny_store`), and
the parts that cannot fail at all have a rule that says so; the rules for failures of content events
are short because of these.
-/

namespace ChainProjection

open Metadata (CategoryMetadata)

variable {o : Occurrence} {s s' : Store} {error : ProjectionError}

/-! ### Reading -/

/-- A reference that may be missing is found, if it is there. -/
def Resolves {ι α : Type} (find : ι → Option α) (reference : Option ι) (x : Option α) : Prop :=
  reference.map find = x.map some

@[simp]
theorem resolves_none {ι α : Type} {find : ι → Option α} {x : Option α} :
    Resolves find none x ↔ x = none := by
  cases x <;> simp [Resolves]

/-- A reference comes to what it finds, and has to find something. -/
@[simp]
theorem resolves_some {ι α : Type} {find : ι → Option α} {i : ι} {x : Option α} :
    Resolves find (some i) x ↔ ∃ y, find i = some y ∧ x = some y := by
  cases x <;> simp [Resolves]

/-- A reference that resolves is followed. -/
theorem Resolves.eq_bind {ι α : Type} {find : ι → Option α} {reference : Option ι} {x : Option α}
    (h : Resolves find reference x) : x = reference.bind find := by
  rcases reference with - | i
  · exact resolves_none.1 h
  · obtain ⟨y, hy, rfl⟩ := resolves_some.1 h
    exact hy.symm

/-- The language a payload names: none where the code is missing or empty. -/
inductive NamesLanguage : Option String → Option String → Prop
  | missing : NamesLanguage none none
  | empty {code : String} (h : code.isEmpty = true) : NamesLanguage (some code) none
  | named {code code' : String} (h : code.isEmpty = false)
      (valid : Language.validate code = .ok code') : NamesLanguage (some code) (some code')

/-- The name of a category after a payload: one that does not read changes nothing. -/
def nameAfter (schema : Protobuf.Schema CategoryMetadata) (payload : Bytes)
    (current : Option String) : Option String :=
  match schema.decode payload.toList with
  | .ok m => m.name <|> current
  | .error _ => current

namespace Projection

/-- A payload that cannot be decoded is left out and reads as none. -/
@[simp]
theorem yields_readPayload {M : Type} {field : String} {schema : Protobuf.Schema M}
    {payload : Bytes} {message : Option M} :
    (readPayload o field schema payload).Yields s message s' ↔
      message = (schema.decode payload.toList).toOption ∧ s' = s := by
  rcases h : schema.decode payload.toList with failure | m
  · simp [readPayload, h, Except.toOption]
  · simp [readPayload, h, Except.toOption]

/-- No payload fails an event. -/
@[simp]
theorem fails_readPayload {M : Type} {field : String} {schema : Protobuf.Schema M}
    {payload : Bytes} : ¬(readPayload o field schema payload).Fails s error s' := by
  rcases h : schema.decode payload.toList with failure | m <;> simp [readPayload, h]

/-- The name of a category is read off the payload, or stays. -/
@[simp]
theorem yields_changedName {field : String} {schema : Protobuf.Schema CategoryMetadata}
    {payload : Bytes} {current name : Option String} :
    (changedName o field schema payload current).Yields s name s' ↔
      name = nameAfter schema payload current ∧ s' = s := by
  rcases h : schema.decode payload.toList with failure | m
  · simp [changedName, nameAfter, h, Except.toOption, and_assoc]
  · simp [changedName, nameAfter, h, Except.toOption, and_assoc]

@[simp]
theorem fails_changedName {field : String} {schema : Protobuf.Schema CategoryMetadata}
    {payload : Bytes} {current : Option String} :
    ¬(changedName o field schema payload current).Fails s error s' := by
  rcases h : schema.decode payload.toList with failure | m <;>
    simp [changedName, h, Except.toOption]

/-- A code is read as a language, or as none where it is missing or empty. -/
@[simp]
theorem yields_namedLanguage {code language : Option String} :
    (namedLanguage o code).Yields s language s' ↔ NamesLanguage code language ∧ s' = s := by
  cases code with
  | none =>
    simp only [namedLanguage, yields_pure]
    constructor
    · rintro ⟨rfl, rfl⟩
      exact ⟨.missing, rfl⟩
    · rintro ⟨⟨⟩, rfl⟩
      exact ⟨rfl, rfl⟩
  | some code =>
    rw [namedLanguage]
    split
    · next hempty =>
      simp only [yields_pure]
      constructor
      · rintro ⟨rfl, rfl⟩
        exact ⟨.empty hempty, rfl⟩
      · rintro ⟨h, rfl⟩
        cases h with
        | empty => exact ⟨rfl, rfl⟩
        | named hnamed => simp [hempty] at hnamed
    · next hempty =>
      simp only [yields_bind, yields_check, yields_pure]
      constructor
      · rintro ⟨code', _, ⟨valid, rfl⟩, rfl, rfl⟩
        exact ⟨.named (by simpa using hempty) valid, rfl⟩
      · rintro ⟨h, rfl⟩
        cases h with
        | empty hcode => exact absurd hcode hempty
        | named _ valid => exact ⟨_, _, ⟨valid, rfl⟩, rfl, rfl⟩

/-- The storage has no part in reading a code. -/
theorem not_fails_namedLanguage_store {code : Option String} {error : StoreError} :
    ¬(namedLanguage o code).Fails s (.store error) s' := by
  cases code with
  | none => simp [namedLanguage]
  | some code =>
    rw [namedLanguage]
    split <;> simp

/-- What a reference comes to, if following one writes nothing. -/
theorem yields_mapM_of_find {ι α : Type} {f : ι → Projection α} {find : ι → Option α}
    (hf : ∀ i x t, (f i).Yields s x t ↔ find i = some x ∧ t = s) {reference : Option ι}
    {x : Option α} :
    (reference.mapM f).Yields s x s' ↔ Resolves find reference x ∧ s' = s := by
  cases reference with
  | none => simp
  | some i =>
    simp only [Option.mapM_some, yields_map, hf, resolves_some]
    constructor
    · rintro ⟨y, ⟨hy, rfl⟩, rfl⟩
      exact ⟨⟨y, hy, rfl⟩, rfl⟩
    · rintro ⟨⟨y, hy, rfl⟩, rfl⟩
      exact ⟨y, ⟨hy, rfl⟩, rfl⟩

/-- An index is read as the asset at its place in the list that came with the event. -/
@[simp]
theorem yields_mapM_selectAsset {assets : List RawAsset} {index : Option UInt32}
    {asset : Option RawAsset} :
    (index.mapM (selectAsset o assets)).Yields s asset s' ↔
      Resolves (fun i : UInt32 ↦ assets[i.toNat]?) index asset ∧ s' = s :=
  yields_mapM_of_find fun i x t ↦ by simp [selectAsset]

/-- A number is read as the channel category with it. -/
@[simp]
theorem yields_mapM_channelCategory {number : Option UInt64}
    {row : Option (ContentCategory .channelCategory)} :
    (number.mapM fun n ↦ channelCategory o (.ofNumber n)).Yields s row s' ↔
      Resolves (fun n ↦ s.channelCategories[(Id.ofNumber n : ChannelCategoryId)]?) number row ∧
        s' = s :=
  yields_mapM_of_find fun _ _ _ ↦ yields_channelCategory

/-- A number is read as the video category with it. -/
@[simp]
theorem yields_mapM_videoCategory {number : Option UInt64}
    {row : Option (ContentCategory .videoCategory)} :
    (number.mapM fun n ↦ videoCategory o (.ofNumber n)).Yields s row s' ↔
      Resolves (fun n ↦ s.videoCategories[(Id.ofNumber n : VideoCategoryId)]?) number row ∧
        s' = s :=
  yields_mapM_of_find fun _ _ _ ↦ yields_videoCategory

end Projection

/-! ### Slots and languages -/

/-- The judgement of a data object; one that is not there yet is pending. -/
def Store.judgement (s : Store) (id : ContentId) : LiaisonJudgement :=
  match s.dataObjects[id]? with
  | some object => object.liaisonJudgement
  | none => .pending

/-- The store once the data object of an asset is registered, if the asset is an upload. -/
def Store.withAsset (s : Store) (o : Occurrence) (owner : DataObjectOwner) : RawAsset → Store
  | .urls _ => s
  | .upload parameters => s.saveDataObject {
      id := .ofContent parameters.contentId
      owner := owner
      createdInBlock := o.block
      typeId := parameters.typeId
      size := parameters.size
      liaisonJudgement := s.judgement (.ofContent parameters.contentId)
      ipfsContentId := parameters.ipfsContentId.toText }

/-- What a slot is filled with for an asset. -/
def Store.stored (s : Store) : RawAsset → StoredAsset
  | .urls links => ⟨.urls links, none⟩
  | .upload parameters =>
    ⟨.dataObject (.ofContent parameters.contentId)
      (s.judgement (.ofContent parameters.contentId)).availability, some parameters.size⟩

/-- The store once an asset that may be missing is registered. -/
def Store.withAsset? (s : Store) (o : Occurrence) (owner : DataObjectOwner) :
    Option RawAsset → Store
  | none => s
  | some asset => s.withAsset o owner asset

/-- What a slot holds once an asset that may be missing has been put into it. -/
def Store.filled (s : Store) (asset : Option RawAsset) (current : Option AssetRef) :
    Option AssetRef :=
  match asset with
  | none => current
  | some asset => some (s.stored asset).slot

/-- A slot is filled with the new asset or keeps the old one. -/
theorem Store.filled_eq (s : Store) (asset : Option RawAsset) (current : Option AssetRef) :
    s.filled asset current = ((asset.map s.stored).map (·.slot) <|> current) := by
  cases asset <;> simp [Store.filled]

namespace Projection

/-- Links are held as they are; an upload is registered, and the slot shows the judgement it has
already. -/
@[simp]
theorem yields_storeAsset {owner : DataObjectOwner} {asset : RawAsset} {stored : StoredAsset} :
    (storeAsset o owner asset).Yields s stored s' ↔
      stored = s.stored asset ∧ s' = s.withAsset o owner asset := by
  cases asset with
  | urls links => simp [storeAsset, Store.stored, Store.withAsset]
  | upload parameters =>
    rcases h : s.dataObjects[Id.ofContent parameters.contentId]? with - | object
    · simp [storeAsset, Store.stored, Store.withAsset, Store.judgement, h, and_assoc]
    · simp [storeAsset, Store.stored, Store.withAsset, Store.judgement, h, and_assoc]

@[simp]
theorem fails_storeAsset {owner : DataObjectOwner} {asset : RawAsset} :
    ¬(storeAsset o owner asset).Fails s error s' := by
  cases asset with
  | urls links => simp [storeAsset]
  | upload parameters => simp [storeAsset]

@[simp]
theorem yields_mapM_storeAsset {owner : DataObjectOwner} {asset : Option RawAsset}
    {stored : Option StoredAsset} :
    (asset.mapM (storeAsset o owner)).Yields s stored s' ↔
      stored = asset.map s.stored ∧ s' = s.withAsset? o owner asset := by
  cases asset with
  | none => simp [Store.withAsset?]
  | some asset =>
    simp only [Option.mapM_some, yields_map, yields_storeAsset, Store.withAsset?]
    constructor
    · rintro ⟨_, ⟨rfl, rfl⟩, rfl⟩
      exact ⟨rfl, rfl⟩
    · rintro ⟨rfl, rfl⟩
      exact ⟨_, ⟨rfl, rfl⟩, rfl⟩

/-- A slot that no asset is for stays, and so does the store. -/
@[simp]
theorem yields_fillSlot {owner : DataObjectOwner} {asset : Option RawAsset}
    {current slot : Option AssetRef} :
    (fillSlot o owner asset current).Yields s slot s' ↔
      slot = s.filled asset current ∧ s' = s.withAsset? o owner asset := by
  cases asset with
  | none => simp [fillSlot, Store.filled, Store.withAsset?]
  | some asset => simp [fillSlot, Store.filled, Store.withAsset?, and_assoc]

@[simp]
theorem fails_fillSlot {owner : DataObjectOwner} {asset : Option RawAsset}
    {current : Option AssetRef} : ¬(fillSlot o owner asset current).Fails s error s' := by
  cases asset <;> simp [fillSlot]

end Projection

/-- What becomes of the language of an entity: kept, or named and made known. -/
inductive LanguageStep (o : Occurrence) (s : Store) (current : Option String) :
    Option String → Option String → Store → Prop
  | kept : LanguageStep o s current none current s
  | named {code code' : String} (valid : Language.validate code = .ok code') :
      LanguageStep o s current (some code) (some code') (s.ensureLanguage code' o.block)

namespace Projection

/-- A language that is named is made known before the entity takes it on. -/
@[simp]
theorem yields_changedLanguage {code current language : Option String} :
    (changedLanguage o code current).Yields s language s' ↔
      LanguageStep o s current code language s' := by
  cases code with
  | none =>
    simp only [changedLanguage, yields_pure]
    constructor
    · rintro ⟨rfl, rfl⟩
      exact .kept
    · rintro ⟨⟩
      exact ⟨rfl, rfl⟩
  | some code =>
    simp only [changedLanguage, yields_bind, yields_language, yields_pure]
    constructor
    · rintro ⟨code', t, ⟨valid, rfl⟩, rfl, rfl⟩
      exact .named valid
    · intro h
      cases h with
      | named valid => exact ⟨_, _, ⟨valid, rfl⟩, rfl, rfl⟩

theorem not_fails_changedLanguage_store {code current : Option String} {error : StoreError} :
    ¬(changedLanguage o code current).Fails s (.store error) s' := by
  cases code <;> simp [changedLanguage]

end Projection

/-! ### Channels -/

namespace ChannelChanges

open Projection

/-- What a payload of a channel is read as: every reference it makes is found. -/
inductive Reading (s : Store) (payload : Bytes) (assets : List RawAsset) :
    Option ChannelChanges → Prop
  | undecodable {failure : Protobuf.Failure}
      (undecoded : Metadata.channel.decode payload.toList = .error failure) :
      Reading s payload assets none
  | decoded {m : Metadata.ChannelMetadata}
      {category : Option (ContentCategory .channelCategory)} {language : Option String}
      {coverPhoto avatarPhoto : Option RawAsset}
      (decoded : Metadata.channel.decode payload.toList = .ok m)
      (filed : Resolves
        (fun number ↦ s.channelCategories[(Id.ofNumber number : ChannelCategoryId)]?)
        m.category category)
      (named : NamesLanguage m.language language)
      (covered : Resolves (fun i : UInt32 ↦ assets[i.toNat]?) m.coverPhoto coverPhoto)
      (faced : Resolves (fun i : UInt32 ↦ assets[i.toNat]?) m.avatarPhoto avatarPhoto) :
      Reading s payload assets (some {
        title := m.title
        description := m.description
        isPublic := m.isPublic
        language := language
        category := category.map (·.id)
        coverPhoto := coverPhoto
        avatarPhoto := avatarPhoto })

/-- A payload is read exactly in the ways `Reading` allows, and nothing is written. -/
@[simp]
theorem yields_read {payload : Bytes} {assets : List RawAsset}
    {changes : Option ChannelChanges} :
    (read o payload assets).Yields s changes s' ↔ Reading s payload assets changes ∧ s' = s := by
  rcases hdecode : Metadata.channel.decode payload.toList with failure | m
  · simp only [read, yields_bind, yields_readPayload, Except.toOption, hdecode, and_assoc,
      exists_and_left, exists_eq_left, yields_pure, and_congr_left_iff]
    intro _
    constructor
    · rintro rfl
      exact .undecodable hdecode
    · intro h
      cases h with
      | undecodable => rfl
      | decoded hdecode' => simp [hdecode] at hdecode'
  · simp only [read, yields_bind, yields_readPayload, hdecode, Except.toOption, and_assoc,
      exists_and_left, exists_eq_left, yields_mapM_channelCategory, yields_namedLanguage,
      yields_mapM_selectAsset, yields_pure]
    constructor
    · rintro ⟨category, filed, language, named, cover, covered, avatar, faced, rfl, rfl⟩
      exact ⟨.decoded hdecode filed named covered faced, rfl⟩
    · rintro ⟨h, rfl⟩
      cases h with
      | undecodable hdecode' => simp [hdecode] at hdecode'
      | decoded hdecode' filed named covered faced =>
        cases hdecode.symm.trans hdecode'
        exact ⟨_, filed, _, named, _, covered, _, faced, rfl, rfl⟩

theorem not_fails_read_store {payload : Bytes} {assets : List RawAsset} {error : StoreError} :
    ¬(read o payload assets).Fails s (.store error) s' := by
  rcases hdecode : Metadata.channel.decode payload.toList with failure | m
  · simp [read, hdecode, Except.toOption, and_assoc]
  · simp [read, hdecode, Except.toOption, and_assoc, not_fails_namedLanguage_store, selectAsset]

/-- What becomes of a channel, and of the store, when changes are merged into it; without changes
it is kept.  The avatar is stored when the cover is, so both may be one upload. -/
inductive Merging (o : Occurrence) (owner : DataObjectOwner) (s : Store) (channel : Channel) :
    Option ChannelChanges → Channel → Store → Prop
  | kept : Merging o owner s channel none channel s
  | merged {changes : ChannelChanges} {language : Option String} {t : Store}
      (spoken : LanguageStep o s channel.language changes.language language t) :
      Merging o owner s channel (some changes)
        { channel with
          title := changes.title <|> channel.title
          description := changes.description <|> channel.description
          isPublic := changes.isPublic <|> channel.isPublic
          category := changes.category <|> channel.category
          language := language
          coverPhoto := t.filled changes.coverPhoto channel.coverPhoto
          avatarPhoto :=
            (t.withAsset? o owner changes.coverPhoto).filled changes.avatarPhoto
              channel.avatarPhoto }
        ((t.withAsset? o owner changes.coverPhoto).withAsset? o owner changes.avatarPhoto)

/-- Changes to a channel are merged in the one way that `Merging` has for them. -/
theorem yields_apply {changes : ChannelChanges} {owner : DataObjectOwner}
    {channel channel' : Channel} :
    (changes.apply o owner channel).Yields s channel' s' ↔
      Merging o owner s channel (some changes) channel' s' := by
  simp only [apply, yields_bind, yields_changedLanguage, yields_fillSlot, yields_pure, and_assoc,
    exists_and_left, exists_eq_left]
  constructor
  · rintro ⟨language, t, spoken, rfl, rfl⟩
    exact .merged spoken
  · intro h
    cases h with
    | merged spoken => exact ⟨_, _, spoken, rfl, rfl⟩

/-- Changes are merged exactly in the ways `Merging` allows. -/
@[simp]
theorem yields_applyAny {changes : Option ChannelChanges} {owner : DataObjectOwner}
    {channel channel' : Channel} :
    (applyAny changes o owner channel).Yields s channel' s' ↔
      Merging o owner s channel changes channel' s' := by
  cases changes with
  | none =>
    simp only [applyAny, yields_pure]
    constructor
    · rintro ⟨rfl, rfl⟩
      exact .kept
    · rintro ⟨⟩
      exact ⟨rfl, rfl⟩
  | some changes => exact yields_apply

theorem not_fails_applyAny_store {changes : Option ChannelChanges} {owner : DataObjectOwner}
    {channel : Channel} {error : StoreError} :
    ¬(applyAny changes o owner channel).Fails s (.store error) s' := by
  cases changes <;> simp [applyAny, apply, not_fails_changedLanguage_store]

end ChannelChanges

/-! ### Videos -/

/-- What becomes of the license of a video: kept, or stored under a row number of its own. -/
inductive LicenseStep (o : Occurrence) (s : Store) (current : Option Nat) :
    Option Metadata.License → Option Nat → Store → Prop
  | kept : LicenseStep o s current none current s
  | stored {license : Metadata.License} :
      LicenseStep o s current (some license) (some (s.insertLicense license o.block).1)
        (s.insertLicense license o.block).2

namespace VideoChanges

open Projection

/-- A date that cannot be read is left out, and the field is empty then. -/
@[simp]
theorem yields_readDate {date : Option String} {time : Option Int64} :
    (readDate o date).Yields s time s' ↔
      time = date.bind (fun text ↦ (Date.parse text).map Int64.ofInt) ∧ s' = s := by
  cases date with
  | none => simp [readDate]
  | some text => rcases h : Date.parse text with - | millis <;> simp [readDate, h]

/-- No date fails an event. -/
@[simp]
theorem fails_readDate {date : Option String} : ¬(readDate o date).Fails s error s' := by
  cases date with
  | none => simp [readDate]
  | some text => rcases h : Date.parse text with - | millis <;> simp [readDate, h]

/-- What a payload of a video is read as: every reference it makes is found. -/
inductive Reading (s : Store) (payload : Bytes) (assets : List RawAsset) :
    Option VideoChanges → Prop
  | undecodable {failure : Protobuf.Failure}
      (undecoded : Metadata.video.decode payload.toList = .error failure) :
      Reading s payload assets none
  | decoded {m : Metadata.VideoMetadata} {category : Option (ContentCategory .videoCategory)}
      {language : Option String} {thumbnailPhoto media : Option RawAsset}
      (decoded : Metadata.video.decode payload.toList = .ok m)
      (filed : Resolves (fun n ↦ s.videoCategories[(Id.ofNumber n : VideoCategoryId)]?)
        m.category category)
      (named : NamesLanguage m.language language)
      (pictured : Resolves (fun i : UInt32 ↦ assets[i.toNat]?) m.thumbnailPhoto thumbnailPhoto)
      (shown : Resolves (fun i : UInt32 ↦ assets[i.toNat]?) m.video media) :
      Reading s payload assets (some {
        title := m.title
        description := m.description
        duration := m.duration
        language := language
        license := m.license
        category := category.map (·.id)
        thumbnailPhoto := thumbnailPhoto
        media := media
        mediaType := m.mediaType
        mediaPixelWidth := m.mediaPixelWidth
        mediaPixelHeight := m.mediaPixelHeight
        hasMarketing := m.hasMarketing
        isPublic := m.isPublic
        isExplicit := m.isExplicit
        publishedBefore := (m.earlierPublication.bind (·.date)).bind
          fun text ↦ (Date.parse text).map Int64.ofInt })

/-- A payload is read exactly in the ways `Reading` allows, and nothing is written. -/
@[simp]
theorem yields_read {payload : Bytes} {assets : List RawAsset} {changes : Option VideoChanges} :
    (read o payload assets).Yields s changes s' ↔ Reading s payload assets changes ∧ s' = s := by
  rcases hdecode : Metadata.video.decode payload.toList with failure | m
  · simp only [read, yields_bind, yields_readPayload, Except.toOption, hdecode, and_assoc,
      exists_and_left, exists_eq_left, yields_pure, and_congr_left_iff]
    intro _
    constructor
    · rintro rfl
      exact .undecodable hdecode
    · intro h
      cases h with
      | undecodable => rfl
      | decoded hdecode' => simp [hdecode] at hdecode'
  · simp only [read, yields_bind, yields_readPayload, hdecode, Except.toOption, and_assoc,
      exists_and_left, exists_eq_left, yields_mapM_videoCategory, yields_readDate,
      yields_namedLanguage, yields_mapM_selectAsset, yields_pure]
    constructor
    · rintro ⟨category, filed, language, named, thumbnail, pictured, media, shown, rfl, rfl⟩
      exact ⟨.decoded hdecode filed named pictured shown, rfl⟩
    · rintro ⟨h, rfl⟩
      cases h with
      | undecodable hdecode' => simp [hdecode] at hdecode'
      | decoded hdecode' filed named pictured shown =>
        cases hdecode.symm.trans hdecode'
        exact ⟨_, filed, _, named, _, pictured, _, shown, rfl, rfl⟩

theorem not_fails_read_store {payload : Bytes} {assets : List RawAsset} {error : StoreError} :
    ¬(read o payload assets).Fails s (.store error) s' := by
  rcases hdecode : Metadata.video.decode payload.toList with failure | m
  · simp [read, hdecode, Except.toOption, and_assoc]
  · simp [read, hdecode, Except.toOption, and_assoc, not_fails_namedLanguage_store, selectAsset]

/-- A license that comes with a payload gets a row of its own, even if an equal one is stored. -/
@[simp]
theorem yields_changedLicense {license : Option Metadata.License} {current row : Option Nat} :
    (changedLicense o license current).Yields s row s' ↔
      LicenseStep o s current license row s' := by
  cases license with
  | none =>
    simp only [changedLicense, yields_pure]
    constructor
    · rintro ⟨rfl, rfl⟩
      exact .kept
    · rintro ⟨⟩
      exact ⟨rfl, rfl⟩
  | some license =>
    simp only [changedLicense, yields_bind, yields_writeWith, yields_pure, and_assoc,
      exists_and_left, exists_eq_left]
    constructor
    · rintro ⟨rfl, rfl⟩
      exact .stored
    · rintro ⟨⟩
      exact ⟨rfl, rfl⟩

@[simp]
theorem fails_changedLicense {license : Option Metadata.License} {current : Option Nat} :
    ¬(changedLicense o license current).Fails s error s' := by
  cases license <;> simp [changedLicense]

/-- What becomes of a video, and of the store, when changes are merged into it; without changes it
is kept.  The language and the license come first, then the thumbnail, then the media. -/
inductive Merging (o : Occurrence) (owner : DataObjectOwner) (s : Store) (video : Video) :
    Option VideoChanges → Video → Store → Prop
  | kept : Merging o owner s video none video s
  | merged {changes : VideoChanges} {language : Option String} {license : Option Nat}
      {t u v : Store}
      (spoken : LanguageStep o s video.language changes.language language t)
      (licensed : LicenseStep o t video.license changes.license license u)
      (pictured : v = u.withAsset? o owner changes.thumbnailPhoto) :
      Merging o owner s video (some changes)
        { video with
          title := changes.title <|> video.title
          description := changes.description <|> video.description
          duration := changes.duration <|> video.duration
          hasMarketing := changes.hasMarketing <|> video.hasMarketing
          isPublic := changes.isPublic <|> video.isPublic
          isExplicit := changes.isExplicit <|> video.isExplicit
          category := changes.category <|> video.category
          language := language
          license := license
          publishedBefore := changes.publishedBefore
          thumbnailPhoto := u.filled changes.thumbnailPhoto video.thumbnailPhoto
          media := v.filled changes.media video.media
          mediaMetadata :=
            changes.changedMediaMetadata (changes.media.map v.stored) video.mediaMetadata }
        (v.withAsset? o owner changes.media)

/-- Changes to a video are merged in the one way that `Merging` has for them. -/
theorem yields_apply {changes : VideoChanges} {owner : DataObjectOwner} {video video' : Video} :
    (changes.apply o owner video).Yields s video' s' ↔
      Merging o owner s video (some changes) video' s' := by
  simp only [apply, yields_bind, yields_changedLanguage, yields_changedLicense, yields_fillSlot,
    yields_mapM_storeAsset, yields_pure, and_assoc, exists_and_left, exists_eq_left,
    ← Store.filled_eq]
  constructor
  · rintro ⟨language, t, spoken, license, u, licensed, rfl, rfl⟩
    exact .merged spoken licensed rfl
  · intro h
    cases h with
    | merged spoken licensed pictured =>
      subst pictured
      exact ⟨_, _, spoken, _, _, licensed, rfl, rfl⟩

/-- Changes are merged exactly in the ways `Merging` allows. -/
@[simp]
theorem yields_applyAny {changes : Option VideoChanges} {owner : DataObjectOwner}
    {video video' : Video} :
    (applyAny changes o owner video).Yields s video' s' ↔
      Merging o owner s video changes video' s' := by
  cases changes with
  | none =>
    simp only [applyAny, yields_pure]
    constructor
    · rintro ⟨rfl, rfl⟩
      exact .kept
    · rintro ⟨⟩
      exact ⟨rfl, rfl⟩
  | some changes => exact yields_apply

theorem not_fails_applyAny_store {changes : Option VideoChanges} {owner : DataObjectOwner}
    {video : Video} {error : StoreError} :
    ¬(applyAny changes o owner video).Fails s (.store error) s' := by
  cases changes <;> simp [applyAny, apply, not_fails_changedLanguage_store]

end VideoChanges

end ChainProjection
