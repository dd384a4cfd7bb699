import ChainProjection.Proofs.Admission
import ChainProjection.Proofs.Assets
import ChainProjection.Proofs.Hex
import ChainProjection.Proofs.Projection.Endings
import ChainProjection.Proofs.Text.Utf8

/-!
# Spellings on the wire

A content id comes in two ways, with the upload that registers a data object and with the event that
accepts it, and either may spell it differently.  **The key of the object is made of the bytes and
not of the spelling, at both places**, so an acceptance finds an object exactly if one with these
bytes is registered (`Store.Visited.accepts_iff`), and the spelling of the upload makes no
difference (`ContentParameters.decode_spelled`).

The two ways meet in the store.  An event that puts an upload into a slot has registered its object,
since it holds what it names (`ContentEvent.FillsSlots.mem_dataObjects`), and the object stays along
the run (`Store.Follows.mem_dataObjects`).  The acceptance is described by the spelling it carries
(`Occurrence.Accepts`), with nothing said of how it is read; that it reads at all is part of what is
shown.  An upload that no slot takes is not registered, and so `ContentEvent.Puts` asks for a place
that names it, not only for the asset to be in the list.

Texts are spelled byte strings as well.  They are read out of the bytes of their UTF-8 form, so a
text comes back as it was whatever characters it has (`Occurrence.textParam_eq_of_spelling`).

`Bytes.spellings` states all of this with the facts about spellings themselves, for every byte
string and every text.
-/

namespace ChainProjection

open Projection Store

variable {o : Occurrence} {s s' t : Store} {d : EventData} {spelling : String} {bytes : Bytes}

/-! ### Texts -/

namespace Occurrence

/-- A parameter that spells bytes is read as these bytes. -/
theorem param_eq_of_spelling {i : Nat} (hparam : o.params[i]? = some (.string spelling))
    (hreads : Bytes.ofHex spelling = .ok bytes) (name : String) : o.param i name = .ok bytes := by
  rw [param, paramWith, hparam, Option.getD_some, Wire.decode_bytes, hreads]
  rfl

/-- A parameter that spells the UTF-8 form of a text is read as the text. -/
theorem textParam_eq_of_spelling {i : Nat} {text : String}
    (hparam : o.params[i]? = some (.string spelling))
    (hreads : Bytes.ofHex spelling = .ok ⟨Utf8.encode text⟩) (name : String) :
    o.textParam i name = .ok text := by
  rw [textParam, param_eq_of_spelling hparam hreads]
  exact congrArg Except.ok (Utf8.decodeLossy_encode text)

/-- The occurrence accepts the data object whose content id is spelled so. -/
structure Accepts (o : Occurrence) (spelling : String) : Prop where
  name : o.name = "storage.ContentAccepted"
  content : o.params[0]? = some (.string spelling)
  provider : ∃ provider : UInt64, o.param 1 "storage_provider_id" = .ok provider

end Occurrence

/-! ### Uploads -/

/-- An upload as an event brings it, with its content id in some spelling. -/
def ContentParameters.spelled (p : ContentParameters) (spelling : String) : Json :=
  Json.ofVariant "Upload" <| Json.ofMembers [
    ("content_id", .string spelling),
    ("type_id", Wire.encode p.typeId),
    ("size", Wire.encode p.size),
    ("ipfs_content_id", Wire.encode p.ipfsContentId)]

/-- An upload is read with the bytes of its content id, however they are spelled. -/
theorem ContentParameters.decode_spelled {p : ContentParameters}
    (hreads : Bytes.ofHex spelling = .ok p.contentId) :
    Wire.decode (p.spelled spelling) = .ok (RawAsset.upload p) := by
  have hcontent : (Wire.decode (.string spelling) : Except Json.DecodeError Bytes) =
      .ok p.contentId := by
    rw [Wire.decode_bytes, hreads]
    rfl
  have hparameters : Wire.decode (Json.ofMembers [("content_id", .string spelling),
      ("type_id", Wire.encode p.typeId), ("size", Wire.encode p.size),
      ("ipfs_content_id", Wire.encode p.ipfsContentId)]) = .ok p :=
    Json.Fields.struct_ofMembers (by simp) <|
      ((((Json.Fields.reads_field rfl hcontent).map _).seq (Wire.reads_required rfl)).seq
        (Wire.reads_required rfl)).seq (Wire.reads_required rfl)
  have hvariant : (Wire.decode (p.spelled spelling) : Except Json.DecodeError RawAsset) = _ :=
    Wire.variants_ofVariant rfl
  rw [hvariant, Json.Payload.decode, hparameters]
  rfl

/-- A payload names the place of an asset in the list that comes with it. -/
def PayloadReferences.Name (references : PayloadReferences) (assets : List RawAsset)
    (asset : RawAsset) : Prop :=
  ∃ i, some i ∈ references.places ∧ assets[i.toNat]? = some asset

namespace ContentEvent

/-- The event puts an asset into a slot: its payload names the asset. -/
def Puts (asset : RawAsset) : ContentEvent → Prop
  | .channelCreated _ _ _ creation => ∃ m,
    Metadata.channel.decode creation.payload.toList = .ok m ∧
      m.references.Name creation.assets asset
  | .channelUpdated _ _ update => ∃ payload ∈ update.payload, ∃ m,
    Metadata.channel.decode payload.toList = .ok m ∧
      m.references.Name (update.assets.getD []) asset
  | .videoCreated _ _ _ creation => ∃ m,
    Metadata.video.decode creation.payload.toList = .ok m ∧
      m.references.Name creation.assets asset
  | .videoUpdated _ _ update => ∃ payload ∈ update.payload, ∃ m,
    Metadata.video.decode payload.toList = .ok m ∧
      m.references.Name (update.assets.getD []) asset
  | _ => False

end ContentEvent

/-- If a slot holds the asset that is named, and the asset is an upload, its data object is there.
-/
theorem HoldsNamed.mem_dataObjects {owner : DataObjectOwner} {assets : List RawAsset}
    {slot : Option AssetRef} {i : UInt32} {p : ContentParameters}
    (h : HoldsNamed s.dataObjects owner assets (some i) slot)
    (named : assets[i.toNat]? = some (.upload p)) : Id.ofContent p.contentId ∈ s.dataObjects := by
  obtain ⟨asset, ref, named', -, holds⟩ := h i rfl
  cases named.symm.trans named'
  cases holds with
  | upload found => exact Std.ExtTreeMap.mem_iff_isSome_getElem?.2 (by rw [found]; rfl)

/-- The uploads that the payload of a channel names are registered, if its slots are filled. -/
theorem Store.FillsChannel.mem_dataObjects {id : ChannelId} {payload : Bytes}
    {assets : List RawAsset} {m : Metadata.ChannelMetadata} {p : ContentParameters}
    (h : s.FillsChannel id payload assets)
    (decoded : Metadata.channel.decode payload.toList = .ok m)
    (named : m.references.Name assets (.upload p)) : Id.ofContent p.contentId ∈ s.dataObjects := by
  obtain ⟨row, -, hcover, havatar⟩ := h m decoded
  obtain ⟨i, hplace, hasset⟩ := named
  rw [Metadata.ChannelMetadata.references, List.mem_pair] at hplace
  rcases hplace with heq | heq
  · exact (heq ▸ hcover).mem_dataObjects hasset
  · exact (heq ▸ havatar).mem_dataObjects hasset

/-- The uploads that the payload of a video names are registered, if its slots are filled. -/
theorem Store.FillsVideo.mem_dataObjects {id : VideoId} {payload : Bytes}
    {assets : List RawAsset} {m : Metadata.VideoMetadata} {p : ContentParameters}
    (h : s.FillsVideo id payload assets) (decoded : Metadata.video.decode payload.toList = .ok m)
    (named : m.references.Name assets (.upload p)) : Id.ofContent p.contentId ∈ s.dataObjects := by
  obtain ⟨row, -, hthumbnail, hmedia⟩ := h m decoded
  obtain ⟨i, hplace, hasset⟩ := named
  rw [Metadata.VideoMetadata.references, List.mem_pair] at hplace
  rcases hplace with heq | heq
  · exact (heq ▸ hthumbnail).mem_dataObjects hasset
  · exact (heq ▸ hmedia).mem_dataObjects hasset

/-- An event that fills the slots its payload names has registered the uploads among the assets. -/
theorem ContentEvent.FillsSlots.mem_dataObjects {e : ContentEvent} {p : ContentParameters}
    (h : e.FillsSlots s) (puts : e.Puts (.upload p)) :
    Id.ofContent p.contentId ∈ s.dataObjects := by
  cases e with
  | channelCreated =>
    obtain ⟨m, decoded, named⟩ := puts
    exact Store.FillsChannel.mem_dataObjects h decoded named
  | channelUpdated =>
    obtain ⟨payload, carried, m, decoded, named⟩ := puts
    exact Store.FillsChannel.mem_dataObjects (h payload carried) decoded named
  | videoCreated =>
    obtain ⟨m, decoded, named⟩ := puts
    exact Store.FillsVideo.mem_dataObjects h decoded named
  | videoUpdated =>
    obtain ⟨payload, carried, m, decoded, named⟩ := puts
    exact Store.FillsVideo.mem_dataObjects (h payload carried) decoded named
  | _ => exact puts.elim

namespace Store

variable {admits : Occurrence → Prop}

/-- An event that puts an upload into a slot leaves its data object registered. -/
theorem Visited.mem_dataObjects_of_puts {e : ContentEvent} {p : ContentParameters}
    (h : Visited admits s) (reads : o.content? = some e) (puts : e.Puts (.upload p))
    (yields : (Projection.event o).Yields s true s') :
    Id.ofContent p.contentId ∈ s'.dataObjects := by
  obtain ⟨-, d, t, step, rfl⟩ := (yields_event_of_content reads).1 yields
  have hfills := step.fillsSlots h.keyed h.licensesNumbered
  exact hfills.mem_dataObjects puts

/-- The store that an event of a known name leaves is visited. -/
theorem Visited.of_yields (h : Visited (fun _ ↦ True) s)
    (yields : (Projection.event o).Yields s true s') : Visited (fun _ ↦ True) s' := by
  rcases yields_event.1 yields with ⟨heq, -⟩ | ⟨-, -, d, t, handled, fresh, rfl⟩
  · cases heq
  · exact .event h trivial handled fresh

/-- A data object that is registered stays so along a run. -/
theorem Follows.mem_dataObjects {id : ContentId} (h : Follows admits s t)
    (hs : Visited (fun _ ↦ True) s) (hid : id ∈ s.dataObjects) : id ∈ t.dataObjects := by
  induction h with
  | refl => exact hid
  | event h _ handled _ ih =>
    have hvisited := h.visited hs
    exact (handled.judgement hvisited.keyed hvisited.slotsFit id).1 ih
  | cursor _ _ ih => exact ih

end Store

/-! ### Acceptance -/

namespace Projection

/-- The acceptance of spelled bytes, if it is not recorded yet, succeeds in the step of the content
id that is made of these bytes. -/
theorem yields_event_of_accepts (accepts : o.Accepts spelling)
    (hreads : Bytes.ofHex spelling = .ok bytes) (fresh : s.event? o.id = none) :
    ∃ provider, ∀ s', (event o).Yields s true s' ↔ ∃ d t,
      ContentAcceptance.Step o s ⟨Id.ofContent bytes, provider⟩ d t ∧
        s' = t.withRecord (o.record d) := by
  obtain ⟨provider, hprovider⟩ := accepts.provider
  have hcontent : o.param 0 "content_id" = .ok bytes :=
    Occurrence.param_eq_of_spelling accepts.content hreads _
  obtain ⟨read, known, hread⟩ : ∃ read, ContentAcceptance.reader? o.name = some read ∧
      read o = .ok ⟨Id.ofContent bytes, provider⟩ := by
    rw [accepts.name]
    refine ⟨_, rfl, ?_⟩
    simp only [hcontent, hprovider]
    rfl
  refine ⟨provider, fun s' ↦ ?_⟩
  rw [yields_event]
  constructor
  · rintro (⟨heq, -⟩ | ⟨-, -, d, t, handled, -, rfl⟩)
    · cases heq
    -- The name decides which of the three handlers it is.
    rcases handled with ⟨known', -, -⟩ | ⟨known', -, -⟩ | ⟨known', hread', step⟩
    · rw [ContentAcceptance.reader?_eq_none known'] at known
      cases known
    · rw [ContentAcceptance.reader?_eq_none_of_content known'] at known
      cases known
    · cases known.symm.trans known'
      cases hread.symm.trans hread'
      exact ⟨d, t, step, rfl⟩
  · rintro ⟨d, t, step, rfl⟩
    have hhandled : Handles o s d t := .acceptance known hread step
    refine Or.inr ⟨rfl, ?_, d, t, hhandled, ?_, rfl⟩
    · rw [handler?, known, ForumEvent.reader?_eq_none_of_acceptance known]
      cases ContentEvent.reader? o.name <;> rfl
    · rw [event?, hhandled.past_eq.1]
      exact fresh

end Projection

namespace Store

/-- An acceptance that is not recorded yet succeeds exactly if a data object with the bytes it
spells is registered, and then this is the object it accepts. -/
theorem Visited.accepts_iff {admits : Occurrence → Prop} (h : Visited admits s)
    (accepts : o.Accepts spelling) (hreads : Bytes.ofHex spelling = .ok bytes)
    (fresh : s.event? o.id = none) :
    ((∃ s', (Projection.event o).Yields s true s') ↔ Id.ofContent bytes ∈ s.dataObjects) ∧
      ∀ s', (Projection.event o).Yields s true s' →
        s'.judgement (Id.ofContent bytes) = .accepted := by
  obtain ⟨provider, hyields⟩ := yields_event_of_accepts accepts hreads fresh
  simp only [hyields]
  refine ⟨?_, ?_⟩
  · rw [Std.ExtTreeMap.mem_iff_isSome_getElem?, Option.isSome_iff_exists]
    constructor
    · rintro ⟨s', d, t, step, rfl⟩
      cases step with
      | accepted found => exact ⟨_, found⟩
    · rintro ⟨object, found⟩
      exact ⟨_, _, _, .accepted found, rfl⟩
  · rintro s' ⟨d, t, step, rfl⟩
    have hjudgement := step.judgement h.keyed (Id.ofContent bytes)
    rw [if_pos rfl] at hjudgement
    exact hjudgement

end Store

/-! ### All of it -/

/-- What is written is read back.  Every text has digits, the rest of it behind all markers; it is
read exactly if these are an even number of hexadecimal digits, and is then written with the digits
in lower case.  Two spellings are one content id exactly if they are the same bytes, and so if their
digits are the same but for the case.  A parameter that spells the UTF-8 form of a text is the text.
An acceptance finds a data object exactly if one with the bytes that it spells is registered; so it
finds every object that an event put into a slot before, in whatever spelling this event brought the
bytes. -/
theorem Bytes.spellings :
    (∀ bytes : Bytes, ofHex bytes.toHex = .ok bytes) ∧
    (∀ text, ∃ digits, Spells text digits ∧ (∀ digits', Spells text digits' → digits' = digits) ∧
      ((∃ bytes, ofHex text = .ok bytes) ↔
        digits.length % 2 = 0 ∧ ∀ c ∈ digits, Hex.IsDigit c) ∧
      ∀ bytes, ofHex text = .ok bytes →
        bytes.toHex = "0x" ++ String.ofList (digits.map Char.toLower)) ∧
    (∀ text text' bytes bytes', ofHex text = .ok bytes → ofHex text' = .ok bytes' →
      (Id.ofContent bytes = Id.ofContent bytes' ↔ bytes = bytes') ∧
      ∀ digits digits', Spells text digits → Spells text' digits' →
        (bytes = bytes' ↔ digits.map Char.toLower = digits'.map Char.toLower)) ∧
    (∀ (o : Occurrence) (i : Nat) (name spelling text : String),
      o.params[i]? = some (.string spelling) → ofHex spelling = .ok ⟨Utf8.encode text⟩ →
        o.textParam i name = .ok text) ∧
    (∀ (t : Store) (o : Occurrence) (spelling : String) (bytes : Bytes),
      Visited (fun _ ↦ True) t → o.Accepts spelling → ofHex spelling = .ok bytes →
        t.event? o.id = none →
          ((∃ t', (event o).Yields t true t') ↔ Id.ofContent bytes ∈ t.dataObjects) ∧
          ∀ t', (event o).Yields t true t' → t'.judgement (Id.ofContent bytes) = .accepted) ∧
    ∀ (s s' t : Store) (o : Occurrence) (e : ContentEvent) (p : ContentParameters)
      (spelling : String) (asset : RawAsset),
      Visited (fun _ ↦ True) s → ofHex spelling = .ok p.contentId →
        Wire.decode (p.spelled spelling) = .ok asset → o.content? = some e → e.Puts asset →
        (event o).Yields s true s' → Follows (fun _ ↦ True) s' t →
          ∀ (o' : Occurrence) (spelling' : String), o'.Accepts spelling' →
            ofHex spelling' = .ok p.contentId → t.event? o'.id = none →
              ∃ t', (event o').Yields t true t' ∧
                t'.judgement (Id.ofContent p.contentId) = .accepted := by
  refine ⟨ofHex_toHex, fun text ↦ ?_, fun _ _ _ _ reads reads' ↦ ⟨Id.ofContent_inj,
      fun _ _ h h' ↦ eq_iff_map_toLower h h' reads reads'⟩,
    fun _ _ name _ _ hparam hreads ↦ Occurrence.textParam_eq_of_spelling hparam hreads name,
    fun _ _ _ _ visited accepts hreads fresh ↦ visited.accepts_iff accepts hreads fresh, ?_⟩
  · have hspells := spells_dropMarkers text
    refine ⟨_, hspells, fun digits h ↦ h.dropMarkers_eq.symm, ?_, fun bytes hreads ↦ ?_⟩
    · exact exists_ofHex_iff hspells
    · exact ((ofHex_eq_ok_iff hspells).1 hreads).2.2
  · intro s s' t o e p spelling asset visited hreads decoded reads puts yields follows o' spelling'
      accepts hreads' fresh
    cases (ContentParameters.decode_spelled hreads).symm.trans decoded
    have hregistered := visited.mem_dataObjects_of_puts reads puts yields
    have hvisited : Visited (fun _ ↦ True) s' := visited.of_yields yields
    have hstays := follows.mem_dataObjects hvisited hregistered
    obtain ⟨hiff, haccepted⟩ := (follows.visited hvisited).accepts_iff accepts hreads' fresh
    obtain ⟨t', hyields⟩ := hiff.2 hstays
    exact ⟨t', hyields, haccepted t' hyields⟩

/-- An upload whose content id is one byte. -/
def byteUpload : ContentParameters := ⟨⟨[0xab]⟩, 0, 1, ⟨[]⟩⟩

/-- A channel is created with the upload as its cover, its content id spelled with two markers and
in upper case. -/
def byteCreation : Occurrence := .ofEvent 0 0
  ⟨"content.ChannelCreated", 0, none, [.string "Lead", .int 1,
    .object [("owner", .object [("Member", .int 1)])],
    .object [("assets", .array [byteUpload.spelled "0x0xAB"]), ("meta", .string "0x2800")]]⟩

/-- The upload is accepted, its content id spelled without a marker and in lower case. -/
def byteAcceptance : Occurrence := .ofEvent 0 0
  ⟨"storage.ContentAccepted", 1, none, [.string "ab", .int 0]⟩

/-- The acceptance finds the upload. -/
theorem Bytes.spellings_byteUpload :
    ∃ t, (event byteAcceptance).Yields (event byteCreation {}).store true t ∧
      t.judgement ⟨"0xab"⟩ = .accepted := by
  have hcreation : byteCreation.content? = some (.channelCreated .lead ⟨"1"⟩ (.member ⟨"1"⟩)
      ⟨[.upload byteUpload], ⟨[0x28, 0x00]⟩, none⟩) := by decide +kernel
  have haccepts : byteAcceptance.Accepts "ab" := ⟨rfl, rfl, 0, by decide +kernel⟩
  have hyields : (event byteCreation {}).result = .ok true := by decide +kernel
  refine Bytes.spellings.2.2.2.2.2 {} _ _ byteCreation _ byteUpload "0x0xAB" (.upload byteUpload)
    (.seeded .fresh) (by decide +kernel) (by decide +kernel) hcreation ?_ ⟨hyields, rfl⟩ .refl
    byteAcceptance "ab" haccepts (by decide +kernel) (by decide +kernel)
  exact ⟨_, rfl, 0, List.mem_cons_self, rfl⟩

end ChainProjection
