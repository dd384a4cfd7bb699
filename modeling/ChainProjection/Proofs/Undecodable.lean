import ChainProjection.Proofs.Payloads
import ChainProjection.Proofs.Projection.Endings

/-!
# Payloads that do not read

**A payload that does not read counts as none, whatever of it could be read.**  What no payload is
depends on the event (`ContentEvent.withoutPayload`): an update can come without one, and a creation
or a category comes with an empty one at least, which reads as a message without fields.  For an
update of a video the two are not the same, since a payload without a date clears the date of the
earlier publication; comparing every event with the empty payload would make the statement false.

The work for such an event agrees with the work for the event without its payload, part by part up
to the point where the changes are merged: there one of them has no changes and the other one has
changes that change nothing.  Agreement is that of `Projection.Agrees`, which lets the two differ in
what they note and in nothing else; so the first part of the proof is a lemma `_agrees` and a lemma
`_empty` for each reader of a payload, and `ContentEvent.project_agrees_withoutPayload` puts them
together for the eight events that bring one.

That the changes without fields change nothing (`applyAny_nothing`) is a computation for a channel.
For a video it holds only if the row has no date, which is the case where it is used: a video that
is being created.

What is not written is read off the step itself and not off the agreement: a payload that is refused
leaves no changes (`Reading.eq_none`), and without changes no object, language or license is
registered (`Step.registers_nothing`).  Both parts meet in `Store.undecodable_of_visited`.
-/

namespace ChainProjection

open Projection Store

variable {s : Store} {o : Occurrence} {payload : Bytes} {assets : List RawAsset}

/-! ### Payloads -/

/-- The payload does not read as a message of the type. -/
def Protobuf.Schema.Refuses {M : Type} (schema : Protobuf.Schema M) (payload : Bytes) : Prop :=
  ∃ failure, schema.decode payload.toList = .error failure

/-- The payload without bytes. -/
def Bytes.empty : Bytes := ⟨[]⟩

namespace Projection

/-- A payload that does not read is left out, which is noted and nothing else. -/
theorem readPayload_agrees {M : Type} {schema : Protobuf.Schema M} (field : String)
    (h : schema.Refuses payload) : (readPayload o field schema payload).Agrees (pure none) := by
  obtain ⟨failure, hdecode⟩ := h
  rw [readPayload, hdecode]
  exact (leaveOut_agrees field _).bind_left.trans (.of_eq (pure_bind_eq ..))

/-- A payload without bytes is a message without fields. -/
theorem readPayload_empty {M : Type} (schema : Protobuf.Schema M) (field : String) :
    readPayload o field schema .empty = pure (some schema.empty) :=
  rfl

/-- A name is kept if the payload that would change it does not read. -/
theorem changedName_agrees {schema : Protobuf.Schema Metadata.CategoryMetadata} (field : String)
    (current : Option String) (h : schema.Refuses payload) :
    (changedName o field schema payload current).Agrees (pure current) :=
  (readPayload_agrees field h).bind_left.trans (.of_eq (pure_bind_eq ..))

theorem changedName_empty {schema : Protobuf.Schema Metadata.CategoryMetadata} (field : String)
    (current : Option String) (h : schema.empty.name = none) :
    changedName o field schema .empty current = pure current := by
  rw [changedName, readPayload_empty, pure_bind_eq]
  simp [h]

end Projection

/-! ### Changes -/

/-- The changes of a channel that a payload without fields asks for. -/
def ChannelChanges.nothing : ChannelChanges where
  title := none
  description := none
  isPublic := none
  language := none
  category := none
  coverPhoto := none
  avatarPhoto := none

/-- The changes of a video that a payload without fields asks for. -/
def VideoChanges.nothing : VideoChanges where
  title := none
  description := none
  duration := none
  language := none
  license := none
  category := none
  thumbnailPhoto := none
  media := none
  mediaType := none
  mediaPixelWidth := none
  mediaPixelHeight := none
  hasMarketing := none
  isPublic := none
  isExplicit := none
  publishedBefore := none

namespace ChannelChanges

/-- No changes of a channel are read off a payload that does not read. -/
theorem read_agrees (assets : List RawAsset) (h : Metadata.channel.Refuses payload) :
    (read o payload assets).Agrees (pure none) :=
  (readPayload_agrees _ h).bind_left.trans (.of_eq (pure_bind_eq ..))

/-- A payload without bytes asks for no change of a channel. -/
theorem read_empty (assets : List RawAsset) : read o .empty assets = pure (some nothing) := by
  rw [read, readPayload_empty, pure_bind_eq]
  rfl

/-- A payload without fields changes nothing of a channel. -/
theorem applyAny_nothing (owner : DataObjectOwner) (channel : Channel) :
    applyAny (some nothing) o owner channel = pure channel := by
  simp [applyAny, apply, nothing, changedLanguage, fillSlot]

end ChannelChanges

namespace VideoChanges

/-- No changes of a video are read off a payload that does not read. -/
theorem read_agrees (assets : List RawAsset) (h : Metadata.video.Refuses payload) :
    (read o payload assets).Agrees (pure none) :=
  (readPayload_agrees _ h).bind_left.trans (.of_eq (pure_bind_eq ..))

/-- A payload without bytes asks for no change of a video, if its date is left aside. -/
theorem read_empty (assets : List RawAsset) : read o .empty assets = pure (some nothing) := by
  rw [read, readPayload_empty, pure_bind_eq]
  rfl

/-- A payload without fields and without media keeps the particulars of the media, and makes none.
-/
theorem changedMediaMetadata_nothing (current : Option MediaMetadata) :
    nothing.changedMediaMetadata none current = current := by
  cases current <;> rfl

/-- A payload without fields changes nothing of a video that has no earlier publication. -/
theorem applyAny_nothing (owner : DataObjectOwner) {video : Video}
    (hdate : video.publishedBefore = none) :
    applyAny (some nothing) o owner video = pure video := by
  have hmedia := changedMediaMetadata_nothing video.mediaMetadata
  simp only [nothing] at hmedia
  simp only [applyAny, apply, nothing, changedLanguage, changedLicense, fillSlot, Option.mapM_none,
    pure_bind_eq, Option.map_none, Option.orElse_eq_orElse, Option.orElse_eq_or, Option.none_or,
    hmedia]
  rw [← hdate]

end VideoChanges

/-! ### Events -/

namespace ContentEvent

/-- The event has a payload and this does not read as the message that it should be. -/
def Undecodable : ContentEvent → Prop
  | .channelCreated _ _ _ creation => Metadata.channel.Refuses creation.payload
  | .channelUpdated _ _ update =>
    ∃ payload, update.payload = some payload ∧ Metadata.channel.Refuses payload
  | .channelCategoryCreated _ payload => Metadata.channelCategory.Refuses payload
  | .channelCategoryUpdated _ payload => Metadata.channelCategory.Refuses payload
  | .videoCategoryCreated _ payload => Metadata.videoCategory.Refuses payload
  | .videoCategoryUpdated _ payload => Metadata.videoCategory.Refuses payload
  | .videoCreated _ _ _ creation => Metadata.video.Refuses creation.payload
  | .videoUpdated _ _ update =>
    ∃ payload, update.payload = some payload ∧ Metadata.video.Refuses payload
  | _ => False

/-- The event without its payload: an update of a channel or a video has none then, and any other
event an empty one. -/
def withoutPayload : ContentEvent → ContentEvent
  | .channelCreated actor channel owner creation =>
    .channelCreated actor channel owner { creation with payload := .empty }
  | .channelUpdated actor channel update =>
    .channelUpdated actor channel { update with payload := none }
  | .channelCategoryCreated category _ => .channelCategoryCreated category .empty
  | .channelCategoryUpdated category _ => .channelCategoryUpdated category .empty
  | .videoCategoryCreated category _ => .videoCategoryCreated category .empty
  | .videoCategoryUpdated category _ => .videoCategoryUpdated category .empty
  | .videoCreated actor channel video creation =>
    .videoCreated actor channel video { creation with payload := .empty }
  | .videoUpdated actor video update => .videoUpdated actor video { update with payload := none }
  | e => e

/-- The work for an event whose payload does not read agrees with the work for the event without
the payload. -/
theorem project_agrees_withoutPayload {e : ContentEvent} (h : e.Undecodable) :
    (project o e).Agrees (project o e.withoutPayload) := by
  cases e with
  | channelCreated actor id owner creation =>
    -- A creation has a payload in any case: the other side merges the changes of the empty one.
    refine (ChannelChanges.read_agrees creation.assets h).bind_left.trans (.of_eq ?_)
    simp only [withoutPayload, project, createChannel, ChannelChanges.read_empty, pure_bind_eq,
      ChannelChanges.applyAny_nothing]
    rfl
  | channelUpdated actor id update =>
    obtain ⟨payload, carried, refused⟩ := h
    refine Agrees.bind_right fun channel ↦ ?_
    have hchanges : (channelChanges o update).Agrees (pure none) := by
      rw [channelChanges, carried]
      exact ChannelChanges.read_agrees _ refused
    exact hchanges.bind_left
  | channelCategoryCreated id payload =>
    refine (changedName_agrees _ none h).bind_left.trans (.of_eq ?_)
    simp only [withoutPayload, project, channelCategoryName]
    rw [changedName_empty _ _ rfl]
  | channelCategoryUpdated id payload =>
    refine Agrees.bind_right fun row ↦ ?_
    refine (changedName_agrees _ row.name h).bind_left.trans (.of_eq ?_)
    simp only [channelCategoryName]
    rw [changedName_empty _ _ rfl]
  | videoCategoryCreated id payload =>
    refine (changedName_agrees _ none h).bind_left.trans (.of_eq ?_)
    simp only [withoutPayload, project, videoCategoryName]
    rw [changedName_empty _ _ rfl]
  | videoCategoryUpdated id payload =>
    refine Agrees.bind_right fun row ↦ ?_
    refine (changedName_agrees _ row.name h).bind_left.trans (.of_eq ?_)
    simp only [videoCategoryName]
    rw [changedName_empty _ _ rfl]
  | videoCreated actor channel id creation =>
    refine Agrees.bind_right fun row ↦ ?_
    refine (VideoChanges.read_agrees creation.assets h).bind_left.trans (.of_eq ?_)
    simp only [VideoChanges.read_empty, pure_bind_eq, VideoChanges.applyAny_nothing]
    rfl
  | videoUpdated actor id update =>
    obtain ⟨payload, carried, refused⟩ := h
    refine Agrees.bind_right fun video ↦ ?_
    have hchanges : (videoChanges o update).Agrees (pure none) := by
      rw [videoChanges, carried]
      exact VideoChanges.read_agrees _ refused
    exact hchanges.bind_left
  | _ => exact h.elim

end ContentEvent

/-! ### What is not written -/

/-- A payload that does not read leaves a channel without changes. -/
theorem ChannelChanges.Reading.eq_none {changes : Option ChannelChanges}
    (read : Reading s payload assets changes) (h : Metadata.channel.Refuses payload) :
    changes = none := by
  obtain ⟨failure, hdecode⟩ := h
  cases read with
  | undecodable => rfl
  | decoded hdecode' => cases hdecode.symm.trans hdecode'

/-- A payload that does not read leaves a video without changes. -/
theorem VideoChanges.Reading.eq_none {changes : Option VideoChanges}
    (read : Reading s payload assets changes) (h : Metadata.video.Refuses payload) :
    changes = none := by
  obtain ⟨failure, hdecode⟩ := h
  cases read with
  | undecodable => rfl
  | decoded hdecode' => cases hdecode.symm.trans hdecode'

/-- An update of a channel whose payload does not read asks for no changes. -/
theorem ChannelChanges.Asked.eq_none {update : ChannelUpdate} {changes : Option ChannelChanges}
    (asked : Asked s update changes)
    (h : ∃ payload, update.payload = some payload ∧ Metadata.channel.Refuses payload) :
    changes = none := by
  obtain ⟨payload, carried, refused⟩ := h
  simp only [Asked, carried] at asked
  exact asked.eq_none refused

/-- An update of a video whose payload does not read asks for no changes. -/
theorem VideoChanges.Asked.eq_none {update : VideoUpdate} {changes : Option VideoChanges}
    (asked : Asked s update changes)
    (h : ∃ payload, update.payload = some payload ∧ Metadata.video.Refuses payload) :
    changes = none := by
  obtain ⟨payload, carried, refused⟩ := h
  simp only [Asked, carried] at asked
  exact asked.eq_none refused

namespace ContentEvent

variable {t : Store} {d : EventData}

/-- An event whose payload does not read registers nothing. -/
theorem Step.registers_nothing {e : ContentEvent} (h : e.Undecodable) (step : Step o s e d t) :
    t.dataObjects = s.dataObjects ∧ t.languages = s.languages ∧ t.licenses = s.licenses := by
  cases step with
  | @channelCreated _ _ owner _ _ _ _ read merged =>
    obtain rfl := read.eq_none h
    cases merged with
    | kept => cases owner <;> exact ⟨rfl, rfl, rfl⟩
  | channelUpdated found asked merged =>
    obtain rfl := asked.eq_none h
    cases merged with
    | kept => exact ⟨rfl, rfl, rfl⟩
  | videoCreated found read merged =>
    obtain rfl := read.eq_none h
    cases merged with
    | kept => exact ⟨rfl, rfl, rfl⟩
  | videoUpdated found fits asked merged =>
    obtain rfl := asked.eq_none h
    cases merged with
    | kept => exact ⟨rfl, rfl, rfl⟩
  | channelCategoryCreated => exact ⟨rfl, rfl, rfl⟩
  | channelCategoryUpdated => exact ⟨rfl, rfl, rfl⟩
  | videoCategoryCreated => exact ⟨rfl, rfl, rfl⟩
  | videoCategoryUpdated => exact ⟨rfl, rfl, rfl⟩
  | _ => exact h.elim

/-- An update of a video whose payload does not read keeps the dates of earlier publications. -/
theorem Step.publishedBefore_eq {actor : ContentActor} {id : VideoId} {update : VideoUpdate}
    (hkeyed : s.Keyed) (h : Undecodable (.videoUpdated actor id update))
    (step : Step o s (.videoUpdated actor id update) d t) (id' : VideoId) :
    t.videos[id']?.map (·.publishedBefore) = s.videos[id']?.map (·.publishedBefore) := by
  cases step with
  | @videoUpdated _ _ _ row _ _ _ found fits asked merged =>
    obtain rfl := asked.eq_none h
    cases merged with
    | kept =>
      have hid : row.id = id := hkeyed.videos found
      refine Table.map_getElem?_upsert_of_found found hid (fun _ ↦ ?_) ?_ id' <;> rfl

end ContentEvent

/-- The occurrence with other parameters. -/
def Occurrence.withParams (o : Occurrence) (params : List Json) : Occurrence :=
  { o with params := params }

/-- Of the parameters only what they read as counts. -/
theorem Projection.event_withParams {e : ContentEvent} {params : List Json}
    (reads : (o.withParams params).content? = some e) :
    event (o.withParams params) = recorded o (ContentEvent.project o e) := by
  rw [event_eq_of_content reads]
  cases e <;> rfl

namespace Store

/-- In a store that a run meets, an event whose payload does not read ends as the event does without
its payload, and leaves the same store.  However it ends, it registers no data object, no language
and no license, and an update of a video leaves the dates of earlier publications as they are. -/
theorem undecodable_of_visited (h : Visited (fun _ ↦ True) s) {e : ContentEvent}
    (reads : o.content? = some e) (undecodable : e.Undecodable) :
    (∀ params, (o.withParams params).content? = some e.withoutPayload →
      (event (o.withParams params) s).result = (event o s).result ∧
        (event (o.withParams params) s).store = (event o s).store) ∧
      (event o s).store.dataObjects = s.dataObjects ∧
      (event o s).store.languages = s.languages ∧
      (event o s).store.licenses = s.licenses ∧
      ∀ (actor : ContentActor) (video : VideoId) (update : VideoUpdate),
        e = .videoUpdated actor video update → ∀ id : VideoId,
          (event o s).store.videos[id]?.map (·.publishedBefore) =
            s.videos[id]?.map (·.publishedBefore) := by
  have hregisters := store_event_of_content
    (fun t ↦ t.dataObjects = s.dataObjects ∧ t.languages = s.languages ∧ t.licenses = s.licenses)
    reads ⟨rfl, rfl, rfl⟩ (fun _ _ step ↦ step.registers_nothing undecodable) fun _ _ hkept ↦ hkept
  refine ⟨fun params reads' ↦ ?_, hregisters.1, hregisters.2.1, hregisters.2.2, ?_⟩
  · have hagrees : (event o).Agrees (event (o.withParams params)) := by
      rw [event_withParams reads', event_eq_of_content reads]
      exact (ContentEvent.project_agrees_withoutPayload undecodable).bind_left
    exact hagrees.symm s
  · rintro actor video update rfl id
    exact store_event_of_content
      (fun t ↦ t.videos[id]?.map (·.publishedBefore) = s.videos[id]?.map (·.publishedBefore))
      reads rfl (fun _ _ step ↦ step.publishedBefore_eq h.keyed undecodable id)
      fun _ _ hkept ↦ hkept

/-- The parameters of an update of the video that was published before, with an upload. -/
def updateParams (payload : Json) : List Json :=
  [.string "Lead", .int 2, .object [("assets", .array [coverUpload]), ("new_meta", payload)]]

/-- The payload has a title and names the upload for the thumbnail, but it ends within a number. -/
def brokenUpdate : Occurrence := .ofEvent 1 7
  ⟨"content.VideoUpdated", 0, none, updateParams (.string "0x0a01632000ff")⟩

/-- What the update reads as. -/
def brokenEvent : ContentEvent :=
  .videoUpdated .lead ⟨"2"⟩ ⟨some [.upload ⟨⟨[1]⟩, 0, 1, ⟨[]⟩⟩],
    some ⟨[0x0a, 0x01, 0x63, 0x20, 0x00, 0xff]⟩⟩

/-- The update with the broken payload is the one without a payload.  The date stays, which an empty
payload would have cleared. -/
theorem undecodable_of_visited_describedStore :
    Visited (fun _ ↦ True) describedStore ∧ brokenUpdate.content? = some brokenEvent ∧
      brokenEvent.Undecodable ∧
      (brokenUpdate.withParams (updateParams .null)).content? = some brokenEvent.withoutPayload ∧
      (event brokenUpdate describedStore).result = .ok true ∧
      (event (brokenUpdate.withParams (updateParams .null)) describedStore).store =
        (event brokenUpdate describedStore).store ∧
      (event brokenUpdate describedStore).store.dataObjects = describedStore.dataObjects ∧
      (event brokenUpdate describedStore).store.videos[(⟨"2"⟩ : VideoId)]?.map
        (·.publishedBefore) = some (some 0) ∧
      (event (brokenUpdate.withParams (updateParams (.string "0x"))) describedStore).store.videos[
        (⟨"2"⟩ : VideoId)]?.map (·.publishedBefore) = some none := by
  have hreachable : describedStore.Reachable := .block (.seeded .fresh) _ fun _ _ ↦ trivial
  have hreads : brokenUpdate.content? = some brokenEvent := by decide +kernel
  have hrefused : brokenEvent.Undecodable := ⟨_, rfl, _, rfl⟩
  have hnull : (brokenUpdate.withParams (updateParams .null)).content? =
      some brokenEvent.withoutPayload := by decide +kernel
  have hdate : describedStore.videos[(⟨"2"⟩ : VideoId)]?.map (·.publishedBefore) =
      some (some 0) := by decide +kernel
  obtain ⟨hsame, hobjects, -, -, hdates⟩ :=
    undecodable_of_visited hreachable.visited hreads hrefused
  exact ⟨hreachable.visited, hreads, hrefused, hnull, by decide +kernel, (hsame _ hnull).2,
    hobjects, (hdates _ _ _ rfl _).trans hdate, by decide +kernel⟩

end Store

end ChainProjection
