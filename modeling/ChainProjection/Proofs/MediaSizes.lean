import ChainProjection.Proofs.History
import ChainProjection.Proofs.References
import Mathlib.Data.List.Induction

/-!
# Sizes of media

The particulars of the media of a video come from two sources that arrive apart: a payload may name
new media, whose size is that of the upload, and it may bring an encoding, and only then is there a
place where a size is kept.  **A size that arrives before the first encoding is therefore lost.**
From the first encoding on the size follows the media, in whatever order media and encodings come;
so the size that is kept is that of the last media named in the part of the history that starts with
the first encoding.

What the events ask for is taken out of the history first, as a list of requests (`mediaRequests`);
an event that reads as nothing, or is of another video, asks for nothing.  The result for such lists
is `keptSize_eq`, by an induction from the end, and it knows nothing of stores.  That a store keeps
the size its requests ask for is the invariant `Store.SizedBy`, with the step `Handles.sizedBy` and
the run `VisitedWith.sizedBy`.  `mediaSize_of_reachableWith` puts the two together, and says when
the size kept is not the one a reader would expect.
-/

namespace ChainProjection

open Store Table

variable {s s' : Store} {o : Occurrence} {d : EventData} {history : List Occurrence}

/-! ### What is asked of the media of a video -/

/-- The size an asset brings: that of an upload, and none for links. -/
def RawAsset.size? : RawAsset → Option UInt64
  | .urls _ => none
  | .upload parameters => some parameters.size

/-- What an event asks of the media of a video. -/
structure MediaRequest where
  /-- The new media, if the event brings any. -/
  media : Option RawAsset := none
  /-- Whether the event brings an encoding. -/
  encoded : Bool := false

/-- What a payload asks of the media of a video; nothing, if it does not read. -/
def MediaRequest.ofPayload (payload : Bytes) (assets : List RawAsset) : MediaRequest :=
  match Metadata.video.decode payload.toList with
  | .ok m => ⟨m.video.bind fun i ↦ assets[i.toNat]?, m.mediaType.isSome⟩
  | .error _ => {}

/-- What an update asks of the media of a video; nothing without a payload. -/
def MediaRequest.ofUpdate (update : VideoUpdate) : MediaRequest :=
  match update.payload with
  | none => {}
  | some payload => .ofPayload payload (update.assets.getD [])

/-- What has been asked of the media of a video since its last creation, after one more content
event. -/
def ContentEvent.mediaRequests (id : VideoId) (before : List MediaRequest) :
    ContentEvent → List MediaRequest
  | .videoCreated _ _ video creation =>
    if video = id then [.ofPayload creation.payload creation.assets] else before
  | .videoUpdated _ video update => if video = id then before ++ [.ofUpdate update] else before
  | _ => before

/-- What has been asked of the media of a video since its last creation, after one more
occurrence. -/
def Occurrence.mediaRequests (id : VideoId) (before : List MediaRequest) (o : Occurrence) :
    List MediaRequest :=
  (o.content?.map (ContentEvent.mediaRequests id before)).getD before

/-- What a history asks of the media of a video since the last creation of the video, in order. -/
def mediaRequests (id : VideoId) (history : List Occurrence) : List MediaRequest :=
  history.foldl (Occurrence.mediaRequests id) []

theorem mediaRequests_append_singleton (id : VideoId) (history : List Occurrence)
    (o : Occurrence) :
    mediaRequests id (history ++ [o]) = o.mediaRequests id (mediaRequests id history) :=
  List.foldl_concat ..

/-- The size of the last media that are asked for. -/
def lastMediaSize (requests : List MediaRequest) : Option UInt64 :=
  (requests.filterMap (·.media)).getLast?.bind RawAsset.size?

/-- The requests from the first encoding on. -/
def fromEncoding (requests : List MediaRequest) : List MediaRequest :=
  requests.dropWhile fun request ↦ !request.encoded

/-! ### The size that is kept -/

/-- The size that is kept after a request; there is none to keep where there was no encoding. -/
def MediaRequest.apply (request : MediaRequest) (before : Option (Option UInt64)) :
    Option (Option UInt64) :=
  let size := match request.media with
    | some asset => asset.size?
    | none => before.join
  if request.encoded then some size else before.map fun _ ↦ size

/-- The size that is kept after requests in order. -/
def keptSize (requests : List MediaRequest) : Option (Option UInt64) :=
  requests.foldl (fun before request ↦ request.apply before) none

/-- The last request decides, over what was kept before. -/
theorem keptSize_append_singleton (requests : List MediaRequest) (request : MediaRequest) :
    keptSize (requests ++ [request]) = request.apply (keptSize requests) :=
  List.foldl_concat ..

/-- The last request names the media, or those before are the last ones. -/
theorem lastMediaSize_append_singleton (requests : List MediaRequest) (request : MediaRequest) :
    lastMediaSize (requests ++ [request]) = match request.media with
      | some asset => asset.size?
      | none => lastMediaSize requests := by
  rw [lastMediaSize, List.filterMap_append]
  rcases hmedia : request.media with - | asset <;> simp [hmedia, lastMediaSize]

/-- The part from the first encoding on grows at its end, or starts with this request. -/
theorem fromEncoding_append_singleton (requests : List MediaRequest) (request : MediaRequest) :
    fromEncoding (requests ++ [request]) =
      if fromEncoding requests = [] then if request.encoded then [request] else []
      else fromEncoding requests ++ [request] := by
  simp only [fromEncoding, List.dropWhile_append, List.isEmpty_iff, List.dropWhile_cons,
    List.dropWhile_nil]
  cases request.encoded <;> simp

/-- Nothing is kept before the first encoding; from there on the size is that of the last media. -/
theorem keptSize_eq (requests : List MediaRequest) :
    keptSize requests = if fromEncoding requests = [] then none
      else some (lastMediaSize (fromEncoding requests)) := by
  induction requests using List.reverseRecOn with
  | nil => rfl
  | append_singleton requests request ih =>
    rw [keptSize_append_singleton, ih, fromEncoding_append_singleton]
    by_cases hpart : fromEncoding requests = []
    · -- An encoding starts the part, and the size is that of the media that come with it.
      rw [if_pos hpart, if_pos hpart]
      cases hencoded : request.encoded with
      | true =>
        rcases hmedia : request.media with - | asset <;>
          simp [MediaRequest.apply, hencoded, hmedia, lastMediaSize]
      | false => simp [MediaRequest.apply, hencoded]
    · rw [if_neg hpart, if_neg hpart, if_neg (by simp), lastMediaSize_append_singleton]
      cases hencoded : request.encoded <;> rcases hmedia : request.media with - | asset <;>
        simp [MediaRequest.apply, hencoded, hmedia]

/-- The part from the first encoding on has the last media of all, unless it has no media. -/
theorem lastMediaSize_fromEncoding (requests : List MediaRequest) :
    (∀ request ∈ fromEncoding requests, request.media = none) ∧
        lastMediaSize (fromEncoding requests) = none ∨
      (∃ request ∈ fromEncoding requests, request.media ≠ none) ∧
        lastMediaSize (fromEncoding requests) = lastMediaSize requests := by
  rcases hlast : ((fromEncoding requests).filterMap (·.media)).getLast? with - | asset
  · have hnone := List.filterMap_eq_nil_iff.1 (List.getLast?_eq_none_iff.1 hlast)
    exact Or.inl ⟨hnone, by rw [lastMediaSize, hlast, Option.bind_none]⟩
  · obtain ⟨request, hmem, hmedia⟩ := List.mem_filterMap.1 (List.mem_of_getLast? hlast)
    have hall : (requests.filterMap (·.media)).getLast? = some asset := by
      rw [← List.takeWhile_append_dropWhile (p := fun request : MediaRequest ↦ !request.encoded)
        (l := requests), List.filterMap_append, List.getLast?_append]
      exact congrArg (Option.or · _) hlast
    refine Or.inr ⟨⟨request, hmem, by simp [hmedia]⟩, ?_⟩
    rw [lastMediaSize, lastMediaSize, hlast, hall]

/-! ### Steps -/

/-- What changes ask of the media of a video; nothing, if there are none. -/
def MediaRequest.ofChanges : Option VideoChanges → MediaRequest
  | none => {}
  | some changes => ⟨changes.media, changes.mediaType.isSome⟩

/-- To ask for nothing changes nothing. -/
theorem MediaRequest.apply_empty (before : Option (Option UInt64)) :
    MediaRequest.apply {} before = before := by
  cases before <;> rfl

/-- The changes that a payload is read as ask for what the payload does. -/
theorem VideoChanges.Reading.ofPayload_eq {payload : Bytes} {assets : List RawAsset}
    {changes : Option VideoChanges} (read : Reading s payload assets changes) :
    MediaRequest.ofPayload payload assets = .ofChanges changes := by
  cases read with
  | undecodable undecoded => rw [MediaRequest.ofPayload, undecoded, MediaRequest.ofChanges]
  | decoded decoded filed named pictured shown =>
    rw [MediaRequest.ofPayload, decoded, MediaRequest.ofChanges, shown.eq_bind]

/-- The changes of an update ask for what the update does. -/
theorem VideoChanges.Asked.ofUpdate_eq {update : VideoUpdate} {changes : Option VideoChanges}
    (asked : Asked s update changes) : MediaRequest.ofUpdate update = .ofChanges changes := by
  rcases hpayload : update.payload with - | payload
  · simp only [Asked, hpayload] at asked
    simp only [MediaRequest.ofUpdate, hpayload, asked, MediaRequest.ofChanges]
  · simp only [Asked, hpayload] at asked
    simp only [MediaRequest.ofUpdate, hpayload, asked.ofPayload_eq]

/-- The size of the media of a video, if particulars of them are kept. -/
def Video.mediaSize (video : Video) : Option (Option UInt64) := video.mediaMetadata.map (·.size)

/-- Merging changes into a video does to the size what the changes ask for. -/
theorem VideoChanges.Merging.mediaSize_eq {owner : DataObjectOwner} {video video' : Video}
    {changes : Option VideoChanges} (merged : Merging o owner s video changes video' s') :
    video'.mediaSize = (MediaRequest.ofChanges changes).apply video.mediaSize := by
  cases merged with
  | kept => exact (MediaRequest.apply_empty _).symm
  | @merged changes =>
    rcases hmedia : changes.media with - | (links | parameters) <;>
      rcases htype : changes.mediaType with - | mediaType <;>
      rcases hold : video.mediaMetadata with - | old <;>
      simp [Video.mediaSize, changedMediaMetadata, MediaRequest.ofChanges, MediaRequest.apply,
        Store.stored, RawAsset.size?, hmedia, htype, hold]

/-- Every video has the size that its requests ask for. -/
def Store.SizedBy (s : Store) (requests : VideoId → List MediaRequest) : Prop :=
  Forall (fun id row ↦ row.mediaSize = keptSize (requests id)) s.videos

/-- What writes no video changes no size. -/
theorem Store.SizedBy.of_videos {requests : VideoId → List MediaRequest} (h : s.SizedBy requests)
    (heq : s'.videos = s.videos) : s'.SizedBy requests := by
  rw [SizedBy, heq]
  exact h

/-- Saving a video changes what is asked of that one only. -/
theorem Store.SizedBy.saveVideo {requests requests' : VideoId → List MediaRequest}
    (h : s.SizedBy requests) {video : Video}
    (hsaved : video.mediaSize = keptSize (requests' video.id))
    (hothers : ∀ id, id ≠ video.id → requests' id = requests id) :
    (s.saveVideo video).SizedBy requests' := by
  intro id row found
  rcases getElem?_upsert_eq_some rfl found with ⟨_, rfl, rfl⟩ | ⟨hid, found⟩
  · exact hsaved
  · rw [hothers id hid]
    exact h found

/-- A content event changes sizes as it asks for. -/
theorem ContentEvent.Step.sizedBy {e : ContentEvent} {requests : VideoId → List MediaRequest}
    (hkeyed : s.Keyed) (h : s.SizedBy requests) (step : Step o s e d s') :
    s'.SizedBy fun id ↦ e.mediaRequests id (requests id) := by
  cases step with
  | @videoCreated actor channel created creation row changes video t found read merged =>
    have hid : video.id = created := merged.id_eq
    have hmerged := h.of_videos merged.registers.videos
    refine hmerged.saveVideo ?_ fun id hother ↦ ?_
    · rw [merged.mediaSize_eq, ContentEvent.mediaRequests, if_pos hid.symm, ← read.ofPayload_eq]
      rfl
    · exact if_neg fun heq ↦ hother (heq.symm.trans hid.symm)
  | @videoUpdated actor updated update row video changes t found fits asked merged =>
    have hid : video.id = updated := merged.id_eq.trans (hkeyed.videos found)
    have hmerged := h.of_videos merged.registers.videos
    refine hmerged.saveVideo ?_ fun id hother ↦ ?_
    · show video.mediaSize = keptSize (if updated = video.id then
        requests video.id ++ [.ofUpdate update] else requests video.id)
      -- The requests of the update come behind those the stored size was made of.
      rw [if_pos hid.symm, hid, keptSize_append_singleton, merged.mediaSize_eq, h found,
        asked.ofUpdate_eq]
    · exact if_neg fun heq ↦ hother (heq.symm.trans hid.symm)
  | videoDeleted => exact Forall.erase h _
  | @videoCensorship isCensored censored rationale row found fits =>
    refine h.saveVideo ?_ fun _ _ ↦ rfl
    show row.mediaSize = keptSize (requests row.id)
    rw [hkeyed.videos found]
    exact h found
  | featuredVideosSet replaced => exact forall_replaceFeatured replaced h fun _ _ _ hrow ↦ hrow
  | channelCreated read merged =>
    exact h.of_videos ((registers_withOwner ..).trans merged.registers).videos
  | channelUpdated found asked merged => exact h.of_videos merged.registers.videos
  | _ => exact h

/-- Every step changes sizes as its occurrence asks for. -/
theorem Handles.sizedBy {requests : VideoId → List MediaRequest} (hkeyed : s.Keyed)
    (h : s.SizedBy requests) (handled : Handles o s d s') :
    s'.SizedBy fun id ↦ o.mediaRequests id (requests id) := by
  rcases handled with ⟨known, -, step⟩ | @⟨_, e, known, reads, step⟩ | ⟨known, -, step⟩
  · have hcontent := Occurrence.content?_eq_none_of_forum known
    simp only [Occurrence.mediaRequests, hcontent]
    exact h.of_videos step.writesForum.videos
  · have hcontent := Occurrence.content?_eq_some known reads
    simp only [Occurrence.mediaRequests, hcontent]
    exact step.sizedBy hkeyed h
  · have hcontent := Occurrence.content?_eq_none_of_acceptance known
    simp only [Occurrence.mediaRequests, hcontent]
    cases step with
    | accepted found =>
      have hrows : Forall (fun id row ↦ row.mediaSize = keptSize (requests id)) s.videos := h
      refine hrows.map fun id row hrow ↦ ?_
      rw [refreshVideo]
      split <;> exact hrow

/-- An occurrence of an unknown name asks for nothing. -/
theorem Occurrence.mediaRequests_of_unknown (unknown : Projection.handler? o.name = none)
    (id : VideoId) (before : List MediaRequest) : o.mediaRequests id before = before := by
  have hcontent : o.content? = none := by
    rw [content?, Option.bind_eq_none_iff]
    intro read hread
    exact absurd unknown (Projection.handler?_ne_none hread)
  rw [mediaRequests, hcontent]
  rfl

namespace Store

/-- In a store that is visited with a history every video has the size that the history asks for. -/
theorem VisitedWith.sizedBy (h : VisitedWith history s) :
    s.SizedBy fun id ↦ mediaRequests id history := by
  induction h with
  | seeded h =>
    rw [h.eq]
    exact forall_empty
  | @event history s t o d visited handled _ ih =>
    have hstep := handled.sizedBy visited.visited.keyed ih
    simp only [← mediaRequests_append_singleton] at hstep
    exact hstep
  | unknown _ unknown ih =>
    simp only [mediaRequests_append_singleton, Occurrence.mediaRequests_of_unknown unknown]
    exact ih
  | cursor _ _ ih => exact ih

/-- In a reachable store the size in the particulars of the media of a video is that of the last
media it was given since the first encoding after its last creation.  That is another size than that
of the last media since its creation exactly if those media are an upload and came before that
encoding; then no size is kept. -/
theorem mediaSize_of_reachableWith (h : ReachableWith history s) {id : VideoId} {row : Video}
    {media : MediaMetadata} (found : s.videos[id]? = some row)
    (present : row.mediaMetadata = some media) :
    media.size = lastMediaSize (fromEncoding (mediaRequests id history)) ∧
      (media.size ≠ lastMediaSize (mediaRequests id history) ↔
        (lastMediaSize (mediaRequests id history)).isSome ∧
          ∀ request ∈ fromEncoding (mediaRequests id history), request.media = none) := by
  have hkept : some media.size = keptSize (mediaRequests id history) := by
    rw [← h.visitedWith.sizedBy found, Video.mediaSize, present, Option.map_some]
  have hsize : media.size = lastMediaSize (fromEncoding (mediaRequests id history)) := by
    rw [keptSize_eq] at hkept
    split at hkept
    · cases hkept
    · exact Option.some.inj hkept
  refine ⟨hsize, ?_⟩
  rw [hsize]
  rcases lastMediaSize_fromEncoding (mediaRequests id history) with ⟨hnone, hlost⟩ |
    ⟨⟨request, hmem, hmedia⟩, hsame⟩
  · rw [hlost, Option.isSome_iff_ne_none, ne_comm]
    exact (and_iff_left hnone).symm
  · refine iff_of_false (fun hne ↦ hne hsame) ?_
    rintro ⟨-, hnone⟩
    exact hmedia (hnone request hmem)

/-- A video is created with an upload of five bytes and gets an encoding later. -/
def laterEncodingBlock : Block where
  number := 0
  timestamp := 0
  events := [
    ⟨"content.ChannelCreated", 0, none, [.string "Lead", .int 1,
      .object [("owner", .object [("Member", .int 1)])], .object [("meta", .string "0x")]]⟩,
    ⟨"content.VideoCreated", 1, none, [.string "Lead", .int 1, .int 2,
      .object [("assets", .array [.object [("Upload", .object [("content_id", .string "0x01"),
        ("ipfs_content_id", .string "0x"), ("size", .int 5), ("type_id", .int 0)])]]),
        ("meta", .string "0x1800")]]⟩,
    ⟨"content.VideoUpdated", 2, none, [.string "Lead", .int 2,
      .object [("new_meta", .string "0x4200")]]⟩]

/-- The store after the encoding came. -/
def laterEncodingStore : Store := afterBlock {} laterEncodingBlock

/-- The size of the upload is not kept. -/
theorem mediaSize_of_reachableWith_laterEncodingStore :
    ReachableWith laterEncodingBlock.occurrences laterEncodingStore ∧
      lastMediaSize (mediaRequests ⟨"2"⟩ laterEncodingBlock.occurrences) = some 5 ∧
      ∃ row media, laterEncodingStore.videos[(⟨"2"⟩ : VideoId)]? = some row ∧
        row.mediaMetadata = some media ∧ media.size = none := by
  have hyields : (Projection.block laterEncodingBlock).Yields {} ⟨3, 0⟩ laterEncodingStore :=
    ⟨by decide +kernel, rfl⟩
  have hreachable : ReachableWith laterEncodingBlock.occurrences laterEncodingStore :=
    .block (.seeded .fresh) hyields
  have hrow : (laterEncodingStore.videos[(⟨"2"⟩ : VideoId)]?.bind Video.mediaMetadata).isSome := by
    decide +kernel
  obtain ⟨media, hmedia⟩ := Option.isSome_iff_exists.1 hrow
  obtain ⟨row, found, present⟩ := Option.bind_eq_some_iff.1 hmedia
  refine ⟨hreachable, by decide +kernel, row, media, found, present, ?_⟩
  rw [(mediaSize_of_reachableWith hreachable found present).1]
  decide +kernel

end Store

end ChainProjection
