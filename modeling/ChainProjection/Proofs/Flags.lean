import ChainProjection.Proofs.Log
import ChainProjection.Proofs.Pins
import ChainProjection.Proofs.References

/-!
# Flags of channels and videos

Whether a channel or a video is censored and whether a video is featured are told by the records
alone.  **The flags of one row after an event are a function of the particulars of the event and of
the flags before it** (`EventData.channelFlag`, `EventData.videoFlags`): a creation sets them back,
also where the row was there already, a deletion takes the row away, and every other event that
saves a row loads the flags with it.  `Handles.channelFlag?_eq` and `Handles.videoFlags?_eq` say
that steps obey the functions.

So after a whole run they are read off the log, by an induction that looks at records and at no
event: a row is censored as its last censorship since its last creation says
(`Visited.channelFlag?_eq_some`), and the videos that are featured are those of the last list of
featured videos less the ones that were created or deleted since (`featured_of_visited`).

That a listed video which was created since is not featured is no accident of the proof: a creation
over a row that is there resets its flag, and the list is not applied again.
-/

namespace ChainProjection

open Store Table

variable {s s' : Store} {o : Occurrence} {d : EventData} {admits : Occurrence → Prop}

/-! ### Flags -/

/-- The flags of a video. -/
structure VideoFlags where
  isCensored : Bool := false
  isFeatured : Bool := false

/-- The flags in the row of a video. -/
def Video.flags (video : Video) : VideoFlags := ⟨video.isCensored, video.isFeatured⟩

/-- A video after the featured videos were replaced: if its flag is not the wanted one, it gets that
flag and the time. -/
def Video.refeatured (wanted : Bool) (updatedAt : Int64) (row : Video) : Video :=
  if row.isFeatured ≠ wanted then { row with isFeatured := wanted, updatedAt := updatedAt } else row

namespace Store

/-- Whether a channel is censored, if there is such a channel. -/
def channelFlag? (s : Store) (id : ChannelId) : Option Bool := s.channels[id]?.map (·.isCensored)

/-- The flags of a video, if there is such a video. -/
def videoFlags? (s : Store) (id : VideoId) : Option VideoFlags := s.videos[id]?.map Video.flags

/-- What writes no channel sets no flag of one. -/
theorem channelFlag?_of_channels (heq : s'.channels = s.channels) (id : ChannelId) :
    s'.channelFlag? id = s.channelFlag? id := by
  rw [channelFlag?, heq]
  rfl

/-- What writes no video sets no flag of one. -/
theorem videoFlags?_of_videos (heq : s'.videos = s.videos) (id : VideoId) :
    s'.videoFlags? id = s.videoFlags? id := by
  rw [videoFlags?, heq]
  rfl

/-- The flag of a channel is the one it was saved with. -/
theorem channelFlag?_saveChannel (s : Store) (channel : Channel) (id : ChannelId) :
    (s.saveChannel channel).channelFlag? id =
      if channel.id = id then some channel.isCensored else s.channelFlag? id :=
  map_getElem?_upsert (fun _ ↦ rfl) ..

/-- The flags of a video are those it was saved with. -/
theorem videoFlags?_saveVideo (s : Store) (video : Video) (id : VideoId) :
    (s.saveVideo video).videoFlags? id =
      if video.id = id then some video.flags else s.videoFlags? id :=
  map_getElem?_upsert (fun _ ↦ rfl) ..

/-! ### Replacing the featured videos -/

/-- All videos are in scope, each with its flag. -/
theorem mem_inScope_featuredVideos {id : VideoId} {flag : Bool} :
    (id.text, flag) ∈ s.inScope .featuredVideos ↔
      ∃ row : Video, s.videos[id]? = some row ∧ row.isFeatured = flag := by
  simp only [inScope, List.mem_map, Prod.exists, Std.ExtTreeMap.mem_toList_iff_getElem?_eq_some,
    Prod.mk.injEq]
  constructor
  · rintro ⟨⟨text⟩, row, found, rfl, hflag⟩
    exact ⟨row, found, hflag⟩
  · rintro ⟨row, found, hflag⟩
    exact ⟨id, row, found, rfl, hflag⟩

/-- Replacing the featured videos gives each video what `Video.refeatured` says. -/
theorem getElem?_replaceFeatured {wanted : List String} {updatedAt : Int64} {change : SetChange}
    (replaced : s.replaceSet .featuredVideos wanted updatedAt = .ok (change, s')) (id : VideoId) :
    s'.videos[id]? = s.videos[id]?.map (·.refeatured (decide (id.text ∈ wanted)) updatedAt) := by
  obtain ⟨rfl, rfl⟩ := replaceSet_eq_ok replaced
  rw [setFlag, setFlag, Std.ExtTreeMap.getElem?_map, Std.ExtTreeMap.getElem?_map]
  rcases found : s.videos[id]? with - | row
  · rfl
  · -- A flag is cleared or set only where it differs from what is wanted.
    have hflag {flag : Bool} :
        (id.text, flag) ∈ s.inScope .featuredVideos ↔ row.isFeatured = flag := by
      rw [mem_inScope_featuredVideos, found]
      simp
    have hremoved : id.text ∈ (s.changeTo .featuredVideos wanted).removed ↔
        row.isFeatured = true ∧ id.text ∉ wanted := by
      simp [changeTo, hflag]
    have hadded : id.text ∈ (s.changeTo .featuredVideos wanted).added ↔
        row.isFeatured = false ∧ id.text ∈ wanted := by
      simp [changeTo, hflag]
    simp only [Option.map_some, List.contains_iff_mem, hadded, hremoved, Video.refeatured]
    by_cases hwanted : id.text ∈ wanted <;> cases hfeatured : row.isFeatured <;> simp [hwanted]

/-- Replacing the featured videos features those that are wanted. -/
theorem videoFlags?_replaceFeatured {wanted : List String} {updatedAt : Int64} {change : SetChange}
    (replaced : s.replaceSet .featuredVideos wanted updatedAt = .ok (change, s')) (id : VideoId) :
    s'.videoFlags? id = (s.videoFlags? id).map fun flags ↦
      { flags with isFeatured := decide (id.text ∈ wanted) } := by
  rw [videoFlags?, videoFlags?, getElem?_replaceFeatured replaced, Option.map_map, Option.map_map]
  refine congrArg (Option.map · _) (funext fun row ↦ ?_)
  show (row.refeatured _ _).flags = { row.flags with isFeatured := decide (id.text ∈ wanted) }
  rw [Video.refeatured]
  split
  · rfl
  · next hkept => rw [← Decidable.of_not_not hkept, Video.flags]

/-- Videos can be featured only if there are such videos. -/
theorem exists_of_replaceFeatured {wanted : List String} {updatedAt : Int64} {change : SetChange}
    (replaced : s.replaceSet .featuredVideos wanted updatedAt = .ok (change, s')) {id : VideoId}
    (hwanted : id.text ∈ wanted) : ∃ row : Video, s.videos[id]? = some row := by
  rw [replaceSet_eq] at replaced
  split at replaced
  · next hmissing =>
    have hpresent := List.filter_eq_nil_iff.1 hmissing id.text (by simpa using hwanted)
    rw [Bool.not_eq_true', Bool.not_eq_false, List.any_eq_true] at hpresent
    obtain ⟨⟨text, flag⟩, hmem, htext⟩ := hpresent
    obtain rfl : text = id.text := of_decide_eq_true htext
    obtain ⟨row, found, -⟩ := mem_inScope_featuredVideos.1 hmem
    exact ⟨row, found⟩
  · cases replaced

end Store

/-! ### The flags after an event -/

namespace EventData

/-- Whether an event creates a channel. -/
def createsChannel (id : ChannelId) : EventData → Bool
  | .channelCreated channel => channel = id
  | _ => false

/-- What an event says of the censorship of a channel. -/
def channelCensored? (id : ChannelId) : EventData → Option Bool
  | .channelCensorshipUpdated channel isCensored _ => if channel = id then some isCensored else none
  | _ => none

/-- Whether an event creates a video. -/
def createsVideo (id : VideoId) : EventData → Bool
  | .videoCreated _ video => video = id
  | _ => false

/-- Whether an event deletes a video. -/
def deletesVideo (id : VideoId) : EventData → Bool
  | .videoDeleted video => video = id
  | _ => false

/-- What an event says of the censorship of a video. -/
def videoCensored? (id : VideoId) : EventData → Option Bool
  | .videoCensorshipUpdated video isCensored _ => if video = id then some isCensored else none
  | _ => none

/-- The videos that an event features, all others being featured no more. -/
def featuredVideos? : EventData → Option (List VideoId)
  | .featuredVideosSet videos => some videos
  | _ => none

/-- The flag of a channel after an event. -/
def channelFlag (id : ChannelId) (before : Option Bool) (d : EventData) : Option Bool :=
  if d.createsChannel id then some false
  else before.map fun isCensored ↦ (d.channelCensored? id).getD isCensored

/-- The flags of a video after an event. -/
def videoFlags (id : VideoId) (before : Option VideoFlags) (d : EventData) : Option VideoFlags :=
  if d.createsVideo id then some {}
  else if d.deletesVideo id then none
  else before.map fun flags ↦ {
    isCensored := (d.videoCensored? id).getD flags.isCensored
    isFeatured := (d.featuredVideos?.map fun videos ↦ decide (id ∈ videos)).getD flags.isFeatured }

/-- An event that neither creates a channel nor censors it leaves its flag. -/
theorem channelFlag_of_silent {id : ChannelId} {before : Option Bool}
    (hcreates : d.createsChannel id = false) (hcensors : d.channelCensored? id = none) :
    d.channelFlag id before = before := by
  simp [channelFlag, hcreates, hcensors]

/-- An event that does nothing of what sets the flags of a video leaves them. -/
theorem videoFlags_of_silent {id : VideoId} {before : Option VideoFlags}
    (hcreates : d.createsVideo id = false) (hdeletes : d.deletesVideo id = false)
    (hcensors : d.videoCensored? id = none) (hfeatures : d.featuredVideos? = none) :
    d.videoFlags id before = before := by
  simp [videoFlags, hcreates, hdeletes, hcensors, hfeatures]

end EventData

/-- No payload censors a channel. -/
theorem ChannelChanges.Merging.isCensored_eq {owner : DataObjectOwner} {channel channel' : Channel}
    {changes : Option ChannelChanges} (merged : Merging o owner s channel changes channel' s') :
    channel'.isCensored = channel.isCensored := by
  cases merged <;> rfl

/-- No payload sets a flag of a video. -/
theorem VideoChanges.Merging.flags_eq {owner : DataObjectOwner} {video video' : Video}
    {changes : Option VideoChanges} (merged : Merging o owner s video changes video' s') :
    video'.flags = video.flags := by
  cases merged <;> rfl

/-- A content event changes the flag of a channel as its record says. -/
theorem ContentEvent.Step.channelFlag?_eq {e : ContentEvent} (hkeyed : s.Keyed)
    (step : Step o s e d s') (id : ChannelId) :
    s'.channelFlag? id = d.channelFlag id (s.channelFlag? id) := by
  cases step with
  | @channelCreated actor created owner creation changes channel t read merged =>
    -- The new row replaces whatever was there, flag included.
    have hid : channel.id = created := merged.id_eq
    have hflag : channel.isCensored = false := merged.isCensored_eq
    have hrows : t.channels = s.channels :=
      ((registers_withOwner s o owner).trans merged.registers).channels
    rw [channelFlag?_saveChannel, hid, hflag, channelFlag?_of_channels hrows]
    by_cases heq : created = id <;>
      simp [EventData.channelFlag, EventData.createsChannel, EventData.channelCensored?, heq]
  | @channelUpdated actor updated update row channel changes t found asked merged =>
    have hid : channel.id = updated := merged.id_eq.trans (hkeyed.channels found)
    have hfound : t.channels[updated]? = some row := merged.registers.channels ▸ found
    rw [EventData.channelFlag_of_silent rfl rfl,
      ← channelFlag?_of_channels merged.registers.channels]
    refine map_getElem?_upsert_of_found hfound hid (fun _ ↦ ?_) ?_ id
    · rfl
    · exact merged.isCensored_eq
  | @channelCensorship isCensored censored rationale row found =>
    rw [channelFlag?_saveChannel, hkeyed.channels found]
    by_cases heq : censored = id
    · subst heq
      simp [EventData.channelFlag, EventData.createsChannel, EventData.channelCensored?,
        channelFlag?, found]
    · simp [EventData.channelFlag, EventData.createsChannel, EventData.channelCensored?, heq]
  | videoCreated found read merged =>
    rw [EventData.channelFlag_of_silent rfl rfl]
    exact channelFlag?_of_channels merged.registers.channels id
  | videoUpdated found fits asked merged =>
    rw [EventData.channelFlag_of_silent rfl rfl]
    exact channelFlag?_of_channels merged.registers.channels id
  | featuredVideosSet replaced =>
    rw [replaceFeatured_frame replaced, EventData.channelFlag_of_silent rfl rfl]
    rfl
  | _ => exact (EventData.channelFlag_of_silent rfl rfl).symm

/-- A content event changes the flags of a video as its record says. -/
theorem ContentEvent.Step.videoFlags?_eq {e : ContentEvent} (hkeyed : s.Keyed)
    (step : Step o s e d s') (id : VideoId) :
    s'.videoFlags? id = d.videoFlags id (s.videoFlags? id) := by
  cases step with
  | @videoCreated actor channel created creation row changes video t found read merged =>
    have hid : video.id = created := merged.id_eq
    have hflags : video.flags = {} := merged.flags_eq
    rw [videoFlags?_saveVideo, hid, hflags, videoFlags?_of_videos merged.registers.videos]
    by_cases heq : created = id
    · simp [EventData.videoFlags, EventData.createsVideo, heq]
    · rw [if_neg heq,
        EventData.videoFlags_of_silent (by simpa [EventData.createsVideo]) rfl rfl rfl]
  | @videoUpdated actor updated update row video changes t found fits asked merged =>
    have hid : video.id = updated := merged.id_eq.trans (hkeyed.videos found)
    have hfound : t.videos[updated]? = some row := merged.registers.videos ▸ found
    rw [EventData.videoFlags_of_silent rfl rfl rfl rfl,
      ← videoFlags?_of_videos merged.registers.videos]
    refine map_getElem?_upsert_of_found hfound hid (fun _ ↦ ?_) ?_ id
    · rfl
    · exact merged.flags_eq
  | @videoDeleted deleted row found fits =>
    -- A video that is deleted has no flags, which is not the same as flags that are not set.
    have hrows : (s.removeVideo row.id).2.videos[id]? =
        if deleted = id then none else s.videos[id]? := by
      rw [removeVideo, hkeyed.videos found, getElem?_erase]
    rw [videoFlags?, hrows]
    by_cases heq : deleted = id
    · simp [EventData.videoFlags, EventData.createsVideo, EventData.deletesVideo, heq]
    · rw [if_neg heq,
        EventData.videoFlags_of_silent rfl (by simpa [EventData.deletesVideo]) rfl rfl]
      rfl
  | @videoCensorship isCensored censored rationale row found fits =>
    rw [videoFlags?_saveVideo, hkeyed.videos found]
    by_cases heq : censored = id
    · subst heq
      simp [EventData.videoFlags, EventData.createsVideo, EventData.deletesVideo,
        EventData.videoCensored?, EventData.featuredVideos?, videoFlags?, found, Video.flags]
    · rw [if_neg heq,
        EventData.videoFlags_of_silent rfl rfl (by simpa [EventData.videoCensored?]) rfl]
  | featuredVideosSet replaced =>
    rw [videoFlags?_replaceFeatured replaced]
    simp [EventData.videoFlags, EventData.createsVideo, EventData.deletesVideo,
      EventData.videoCensored?, EventData.featuredVideos?, mem_map_text]
  | channelCreated read merged =>
    rw [EventData.videoFlags_of_silent rfl rfl rfl rfl]
    exact videoFlags?_of_videos ((registers_withOwner ..).trans merged.registers).videos id
  | channelUpdated found asked merged =>
    rw [EventData.videoFlags_of_silent rfl rfl rfl rfl]
    exact videoFlags?_of_videos merged.registers.videos id
  | _ => exact (EventData.videoFlags_of_silent rfl rfl rfl rfl).symm

/-- The acceptance of a data object changes no flag. -/
theorem Store.flags_setSlotAvailability (s : Store) (content : ContentId)
    (availability : AssetAvailability) (updatedAt : Int64) :
    (∀ id, (s.setSlotAvailability content availability updatedAt).2.channelFlag? id =
      s.channelFlag? id) ∧
      ∀ id, (s.setSlotAvailability content availability updatedAt).2.videoFlags? id =
        s.videoFlags? id := by
  constructor
  · intro id
    rw [channelFlag?, setSlotAvailability, Std.ExtTreeMap.getElem?_map, Option.map_map]
    refine congrArg (Option.map · _) (funext fun row ↦ ?_)
    show (refreshChannel content availability updatedAt row).isCensored = row.isCensored
    rw [refreshChannel]
    split <;> rfl
  · intro id
    rw [videoFlags?, setSlotAvailability, Std.ExtTreeMap.getElem?_map, Option.map_map]
    refine congrArg (Option.map · _) (funext fun row ↦ ?_)
    show (refreshVideo content availability updatedAt row).flags = row.flags
    rw [refreshVideo]
    split <;> rfl

namespace Handles

/-- Every step changes the flag of a channel as its record says. -/
theorem channelFlag?_eq (hkeyed : s.Keyed) (handled : Handles o s d s') (id : ChannelId) :
    s'.channelFlag? id = d.channelFlag id (s.channelFlag? id) := by
  rcases handled with ⟨-, -, step⟩ | ⟨-, -, step⟩ | ⟨-, -, step⟩
  · rw [channelFlag?_of_channels step.writesForum.channels]
    cases step <;> exact (EventData.channelFlag_of_silent rfl rfl).symm
  · exact step.channelFlag?_eq hkeyed id
  · cases step
    rw [EventData.channelFlag_of_silent rfl rfl]
    exact (flags_setSlotAvailability ..).1 id

/-- Every step changes the flags of a video as its record says. -/
theorem videoFlags?_eq (hkeyed : s.Keyed) (handled : Handles o s d s') (id : VideoId) :
    s'.videoFlags? id = d.videoFlags id (s.videoFlags? id) := by
  rcases handled with ⟨-, -, step⟩ | ⟨-, -, step⟩ | ⟨-, -, step⟩
  · rw [videoFlags?_of_videos step.writesForum.videos]
    cases step <;> exact (EventData.videoFlags_of_silent rfl rfl rfl rfl).symm
  · exact step.videoFlags?_eq hkeyed id
  · cases step
    rw [EventData.videoFlags_of_silent rfl rfl rfl rfl]
    exact (flags_setSlotAvailability ..).2 id

end Handles

/-! ### Censorship in the log -/

/-- In a visited store a channel is censored exactly if its last censorship since its last creation
says so. -/
theorem Store.Visited.channelFlag?_eq_some (h : Visited admits s) {id : ChannelId}
    {isCensored : Bool} (found : s.channelFlag? id = some isCensored) :
    isCensored = lastSince (·.data.createsChannel id) (·.data.channelCensored? id) false s.log := by
  induction h generalizing isCensored with
  | seeded h =>
    rw [h.eq] at found
    simp [channelFlag?] at found
  | @event s t o d visited _ handled _ ih =>
    have hstep : t.channelFlag? id = some isCensored := found
    rw [handled.channelFlag?_eq visited.keyed, EventData.channelFlag] at hstep
    rw [handled.log_withRecord, lastSince_cons]
    split at hstep
    · next hcreates =>
      cases hstep
      exact (if_pos hcreates).symm
    · next hcreates =>
      obtain ⟨before, hbefore, rfl⟩ := Option.map_eq_some_iff.1 hstep
      rw [ih hbefore]
      exact (if_neg hcreates).symm
  | cursor _ _ ih => exact ih found

/-- In a visited store a video is censored exactly if its last censorship since its last creation
says so. -/
theorem Store.Visited.videoFlags?_eq_some (h : Visited admits s) {id : VideoId}
    {flags : VideoFlags} (found : s.videoFlags? id = some flags) :
    flags.isCensored =
      lastSince (·.data.createsVideo id) (·.data.videoCensored? id) false s.log := by
  induction h generalizing flags with
  | seeded h =>
    rw [h.eq] at found
    simp [videoFlags?] at found
  | @event s t o d visited _ handled _ ih =>
    have hstep : t.videoFlags? id = some flags := found
    rw [handled.videoFlags?_eq visited.keyed, EventData.videoFlags] at hstep
    rw [handled.log_withRecord, lastSince_cons]
    split at hstep
    · next hcreates =>
      cases hstep
      exact (if_pos hcreates).symm
    · next hcreates =>
      split at hstep
      · cases hstep
      · obtain ⟨before, hbefore, rfl⟩ := Option.map_eq_some_iff.1 hstep
        show (d.videoCensored? id).getD before.isCensored = _
        rw [ih hbefore]
        exact (if_neg hcreates).symm
  | cursor _ _ ih => exact ih found

/-! ### Featured videos -/

/-- There is a video with this id and it is featured. -/
def Store.Featured (s : Store) (id : VideoId) : Prop :=
  ∃ row : Video, s.videos[id]? = some row ∧ row.isFeatured = true

theorem Store.featured_iff {id : VideoId} :
    s.Featured id ↔ ∃ flags, s.videoFlags? id = some flags ∧ flags.isFeatured = true := by
  rw [Featured, videoFlags?]
  constructor
  · rintro ⟨row, found, hfeatured⟩
    exact ⟨row.flags, by rw [found, Option.map_some], hfeatured⟩
  · rintro ⟨flags, hflags, hfeatured⟩
    obtain ⟨row, found, rfl⟩ := Option.map_eq_some_iff.1 hflags
    exact ⟨row, found, hfeatured⟩

theorem EventData.featuredVideos?_eq_some {videos : List VideoId}
    (h : d.featuredVideos? = some videos) : d = .featuredVideosSet videos := by
  cases d <;> cases h
  rfl

/-- All videos of a list that was featured are there. -/
theorem Handles.exists_of_featuredVideosSet {videos : List VideoId} {id : VideoId}
    (handled : Handles o s (.featuredVideosSet videos) s') (hmem : id ∈ videos) :
    ∃ row : Video, s.videos[id]? = some row := by
  rcases handled with ⟨-, -, step⟩ | ⟨-, -, step⟩ | ⟨-, -, step⟩
  · cases step
  · cases step with
    | featuredVideosSet replaced => exact exists_of_replaceFeatured replaced (mem_map_text.2 hmem)
  · cases step

/-- The videos that are featured after a step: those of its list, if it brings one, else those that
were and that it neither creates nor deletes. -/
theorem Handles.featured_iff (hkeyed : s.Keyed) (handled : Handles o s d s') (id : VideoId) :
    s'.Featured id ↔ match d.featuredVideos? with
      | some videos => id ∈ videos
      | none => s.Featured id ∧ d.createsVideo id = false ∧ d.deletesVideo id = false := by
  rw [Store.featured_iff, handled.videoFlags?_eq hkeyed]
  rcases hlist : d.featuredVideos? with - | videos
  · rw [Store.featured_iff]
    cases hcreates : d.createsVideo id with
    | true => simp [EventData.videoFlags, hcreates]
    | false =>
      cases hdeletes : d.deletesVideo id with
      | true => simp [EventData.videoFlags, hcreates, hdeletes]
      | false => simp [EventData.videoFlags, hcreates, hdeletes, hlist]
  · obtain rfl := EventData.featuredVideos?_eq_some hlist
    constructor
    · rintro ⟨flags, hflags, hfeatured⟩
      obtain ⟨before, -, rfl⟩ := Option.map_eq_some_iff.1 hflags
      exact of_decide_eq_true hfeatured
    · -- A video that is listed was found, so it has flags that the list could set.
      intro hmem
      obtain ⟨row, found⟩ := handled.exists_of_featuredVideosSet hmem
      have hbefore : s.videoFlags? id = some row.flags := by
        rw [videoFlags?, found, Option.map_some]
      rw [hbefore]
      exact ⟨_, rfl, decide_eq_true hmem⟩

/-- The last list of featured videos; none are listed before the first. -/
def lastFeatured (log : List EventRecord) : List VideoId :=
  (log.findSome? (·.data.featuredVideos?)).getD []

/-- The records since the last list of featured videos. -/
def sinceFeatured (log : List EventRecord) : List EventRecord :=
  log.takeWhile (·.data.featuredVideos?.isNone)

namespace Store

/-- In a visited store the featured videos are those of the last list that no event created or
deleted since. -/
theorem Visited.featured_iff (h : Visited admits s) (id : VideoId) :
    s.Featured id ↔ id ∈ lastFeatured s.log ∧ ∀ record ∈ sinceFeatured s.log,
      record.data.createsVideo id = false ∧ record.data.deletesVideo id = false := by
  induction h with
  | seeded h =>
    rw [h.eq]
    simp [Featured, lastFeatured]
  | @event s t o d visited _ handled _ ih =>
    have hstep : (t.withRecord (o.record d)).Featured id ↔ t.Featured id := Iff.rfl
    rw [hstep, handled.featured_iff visited.keyed, handled.log_withRecord, lastFeatured,
      sinceFeatured, List.findSome?_cons, List.takeWhile_cons, Occurrence.record_data]
    rcases d.featuredVideos? with - | videos
    -- The record of another event is one more since the last list.
    · simp only [ih, Option.isNone_none, if_true, List.forall_mem_cons, Occurrence.record_data]
      exact ⟨fun ⟨⟨hmem, hsince⟩, hrecord⟩ ↦ ⟨hmem, hrecord, hsince⟩,
        fun ⟨hmem, hrecord, hsince⟩ ↦ ⟨⟨hmem, hsince⟩, hrecord⟩⟩
    · simp
  | cursor _ _ ih => exact ih

/-- In every store that a run meets, so in every reachable one, the featured videos are those of the
last list of featured videos that were neither created nor deleted since; and only three kinds of
events feature a video there or make it one that is not featured: one that brings a new list, one
that creates the video and one that deletes it. -/
theorem featured_of_visited (h : Visited admits s) (id : VideoId) :
    (s.Featured id ↔ id ∈ lastFeatured s.log ∧ ∀ record ∈ sinceFeatured s.log,
      record.data.createsVideo id = false ∧ record.data.deletesVideo id = false) ∧
      ∀ o known t, (Projection.event o).Yields s known t →
        (t.Featured id ↔ s.Featured id) ∨ ∃ record, t.log = record :: s.log ∧
          (record.data.featuredVideos?.isSome ∨ record.data.createsVideo id = true ∨
            record.data.deletesVideo id = true) := by
  refine ⟨h.featured_iff id, fun o known t yields ↦ ?_⟩
  rcases Projection.yields_event.1 yields with ⟨-, -, rfl⟩ | ⟨-, -, d, u, handled, -, rfl⟩
  · exact Or.inl Iff.rfl
  · have hstep := handled.featured_iff h.keyed id
    rcases hlist : d.featuredVideos? with - | videos
    · rw [hlist] at hstep
      by_cases hnamed : d.createsVideo id = true ∨ d.deletesVideo id = true
      · exact Or.inr ⟨_, handled.log_withRecord, Or.inr hnamed⟩
      · obtain ⟨hcreates, hdeletes⟩ := not_or.1 hnamed
        exact Or.inl (hstep.trans (and_iff_left ⟨by simpa using hcreates, by simpa using hdeletes⟩))
    · refine Or.inr ⟨_, handled.log_withRecord, Or.inl ?_⟩
      rw [Occurrence.record_data, hlist, Option.isSome_some]

/-- Two videos are featured; one of them is censored and the other is deleted. -/
def featuringBlock : Block where
  number := 0
  timestamp := 0
  events := [
    ⟨"content.ChannelCreated", 0, none, [.string "Lead", .int 1,
      .object [("owner", .object [("Member", .int 1)])], .object [("meta", .string "0x")]]⟩,
    ⟨"content.VideoCreated", 1, none, [.string "Lead", .int 1, .int 2,
      .object [("meta", .string "0x")]]⟩,
    ⟨"content.VideoCreated", 2, none, [.string "Lead", .int 1, .int 3,
      .object [("meta", .string "0x")]]⟩,
    ⟨"content.FeaturedVideosSet", 3, none, [.string "Lead", .array [.int 2, .int 3]]⟩,
    ⟨"content.VideoCensored", 4, none, [.string "Lead", .int 2, .string "0x"]⟩,
    ⟨"content.VideoDeleted", 5, none, [.string "Lead", .int 3]⟩]

/-- The store after the deletion. -/
def featuringStore : Store := afterBlock {} featuringBlock

/-- Both videos are in the last list, and the one that was not deleted is featured. -/
theorem featured_of_visited_featuringStore :
    featuringStore.Reachable ∧ lastFeatured featuringStore.log = [⟨"2"⟩, ⟨"3"⟩] ∧
      featuringStore.videos[(⟨"2"⟩ : VideoId)]?.map Video.isFeatured = some true ∧
      featuringStore.videos[(⟨"3"⟩ : VideoId)]?.map Video.isFeatured = none ∧
      featuringStore.Featured ⟨"2"⟩ ∧ ¬featuringStore.Featured ⟨"3"⟩ := by
  have hreachable : featuringStore.Reachable := .block (.seeded .fresh) _ fun _ _ ↦ trivial
  have hlist : lastFeatured featuringStore.log = [⟨"2"⟩, ⟨"3"⟩] := by decide +kernel
  have hkept := (featured_of_visited hreachable.visited ⟨"2"⟩).1
  have hdeleted := (featured_of_visited hreachable.visited ⟨"3"⟩).1
  refine ⟨hreachable, hlist, by decide +kernel, by decide +kernel, ?_, ?_⟩
  · rw [hkept, hlist]
    exact ⟨List.mem_cons_self, by decide +kernel⟩
  · rw [hdeleted]
    rintro ⟨-, hsince⟩
    exact absurd hsince (by decide +kernel)

end Store

end ChainProjection
