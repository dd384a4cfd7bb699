import ChainProjection.Proofs.Projection.Block
import ChainProjection.Proofs.Store.Tables

/-!
# What steps leave alone

Forum events write the forum and content events the content; **members are the one table both
write**, and no step writes the log, the cursor or the workers.  The three results a later module
uses are `ForumEvent.Step.writesForum`, `ContentEvent.Step.writesContent` and `Handles.past_eq`.

A frame is a structure of equations between the tables of two stores.  So an invariant that speaks
of threads alone has its content events settled by one line, and a proof about videos does not look
at a forum event at all.  What is said of polls is finer: besides being left alone they may gain
one, and `Attaches` says for which thread, with which alternatives and under which row numbers,
since later results count on polls never being written twice.  `PollGrowth` is what is left of it
without the alternatives.

The log is the one table that steps leave alone and that events still write: the record is put on
top after the step, which is `Handles.log_withRecord`.
-/

namespace ChainProjection

variable {o : Occurrence} {s s' t : Store} {d : EventData}

namespace Store

/-- Going from `s` to `s'` writes the forum and members at most. -/
structure WritesForum (s s' : Store) : Prop where
  languages : s'.languages = s.languages
  licenses : s'.licenses = s.licenses
  licenseRows : s'.licenseRows = s.licenseRows
  channels : s'.channels = s.channels
  videos : s'.videos = s.videos
  channelCategories : s'.channelCategories = s.channelCategories
  videoCategories : s'.videoCategories = s.videoCategories
  dataObjects : s'.dataObjects = s.dataObjects
  log : s'.log = s.log
  cursor : s'.cursor = s.cursor
  workers : s'.workers = s.workers

/-- Going from `s` to `s'` writes the content and members at most. -/
structure WritesContent (s s' : Store) : Prop where
  categories : s'.categories = s.categories
  moderators : s'.moderators = s.moderators
  threads : s'.threads = s.threads
  posts : s'.posts = s.posts
  polls : s'.polls = s.polls
  pollRows : s'.pollRows = s.pollRows
  alternativeRows : s'.alternativeRows = s.alternativeRows
  log : s'.log = s.log
  cursor : s'.cursor = s.cursor
  workers : s'.workers = s.workers

theorem WritesForum.refl (s : Store) : WritesForum s s :=
  ⟨rfl, rfl, rfl, rfl, rfl, rfl, rfl, rfl, rfl, rfl, rfl⟩

theorem WritesContent.refl (s : Store) : WritesContent s s :=
  ⟨rfl, rfl, rfl, rfl, rfl, rfl, rfl, rfl, rfl, rfl⟩

/-- Content written twice is content written. -/
theorem WritesContent.trans (h : WritesContent s t) (h' : WritesContent t s') :
    WritesContent s s' where
  categories := h'.categories.trans h.categories
  moderators := h'.moderators.trans h.moderators
  threads := h'.threads.trans h.threads
  posts := h'.posts.trans h.posts
  polls := h'.polls.trans h.polls
  pollRows := h'.pollRows.trans h.pollRows
  alternativeRows := h'.alternativeRows.trans h.alternativeRows
  log := h'.log.trans h.log
  cursor := h'.cursor.trans h.cursor
  workers := h'.workers.trans h.workers

/-- A poll is attached to a thread that has none, with the next row number. -/
theorem not_mem_polls_of_insertPoll {thread : ThreadId} {description : String}
    {endTime createdAt : Int64} {alternatives : List String} {row : Nat}
    (h : s.insertPoll thread description endTime alternatives createdAt = .ok (row, s')) :
    thread ∉ s.polls ∧ row = s.pollRows + 1 := by
  rw [insertPoll] at h
  split at h
  · cases h
  · next hnew =>
    cases h
    exact ⟨fun hmem ↦ hnew (Std.ExtTreeMap.mem_iff_contains.1 hmem), rfl⟩

/-- What attaching a poll did, if it was possible. -/
theorem insertPoll_eq_ok {thread : ThreadId} {description : String} {endTime createdAt : Int64}
    {alternatives : List String} {row : Nat}
    (h : s.insertPoll thread description endTime alternatives createdAt = .ok (row, s')) :
    s' = { s with
      polls := s.polls.insert thread ⟨row, description, endTime, createdAt,
        alternativesFrom 0 (s.alternativeRows + 1) alternatives⟩
      pollRows := row
      alternativeRows := s.alternativeRows + alternatives.length } := by
  rw [insertPoll] at h
  split at h
  · cases h
  · cases h
    rfl

end Store

open Store

/-! ### Forum events -/

/-- A poll is all that comes with a poll. -/
theorem ForumEvent.PollStep.frame {thread : ThreadId} {poll : Option PollInput}
    (polled : PollStep o s thread poll s') :
    s' = { s with
      polls := s'.polls
      pollRows := s'.pollRows
      alternativeRows := s'.alternativeRows } := by
  cases polled with
  | none => rfl
  | some _ attached =>
    obtain rfl := insertPoll_eq_ok attached
    rfl

/-- A poll belongs to the forum. -/
theorem ForumEvent.PollStep.writesForum {thread : ThreadId} {poll : Option PollInput}
    (h : PollStep o s thread poll s') : WritesForum s s' := by
  cases h with
  | none => exact .refl s
  | some _ attached =>
    obtain rfl := insertPoll_eq_ok attached
    exact { WritesForum.refl s with }

/-- **A forum event writes the forum**, and members at most besides. -/
theorem ForumEvent.Step.writesForum {e : ForumEvent} (h : Step o s e d s') :
    WritesForum s s' := by
  cases h with
  | threadCreated found polled => exact { polled.writesForum with }
  | postDeleted allowed =>
    rw [foldl_savePost]
    exact { WritesForum.refl s with }
  | categoryStickyThreadUpdate found granted replaced =>
    rw [replaceSticky_frame replaced]
    exact { WritesForum.refl s with }
  | @categoryMembershipOfModeratorUpdated _ _ canModerate =>
    -- Either way the moderators are all that changes besides the row of the category.
    cases canModerate <;> exact { WritesForum.refl s with }
  | _ => exact { WritesForum.refl s with }

/-- What an event does to the polls: none, or one for a thread that had none, with the next row
number. -/
inductive PollGrowth (s s' : Store) : Option ThreadId → Prop
  | kept (polls : s'.polls = s.polls) (rows : s'.pollRows = s.pollRows) : PollGrowth s s' none
  | attached {thread : ThreadId} {poll : Poll} (new : thread ∉ s.polls)
      (row : poll.id = s.pollRows + 1) (polls : s'.polls = s.polls.insert thread poll)
      (rows : s'.pollRows = s.pollRows + 1) : PollGrowth s s' (some thread)

/-- The poll that an event brings, with the thread that gets it. -/
def ForumEvent.poll? : ForumEvent → Option (ThreadId × PollInput)
  | .threadCreated _ thread _ _ _ _ (some poll) => some (thread, poll)
  | _ => none

theorem ForumEvent.polled?_eq_map (e : ForumEvent) : e.polled? = e.poll?.map Prod.fst := by
  cases e with
  | threadCreated category thread post author title text poll => cases poll <;> rfl
  | _ => rfl

/-- What an event does to the polls and their alternatives: nothing, or a thread that had no poll
gets the poll it brings, with the next row numbers. -/
inductive Attaches (s s' : Store) : Option (ThreadId × PollInput) → Prop
  | nothing (polls : s'.polls = s.polls) (pollRows : s'.pollRows = s.pollRows)
      (alternativeRows : s'.alternativeRows = s.alternativeRows) : Attaches s s' none
  | poll {thread : ThreadId} {input : PollInput} {poll : Poll} (new : thread ∉ s.polls)
      (row : poll.id = s.pollRows + 1)
      (made : poll.alternatives =
        alternativesFrom 0 (s.alternativeRows + 1) input.alternatives)
      (polls : s'.polls = s.polls.insert thread poll) (pollRows : s'.pollRows = s.pollRows + 1)
      (alternativeRows : s'.alternativeRows = s.alternativeRows + input.alternatives.length) :
      Attaches s s' (some (thread, input))

theorem Store.WritesContent.attaches (h : WritesContent s s') : Attaches s s' none :=
  .nothing h.polls h.pollRows h.alternativeRows

/-- A forum event attaches the poll it brings and no other. -/
theorem ForumEvent.Step.attaches {e : ForumEvent} (h : Step o s e d s') :
    Attaches s s' e.poll? := by
  cases h with
  | threadCreated found polled =>
    cases polled with
    | none => exact .nothing rfl rfl rfl
    | some _ attached =>
      obtain ⟨hnew, hrow⟩ := not_mem_polls_of_insertPoll attached
      obtain rfl := insertPoll_eq_ok attached
      exact .poll hnew hrow rfl rfl hrow rfl
  | postDeleted allowed =>
    rw [foldl_savePost]
    exact .nothing rfl rfl rfl
  | categoryStickyThreadUpdate found granted replaced =>
    rw [replaceSticky_frame replaced]
    exact .nothing rfl rfl rfl
  | @categoryMembershipOfModeratorUpdated _ _ canModerate =>
    cases canModerate <;> exact .nothing rfl rfl rfl
  | _ => exact .nothing rfl rfl rfl

/-- Of the polls alone, without their alternatives. -/
theorem Attaches.pollGrowth {brought : Option (ThreadId × PollInput)} (h : Attaches s s' brought) :
    PollGrowth s s' (brought.map Prod.fst) := by
  cases h with
  | nothing polls pollRows => exact .kept polls pollRows
  | poll new row _ polls pollRows => exact .attached new row polls pollRows

/-! ### Content events -/

theorem LanguageStep.writesContent {current code language : Option String}
    (h : LanguageStep o s current code language s') : WritesContent s s' := by
  cases h with
  | kept => exact .refl s
  | named valid => exact { WritesContent.refl s with }

theorem LicenseStep.writesContent {current row : Option Nat} {license : Option Metadata.License}
    (h : LicenseStep o s current license row s') : WritesContent s s' := by
  cases h with
  | kept => exact .refl s
  | stored => exact { WritesContent.refl s with }

namespace Store

theorem writesContent_withAsset? (s : Store) (o : Occurrence) (owner : DataObjectOwner)
    (asset : Option RawAsset) : WritesContent s (s.withAsset? o owner asset) := by
  rcases asset with - | links | parameters <;> exact { WritesContent.refl s with }

theorem writesContent_withOwner (s : Store) (o : Occurrence) (owner : ChannelOwner) :
    WritesContent s (s.withOwner o owner) := by
  cases owner <;> exact { WritesContent.refl s with }

end Store

/-- Merging changes into a channel writes a language and data objects. -/
theorem ChannelChanges.Merging.writesContent {owner : DataObjectOwner}
    {channel channel' : Channel} {changes : Option ChannelChanges}
    (h : Merging o owner s channel changes channel' s') : WritesContent s s' := by
  cases h with
  | kept => exact .refl s
  | merged spoken =>
    exact (spoken.writesContent.trans (writesContent_withAsset? ..)).trans
      (writesContent_withAsset? ..)

/-- Merging changes into a video writes a language, a license and data objects. -/
theorem VideoChanges.Merging.writesContent {owner : DataObjectOwner} {video video' : Video}
    {changes : Option VideoChanges} (h : Merging o owner s video changes video' s') :
    WritesContent s s' := by
  cases h with
  | kept => exact .refl s
  | merged spoken licensed pictured =>
    subst pictured
    exact ((spoken.writesContent.trans licensed.writesContent).trans
      (writesContent_withAsset? ..)).trans (writesContent_withAsset? ..)

/-- **A content event writes the content**, and members at most besides. -/
theorem ContentEvent.Step.writesContent {e : ContentEvent} (h : Step o s e d s') :
    WritesContent s s' := by
  cases h with
  | channelCreated read merged =>
    exact { (writesContent_withOwner ..).trans merged.writesContent with }
  | channelUpdated found asked merged => exact { merged.writesContent with }
  | videoCreated found read merged => exact { merged.writesContent with }
  | videoUpdated found fits asked merged => exact { merged.writesContent with }
  | featuredVideosSet replaced =>
    rw [replaceFeatured_frame replaced]
    exact { WritesContent.refl s with }
  | _ => exact { WritesContent.refl s with }

/-- The acceptance of a data object writes the content. -/
theorem ContentAcceptance.Step.writesContent {acceptance : ContentAcceptance}
    (h : Step o s acceptance d s') : WritesContent s s' := by
  cases h with
  | accepted found => exact { WritesContent.refl s with }

/-! ### All events -/

/-- The thread that gets a poll, if the occurrence reads as an event that brings one. -/
def Occurrence.polled? (o : Occurrence) : Option ThreadId := o.forum?.bind ForumEvent.polled?

/-- The poll that an occurrence brings, if it reads as an event that brings one. -/
def Occurrence.poll? (o : Occurrence) : Option (ThreadId × PollInput) :=
  o.forum?.bind ForumEvent.poll?

theorem Occurrence.polled?_eq_map (o : Occurrence) : o.polled? = o.poll?.map Prod.fst := by
  rw [polled?, poll?]
  cases o.forum? with
  | none => rfl
  | some e => exact e.polled?_eq_map

/-- A step attaches the poll it brings and no other; only the name of a forum event brings one. -/
theorem Handles.attaches (h : Handles o s d s') : Attaches s s' o.poll? := by
  rcases h with ⟨known, reads, step⟩ | ⟨known, -, step⟩ | ⟨known, -, step⟩
  · rw [Occurrence.poll?, Occurrence.forum?_eq_some known reads]
    exact step.attaches
  · rw [Occurrence.poll?, Occurrence.forum?_eq_none_of_content known]
    exact step.writesContent.attaches
  · rw [Occurrence.poll?, Occurrence.forum?_eq_none_of_acceptance known]
    exact step.writesContent.attaches

/-- So polls grow by the thread that gets one. -/
theorem Handles.pollGrowth (h : Handles o s d s') : PollGrowth s s' o.polled? := by
  rw [o.polled?_eq_map]
  exact h.attaches.pollGrowth

/-- No step writes the log, the cursor or the workers. -/
theorem Handles.past_eq (h : Handles o s d s') :
    s'.log = s.log ∧ s'.cursor = s.cursor ∧ s'.workers = s.workers := by
  rcases h with ⟨-, -, step⟩ | ⟨-, -, step⟩ | ⟨-, -, step⟩
  · exact ⟨step.writesForum.log, step.writesForum.cursor, step.writesForum.workers⟩
  · exact ⟨step.writesContent.log, step.writesContent.cursor, step.writesContent.workers⟩
  · exact ⟨step.writesContent.log, step.writesContent.cursor, step.writesContent.workers⟩

/-- An event puts its record on top of the log. -/
theorem Handles.log_withRecord (h : Handles o s d s') :
    (s'.withRecord (o.record d)).log = o.record d :: s.log :=
  congrArg (o.record d :: ·) h.past_eq.1

/-- A record stays the record with its id. -/
theorem Handles.event?_withRecord (h : Handles o s d s') (fresh : s'.event? o.id = none)
    {id : EventId} {record : EventRecord} (hrecord : s.event? id = some record) :
    (s'.withRecord (o.record d)).event? id = some record := by
  refine Store.event?_withRecord fresh ?_
  rw [event?, h.past_eq.1]
  exact hrecord

end ChainProjection
