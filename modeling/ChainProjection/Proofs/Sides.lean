import ChainProjection.Proofs.Projection.Block
import ChainProjection.Proofs.Store.Tables

/-!
# The two sides of the store

Forum events read and write the forum, content and storage events the content; workers are read by
the forum alone, and members are the one table that both write.  **An event of one side therefore
does the same whatever the other side holds.**

A frame says what an event leaves alone and would be half of this; the other half is that it does
not look there.  Both are stated with a *graft*: a store in which the tables of one side have been
replaced by those of another store.  A step from a store is a step from every store that its side is
grafted onto, with the same particulars, the same rows on its side, and the same member made known
(`Handles.exists_graft`).  Since a store with its own side grafted onto it is itself, the frame
comes out of this as a special case (`Handles.eq_graft`).

Members need a word.  Both sides make members known, neither looks whether a member is known, and so
the member is named apart (`Store.knowing`) and not grafted with a side.  Which member it is depends
on the event and on nothing in the store.
-/

namespace ChainProjection

variable {o : Occurrence} {s s' t : Store} {d : EventData}

/-! ### Grafts -/

/-- The sides of the store. -/
inductive Side where
  | forum
  | content
  deriving DecidableEq

/-- The side that the events with a name belong to, if the projection knows them: the forum has the
forum events, the content has the content and the storage events. -/
def Side.ofName? (name : String) : Option Side :=
  if (ForumEvent.reader? name).isSome then some .forum
  else if (ContentEvent.reader? name).isSome || (ContentAcceptance.reader? name).isSome then
    some .content
  else none

namespace Side

variable {name : String}

/-- The name of a forum event belongs to the forum. -/
theorem ofName?_of_forum {read : Reader ForumEvent} (known : ForumEvent.reader? name = some read) :
    ofName? name = some .forum := by
  rw [ofName?, known]
  rfl

/-- The name of a content event belongs to the content. -/
theorem ofName?_of_content {read : Reader ContentEvent}
    (known : ContentEvent.reader? name = some read) : ofName? name = some .content := by
  have hforum : ForumEvent.reader? name = none := by
    rw [Option.eq_none_iff_forall_ne_some]
    intro read hforum
    rw [ContentEvent.reader?_eq_none hforum] at known
    cases known
  rw [ofName?, hforum, known]
  rfl

/-- So does the name of the acceptance. -/
theorem ofName?_of_acceptance {read : Reader ContentAcceptance}
    (known : ContentAcceptance.reader? name = some read) : ofName? name = some .content := by
  have hforum : ForumEvent.reader? name = none := by
    rw [Option.eq_none_iff_forall_ne_some]
    intro read hforum
    rw [ContentAcceptance.reader?_eq_none hforum] at known
    cases known
  rw [ofName?, hforum, known, Option.isSome_some, Bool.or_true]
  rfl

/-- The names without a side are the unknown ones. -/
theorem ofName?_eq_none : ofName? name = none ↔ Projection.handler? name = none := by
  rw [ofName?, Projection.handler?]
  rcases ForumEvent.reader? name with - | read
  · rcases ContentEvent.reader? name with - | read
    · rcases ContentAcceptance.reader? name with - | read <;> simp
    · simp
  · simp

end Side

namespace Store

/-- The store `u` with the tables and row numbers of one side of `s`. -/
def graft (u : Store) (side : Side) (s : Store) : Store :=
  match side with
  | .forum => { u with
    categories := s.categories
    moderators := s.moderators
    threads := s.threads
    posts := s.posts
    polls := s.polls
    workers := s.workers
    pollRows := s.pollRows
    alternativeRows := s.alternativeRows }
  | .content => { u with
    languages := s.languages
    licenses := s.licenses
    channels := s.channels
    videos := s.videos
    channelCategories := s.channelCategories
    videoCategories := s.videoCategories
    dataObjects := s.dataObjects
    licenseRows := s.licenseRows }

/-- The store once a member that an event may name is known. -/
def knowing (s : Store) (block : UInt64) : Option MemberId → Store
  | none => s
  | some id => s.ensureMember id block

/-- A store with a side of its own grafted onto it is itself. -/
theorem graft_self (s : Store) (side : Side) : s.graft side s = s := by
  cases side <;> rfl

/-- What an event of one side leaves has the other side as it was. -/
theorem graft_of_ne {side side' : Side} (hne : side ≠ side') (u s r : Store) (block : UInt64)
    (member : Option MemberId) (record : EventRecord) :
    u.graft side' (((s.knowing block member).graft side r).withRecord record) =
      u.graft side' s := by
  cases side <;> cases side' <;> first
    | contradiction
    | (cases member <;> rfl)

/-- Posts are saved on the forum alone. -/
theorem foldl_savePost_graft (posts : List Post) (u s : Store) :
    posts.foldl savePost (u.graft .forum s) = u.graft .forum (posts.foldl savePost s) := by
  induction posts generalizing s with
  | nil => rfl
  | cons post rest ih => exact ih (s.savePost post)

/-- Replacing the pinned threads of a category looks at the forum only. -/
theorem replaceSticky_graft {category : CategoryId} {wanted : List String} {updatedAt : Int64}
    {change : SetChange}
    (replaced : s.replaceSet (.stickyThreads category) wanted updatedAt = .ok (change, s'))
    (u : Store) : (u.graft .forum s).replaceSet (.stickyThreads category) wanted updatedAt =
      .ok (change, u.graft .forum s') := by
  have hsame : (u.graft .forum s).missingFrom (.stickyThreads category) wanted =
      s.missingFrom (.stickyThreads category) wanted := rfl
  rw [replaceSet_eq] at replaced ⊢
  rw [hsame]
  split at replaced
  · cases replaced
    rfl
  · cases replaced

/-- Replacing the featured videos looks at the content only. -/
theorem replaceFeatured_graft {wanted : List String} {updatedAt : Int64} {change : SetChange}
    (replaced : s.replaceSet .featuredVideos wanted updatedAt = .ok (change, s')) (u : Store) :
    (u.graft .content s).replaceSet .featuredVideos wanted updatedAt =
      .ok (change, u.graft .content s') := by
  have hsame : (u.graft .content s).missingFrom .featuredVideos wanted =
      s.missingFrom .featuredVideos wanted := rfl
  rw [replaceSet_eq] at replaced ⊢
  rw [hsame]
  split at replaced
  · cases replaced
    rfl
  · cases replaced

/-- Attaching a poll looks at the forum only. -/
theorem insertPoll_graft {thread : ThreadId} {description : String} {endTime createdAt : Int64}
    {alternatives : List String} {row : Nat}
    (attached : s.insertPoll thread description endTime alternatives createdAt = .ok (row, s'))
    (u : Store) : (u.graft .forum s).insertPoll thread description endTime alternatives createdAt =
      .ok (row, u.graft .forum s') := by
  have hsame : (u.graft .forum s).polls = s.polls := rfl
  unfold insertPoll at attached ⊢
  rw [hsame]
  split at attached
  · cases attached
  · next hnew =>
    cases attached
    exact if_neg hnew

end Store

open Store

/-! ### Forum events -/

/-- A poll is attached on the forum alone. -/
theorem ForumEvent.PollStep.graft {thread : ThreadId} {poll : Option PollInput}
    (polled : PollStep o s thread poll s') (u : Store) :
    PollStep o (u.graft .forum s) thread poll (u.graft .forum s') := by
  cases polled with
  | none => exact .none
  | some ends attached => exact .some ends (insertPoll_graft attached u)

/-- A forum event does the same on every store with the same forum. -/
theorem ForumEvent.Step.graft {e : ForumEvent} (step : Step o s e d s') :
    ∃ member, ∀ u : Store, Step o (u.graft .forum s) e d
      ((u.knowing o.block member).graft .forum s') := by
  cases step with
  | categoryCreated => exact ⟨none, fun u ↦ .categoryCreated⟩
  | categoryUpdated found granted allowed =>
    exact ⟨none, fun u ↦ .categoryUpdated found granted allowed⟩
  | categoryDeleted found granted => exact ⟨none, fun u ↦ .categoryDeleted found granted⟩
  | @threadCreated category thread post author title text poll row t found polled =>
    -- The author is made known in `u` too, and that is all the content side gets to see.
    refine ⟨some author, fun u ↦ ?_⟩
    exact @Step.threadCreated o (u.graft .forum s) category thread post author title text poll row
      ((u.ensureMember author o.block).graft .forum t) found
      (polled.graft (u.ensureMember author o.block))
  | threadModerated granted found allowed =>
    exact ⟨none, fun u ↦ .threadModerated granted found allowed⟩
  | threadTitleUpdated found => exact ⟨none, fun u ↦ .threadTitleUpdated found⟩
  | threadDeleted found allowed => exact ⟨none, fun u ↦ .threadDeleted found allowed⟩
  | threadMoved found granted there => exact ⟨none, fun u ↦ .threadMoved found granted there⟩
  | @voteOnPoll thread index voter alternative found =>
    exact ⟨some voter, fun u ↦ .voteOnPoll found⟩
  | @postAdded post author thread payload editable row found =>
    exact ⟨some author, fun u ↦ .postAdded found⟩
  | postModerated granted found => exact ⟨none, fun u ↦ .postModerated granted found⟩
  | @postDeleted rationale actor posts hide rows allowed =>
    refine ⟨some actor, fun u ↦ ?_⟩
    have hrows := foldl_savePost_graft rows (u.ensureMember actor o.block)
      (s.ensureMember actor o.block)
    rw [knowing, ← hrows]
    exact .postDeleted allowed
  | postTextUpdated found => exact ⟨none, fun u ↦ .postTextUpdated found⟩
  | categoryStickyThreadUpdate found granted replaced =>
    exact ⟨none, fun u ↦ .categoryStickyThreadUpdate found granted
      (replaceSticky_graft replaced u)⟩
  | @categoryMembershipOfModeratorUpdated moderator category canModerate row worker granted found =>
    refine ⟨none, fun u ↦ ?_⟩
    cases canModerate <;> exact .categoryMembershipOfModeratorUpdated granted found

/-! ### Content events -/

/-- A language is made known on the content alone. -/
theorem LanguageStep.graft {current code language : Option String}
    (spoken : LanguageStep o s current code language s') (u : Store) :
    LanguageStep o (u.graft .content s) current code language (u.graft .content s') := by
  cases spoken with
  | kept => exact .kept
  | named valid => exact .named valid

/-- A license is stored on the content alone. -/
theorem LicenseStep.graft {current row : Option Nat} {license : Option Metadata.License}
    (licensed : LicenseStep o s current license row s') (u : Store) :
    LicenseStep o (u.graft .content s) current license row (u.graft .content s') := by
  cases licensed with
  | kept => exact .kept
  | stored => exact .stored

namespace Store

/-- An asset is registered on the content alone. -/
theorem withAsset?_graft (u s : Store) (o : Occurrence) (owner : DataObjectOwner)
    (asset : Option RawAsset) :
    (u.graft .content s).withAsset? o owner asset =
      u.graft .content (s.withAsset? o owner asset) := by
  rcases asset with - | links | parameters <;> rfl

/-- What a slot is filled with is looked up on the content alone. -/
theorem filled_graft (u s : Store) (asset : Option RawAsset) (current : Option AssetRef) :
    (u.graft .content s).filled asset current = s.filled asset current := by
  rcases asset with - | links | parameters <;> rfl

end Store

/-- A payload of a channel is read by the content alone. -/
theorem ChannelChanges.Reading.graft {payload : Bytes} {assets : List RawAsset}
    {changes : Option ChannelChanges} (read : Reading s payload assets changes) (u : Store) :
    Reading (u.graft .content s) payload assets changes := by
  cases read with
  | undecodable undecoded => exact .undecodable undecoded
  | decoded decoded filed named covered faced => exact .decoded decoded filed named covered faced

/-- A payload of a video is read by the content alone. -/
theorem VideoChanges.Reading.graft {payload : Bytes} {assets : List RawAsset}
    {changes : Option VideoChanges} (read : Reading s payload assets changes) (u : Store) :
    Reading (u.graft .content s) payload assets changes := by
  cases read with
  | undecodable undecoded => exact .undecodable undecoded
  | decoded decoded filed named pictured shown =>
    exact .decoded decoded filed named pictured shown

theorem ChannelChanges.Asked.graft {update : ChannelUpdate} {changes : Option ChannelChanges}
    (asked : Asked s update changes) (u : Store) : Asked (u.graft .content s) update changes := by
  unfold Asked at asked ⊢
  split at asked
  · exact asked
  · exact asked.graft u

theorem VideoChanges.Asked.graft {update : VideoUpdate} {changes : Option VideoChanges}
    (asked : Asked s update changes) (u : Store) : Asked (u.graft .content s) update changes := by
  unfold Asked at asked ⊢
  split at asked
  · exact asked
  · exact asked.graft u

/-- Changes are merged into a channel on the content alone. -/
theorem ChannelChanges.Merging.graft {owner : DataObjectOwner} {channel channel' : Channel}
    {changes : Option ChannelChanges} (merged : Merging o owner s channel changes channel' s')
    (u : Store) :
    Merging o owner (u.graft .content s) channel changes channel' (u.graft .content s') := by
  cases merged with
  | kept => exact .kept
  | @merged changes language t spoken =>
    have hmerged := @Merging.merged o owner _ channel changes language _ (spoken.graft u)
    simp only [withAsset?_graft, filled_graft] at hmerged
    exact hmerged

/-- Changes are merged into a video on the content alone. -/
theorem VideoChanges.Merging.graft {owner : DataObjectOwner} {video video' : Video}
    {changes : Option VideoChanges} (merged : Merging o owner s video changes video' s')
    (u : Store) :
    Merging o owner (u.graft .content s) video changes video' (u.graft .content s') := by
  cases merged with
  | kept => exact .kept
  | @merged changes language license t r v spoken licensed pictured =>
    subst pictured
    have hstored : (u.graft .content (r.withAsset? o owner changes.thumbnailPhoto)).stored =
        (r.withAsset? o owner changes.thumbnailPhoto).stored := by
      funext asset
      cases asset <;> rfl
    have hmerged := @Merging.merged o owner _ video changes language license _ _ _
      (spoken.graft u) (licensed.graft u)
      (withAsset?_graft u r o owner changes.thumbnailPhoto).symm
    simp only [withAsset?_graft, filled_graft, hstored] at hmerged
    exact hmerged

/-- A content event does the same on every store with the same content. -/
theorem ContentEvent.Step.graft {e : ContentEvent} (step : Step o s e d s') :
    ∃ member, ∀ u : Store, Step o (u.graft .content s) e d
      ((u.knowing o.block member).graft .content s') := by
  cases step with
  | @channelCreated actor id owner creation changes channel t read merged =>
    -- An owner who is a member is made known; a group of curators is not.
    cases owner with
    | member owner =>
      refine ⟨some owner, fun u ↦ ?_⟩
      exact @Step.channelCreated o (u.graft .content s) actor id (.member owner) creation changes
        channel ((u.ensureMember owner o.block).graft .content t) (read.graft u)
        (merged.graft (u.ensureMember owner o.block))
    | curatorGroup group =>
      refine ⟨none, fun u ↦ ?_⟩
      exact @Step.channelCreated o (u.graft .content s) actor id (.curatorGroup group) creation
        changes channel (u.graft .content t) (read.graft u) (merged.graft u)
  | @channelUpdated actor id update row channel changes t found asked merged =>
    refine ⟨none, fun u ↦ ?_⟩
    exact @Step.channelUpdated o (u.graft .content s) actor id update row channel changes
      (u.graft .content t) found (asked.graft u) (merged.graft u)
  | channelCensorship found => exact ⟨none, fun u ↦ .channelCensorship found⟩
  | channelCategoryCreated => exact ⟨none, fun u ↦ .channelCategoryCreated⟩
  | channelCategoryUpdated found => exact ⟨none, fun u ↦ .channelCategoryUpdated found⟩
  | channelCategoryDeleted found => exact ⟨none, fun u ↦ .channelCategoryDeleted found⟩
  | videoCategoryCreated => exact ⟨none, fun u ↦ .videoCategoryCreated⟩
  | videoCategoryUpdated found => exact ⟨none, fun u ↦ .videoCategoryUpdated found⟩
  | videoCategoryDeleted found => exact ⟨none, fun u ↦ .videoCategoryDeleted found⟩
  | @videoCreated actor channel id creation row changes video t found read merged =>
    refine ⟨none, fun u ↦ ?_⟩
    exact @Step.videoCreated o (u.graft .content s) actor channel id creation row changes video
      (u.graft .content t) found (read.graft u) (merged.graft u)
  | @videoUpdated actor id update row video changes t found fits asked merged =>
    refine ⟨none, fun u ↦ ?_⟩
    exact @Step.videoUpdated o (u.graft .content s) actor id update row video changes
      (u.graft .content t) found fits (asked.graft u) (merged.graft u)
  | videoDeleted found fits => exact ⟨none, fun u ↦ .videoDeleted found fits⟩
  | videoCensorship found fits => exact ⟨none, fun u ↦ .videoCensorship found fits⟩
  | featuredVideosSet replaced =>
    exact ⟨none, fun u ↦ .featuredVideosSet (replaceFeatured_graft replaced u)⟩

/-- An acceptance does the same on every store with the same content. -/
theorem ContentAcceptance.Step.graft {acceptance : ContentAcceptance}
    (step : Step o s acceptance d s') (u : Store) :
    Step o (u.graft .content s) acceptance d (u.graft .content s') := by
  cases step with
  | accepted found => exact .accepted found

/-! ### All events -/

/-- An occurrence can do one thing only on a store. -/
theorem Handles.unique {d' : EventData} (h : Handles o s d s') (h' : Handles o s d' t) :
    d = d' ∧ s' = t := by
  have hside : ∃ side, Side.ofName? o.name = some side := by
    rcases h with ⟨known, -, -⟩ | ⟨known, -, -⟩ | ⟨known, -, -⟩
    · exact ⟨_, Side.ofName?_of_forum known⟩
    · exact ⟨_, Side.ofName?_of_content known⟩
    · exact ⟨_, Side.ofName?_of_acceptance known⟩
  obtain ⟨side, hside⟩ := hside
  have hknown : Projection.handler? o.name ≠ none := by simp [← Side.ofName?_eq_none, hside]
  obtain ⟨handle, hhandle⟩ := Option.ne_none_iff_exists'.1 hknown
  exact ((Projection.yields_handler hhandle).2 h).unique ((Projection.yields_handler hhandle).2 h')

/-- An event of one side does the same on every store with the same side: the same particulars, the
same rows of this side, the same member made known, and nothing else. -/
theorem Handles.exists_graft (h : Handles o s d s') :
    ∃ side member, Side.ofName? o.name = some side ∧
      ∀ u : Store, Handles o (u.graft side s) d ((u.knowing o.block member).graft side s') := by
  rcases h with ⟨known, reads, step⟩ | ⟨known, reads, step⟩ | ⟨known, reads, step⟩
  · obtain ⟨member, hgraft⟩ := step.graft
    exact ⟨.forum, member, Side.ofName?_of_forum known, fun u ↦ .forum known reads (hgraft u)⟩
  · obtain ⟨member, hgraft⟩ := step.graft
    exact ⟨.content, member, Side.ofName?_of_content known, fun u ↦ .content known reads (hgraft u)⟩
  · exact ⟨.content, none, Side.ofName?_of_acceptance known,
      fun u ↦ .acceptance known reads (step.graft u)⟩

/-- A store with its own side grafted onto it is itself, so what an event writes is its own side and
perhaps a member. -/
theorem Handles.eq_graft (h : Handles o s d s') {side : Side} {member : Option MemberId}
    (hgraft : ∀ u : Store, Handles o (u.graft side s) d
      ((u.knowing o.block member).graft side s')) :
    s' = (s.knowing o.block member).graft side s' := by
  have hsame := hgraft s
  rw [graft_self] at hsame
  exact (h.unique hsame).2

end ChainProjection
