import ChainProjection.Proofs.Frames
import ChainProjection.Proofs.Reachable

/-!
# What stays

Categories, threads, posts, members, languages, licenses and channels have rows that may be written
again but are **never removed**; polls and workers are not even written again.  So a reference to
any of them, once there is something it refers to, never loses it.  Content categories and videos
are not among them: their rows are removed.

`Handles.retains` is the result for steps and `Store.retains_afterBlocks` the one for runs.  Each
field of `Retains` is a statement about keys, but for polls, where it is one about whole rows: what
a vote refers to is an alternative inside the poll, and a poll with other alternatives under the
same thread would lose it.
-/

namespace ChainProjection

variable {o : Occurrence} {d : EventData} {s s' t : Store}

namespace Store

/-- What is there in `s` is still there in `s'`, for everything whose rows are never removed. -/
structure Retains (s s' : Store) : Prop where
  categories : ∀ id ∈ s.categories, id ∈ s'.categories
  threads : ∀ id ∈ s.threads, id ∈ s'.threads
  posts : ∀ id ∈ s.posts, id ∈ s'.posts
  /-- Polls stay as they are. -/
  polls : ∀ (thread : ThreadId) (poll : Poll), s.polls[thread]? = some poll →
    s'.polls[thread]? = some poll
  workers : ∀ worker ∈ s.workers, worker ∈ s'.workers
  members : ∀ id ∈ s.members, id ∈ s'.members
  languages : ∀ code ∈ s.languages, code ∈ s'.languages
  licenses : ∀ row ∈ s.licenses, row ∈ s'.licenses
  channels : ∀ id ∈ s.channels, id ∈ s'.channels
  /-- Numbers of licenses are not taken back. -/
  licenseRows : s.licenseRows ≤ s'.licenseRows

namespace Retains

/-- What is there is there. -/
theorem refl (s : Store) : Retains s s where
  categories _ h := h
  threads _ h := h
  posts _ h := h
  polls _ _ h := h
  workers _ h := h
  members _ h := h
  languages _ h := h
  licenses _ h := h
  channels _ h := h
  licenseRows := Nat.le_refl _

/-- What stays twice stays. -/
theorem trans (h : Retains s t) (h' : Retains t s') : Retains s s' where
  categories id hid := h'.categories id (h.categories id hid)
  threads id hid := h'.threads id (h.threads id hid)
  posts id hid := h'.posts id (h.posts id hid)
  polls thread poll hpoll := h'.polls thread poll (h.polls thread poll hpoll)
  workers worker hworker := h'.workers worker (h.workers worker hworker)
  members id hid := h'.members id (h.members id hid)
  languages code hcode := h'.languages code (h.languages code hcode)
  licenses row hrow := h'.licenses row (h.licenses row hrow)
  channels id hid := h'.channels id (h.channels id hid)
  licenseRows := Nat.le_trans h.licenseRows h'.licenseRows

end Retains

/-! ### Writes -/

/-- A save adds a category or rewrites one. -/
theorem retains_saveCategory (s : Store) (category : Category) :
    Retains s (s.saveCategory category) :=
  { Retains.refl s with
    categories := fun _ h ↦ Table.mem_upsert.2 (Or.inr h) }

theorem retains_saveThread (s : Store) (thread : Thread) : Retains s (s.saveThread thread) :=
  { Retains.refl s with
    threads := fun _ h ↦ Table.mem_upsert.2 (Or.inr h) }

/-- A save adds a post or rewrites one. -/
theorem retains_savePost (s : Store) (post : Post) : Retains s (s.savePost post) :=
  { Retains.refl s with
    posts := fun _ h ↦ Table.mem_upsert.2 (Or.inr h) }

theorem retains_foldl_savePost (s : Store) (posts : List Post) :
    Retains s (posts.foldl savePost s) := by
  induction posts generalizing s with
  | nil => exact .refl s
  | cons post rest ih => exact (retains_savePost s post).trans (ih _)

theorem retains_saveChannel (s : Store) (channel : Channel) :
    Retains s (s.saveChannel channel) :=
  { Retains.refl s with
    channels := fun _ h ↦ Table.mem_upsert.2 (Or.inr h) }

/-- A member is added or known already. -/
theorem retains_ensureMember (s : Store) (id : MemberId) (block : UInt64) :
    Retains s (s.ensureMember id block) :=
  { Retains.refl s with
    members := fun _ h ↦ Std.ExtTreeMap.mem_insertIfNew.2 (Or.inr h) }

theorem retains_ensureLanguage (s : Store) (code : String) (block : UInt64) :
    Retains s (s.ensureLanguage code block) :=
  { Retains.refl s with
    languages := fun _ h ↦ Std.ExtTreeMap.mem_insertIfNew.2 (Or.inr h) }

/-- A license is put in under the next row number. -/
theorem retains_insertLicense (s : Store) (license : Metadata.License) (block : UInt64) :
    Retains s (s.insertLicense license block).2 :=
  { Retains.refl s with
    licenses := fun _ h ↦ Std.ExtTreeMap.mem_insert.2 (Or.inr h)
    licenseRows := Nat.le_succ _ }

/-- A poll is attached to a thread that has none, so it hides none. -/
theorem retains_insertPoll {thread : ThreadId} {description : String} {endTime createdAt : Int64}
    {alternatives : List String} {row : Nat}
    (h : s.insertPoll thread description endTime alternatives createdAt = .ok (row, s')) :
    Retains s s' := by
  have hnone : s.polls[thread]? = none := by
    rw [insertPoll] at h
    split at h
    · cases h
    · next hcontains => simpa using hcontains
  obtain rfl := insertPoll_eq_ok h
  refine { Retains.refl s with polls := fun thread' poll hpoll ↦ ?_ }
  have hne : thread ≠ thread' := by
    rintro rfl
    rw [hnone] at hpoll
    cases hpoll
  show (s.polls.insert thread _)[thread']? = some poll
  rw [Table.getElem?_insert, if_neg hne]
  exact hpoll

theorem retains_setFlag (s : Store) (set : FlaggedSet) (ids : List String) (flag : Bool)
    (updatedAt : Int64) : Retains s (s.setFlag set ids flag updatedAt) := by
  cases set with
  | stickyThreads category =>
    exact { Retains.refl s with threads := fun _ h ↦ Std.ExtTreeMap.mem_map.2 h }
  | featuredVideos => exact { Retains.refl s with }

/-- Replacing a set rewrites flags and removes no row. -/
theorem retains_replaceSet {set : FlaggedSet} {wanted : List String} {updatedAt : Int64}
    {change : SetChange} (h : s.replaceSet set wanted updatedAt = .ok (change, s')) :
    Retains s s' := by
  obtain ⟨-, rfl⟩ := replaceSet_eq_ok h
  exact (retains_setFlag ..).trans (retains_setFlag ..)

/-- What slots show is rewritten in place. -/
theorem retains_setSlotAvailability (s : Store) (id : ContentId)
    (availability : AssetAvailability) (updatedAt : Int64) :
    Retains s (s.setSlotAvailability id availability updatedAt).2 :=
  { Retains.refl s with channels := fun _ h ↦ Std.ExtTreeMap.mem_map.2 h }

theorem retains_withAsset? (s : Store) (o : Occurrence) (owner : DataObjectOwner)
    (asset : Option RawAsset) : Retains s (s.withAsset? o owner asset) := by
  rcases asset with - | links | parameters <;> exact { Retains.refl s with }

theorem retains_withOwner (s : Store) (o : Occurrence) (owner : ChannelOwner) :
    Retains s (s.withOwner o owner) := by
  cases owner with
  | member id => exact retains_ensureMember s id o.block
  | curatorGroup id => exact .refl s

end Store

open Store

/-! ### Steps -/

theorem LanguageStep.retains {current code language : Option String}
    (h : LanguageStep o s current code language s') : Retains s s' := by
  cases h with
  | kept => exact .refl s
  | named valid => exact retains_ensureLanguage ..

theorem LicenseStep.retains {current row : Option Nat} {license : Option Metadata.License}
    (h : LicenseStep o s current license row s') : Retains s s' := by
  cases h with
  | kept => exact .refl s
  | stored => exact retains_insertLicense ..

theorem ChannelChanges.Merging.retains {owner : DataObjectOwner} {channel channel' : Channel}
    {changes : Option ChannelChanges} (h : Merging o owner s channel changes channel' s') :
    Retains s s' := by
  cases h with
  | kept => exact .refl s
  | merged spoken =>
    exact (spoken.retains.trans (retains_withAsset? ..)).trans (retains_withAsset? ..)

theorem VideoChanges.Merging.retains {owner : DataObjectOwner} {video video' : Video}
    {changes : Option VideoChanges} (h : Merging o owner s video changes video' s') :
    Retains s s' := by
  cases h with
  | kept => exact .refl s
  | merged spoken licensed pictured =>
    subst pictured
    exact ((spoken.retains.trans licensed.retains).trans (retains_withAsset? ..)).trans
      (retains_withAsset? ..)

theorem ForumEvent.PollStep.retains {thread : ThreadId} {poll : Option PollInput}
    (h : PollStep o s thread poll s') : Retains s s' := by
  cases h with
  | none => exact .refl s
  | some _ attached => exact retains_insertPoll attached

/-- No forum event removes a row. -/
theorem ForumEvent.Step.retains {e : ForumEvent} (h : Step o s e d s') : Retains s s' := by
  cases h with
  | categoryCreated => exact retains_saveCategory ..
  | categoryUpdated => exact retains_saveCategory ..
  | categoryDeleted => exact retains_saveCategory ..
  | threadCreated found polled =>
    exact (((retains_ensureMember ..).trans (retains_saveThread ..)).trans polled.retains).trans
      (retains_savePost ..)
  | voteOnPoll => exact retains_ensureMember ..
  | postAdded => exact (retains_ensureMember ..).trans (retains_savePost ..)
  | postModerated => exact retains_savePost ..
  | postDeleted => exact (retains_ensureMember ..).trans (retains_foldl_savePost ..)
  | postTextUpdated => exact retains_savePost ..
  | categoryStickyThreadUpdate found granted replaced => exact retains_replaceSet replaced
  | @categoryMembershipOfModeratorUpdated _ _ canModerate =>
    cases canModerate <;> exact { retains_saveCategory .. with }
  | _ => exact retains_saveThread ..

/-- A content event removes content categories and videos at most, which are not promised to stay.
-/
theorem ContentEvent.Step.retains {e : ContentEvent} (h : Step o s e d s') : Retains s s' := by
  cases h with
  | channelCreated read merged =>
    exact ((retains_withOwner ..).trans merged.retains).trans (retains_saveChannel ..)
  | channelUpdated found asked merged => exact merged.retains.trans (retains_saveChannel ..)
  | channelCensorship => exact retains_saveChannel ..
  | videoCreated found read merged => exact { merged.retains with }
  | videoUpdated found fits asked merged => exact { merged.retains with }
  | featuredVideosSet replaced => exact retains_replaceSet replaced
  | _ => exact { Retains.refl s with }

theorem ContentAcceptance.Step.retains {acceptance : ContentAcceptance}
    (h : Step o s acceptance d s') : Retains s s' := by
  cases h with
  | accepted found => exact { retains_setSlotAvailability .. with }

/-- No step removes what is never removed. -/
theorem Handles.retains (h : Handles o s d s') : Retains s s' := by
  rcases h with ⟨-, -, step⟩ | ⟨-, -, step⟩ | ⟨-, -, step⟩
  · exact step.retains
  · exact step.retains
  · exact step.retains

/-- No run removes what is never removed. -/
theorem Store.retains_afterBlocks (h : s.Reachable) (blocks : List Block) :
    Retains s (s.afterBlocks blocks) := by
  refine rel_afterBlocks .refl .trans (fun _ _ handled _ ↦ ?_) (fun _ ↦ { Retains.refl _ with })
    h.visited fun _ _ _ _ ↦ trivial
  exact { handled.retains with }

end ChainProjection
