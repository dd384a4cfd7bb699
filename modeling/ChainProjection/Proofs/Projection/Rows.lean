import ChainProjection.Proofs.Projection.Rules
import ChainProjection.Proofs.Store.Columns
import ChainProjection.Projection.Assets

/-!
# Rules for the rows an event refers to

An event names rows, and a handler asks for them before it does anything with them.  There are three
kinds of rows, and the rules differ by kind.

* **A row the chain guarantees** is found or is an inconsistency, and the store is the same in
  either case: `yields_category` and `fails_category` and their likes for threads, posts, channels,
  data objects and both kinds of categories, for workers and for the alternatives of a poll.
* **Members and languages come into being when they are referred to.**  A member cannot fail to be
  found (`fails_member`); what it writes is `Store.ensureMember`, and this write stays even if the
  event fails later on.  A language is checked before it is written.
* **A video is the one row whose loading the storage can refuse**: its size is stored as a signed
  number, so a row may be there and not be readable.  So the rules for it have a case more,
  `Video.SizeFits`.

The replacement of a flagged set is here too, as it asks for the rows that it flags.
-/

namespace ChainProjection

@[simp]
theorem Occurrence.store_ne_inconsistent (o : Occurrence) (what : Inconsistency)
    (error : StoreError) : .store error ≠ o.inconsistent what := by
  simp [inconsistent]

/-- The worker behind a privileged actor, if there is one. -/
def Store.privileged? (s : Store) : PrivilegedActor → Option Worker
  | .lead => s.groupLead? forumGroup
  | .moderator runtimeId => s.groupWorker? forumGroup runtimeId

namespace Projection

variable {s s' : Store} {o : Occurrence} {error : ProjectionError}

/-! ### Rows -/

/-- A category that is there is found, and looking for it writes nothing. -/
@[simp]
theorem yields_category {id : CategoryId} {row : Category} :
    (category o id).Yields s row s' ↔ s.categories[id]? = some row ∧ s' = s := by
  simp [category, and_assoc]

/-- A category that is not there is reported by its id. -/
@[simp]
theorem fails_category {id : CategoryId} :
    (category o id).Fails s error s' ↔
      s.categories[id]? = none ∧ error = o.inconsistent (.notFound .category id.text) ∧
        s' = s := by
  simp [category, and_assoc]

@[simp]
theorem yields_thread {id : ThreadId} {row : Thread} :
    (thread o id).Yields s row s' ↔ s.threads[id]? = some row ∧ s' = s := by
  simp [thread, and_assoc]

@[simp]
theorem fails_thread {id : ThreadId} :
    (thread o id).Fails s error s' ↔
      s.threads[id]? = none ∧ error = o.inconsistent (.notFound .thread id.text) ∧ s' = s := by
  simp [thread, and_assoc]

@[simp]
theorem yields_post {id : PostId} {row : Post} :
    (post o id).Yields s row s' ↔ s.posts[id]? = some row ∧ s' = s := by
  simp [post, and_assoc]

@[simp]
theorem fails_post {id : PostId} :
    (post o id).Fails s error s' ↔
      s.posts[id]? = none ∧ error = o.inconsistent (.notFound .post id.text) ∧ s' = s := by
  simp [post, and_assoc]

@[simp]
theorem yields_channel {id : ChannelId} {row : Channel} :
    (channel o id).Yields s row s' ↔ s.channels[id]? = some row ∧ s' = s := by
  simp [channel, and_assoc]

@[simp]
theorem fails_channel {id : ChannelId} :
    (channel o id).Fails s error s' ↔
      s.channels[id]? = none ∧ error = o.inconsistent (.notFound .channel id.text) ∧ s' = s := by
  simp [channel, and_assoc]

/-- A video is found if it is there **and its size can be read**. -/
@[simp]
theorem yields_video {id : VideoId} {row : Video} :
    (video o id).Yields s row s' ↔ s.videos[id]? = some row ∧ row.SizeFits ∧ s' = s := by
  rcases h : s.videos[id]? with - | row'
  · simp [video, h, and_assoc]
  · simp only [video, yields_bind, yields_store, yields_ofStore, yields_require,
      Store.loadVideo_eq_ok]
    constructor
    · rintro ⟨_, _, ⟨rfl, rfl⟩, _, _, ⟨⟨rfl, hfits⟩, rfl⟩, hrow, rfl⟩
      exact ⟨h ▸ hrow, hfits _ hrow, rfl⟩
    · rintro ⟨hrow, hfits, rfl⟩
      rw [← h] at hrow
      refine ⟨_, _, ⟨rfl, rfl⟩, _, _, ⟨⟨rfl, fun _ hmem ↦ ?_⟩, rfl⟩, hrow, rfl⟩
      rwa [← Option.some_inj.1 (hrow.symm.trans hmem)]

/-- A video that is there may yet not be readable, and then the error is one of the storage. -/
@[simp]
theorem fails_video {id : VideoId} :
    (video o id).Fails s error s' ↔
      (s.videos[id]? = none ∧ error = o.inconsistent (.notFound .video id.text) ∨
        ∃ row, s.videos[id]? = some row ∧ ¬row.SizeFits ∧ error = .store .unreadable) ∧
      s' = s := by
  simp only [video, fails_bind, fails_store, yields_store, yields_ofStore, fails_ofStore,
    fails_require, Store.loadVideo_eq_ok, Store.loadVideo_eq_error, false_or]
  constructor
  · rintro ⟨_, _, ⟨rfl, rfl⟩, ⟨_, ⟨rfl, row, hrow, hfits⟩, rfl, rfl⟩ |
      ⟨_, _, ⟨⟨rfl, -⟩, rfl⟩, hrow, rfl, rfl⟩⟩
    · exact ⟨Or.inr ⟨row, hrow, hfits, rfl⟩, rfl⟩
    · exact ⟨Or.inl ⟨hrow, rfl⟩, rfl⟩
  · rintro ⟨⟨hrow, rfl⟩ | ⟨row, hrow, hfits, rfl⟩, rfl⟩
    · exact ⟨_, _, ⟨rfl, rfl⟩, Or.inr ⟨_, _, ⟨⟨rfl, by simp [hrow]⟩, rfl⟩, hrow, rfl, rfl⟩⟩
    · exact ⟨_, _, ⟨rfl, rfl⟩, Or.inl ⟨_, ⟨rfl, row, hrow, hfits⟩, rfl, rfl⟩⟩

@[simp]
theorem yields_dataObject {id : ContentId} {row : DataObject} :
    (dataObject o id).Yields s row s' ↔ s.dataObjects[id]? = some row ∧ s' = s := by
  simp [dataObject, and_assoc]

@[simp]
theorem fails_dataObject {id : ContentId} :
    (dataObject o id).Fails s error s' ↔
      s.dataObjects[id]? = none ∧ error = o.inconsistent (.notFound .content id.text) ∧
        s' = s := by
  simp [dataObject, and_assoc]

@[simp]
theorem yields_channelCategory {id : ChannelCategoryId} {row : ContentCategory .channelCategory} :
    (channelCategory o id).Yields s row s' ↔
      s.channelCategories[id]? = some row ∧ s' = s := by
  simp [channelCategory, and_assoc]

@[simp]
theorem fails_channelCategory {id : ChannelCategoryId} :
    (channelCategory o id).Fails s error s' ↔
      s.channelCategories[id]? = none ∧
        error = o.inconsistent (.notFound .channelCategory id.text) ∧ s' = s := by
  simp [channelCategory, and_assoc]

@[simp]
theorem yields_videoCategory {id : VideoCategoryId} {row : ContentCategory .videoCategory} :
    (videoCategory o id).Yields s row s' ↔ s.videoCategories[id]? = some row ∧ s' = s := by
  simp [videoCategory, and_assoc]

@[simp]
theorem fails_videoCategory {id : VideoCategoryId} :
    (videoCategory o id).Fails s error s' ↔
      s.videoCategories[id]? = none ∧
        error = o.inconsistent (.notFound .videoCategory id.text) ∧ s' = s := by
  simp [videoCategory, and_assoc]

/-! ### Workers and polls -/

/-- Whoever acts is looked up as the lead or by the number of a worker of the forum group. -/
@[simp]
theorem yields_actorWorker {actor : PrivilegedActor} {worker : Worker} :
    (actorWorker o actor).Yields s worker s' ↔ s.privileged? actor = some worker ∧ s' = s := by
  cases actor <;> simp [actorWorker, Store.privileged?, and_assoc]

/-- An actor without a worker is an inconsistency that names the actor. -/
@[simp]
theorem fails_actorWorker {actor : PrivilegedActor} :
    (actorWorker o actor).Fails s error s' ↔
      s.privileged? actor = none ∧ error = o.inconsistent (.noPrivilegedWorker actor) ∧
        s' = s := by
  cases actor <;> simp [actorWorker, Store.privileged?, and_assoc]

@[simp]
theorem yields_forumWorker {runtimeId : UInt64} {worker : Worker} :
    (forumWorker o runtimeId).Yields s worker s' ↔
      s.groupWorker? forumGroup runtimeId = some worker ∧ s' = s := by
  simp [forumWorker, and_assoc]

@[simp]
theorem fails_forumWorker {runtimeId : UInt64} :
    (forumWorker o runtimeId).Fails s error s' ↔
      s.groupWorker? forumGroup runtimeId = none ∧
        error = o.inconsistent (.noForumWorker runtimeId) ∧ s' = s := by
  simp [forumWorker, and_assoc]

@[simp]
theorem yields_pollAlternative {thread : ThreadId} {index : UInt32}
    {alternative : PollAlternative} :
    (pollAlternative o thread index).Yields s alternative s' ↔
      s.pollAlternative? thread index = some alternative ∧ s' = s := by
  simp [pollAlternative, and_assoc]

/-- An alternative is missing if the thread has no poll or the poll has no such place. -/
@[simp]
theorem fails_pollAlternative {thread : ThreadId} {index : UInt32} :
    (pollAlternative o thread index).Fails s error s' ↔
      s.pollAlternative? thread index = none ∧
        error = o.inconsistent (.noPollAlternative index thread) ∧ s' = s := by
  simp [pollAlternative, and_assoc]

/-! ### Members, languages and sets -/

/-- **A member is always found**, and is known afterwards. -/
@[simp]
theorem yields_member {id id' : MemberId} :
    (member o id).Yields s id' s' ↔ id' = id ∧ s' = s.ensureMember id o.block := by
  simp [member]

/-- There is no member that cannot be made known. -/
@[simp]
theorem fails_member {id : MemberId} : ¬(member o id).Fails s error s' := by
  simp [member]

/-- A language is known afterwards by its code, if the code is one. -/
@[simp]
theorem yields_language {code code' : String} :
    (language o code).Yields s code' s' ↔
      Language.validate code = .ok code' ∧ s' = s.ensureLanguage code' o.block := by
  rcases h : Language.validate code with e | c
  · simp [language, h]
  · simp only [language, h, yields_bind, yields_check, yields_write, yields_pure, Except.ok.injEq]
    constructor
    · rintro ⟨_, _, ⟨rfl, rfl⟩, _, _, rfl, rfl, rfl⟩
      exact ⟨rfl, rfl⟩
    · rintro ⟨rfl, rfl⟩
      exact ⟨_, _, ⟨rfl, rfl⟩, (), _, rfl, rfl, rfl⟩

/-- A code that is none is an error of the domain, and nothing has been written. -/
@[simp]
theorem fails_language {code : String} :
    (language o code).Fails s error s' ↔
      ∃ e, Language.validate code = .error e ∧ error = o.inconsistent (.domain e) ∧ s' = s := by
  simp [language]

/-- A set is replaced as the store replaces it, at the time of the event. -/
@[simp]
theorem yields_replaceSet {set : FlaggedSet} {wanted : List String} {change : SetChange} :
    (replaceSet o set wanted).Yields s change s' ↔
      s.replaceSet set wanted o.timestamp = .ok (change, s') := by
  rcases h : s.replaceSet set wanted o.timestamp with missing | ⟨change', t⟩
  · simp [replaceSet, h, and_assoc]
  · simp [replaceSet, h, and_assoc, eq_comm]

/-- A set is not replaced if a row is missing that it would flag, and then nothing is written. -/
@[simp]
theorem fails_replaceSet {set : FlaggedSet} {wanted : List String} :
    (replaceSet o set wanted).Fails s error s' ↔
      ∃ missing, s.replaceSet set wanted o.timestamp = .error missing ∧
        error = o.inconsistent (.notInScope set missing) ∧ s' = s := by
  rcases h : s.replaceSet set wanted o.timestamp with missing | ⟨change', t⟩
  · simp [replaceSet, h, and_assoc]
  · simp [replaceSet, h, and_assoc]

end Projection

end ChainProjection
