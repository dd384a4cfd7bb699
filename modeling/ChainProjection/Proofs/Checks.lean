import ChainProjection.Proofs.Projection.Block
import ChainProjection.Proofs.Reachable
import ChainProjection.Proofs.Store.Tables

/-!
# Checks before writes

An event that fails with an inconsistency should leave the store as it found it.  Whether it does is
read off the way its projection is put together: first parts that only look at the store (`Looks`),
then parts that write and that at most the storage can refuse (`Settled`).  `Looks.andThen` and
`ChecksFirst.andThen` put the two kinds together in this order and in no other, so **to prove that a
handler checks first is to name its last check**; there is a lemma of one line for each part, and
the handlers are compositions of these.

One part does not fit the scheme.  A language is checked twice, when a payload is read and again
when it is merged, and the second check comes after writes.  It never fails, because only codes that
passed the first one get there; so it is settled under a hypothesis, and the hypothesis comes from
what the payload was read as (`settled_changedLanguage`, `isCode_of_namesLanguage`).

**One kind of event is not put together so.**  A new thread makes its author known before the end of
its poll is checked, so a poll whose end is no time leaves the author behind.  The main result,
`ne_iff_leavesAuthor_of_fails_event`, says that this is the only way: an event that fails with an
inconsistency has changed the store exactly if it is such a thread and the author was not known, and
the author is all it leaves.
-/

namespace ChainProjection

/-- The error is an inconsistency and not one of the storage. -/
def ProjectionError.IsInconsistency : ProjectionError → Prop
  | .inconsistent .. => True
  | .store _ => False

/-- What an event reports of itself is an inconsistency. -/
@[simp]
theorem Occurrence.isInconsistency_inconsistent (o : Occurrence) (what : Inconsistency) :
    (o.inconsistent what).IsInconsistency :=
  trivial

@[simp]
theorem ProjectionError.not_isInconsistency_store (error : StoreError) :
    ¬(ProjectionError.store error).IsInconsistency :=
  id

namespace Projection

variable {α β : Type} {s s' t : Store} {o : Occurrence} {error : ProjectionError}

/-! ### Looking -/

/-- The projection writes nothing, whether it succeeds or fails. -/
def Looks (p : Projection α) : Prop := ∀ s, (p s).store = s

namespace Looks

/-- Where a projection that looks succeeds, the store is the one it looked at. -/
theorem eq_of_yields {p : Projection α} (h : p.Looks) {x : α} (yields : p.Yields s x s') :
    s' = s :=
  yields.2.symm.trans (h s)

theorem eq_of_fails {p : Projection α} (h : p.Looks) (fails : p.Fails s error s') : s' = s :=
  fails.2.symm.trans (h s)

@[simp]
theorem pure (x : α) : (Pure.pure x : Projection α).Looks := fun _ ↦ rfl

@[simp]
theorem store : Projection.store.Looks := fun _ ↦ rfl

@[simp]
theorem throw (error : ProjectionError) : (MonadExcept.throw error : Projection α).Looks :=
  fun _ ↦ rfl

@[simp]
theorem leaveOut (o : Occurrence) (field : String) (reason : Reason) :
    (Projection.leaveOut o field reason).Looks :=
  fun _ ↦ rfl

/-- **Looking twice is looking.** -/
@[simp]
theorem bind {p : Projection α} {next : α → Projection β} (h : p.Looks)
    (hnext : ∀ x, (next x).Looks) : (p >>= next).Looks := by
  intro s
  rcases yields_or_fails (p >>= next) s with ⟨y, t, hyields⟩ | ⟨error, t, hfails⟩
  · obtain ⟨x, u, hx, hy⟩ := yields_bind.1 hyields
    rw [hyields.2, (hnext x).eq_of_yields hy, h.eq_of_yields hx]
  · rw [hfails.2]
    rcases fails_bind.1 hfails with hp | ⟨x, u, hx, hx'⟩
    · exact h.eq_of_fails hp
    · rw [(hnext x).eq_of_fails hx', h.eq_of_yields hx]

@[simp]
theorem ofStore (result : Except StoreError α) : (Projection.ofStore result).Looks := by
  cases result <;> simp [Projection.ofStore]

@[simp]
theorem fail (o : Occurrence) (what : Inconsistency) :
    (Projection.fail o what : Projection α).Looks := by
  simp [Projection.fail]

@[simp]
theorem require (o : Occurrence) (what : Inconsistency) (result : Option α) :
    (Projection.require o what result).Looks := by
  cases result <;> simp [Projection.require]

@[simp]
theorem ensure (o : Occurrence) (result : Except Inconsistency α) :
    (Projection.ensure o result).Looks := by
  cases result <;> simp [Projection.ensure]

@[simp]
theorem check (o : Occurrence) (result : Except DomainError α) :
    (Projection.check o result).Looks := by
  simp [Projection.check]

/-- To look at something that may be missing is to look. -/
@[simp]
theorem mapM {ι : Type} {f : ι → Projection α} (h : ∀ i, (f i).Looks) (i : Option ι) :
    (i.mapM f).Looks := by
  cases i with
  | none => exact pure none
  | some i => exact bind (h i) fun x ↦ pure (some x)

end Looks

/-! ### Writing -/

/-- Nothing but the storage can refuse the projection. -/
def Settled (p : Projection α) : Prop :=
  ∀ ⦃s error s'⦄, p.Fails s error s' → ¬error.IsInconsistency

namespace Settled

/-- A projection that never fails is not refused. -/
theorem of_not_fails {p : Projection α} (h : ∀ s error s', ¬p.Fails s error s') : p.Settled :=
  fun s error s' fails ↦ absurd fails (h s error s')

@[simp]
theorem pure (x : α) : (Pure.pure x : Projection α).Settled :=
  of_not_fails fun _ _ _ ↦ fails_pure

@[simp]
theorem store : Projection.store.Settled := of_not_fails fun _ _ _ ↦ fails_store

/-- A write is done, so nothing can refuse it. -/
@[simp]
theorem write (change : Store → Store) : (Projection.write change).Settled :=
  of_not_fails fun _ _ _ ↦ fails_write

@[simp]
theorem writeWith (change : Store → α × Store) : (Projection.writeWith change).Settled :=
  of_not_fails fun _ _ _ ↦ fails_writeWith

/-- A member is made known whatever the store holds. -/
@[simp]
theorem member (o : Occurrence) (id : MemberId) : (Projection.member o id).Settled :=
  of_not_fails fun _ _ _ ↦ fails_member

@[simp]
theorem ofStore (result : Except StoreError α) : (Projection.ofStore result).Settled := by
  intro s error s' fails
  obtain ⟨e, -, rfl, -⟩ := fails_ofStore.1 fails
  simp

/-- **What follows on a settled part may write as well**, as long as it is settled itself. -/
@[simp]
theorem bind {p : Projection α} {next : α → Projection β} (h : p.Settled)
    (hnext : ∀ x, (next x).Settled) : (p >>= next).Settled := by
  intro s error s' fails
  rcases fails_bind.1 fails with hp | ⟨x, t, -, hx⟩
  · exact h hp
  · exact hnext x hx

/-- What is done for something that may be missing is settled if it is for what is there. -/
@[simp]
theorem mapM {ι : Type} {f : ι → Projection α} (h : ∀ i, (f i).Settled) (i : Option ι) :
    (i.mapM f).Settled := by
  cases i with
  | none => exact pure none
  | some i => exact bind (h i) fun x ↦ pure (some x)

end Settled

/-! ### Both in order -/

/-- Where the projection fails with an inconsistency it has written nothing. -/
def ChecksFirst (p : Projection α) : Prop :=
  ∀ ⦃s error s'⦄, p.Fails s error s' → error.IsInconsistency → s' = s

/-- What cannot fail with an inconsistency cannot do so after writing. -/
theorem Settled.checksFirst {p : Projection α} (h : p.Settled) : p.ChecksFirst :=
  fun _ _ _ fails inconsistent ↦ absurd inconsistent (h fails)

/-- After a part that looks the store is the one it looked at. -/
theorem Looks.andThen {p : Projection α} {next : α → Projection β} (h : p.Looks)
    (hnext : ∀ s x, p.Yields s x s → (next x).ChecksFirst) : (p >>= next).ChecksFirst := by
  intro s error s' fails inconsistent
  rcases fails_bind.1 fails with hp | ⟨x, t, hx, hx'⟩
  · exact h.eq_of_fails hp
  · obtain rfl := h.eq_of_yields hx
    exact hnext _ x hx hx' inconsistent

/-- After the last check nothing but the storage may refuse. -/
theorem ChecksFirst.andThen {p : Projection α} {next : α → Projection β} (h : p.ChecksFirst)
    (hnext : ∀ x, (next x).Settled) : (p >>= next).ChecksFirst := by
  intro s error s' fails inconsistent
  rcases fails_bind.1 fails with hp | ⟨x, t, -, hx⟩
  · exact h hp inconsistent
  · exact absurd inconsistent (hnext x hx)

/-- What writes once and then has its result cannot be refused any more. -/
theorem checksFirst_write (change : Store → Store) (x : α) :
    (write change >>= fun _ ↦ Pure.pure x).ChecksFirst :=
  Settled.checksFirst (.bind (.write change) fun _ ↦ .pure x)

/-- What writes once with a result cannot be refused any more. -/
theorem checksFirst_writeWith (change : Store → β × Store) (x : α) :
    (writeWith change >>= fun _ ↦ Pure.pure x).ChecksFirst :=
  Settled.checksFirst (.bind (.writeWith change) fun _ ↦ .pure x)

/-- A set is replaced after the rows were found that it flags. -/
theorem checksFirst_replaceSet (o : Occurrence) (set : FlaggedSet) (wanted : List String) :
    (replaceSet o set wanted).ChecksFirst := by
  intro s error s' fails _
  obtain ⟨missing, -, -, rfl⟩ := fails_replaceSet.1 fails
  rfl

/-! ### Rows an event refers to -/

section rows

variable (o : Occurrence)

@[simp]
theorem looks_category (id : CategoryId) : (category o id).Looks := by simp [category]

@[simp]
theorem looks_thread (id : ThreadId) : (thread o id).Looks := by simp [thread]

@[simp]
theorem looks_post (id : PostId) : (post o id).Looks := by simp [post]

@[simp]
theorem looks_channel (id : ChannelId) : (channel o id).Looks := by simp [channel]

@[simp]
theorem looks_video (id : VideoId) : (video o id).Looks := by simp [video]

@[simp]
theorem looks_dataObject (id : ContentId) : (dataObject o id).Looks := by simp [dataObject]

@[simp]
theorem looks_channelCategory (id : ChannelCategoryId) : (channelCategory o id).Looks := by
  simp [channelCategory]

@[simp]
theorem looks_videoCategory (id : VideoCategoryId) : (videoCategory o id).Looks := by
  simp [videoCategory]

@[simp]
theorem looks_actorWorker (actor : PrivilegedActor) : (actorWorker o actor).Looks := by
  simp [actorWorker]

@[simp]
theorem looks_forumWorker (runtimeId : UInt64) : (forumWorker o runtimeId).Looks := by
  simp [forumWorker]

@[simp]
theorem looks_pollAlternative (thread : ThreadId) (index : UInt32) :
    (pollAlternative o thread index).Looks := by
  simp [pollAlternative]

/-- An index is checked against the assets of the event and not against the store. -/
@[simp]
theorem looks_selectAsset (assets : List RawAsset) (index : UInt32) :
    (selectAsset o assets index).Looks := by
  simp [selectAsset]

/-! ### Payloads -/

/-- A payload is decoded without the store. -/
@[simp]
theorem looks_readPayload {M : Type} (field : String) (schema : Protobuf.Schema M)
    (payload : Bytes) : (readPayload o field schema payload).Looks := by
  rcases h : schema.decode payload.toList with failure | m <;> simp [readPayload, h]

/-- A language is checked before it is made known. -/
@[simp]
theorem looks_namedLanguage (code : Option String) : (namedLanguage o code).Looks := by
  cases code with
  | none => simp [namedLanguage]
  | some code =>
    rw [namedLanguage]
    split <;> simp

@[simp]
theorem looks_readDate (date : Option String) : (VideoChanges.readDate o date).Looks := by
  cases date with
  | none => simp [VideoChanges.readDate]
  | some text => rcases h : Date.parse text with - | millis <;> simp [VideoChanges.readDate, h]

/-- **Reading the payload of a channel writes nothing**, so all its references are checked first. -/
@[simp]
theorem looks_readChannel (payload : Bytes) (assets : List RawAsset) :
    (ChannelChanges.read o payload assets).Looks := by
  refine .bind (looks_readPayload o _ _ _) fun message ↦ ?_
  cases message with
  | none => exact .pure none
  | some m =>
    exact .bind (by simp) fun category ↦ .bind (by simp) fun language ↦
      .bind (by simp) fun coverPhoto ↦ .bind (by simp) fun avatarPhoto ↦ .pure _

/-- **Reading the payload of a video writes nothing**, so all its references are checked first. -/
@[simp]
theorem looks_readVideo (payload : Bytes) (assets : List RawAsset) :
    (VideoChanges.read o payload assets).Looks := by
  refine .bind (looks_readPayload o _ _ _) fun message ↦ ?_
  cases message with
  | none => exact .pure none
  | some m =>
    exact .bind (by simp) fun category ↦ .bind (by simp) fun publishedBefore ↦
      .bind (by simp) fun language ↦ .bind (by simp) fun thumbnailPhoto ↦
      .bind (by simp) fun media ↦ .pure _

@[simp]
theorem looks_changedName (field : String) (schema : Protobuf.Schema Metadata.CategoryMetadata)
    (payload : Bytes) (current : Option String) :
    (changedName o field schema payload current).Looks := by
  refine Looks.bind (looks_readPayload o _ _ _) fun message ↦ ?_
  cases message <;> simp

/-! ### Merging -/

/-- Once it was selected, an asset can always be stored. -/
@[simp]
theorem settled_storeAsset (owner : DataObjectOwner) (asset : RawAsset) :
    (storeAsset o owner asset).Settled :=
  .of_not_fails fun _ _ _ ↦ fails_storeAsset

@[simp]
theorem settled_fillSlot (owner : DataObjectOwner) (asset : Option RawAsset)
    (current : Option AssetRef) : (fillSlot o owner asset current).Settled :=
  .of_not_fails fun _ _ _ ↦ fails_fillSlot

@[simp]
theorem settled_changedLicense (license : Option Metadata.License) (current : Option Nat) :
    (VideoChanges.changedLicense o license current).Settled :=
  .of_not_fails fun _ _ _ ↦ VideoChanges.fails_changedLicense

/-- A language that is a code already passes when it is checked again. -/
theorem settled_changedLanguage {code : Option String}
    (valid : ∀ text ∈ code, Language.isCode text = true) (current : Option String) :
    (changedLanguage o code current).Settled := by
  cases code with
  | none => simp [changedLanguage]
  | some text =>
    have hvalid : Language.validate text = .ok text :=
      Language.validate_eq_ok.2 ⟨valid text rfl, rfl⟩
    refine .of_not_fails fun s error s' ↦ ?_
    simp [changedLanguage, hvalid]

end rows

/-- A language that a payload names is a code. -/
theorem isCode_of_namesLanguage {code language : Option String} (h : NamesLanguage code language) :
    ∀ text ∈ language, Language.isCode text = true := by
  rintro text ⟨⟩
  cases h with
  | named _ valid =>
    obtain ⟨hcode, rfl⟩ := Language.validate_eq_ok.1 valid
    exact hcode

/-- Changes that a payload was read as are merged into a channel without a check that could fail. -/
theorem settled_applyChannel {changes : Option ChannelChanges} {payload : Bytes}
    {assets : List RawAsset} (read : ChannelChanges.Reading s payload assets changes)
    (owner : DataObjectOwner) (channel : Channel) :
    (ChannelChanges.applyAny changes o owner channel).Settled := by
  cases read with
  | undecodable => exact .pure channel
  | decoded _ _ named _ _ =>
    -- The language is the one check among the writes, and the payload has passed it.
    exact .bind (settled_changedLanguage o (isCode_of_namesLanguage named) _) fun language ↦
      .bind (by simp) fun coverPhoto ↦ .bind (by simp) fun avatarPhoto ↦ .pure _

/-- Changes that a payload was read as are merged into a video without a check that could fail. -/
theorem settled_applyVideo {changes : Option VideoChanges} {payload : Bytes}
    {assets : List RawAsset} (read : VideoChanges.Reading s payload assets changes)
    (owner : DataObjectOwner) (video : Video) :
    (VideoChanges.applyAny changes o owner video).Settled := by
  cases read with
  | undecodable => exact .pure video
  | decoded _ _ named _ _ =>
    exact .bind (settled_changedLanguage o (isCode_of_namesLanguage named) _) fun language ↦
      .bind (by simp) fun license ↦ .bind (by simp) fun thumbnailPhoto ↦
      .bind (by simp) fun stored ↦ .pure _

end Projection

/-! ### Forum events -/

namespace ForumEvent

open Projection

variable {o : Occurrence} {s : Store}

/-- The target of a reply is looked up. -/
@[simp]
theorem looks_replyTarget (o : Occurrence) (target : Option PostId) :
    (replyTarget o target).Looks := by
  cases target with
  | none => exact .pure none
  | some id =>
    refine .bind .store fun store ↦ .bind (.ofStore _) fun row ↦ ?_
    cases row <;> simp

/-- All posts of a deletion are checked before the first one is saved. -/
@[simp]
theorem looks_deletedPosts (o : Occurrence) (hide : Bool) (posts : List PostId) :
    (deletedPosts o hide posts).Looks := by
  induction posts with
  | nil => exact .pure []
  | cons id rest ih =>
    exact .bind (looks_post o id) fun row ↦ .bind (.check o _) fun status ↦
      .bind ih fun rows ↦ .pure _

/-- Attaching a poll can be refused by the storage, but it is no inconsistency then. -/
@[simp]
theorem settled_attachPoll (o : Occurrence) (thread : ThreadId)
    (poll : Option (PollInput × Int64)) : (attachPoll o thread poll).Settled := by
  cases poll with
  | none => exact .pure ()
  | some poll => exact .bind .store fun store ↦ .bind (.ofStore _) fun attached ↦ .write _

@[simp]
theorem settled_setModerator (o : Occurrence) (category : CategoryId) (worker : WorkerId)
    (canModerate : Bool) : (setModerator o category worker canModerate).Settled :=
  .of_not_fails fun _ _ _ ↦ not_fails_setModerator

/-- If the event brings a poll, that poll ends at a time. -/
def PollEnds : ForumEvent → Prop
  | .threadCreated _ _ _ _ _ _ poll => ∀ input ∈ poll, isSigned input.endTime.toNat = true
  | _ => True

/-- A new thread for a category there is, by `author`, with a poll whose end is no time. -/
inductive LeavesAuthor (s : Store) : ForumEvent → MemberId → Prop
  | threadCreated {category : CategoryId} {thread : ThreadId} {post : PostId} {author : MemberId}
      {title text : String} {poll : PollInput} {row : Category}
      (found : s.categories[category]? = some row)
      (endless : isSigned poll.endTime.toNat = false) :
      LeavesAuthor s (.threadCreated category thread post author title text (some poll)) author

/-- A poll that ends at a time passes its check, which so can come after a write. -/
theorem settled_checkPoll {poll : Option PollInput}
    (ends : ∀ input ∈ poll, isSigned input.endTime.toNat = true) :
    (checkPoll o poll).Settled := by
  cases poll with
  | none => exact .pure none
  | some input =>
    refine .of_not_fails fun s error s' ↦ ?_
    simp [checkPoll, ends input rfl]

/-- A new thread whose poll ends at a time, if it has one, checks before it writes. -/
theorem checksFirst_createThread {category : CategoryId} {thread : ThreadId} {post : PostId}
    {author : MemberId} {title text : String} {poll : Option PollInput}
    (ends : ∀ input ∈ poll, isSigned input.endTime.toNat = true) :
    (createThread o category thread post author title text poll).ChecksFirst :=
  (looks_category o category).andThen fun _ _ _ ↦ Settled.checksFirst <|
    .bind (.member o author) fun _ ↦ .bind (settled_checkPoll ends) fun poll ↦
    .bind (.write _) fun _ ↦ .bind (settled_attachPoll o thread poll) fun _ ↦
    .bind (.write _) fun _ ↦ .pure _

/-- A new thread whose poll ends at no time fails once its author is known. -/
theorem fails_createThread {category : CategoryId} {thread : ThreadId} {post : PostId}
    {author : MemberId} {title text : String} {poll : PollInput} {error : ProjectionError}
    {s' : Store} (endless : isSigned poll.endTime.toNat = false) :
    (createThread o category thread post author title text (some poll)).Fails s error s' ↔
      s.categories[category]? = none ∧ error = o.inconsistent (.notFound .category category.text) ∧
          s' = s ∨
        (∃ row, s.categories[category]? = some row) ∧
          error = o.inconsistent (.pollEndTime poll.endTime) ∧
          s' = s.ensureMember author o.block := by
  simp [createThread, checkPoll, endless, and_comm]

/-- A move looks for the thread, the actor and the new category, and then writes. -/
theorem checksFirst_moveThread {thread : ThreadId} {newCategory oldCategory : CategoryId}
    {actor : PrivilegedActor} :
    (moveThread o thread newCategory actor oldCategory).ChecksFirst := by
  refine (looks_thread o thread).andThen fun _ row _ ↦
    (looks_actorWorker o actor).andThen fun _ worker _ ↦
    (looks_category o newCategory).andThen fun _ target _ ↦ ?_
  -- Whether the thread is where the chain takes it to be is checked last, yet before the write.
  split
  · exact (Looks.fail o _).andThen fun _ _ _ ↦ checksFirst_write _ _
  · exact checksFirst_write _ _

/-- A deletion makes the actor known after its posts were checked. -/
theorem checksFirst_deletePosts {rationale : String} {actor : MemberId} {posts : List PostId}
    {hide : Bool} : (deletePosts o rationale actor posts hide).ChecksFirst :=
  (looks_deletedPosts o hide posts).andThen fun _ _ _ ↦ Settled.checksFirst <|
    .bind (.member o actor) fun _ ↦ .bind (.write _) fun _ ↦ .pure _

/-- A new post looks for its thread and for what it answers, and then writes. -/
theorem checksFirst_addPost {post : PostId} {author : MemberId} {thread : ThreadId}
    {payload : Bytes} {editable : Bool} :
    (addPost o post author thread payload editable).ChecksFirst :=
  (looks_thread o thread).andThen fun _ _ _ ↦ (looks_replyTarget o _).andThen fun _ _ _ ↦
    Settled.checksFirst <| .bind (.member o author) fun _ ↦ .bind (.write _) fun _ ↦ .pure _

/-- A forum event checks before it writes, unless it brings a poll without an end. -/
theorem checksFirst_project {e : ForumEvent} (ends : e.PollEnds) : (project o e).ChecksFirst := by
  cases e with
  | categoryCreated category parent title description =>
    exact checksFirst_write _ _
  | categoryUpdated category archived actor =>
    exact (looks_category o category).andThen fun _ row _ ↦
      (looks_actorWorker o actor).andThen fun _ worker _ ↦
      (Looks.check o _).andThen fun _ status _ ↦
      checksFirst_write _ _
  | categoryDeleted category actor =>
    exact (looks_category o category).andThen fun _ row _ ↦
      (looks_actorWorker o actor).andThen fun _ worker _ ↦
      checksFirst_write _ _
  | threadCreated category thread post author title text poll =>
    -- The one event with a check behind a write, the end of its poll behind its author.
    exact checksFirst_createThread ends
  | threadModerated thread rationale actor =>
    exact (looks_actorWorker o actor).andThen fun _ worker _ ↦
      (looks_thread o thread).andThen fun _ row _ ↦
      (Looks.check o _).andThen fun _ status _ ↦
      checksFirst_write _ _
  | threadTitleUpdated thread title =>
    exact (looks_thread o thread).andThen fun _ row _ ↦
      checksFirst_write _ _
  | threadDeleted thread hide =>
    exact (looks_thread o thread).andThen fun _ row _ ↦
      (Looks.check o _).andThen fun _ status _ ↦
      checksFirst_write _ _
  | threadMoved thread newCategory actor oldCategory => exact checksFirst_moveThread
  | voteOnPoll thread index voter =>
    exact (looks_pollAlternative o thread index).andThen fun _ alternative _ ↦
      Settled.checksFirst (.bind (.member o voter) fun _ ↦ .pure _)
  | postAdded post author thread payload editable => exact checksFirst_addPost
  | postModerated post rationale actor =>
    exact (looks_actorWorker o actor).andThen fun _ worker _ ↦
      (looks_post o post).andThen fun _ row _ ↦
      checksFirst_write _ _
  | postDeleted rationale actor posts hide => exact checksFirst_deletePosts
  | postTextUpdated post text =>
    exact (looks_post o post).andThen fun _ row _ ↦
      checksFirst_write _ _
  | categoryStickyThreadUpdate category threads actor =>
    exact (looks_category o category).andThen fun _ row _ ↦
      (looks_actorWorker o actor).andThen fun _ worker _ ↦
      (checksFirst_replaceSet o _ _).andThen fun change ↦ .pure _
  | categoryMembershipOfModeratorUpdated moderator category canModerate =>
    exact (looks_forumWorker o moderator).andThen fun _ worker _ ↦
      (looks_category o category).andThen fun _ row _ ↦ Settled.checksFirst <|
      .bind (settled_setModerator o _ _ _) fun _ ↦ .bind (.write _) fun _ ↦ .pure _

/-- Where a forum event fails with an inconsistency after writing, it left an author behind. -/
theorem eq_or_leavesAuthor_of_fails {e : ForumEvent} {error : ProjectionError} {s' : Store}
    (h : (project o e).Fails s error s') (inconsistent : error.IsInconsistency) :
    s' = s ∨ ∃ author, e.LeavesAuthor s author ∧ s' = s.ensureMember author o.block := by
  by_cases ends : e.PollEnds
  · exact Or.inl (checksFirst_project ends h inconsistent)
  cases e with
  | threadCreated category thread post author title text poll =>
    cases poll with
    | none => exact absurd (by simp [PollEnds]) ends
    | some poll =>
      have endless : isSigned poll.endTime.toNat = false := by simpa [PollEnds] using ends
      rcases (fails_createThread endless).1 h with ⟨-, -, rfl⟩ | ⟨⟨row, found⟩, -, rfl⟩
      · exact Or.inl rfl
      · exact Or.inr ⟨author, .threadCreated found endless, rfl⟩
  | _ => exact absurd trivial ends

/-- An event that leaves an author behind fails. -/
theorem LeavesAuthor.fails {e : ForumEvent} {author : MemberId} (h : e.LeavesAuthor s author) :
    ∃ endTime, (project o e).Fails s (o.inconsistent (.pollEndTime endTime))
      (s.ensureMember author o.block) := by
  cases h with
  | @threadCreated _ _ _ _ _ _ poll row found endless =>
    exact ⟨poll.endTime, (fails_createThread endless).2 (Or.inr ⟨⟨row, found⟩, rfl, rfl⟩)⟩

end ForumEvent

/-! ### Content and storage events -/

namespace ContentEvent

open Projection

variable {o : Occurrence}

@[simp]
theorem settled_knowOwner (o : Occurrence) (owner : ChannelOwner) : (knowOwner o owner).Settled :=
  .of_not_fails fun _ _ _ ↦ fails_knowOwner

@[simp]
theorem looks_channelChanges (o : Occurrence) (update : ChannelUpdate) :
    (channelChanges o update).Looks := by
  rcases h : update.payload with - | payload <;> simp [channelChanges, h]

@[simp]
theorem looks_videoChanges (o : Occurrence) (update : VideoUpdate) :
    (videoChanges o update).Looks := by
  rcases h : update.payload with - | payload <;> simp [videoChanges, h]

/-- The changes an update of a channel asks for are merged without a check that could fail. -/
theorem settled_applyChannel_of_asked {s : Store} {update : ChannelUpdate}
    {changes : Option ChannelChanges} (asked : ChannelChanges.Asked s update changes)
    (owner : DataObjectOwner) (channel : Channel) :
    (ChannelChanges.applyAny changes o owner channel).Settled := by
  unfold ChannelChanges.Asked at asked
  split at asked
  · cases asked
    exact .pure channel
  · exact settled_applyChannel asked owner channel

/-- The changes an update of a video asks for are merged without a check that could fail. -/
theorem settled_applyVideo_of_asked {s : Store} {update : VideoUpdate}
    {changes : Option VideoChanges} (asked : VideoChanges.Asked s update changes)
    (owner : DataObjectOwner) (video : Video) :
    (VideoChanges.applyAny changes o owner video).Settled := by
  unfold VideoChanges.Asked at asked
  split at asked
  · cases asked
    exact .pure video
  · exact settled_applyVideo asked owner video

/-- A content event checks before it writes. -/
theorem checksFirst_project (o : Occurrence) (e : ContentEvent) : (project o e).ChecksFirst := by
  cases e with
  | channelCreated actor id owner creation =>
    -- What was read tells that the merge behind the first write cannot fail any more.
    refine (looks_readChannel o _ _).andThen fun s changes yields ↦ Settled.checksFirst ?_
    have read := (ChannelChanges.yields_read.1 yields).1
    exact .bind (settled_knowOwner o owner) fun _ ↦ .bind (settled_applyChannel read _ _) fun _ ↦
      .bind (.write _) fun _ ↦ .pure _
  | channelUpdated actor id update =>
    refine (looks_channel o id).andThen fun _ row _ ↦
      (looks_channelChanges o update).andThen fun s changes yields ↦ Settled.checksFirst ?_
    have asked := (yields_channelChanges.1 yields).1
    exact .bind (settled_applyChannel_of_asked asked _ _) fun _ ↦ .bind (.write _) fun _ ↦ .pure _
  | channelCensorship isCensored id rationale =>
    exact (looks_channel o id).andThen fun _ row _ ↦
      checksFirst_write _ _
  | channelCategoryCreated id payload =>
    exact (looks_changedName o _ _ _ _).andThen fun _ name _ ↦
      checksFirst_write _ _
  | channelCategoryUpdated id payload =>
    exact (looks_channelCategory o id).andThen fun _ row _ ↦
      (looks_changedName o _ _ _ _).andThen fun _ name _ ↦
      checksFirst_write _ _
  | channelCategoryDeleted id =>
    exact (looks_channelCategory o id).andThen fun _ row _ ↦
      checksFirst_writeWith _ _
  | videoCategoryCreated id payload =>
    exact (looks_changedName o _ _ _ _).andThen fun _ name _ ↦
      checksFirst_write _ _
  | videoCategoryUpdated id payload =>
    exact (looks_videoCategory o id).andThen fun _ row _ ↦
      (looks_changedName o _ _ _ _).andThen fun _ name _ ↦
      checksFirst_write _ _
  | videoCategoryDeleted id =>
    exact (looks_videoCategory o id).andThen fun _ row _ ↦
      checksFirst_writeWith _ _
  | videoCreated actor channel id creation =>
    refine (looks_channel o channel).andThen fun _ row _ ↦
      (looks_readVideo o _ _).andThen fun s changes yields ↦ Settled.checksFirst ?_
    have read := (VideoChanges.yields_read.1 yields).1
    exact .bind (settled_applyVideo read _ _) fun _ ↦ .bind (.write _) fun _ ↦ .pure _
  | videoUpdated actor id update =>
    refine (looks_video o id).andThen fun _ row _ ↦
      (looks_videoChanges o update).andThen fun s changes yields ↦ Settled.checksFirst ?_
    have asked := (yields_videoChanges.1 yields).1
    exact .bind (settled_applyVideo_of_asked asked _ _) fun _ ↦ .bind (.write _) fun _ ↦ .pure _
  | videoDeleted id =>
    exact (looks_video o id).andThen fun _ row _ ↦
      checksFirst_writeWith _ _
  | videoCensorship isCensored id rationale =>
    exact (looks_video o id).andThen fun _ row _ ↦
      checksFirst_write _ _
  | featuredVideosSet videos =>
    exact (checksFirst_replaceSet o _ _).andThen fun change ↦ .pure _

end ContentEvent

/-- An acceptance looks for the data object, and then writes. -/
theorem ContentAcceptance.checksFirst_project (o : Occurrence) (acceptance : ContentAcceptance) :
    (project o acceptance).ChecksFirst :=
  (Projection.looks_dataObject o _).andThen fun _ _ _ ↦ Projection.Settled.checksFirst <|
    .bind (.write _) fun _ ↦ .bind (.writeWith _) fun _ ↦ .pure _

/-! ### All events -/

/-- The event is a new thread that leaves its author behind. -/
def Occurrence.LeavesAuthor (o : Occurrence) (s : Store) (author : MemberId) : Prop :=
  ∃ read e, ForumEvent.reader? o.name = some read ∧ read o = .ok e ∧ e.LeavesAuthor s author

namespace Projection

variable {o : Occurrence} {s s' : Store} {error : ProjectionError}

/-- Where what is done for a known name fails with an inconsistency after writing, it left an author
behind. -/
theorem eq_or_leavesAuthor_of_fails_handler {handle : Occurrence → Projection EventData}
    (known : handler? o.name = some handle) (h : (handle o).Fails s error s')
    (inconsistent : error.IsInconsistency) :
    s' = s ∨ ∃ author, o.LeavesAuthor s author ∧ s' = s.ensureMember author o.block := by
  rcases handler?_eq_some known with ⟨read, hforum, rfl⟩ | ⟨read, -, rfl⟩ | ⟨read, -, rfl⟩
  · rcases fails_bind.1 h with hensure | ⟨e, t, hensure, hproject⟩
    · exact Or.inl ((Looks.ensure o _).eq_of_fails hensure)
    · obtain ⟨reads, rfl⟩ := yields_ensure.1 hensure
      refine (ForumEvent.eq_or_leavesAuthor_of_fails hproject inconsistent).imp_right ?_
      rintro ⟨author, leaves, rfl⟩
      exact ⟨author, ⟨read, e, hforum, reads, leaves⟩, rfl⟩
  · exact Or.inl <| (Looks.ensure o _).andThen
      (fun _ e _ ↦ ContentEvent.checksFirst_project o e) h inconsistent
  · exact Or.inl <| (Looks.ensure o _).andThen
      (fun _ e _ ↦ ContentAcceptance.checksFirst_project o e) h inconsistent

/-- Where an event fails with an inconsistency after writing, it left an author behind. -/
theorem eq_or_leavesAuthor_of_fails_event (h : (event o).Fails s error s')
    (inconsistent : error.IsInconsistency) :
    s' = s ∨ ∃ author, o.LeavesAuthor s author ∧ s' = s.ensureMember author o.block := by
  obtain ⟨handle, known, hhandle | ⟨rfl, -⟩⟩ := fails_event.1 h
  · exact eq_or_leavesAuthor_of_fails_handler known hhandle inconsistent
  · -- The record comes last, and only the storage can refuse it.
    exact absurd inconsistent (ProjectionError.not_isInconsistency_store _)

/-- An event that leaves an author behind fails with the end of its poll. -/
theorem fails_event_of_leavesAuthor {author : MemberId} (h : o.LeavesAuthor s author) :
    ∃ endTime, (event o).Fails s (o.inconsistent (.pollEndTime endTime))
      (s.ensureMember author o.block) := by
  obtain ⟨read, e, hforum, reads, leaves⟩ := h
  obtain ⟨endTime, hproject⟩ := leaves.fails (o := o)
  have known : handler? o.name = some fun o ↦ ensure o (read o) >>= ForumEvent.project o := by
    rw [handler?, hforum]
  refine ⟨endTime, ?_⟩
  rw [event, known]
  exact fails_bind.2 (Or.inl (fails_bind.2 (Or.inr ⟨e, s, yields_ensure.2 ⟨reads, rfl⟩, hproject⟩)))

/-- An event that fails with an inconsistency has changed the store exactly if it is a new thread,
for a category there is, whose poll ends at no time and whose author was not known.  All it leaves
is that author, and it always fails. -/
theorem ne_iff_leavesAuthor_of_fails_event (o : Occurrence) (s : Store) :
    (∀ error s', (event o).Fails s error s' → error.IsInconsistency →
      (s' ≠ s ↔ ∃ author, o.LeavesAuthor s author ∧ author ∉ s.members) ∧
        ∀ author, o.LeavesAuthor s author → s' = s.ensureMember author o.block) ∧
      ∀ author, o.LeavesAuthor s author → ∃ endTime,
        (event o).Fails s (o.inconsistent (.pollEndTime endTime)) (s.ensureMember author o.block) := by
  refine ⟨fun error s' h inconsistent ↦ ?_, fun author ↦ fails_event_of_leavesAuthor⟩
  have hleft (author : MemberId) (leaves : o.LeavesAuthor s author) :
      s' = s.ensureMember author o.block := by
    obtain ⟨endTime, hfails⟩ := fails_event_of_leavesAuthor leaves
    exact h.2.symm.trans hfails.2
  refine ⟨⟨fun hne ↦ ?_, ?_⟩, hleft⟩
  · obtain ⟨author, leaves, rfl⟩ :=
      (eq_or_leavesAuthor_of_fails_event h inconsistent).resolve_left hne
    refine ⟨author, leaves, fun hmem ↦ hne ?_⟩
    exact Store.ensureMember_of_mem hmem o.block
  · rintro ⟨author, leaves, hnew⟩
    rw [hleft author leaves]
    exact Store.ensureMember_ne hnew o.block

/-- A category without a parent. -/
def categoryBlock : Block where
  number := 0
  timestamp := 0
  events := [
    ⟨"forum.CategoryCreated", 0, none, [.string "1", .null, .string "0x", .string "0x"]⟩]

/-- The store with the category. -/
def categoryStore : Store := Store.afterBlock {} categoryBlock

/-- A thread in the category whose poll ends after the last time there is. -/
def endlessPoll : Occurrence :=
  .ofEvent 1 0 ⟨"forum.ThreadCreated", 0, none, [.string "1", .string "2", .string "3", .string "4",
    .string "0x", .string "0x", .object [("description", .string "0x"),
      ("end_time", .int 9223372036854775808), ("alternatives", .array [])]]⟩

/-- The thread is refused, and its author stays. -/
theorem ne_iff_leavesAuthor_of_fails_event_endlessPoll :
    categoryStore.Reachable ∧ endlessPoll.LeavesAuthor categoryStore ⟨"4"⟩ ∧
      ∃ error s', (event endlessPoll).Fails categoryStore error s' ∧ error.IsInconsistency ∧
        s' ≠ categoryStore := by
  have hreachable : categoryStore.Reachable := .block (.seeded .fresh) _ fun _ _ ↦ trivial
  have hcategory : categoryStore.categories[(⟨"1"⟩ : CategoryId)]?.isSome = true := by
    decide +kernel
  obtain ⟨row, found⟩ := Option.isSome_iff_exists.1 hcategory
  have hleaves : endlessPoll.LeavesAuthor categoryStore ⟨"4"⟩ :=
    ⟨_, .threadCreated ⟨"1"⟩ ⟨"2"⟩ ⟨"3"⟩ ⟨"4"⟩ "" "" (some ⟨"", 9223372036854775808, []⟩), rfl,
      by decide +kernel, .threadCreated found rfl⟩
  have hnew : (⟨"4"⟩ : MemberId) ∉ categoryStore.members := by decide +kernel
  obtain ⟨hchanged, hfails⟩ := ne_iff_leavesAuthor_of_fails_event endlessPoll categoryStore
  obtain ⟨endTime, h⟩ := hfails _ hleaves
  have hinconsistent := Occurrence.isInconsistency_inconsistent endlessPoll (.pollEndTime endTime)
  exact ⟨hreachable, hleaves, _, _, h, hinconsistent,
    (hchanged _ _ h hinconsistent).1.2 ⟨_, hleaves, hnew⟩⟩

end Projection

end ChainProjection
