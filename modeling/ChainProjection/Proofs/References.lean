import ChainProjection.Proofs.Causes
import ChainProjection.Proofs.Licenses

/-!
# References

A row names other rows by their ids, and nothing but the projection sees to it that these are there.
**In a visited store they are** (`Visited.refersIn`): a row is saved only with references to what
was looked up before or is saved along with it, and what is referred to is never removed, which is
`Handles.retains`.  Categories of the content are the exception, their rows do get removed, and
nothing is said of references to them.

The rows of one store are judged by what is there in another (`Store.RefersIn`).  This is not
generality for its own sake: in the middle of a step a row may already name another one that is
saved only by the next write, as a thread does that is saved before its first post.  So a step is
taken apart into its writes, with **the rows of every store on the way judged by the store in which
the step ends**, and `RefersIn.mono` brings the earlier rows there.

The main result, `refersIn_of_reachable`, adds that no two videos share a license, from
`Visited.licensesApart`.
-/

namespace ChainProjection

open Store Table

variable {s s' u v : Store} {o : Occurrence} {d : EventData} {admits : Occurrence → Prop}

/-! ### References of a row -/

/-- The category and the author of a thread are there. -/
structure Thread.RefersIn (u : Store) (row : Thread) : Prop where
  category : row.category ∈ u.categories
  author : row.author ∈ u.members

/-- The thread and the author of a post are there, and so is the post it answers, if any. -/
structure Post.RefersIn (u : Store) (row : Post) : Prop where
  thread : row.thread ∈ u.threads
  author : row.author ∈ u.members
  repliesTo : ∀ id ∈ row.repliesTo, id ∈ u.posts

/-- The thread of a poll is there, and the alternatives have the places from zero on. -/
structure Poll.RefersIn (u : Store) (thread : ThreadId) (row : Poll) : Prop where
  thread : thread ∈ u.threads
  places : row.alternatives.map (·.index) = List.range row.alternatives.length

/-- A language, if there is one, is a code and known. -/
def SpokenIn (u : Store) (language : Option String) : Prop :=
  ∀ code ∈ language, code ∈ u.languages ∧ Language.isCode code = true

/-- A channel has an owner, who is there if it is a member, and its language is known. -/
structure Channel.RefersIn (u : Store) (row : Channel) : Prop where
  owner : ∃ owner, row.owner = some owner ∧ ∀ id ∈ owner.member?, id ∈ u.members
  language : SpokenIn u row.language

/-- The channel, the language and the license of a video are there. -/
structure Video.RefersIn (u : Store) (row : Video) : Prop where
  channel : row.channel ∈ u.channels
  language : SpokenIn u row.language
  license : ∀ number ∈ row.license, number ∈ u.licenses

/-- The owner of a data object is a channel that is there. -/
def DataObjectOwner.RefersIn (u : Store) (owner : DataObjectOwner) : Prop :=
  ∃ channel ∈ u.channels, owner = .channel channel

/-- A vote names an alternative of a poll and a member that are there. -/
def EventData.RefersIn (u : Store) : EventData → Prop
  | .voteOnPoll row voter =>
    (∃ (thread : ThreadId) (poll : Poll), u.polls[thread]? = some poll ∧
      ∃ alternative ∈ poll.alternatives, row = alternative.id) ∧ voter ∈ u.members
  | _ => True

theorem spokenIn_none : SpokenIn u none :=
  fun _ hcode ↦ by cases hcode

theorem SpokenIn.mono {language : Option String} (h : SpokenIn u language) (huv : Retains u v) :
    SpokenIn v language := by
  intro code hcode
  obtain ⟨hmem, hvalid⟩ := h code hcode
  exact ⟨huv.languages code hmem, hvalid⟩

/-- A channel that owns a data object stays. -/
theorem DataObjectOwner.RefersIn.mono {owner : DataObjectOwner} (h : owner.RefersIn u)
    (huv : Retains u v) : owner.RefersIn v := by
  obtain ⟨channel, hmem, rfl⟩ := h
  exact ⟨channel, huv.channels channel hmem, rfl⟩

/-- What a vote names stays, the row of its alternative included. -/
theorem EventData.RefersIn.mono (h : d.RefersIn u) (huv : Retains u v) : d.RefersIn v := by
  cases d with
  | voteOnPoll row voter =>
    obtain ⟨⟨thread, poll, hpoll, hrow⟩, hvoter⟩ := h
    exact ⟨⟨thread, poll, huv.polls thread poll hpoll, hrow⟩, huv.members voter hvoter⟩
  | _ => trivial

/-! ### References of a store -/

namespace Store

/-- Everything the rows of `s` refer to is there in `u`. -/
structure RefersIn (s u : Store) : Prop where
  threads : Forall (fun _ row ↦ row.RefersIn u) s.threads
  posts : Forall (fun _ row ↦ row.RefersIn u) s.posts
  polls : Forall (fun thread row ↦ row.RefersIn u thread) s.polls
  moderators : ∀ pair ∈ s.moderators,
    pair.1 ∈ u.categories ∧ ∃ worker ∈ u.workers, worker.id = pair.2
  channels : Forall (fun _ row ↦ row.RefersIn u) s.channels
  videos : Forall (fun _ row ↦ row.RefersIn u) s.videos
  dataObjects : Forall (fun _ row ↦ row.owner.RefersIn u) s.dataObjects
  votes : ∀ record ∈ s.log, record.data.RefersIn u

namespace RefersIn

/-- What is there stays, so references to it do. -/
theorem mono (h : s.RefersIn u) (huv : Retains u v) : s.RefersIn v where
  threads := h.threads.imp fun _ _ hrow ↦
    ⟨huv.categories _ hrow.category, huv.members _ hrow.author⟩
  posts := h.posts.imp fun _ _ hrow ↦
    ⟨huv.threads _ hrow.thread, huv.members _ hrow.author,
      fun id hid ↦ huv.posts id (hrow.repliesTo id hid)⟩
  polls := h.polls.imp fun _ _ hrow ↦ ⟨huv.threads _ hrow.thread, hrow.places⟩
  moderators pair hpair := by
    obtain ⟨hcategory, worker, hworker, hid⟩ := h.moderators pair hpair
    exact ⟨huv.categories _ hcategory, worker, huv.workers worker hworker, hid⟩
  channels := h.channels.imp fun _ _ hrow ↦ by
    obtain ⟨owner, howner, hmember⟩ := hrow.owner
    exact ⟨⟨owner, howner, fun id hid ↦ huv.members id (hmember id hid)⟩, hrow.language.mono huv⟩
  videos := h.videos.imp fun _ _ hrow ↦
    ⟨huv.channels _ hrow.channel, hrow.language.mono huv,
      fun number hnumber ↦ huv.licenses number (hrow.license number hnumber)⟩
  dataObjects := h.dataObjects.imp fun _ _ hrow ↦ hrow.mono huv
  votes record hrecord := (h.votes record hrecord).mono huv

/-! ### Writes -/

/-- A thread may be saved if its category and its author are there. -/
theorem saveThread (h : s.RefersIn u) {thread : Thread} (hrow : thread.RefersIn u) :
    (s.saveThread thread).RefersIn u :=
  { h with threads := h.threads.upsert rfl fun _ ↦ ⟨hrow.category, hrow.author⟩ }

/-- A post may be saved if its thread, its author and what it answers are there. -/
theorem savePost (h : s.RefersIn u) {post : Post} (hrow : post.RefersIn u) :
    (s.savePost post).RefersIn u :=
  { h with
    posts := h.posts.upsert rfl fun _ ↦ ⟨hrow.thread, hrow.author, hrow.repliesTo⟩ }

/-- Posts may be saved one after the other if each of them may. -/
theorem foldl_savePost (h : s.RefersIn u) {posts : List Post}
    (hrows : ∀ post ∈ posts, post.RefersIn u) : (posts.foldl Store.savePost s).RefersIn u := by
  induction posts generalizing s with
  | nil => exact h
  | cons post rest ih =>
    rw [List.forall_mem_cons] at hrows
    exact ih (h.savePost hrows.1) hrows.2

/-- A channel may be saved if its owner and its language are there. -/
theorem saveChannel (h : s.RefersIn u) {channel : Channel} (hrow : channel.RefersIn u) :
    (s.saveChannel channel).RefersIn u :=
  { h with channels := h.channels.upsert rfl fun _ ↦ ⟨hrow.owner, hrow.language⟩ }

/-- A video may be saved if its channel, its language and its license are there. -/
theorem saveVideo (h : s.RefersIn u) {video : Video} (hrow : video.RefersIn u) :
    (s.saveVideo video).RefersIn u :=
  { h with
    videos := h.videos.upsert rfl fun _ ↦ ⟨hrow.channel, hrow.language, hrow.license⟩ }

theorem saveDataObject (h : s.RefersIn u) {object : DataObject}
    (howner : object.owner.RefersIn u) : (s.saveDataObject object).RefersIn u :=
  { h with dataObjects := h.dataObjects.upsert rfl fun _ ↦ howner }

/-- An upload is registered for the channel that owns it. -/
theorem withAsset? (h : s.RefersIn u) {owner : DataObjectOwner} (howner : owner.RefersIn u)
    (o : Occurrence) (asset : Option RawAsset) : (s.withAsset? o owner asset).RefersIn u := by
  rcases asset with - | links | parameters
  · exact h
  · exact h
  · exact h.saveDataObject howner

theorem withOwner (h : s.RefersIn u) (o : Occurrence) (owner : ChannelOwner) :
    (s.withOwner o owner).RefersIn u := by
  cases owner <;> exact { h with }

/-- Making a worker a moderator needs the category and the worker; making it none needs nothing. -/
theorem withModerator (h : s.RefersIn u) {category : CategoryId} {worker : Worker}
    (hcategory : category ∈ u.categories) (hworker : worker ∈ u.workers) (canModerate : Bool) :
    (s.withModerator category worker.id canModerate).RefersIn u := by
  cases canModerate with
  | true =>
    refine { h with moderators := fun pair hpair ↦ ?_ }
    rcases Std.ExtTreeSet.mem_insert.1 hpair with heq | hold
    · obtain rfl : (category, worker.id) = pair := Std.LawfulEqCmp.eq_of_compare heq
      exact ⟨hcategory, worker, hworker, rfl⟩
    · exact h.moderators pair hold
  | false =>
    exact { h with
      moderators := fun pair hpair ↦ h.moderators pair (Std.ExtTreeSet.mem_erase.1 hpair).2 }

/-- Pins are no references. -/
theorem replaceSticky (h : s.RefersIn u) {category : CategoryId} {wanted : List String}
    {updatedAt : Int64} {change : SetChange}
    (replaced : s.replaceSet (.stickyThreads category) wanted updatedAt = .ok (change, s')) :
    s'.RefersIn u := by
  have hrows := forall_replaceSticky replaced h.threads fun _ _ _ hrow ↦
    ⟨hrow.category, hrow.author⟩
  rw [replaceSticky_frame replaced]
  exact { h with threads := hrows }

theorem replaceFeatured (h : s.RefersIn u) {wanted : List String} {updatedAt : Int64}
    {change : SetChange}
    (replaced : s.replaceSet .featuredVideos wanted updatedAt = .ok (change, s')) :
    s'.RefersIn u := by
  have hrows := forall_replaceFeatured replaced h.videos fun _ _ _ hrow ↦
    ⟨hrow.channel, hrow.language, hrow.license⟩
  rw [replaceFeatured_frame replaced]
  exact { h with videos := hrows }

/-- Slots are rewritten with the same ids in them. -/
theorem setSlotAvailability (h : s.RefersIn u) (id : ContentId) (availability : AssetAvailability)
    (updatedAt : Int64) : (s.setSlotAvailability id availability updatedAt).2.RefersIn u := by
  refine { h with channels := h.channels.map ?_, videos := h.videos.map ?_ }
  · intro key channel hrow
    rw [refreshChannel]
    split
    · exact hrow
    · exact ⟨hrow.owner, hrow.language⟩
  · intro key video hrow
    rw [refreshVideo]
    split
    · exact hrow
    · exact ⟨hrow.channel, hrow.language, hrow.license⟩

end RefersIn

end Store

/-! ### Forum events -/

/-- Alternatives are numbered by their places, without gaps. -/
theorem Store.places_alternativesFrom (index row : Nat) (texts : List String) :
    (alternativesFrom index row texts).map (·.index) =
      List.range' index (alternativesFrom index row texts).length := by
  induction texts generalizing index row with
  | nil => rfl
  | cons text rest ih =>
    rw [alternativesFrom, List.map_cons, List.length_cons, List.range'_succ, ih]

/-- A poll may be attached to a thread that is there. -/
theorem ForumEvent.PollStep.refersIn {thread : ThreadId} {poll : Option PollInput}
    (polled : PollStep o s thread poll s') (h : s.RefersIn u) (hthread : thread ∈ u.threads) :
    s'.RefersIn u := by
  cases polled with
  | none => exact h
  | some _ attached =>
    obtain rfl := insertPoll_eq_ok attached
    refine { h with polls := Forall.insert h.polls ⟨hthread, ?_⟩ }
    rw [List.range_eq_range']
    exact places_alternativesFrom ..

/-- The post that a new post answers is there. -/
theorem ForumEvent.mem_posts_of_mem_repliedTo (hkeyed : s.Keyed) {target : Option PostId}
    {id : PostId} (h : id ∈ repliedTo s target) : id ∈ s.posts := by
  obtain ⟨id', -, hrow⟩ := Option.bind_eq_some_iff.1 h
  obtain ⟨row, found, rfl⟩ := Option.map_eq_some_iff.1 hrow
  exact hkeyed.posts.key_mem found

/-- The worker that is found by a group and a number is there and has them. -/
theorem Store.groupWorker?_eq_some {group : String} {runtimeId : UInt64} {worker : Worker}
    (h : s.groupWorker? group runtimeId = some worker) :
    worker ∈ s.workers ∧ worker.groupId = group ∧ worker.runtimeId = runtimeId := by
  have hworker := List.find?_some h
  rw [decide_eq_true_eq] at hworker
  exact ⟨List.mem_of_find?_eq_some h, hworker⟩

/-- A forum event refers to what is there once it is done. -/
theorem ForumEvent.Step.refersIn (hkeyed : s.Keyed) (h : s.RefersIn s) {e : ForumEvent}
    (step : Step o s e d s') : s'.RefersIn s' ∧ d.RefersIn s' := by
  have hretains := step.retains
  have hold : s.RefersIn s' := h.mono hretains
  cases step with
  | categoryCreated => exact ⟨{ hold with }, trivial⟩
  | categoryUpdated => exact ⟨{ hold with }, trivial⟩
  | categoryDeleted => exact ⟨{ hold with }, trivial⟩
  | @threadCreated category thread post author title text poll row t found polled =>
    -- The author and the thread are saved before the poll, and attaching it keeps them.
    have hthread := polled.retains.threads thread Std.ExtTreeMap.mem_insert_self
    have hauthor := polled.retains.members author (mem_members_ensureMember ..)
    have hcategory : row.id ∈ s.categories := hkeyed.categories.key_mem found
    have hmember : (s.ensureMember author o.block).RefersIn _ := { hold with }
    refine ⟨(polled.refersIn (hmember.saveThread ?_) hthread).savePost ?_, trivial⟩
    · exact ⟨hretains.categories _ hcategory, hauthor⟩
    · exact ⟨hthread, hauthor, fun id hid ↦ by cases hid⟩
  | threadModerated granted found =>
    have hrow := hold.threads found
    exact ⟨hold.saveThread ⟨hrow.category, hrow.author⟩, trivial⟩
  | threadTitleUpdated found =>
    have hrow := hold.threads found
    exact ⟨hold.saveThread ⟨hrow.category, hrow.author⟩, trivial⟩
  | threadDeleted found =>
    have hrow := hold.threads found
    exact ⟨hold.saveThread ⟨hrow.category, hrow.author⟩, trivial⟩
  | @threadMoved thread newCategory actor row worker target found granted there =>
    have hrow := hold.threads found
    have htarget : target.id ∈ s.categories := hkeyed.categories.key_mem there
    exact ⟨hold.saveThread ⟨htarget, hrow.author⟩, trivial⟩
  | @voteOnPoll thread index voter alternative found =>
    have hvoter := s.mem_members_ensureMember voter o.block
    obtain ⟨poll, hpoll, hfind⟩ := Option.bind_eq_some_iff.1 found
    have hmem := List.mem_of_find?_eq_some hfind
    exact ⟨{ hold with }, ⟨thread, poll, hpoll, alternative, hmem, rfl⟩, hvoter⟩
  | @postAdded post author thread payload editable row found =>
    have hauthor := s.mem_members_ensureMember author o.block
    have hthread : row.id ∈ s.threads := hkeyed.threads.key_mem found
    have hmember : (s.ensureMember author o.block).RefersIn _ := { hold with }
    refine ⟨hmember.savePost ⟨hretains.threads _ hthread, hauthor, fun id hid ↦ ?_⟩, trivial⟩
    exact hretains.posts id (mem_posts_of_mem_repliedTo hkeyed hid)
  | postModerated granted found =>
    have hrow := hold.posts found
    exact ⟨hold.savePost ⟨hrow.thread, hrow.author, hrow.repliesTo⟩, trivial⟩
  | @postDeleted rationale actor posts hide rows allowed =>
    have hmember : (s.ensureMember actor o.block).RefersIn _ := { hold with }
    refine ⟨hmember.foldl_savePost fun post hpost ↦ ?_, trivial⟩
    obtain ⟨id, -, row, status, found, -, rfl⟩ := exists_deletesTo allowed hpost
    have hrow := hold.posts found
    exact ⟨hrow.thread, hrow.author, hrow.repliesTo⟩
  | postTextUpdated found =>
    have hrow := hold.posts found
    exact ⟨hold.savePost ⟨hrow.thread, hrow.author, hrow.repliesTo⟩, trivial⟩
  | categoryStickyThreadUpdate found granted replaced =>
    exact ⟨hold.replaceSticky replaced, trivial⟩
  | @categoryMembershipOfModeratorUpdated moderator category canModerate row worker granted found =>
    have hcategory : row.id ∈ s.categories := hkeyed.categories.key_mem found
    have hworker := (groupWorker?_eq_some granted).1
    have hpaired := hold.withModerator (hretains.categories _ hcategory)
      (hretains.workers _ hworker) canModerate
    exact ⟨{ hpaired with }, trivial⟩

/-! ### Content and storage events -/

/-- The language an entity has after a change is known then. -/
theorem LanguageStep.spokenIn {current code language : Option String}
    (step : LanguageStep o s current code language s') (hcurrent : SpokenIn s current) :
    SpokenIn s' language := by
  cases step with
  | kept => exact hcurrent
  | @named code code' valid =>
    rintro _ ⟨⟩
    obtain ⟨hvalid, rfl⟩ := Language.validate_eq_ok.1 valid
    exact ⟨Std.ExtTreeMap.mem_insertIfNew.2 (Or.inl Std.ReflOrd.compare_self), hvalid⟩

/-- Making a language known leaves all references. -/
theorem LanguageStep.refersIn {current code language : Option String}
    (step : LanguageStep o s current code language s') (h : s.RefersIn u) : s'.RefersIn u := by
  cases step with
  | kept => exact h
  | named valid => exact { h with }

theorem LicenseStep.refersIn {current row : Option Nat} {license : Option Metadata.License}
    (step : LicenseStep o s current license row s') (h : s.RefersIn u) : s'.RefersIn u := by
  cases step with
  | kept => exact h
  | stored => exact { h with }

/-- The license a video has after a change is stored then. -/
theorem LicenseStep.mem_licenses {current row : Option Nat} {license : Option Metadata.License}
    (step : LicenseStep o s current license row s')
    (hcurrent : ∀ number ∈ current, number ∈ s.licenses) :
    ∀ number ∈ row, number ∈ s'.licenses := by
  cases step with
  | kept => exact hcurrent
  | stored =>
    rintro _ ⟨⟩
    exact Std.ExtTreeMap.mem_insert_self

/-- An owner that is a member is known once the channel is created. -/
theorem Store.mem_members_withOwner {owner : ChannelOwner} :
    ∀ id ∈ owner.member?, id ∈ (s.withOwner o owner).members := by
  cases owner with
  | member id =>
    rintro _ ⟨⟩
    exact mem_members_ensureMember ..
  | curatorGroup id =>
    rintro _ ⟨⟩

theorem ChannelChanges.Merging.id_eq {owner : DataObjectOwner} {channel channel' : Channel}
    {changes : Option ChannelChanges} (merged : Merging o owner s channel changes channel' s') :
    channel'.id = channel.id := by
  cases merged <;> rfl

/-- A channel that changes are merged into has the same owner, and its language is known. -/
theorem ChannelChanges.Merging.refersIn {owner : DataObjectOwner} {channel channel' : Channel}
    {changes : Option ChannelChanges} (merged : Merging o owner s channel changes channel' s')
    (h : s.RefersIn u) (howner : owner.RefersIn u) (hlanguage : SpokenIn s channel.language)
    (hu : Retains s' u) :
    s'.RefersIn u ∧ channel'.owner = channel.owner ∧ SpokenIn u channel'.language := by
  cases merged with
  | kept => exact ⟨h, rfl, hlanguage.mono hu⟩
  | merged spoken =>
    refine ⟨((spoken.refersIn h).withAsset? howner ..).withAsset? howner .., rfl, ?_⟩
    refine (spoken.spokenIn hlanguage).mono (Retains.trans ?_ hu)
    exact (retains_withAsset? ..).trans (retains_withAsset? ..)

/-- A video that changes are merged into is in the same channel, and its language and license are
there. -/
theorem VideoChanges.Merging.refersIn {owner : DataObjectOwner} {video video' : Video}
    {changes : Option VideoChanges} (merged : Merging o owner s video changes video' s')
    (h : s.RefersIn u) (howner : owner.RefersIn u) (hvideo : video.RefersIn s)
    (hu : Retains s' u) : s'.RefersIn u ∧ video'.RefersIn u := by
  have hretains := merged.retains.trans hu
  cases merged with
  | kept =>
    exact ⟨h, hretains.channels _ hvideo.channel, hvideo.language.mono hu,
      fun number hnumber ↦ hu.licenses number (hvideo.license number hnumber)⟩
  | @merged changes language license t w _ spoken licensed pictured =>
    subst pictured
    have hstored : Retains w u :=
      Retains.trans ((retains_withAsset? ..).trans (retains_withAsset? ..)) hu
    have hlicense := licensed.mem_licenses fun number hnumber ↦
      spoken.retains.licenses number (hvideo.license number hnumber)
    refine ⟨((licensed.refersIn (spoken.refersIn h)).withAsset? howner ..).withAsset? howner ..,
      hretains.channels _ hvideo.channel, ?_, fun number hnumber ↦ ?_⟩
    · exact (spoken.spokenIn hvideo.language).mono (licensed.retains.trans hstored)
    · exact hstored.licenses number (hlicense number hnumber)

/-- A content event refers to what is there once it is done. -/
theorem ContentEvent.Step.refersIn (hkeyed : s.Keyed) (h : s.RefersIn s) {e : ContentEvent}
    (step : Step o s e d s') : s'.RefersIn s' ∧ d.RefersIn s' := by
  have hretains := step.retains
  have hold : s.RefersIn s' := h.mono hretains
  cases step with
  | @channelCreated actor id owner creation changes channel t read merged =>
    -- Uploads belong to the channel that is only saved after them, so it is the last store that
    -- has to have it.
    have hid : id ∈ (t.saveChannel channel).channels := by
      rw [show id = channel.id from merged.id_eq.symm]
      exact Std.ExtTreeMap.mem_insert_self
    have hsaved : Retains t (t.saveChannel channel) := retains_saveChannel ..
    have hknown := merged.retains.trans hsaved
    obtain ⟨hstore, howner, hlanguage⟩ :=
      merged.refersIn (hold.withOwner o owner) ⟨id, hid, rfl⟩ spokenIn_none hsaved
    refine ⟨hstore.saveChannel ⟨⟨owner, howner, fun member hmember ↦ ?_⟩, hlanguage⟩, trivial⟩
    exact hknown.members member (mem_members_withOwner member hmember)
  | @channelUpdated actor id update row channel changes t found asked merged =>
    have hid := hretains.channels id (mem_of_getElem?_eq_some found)
    obtain ⟨hstore, howner, hlanguage⟩ :=
      merged.refersIn hold ⟨id, hid, rfl⟩ (h.channels found).language (retains_saveChannel ..)
    refine ⟨hstore.saveChannel ⟨?_, hlanguage⟩, trivial⟩
    rw [howner]
    exact (hold.channels found).owner
  | channelCensorship found =>
    have hrow := hold.channels found
    exact ⟨hold.saveChannel ⟨hrow.owner, hrow.language⟩, trivial⟩
  | @videoCreated actor channel id creation row changes video t found read merged =>
    have hchannel : row.id ∈ s.channels := hkeyed.channels.key_mem found
    have howner : (actor.assetOwner row.id).RefersIn (t.saveVideo video) :=
      ⟨row.id, hretains.channels _ hchannel, rfl⟩
    obtain ⟨hstore, hvideo⟩ := merged.refersIn hold howner
      ⟨hchannel, spokenIn_none, fun _ hnumber ↦ by cases hnumber⟩
      { Retains.refl t with }
    exact ⟨hstore.saveVideo hvideo, trivial⟩
  | @videoUpdated actor id update row video changes t found fits asked merged =>
    have hrow := h.videos found
    have howner : (actor.assetOwner row.channel).RefersIn _ :=
      ⟨row.channel, hretains.channels _ hrow.channel, rfl⟩
    obtain ⟨hstore, hvideo⟩ := merged.refersIn hold howner hrow { Retains.refl t with }
    exact ⟨hstore.saveVideo ⟨hvideo.channel, hvideo.language, hvideo.license⟩, trivial⟩
  | videoDeleted => exact ⟨{ hold with videos := hold.videos.erase _ }, trivial⟩
  | videoCensorship found =>
    have hrow := hold.videos found
    exact ⟨hold.saveVideo ⟨hrow.channel, hrow.language, hrow.license⟩, trivial⟩
  | featuredVideosSet replaced => exact ⟨hold.replaceFeatured replaced, trivial⟩
  | _ => exact ⟨{ hold with }, trivial⟩

/-- An acceptance leaves all references and records no vote. -/
theorem ContentAcceptance.Step.refersIn (h : s.RefersIn s) {acceptance : ContentAcceptance}
    (step : Step o s acceptance d s') : s'.RefersIn s' ∧ d.RefersIn s' := by
  have hold : s.RefersIn s' := h.mono step.retains
  cases step with
  | @accepted object found =>
    have howner : object.owner.RefersIn _ := hold.dataObjects found
    refine ⟨(hold.saveDataObject ?_).setSlotAvailability .., trivial⟩
    exact howner

/-! ### All events -/

/-- A step refers to what is there once it is done, and so does the record it leaves. -/
theorem Handles.refersIn (hkeyed : s.Keyed) (h : s.RefersIn s) (handled : Handles o s d s') :
    s'.RefersIn s' ∧ d.RefersIn s' := by
  rcases handled with ⟨-, -, step⟩ | ⟨-, -, step⟩ | ⟨-, -, step⟩
  · exact step.refersIn hkeyed h
  · exact step.refersIn hkeyed h
  · exact step.refersIn h

/-- In a visited store everything that is referred to is there. -/
theorem Store.Visited.refersIn (h : Visited admits s) : s.RefersIn s := by
  induction h with
  | seeded h =>
    rw [h.eq]
    exact ⟨forall_empty, forall_empty, forall_empty, by simp, forall_empty, forall_empty,
      forall_empty, by simp⟩
  | @event s t o d visited _ handled _ ih =>
    obtain ⟨hrefers, hrecord⟩ := handled.refersIn visited.keyed ih
    have hretains : Retains t (t.withRecord (o.record d)) := { Retains.refl t with }
    have hgrown := hrefers.mono hretains
    exact { hgrown with
      votes := List.forall_mem_cons.2 ⟨hrecord.mono hretains, hgrown.votes⟩ }
  | @cursor s _ number ih =>
    have hmoved : s.RefersIn { s with cursor := some number } := ih.mono { Retains.refl s with }
    exact { hmoved with }

namespace Store

/-- In a reachable store everything that is referred to is there, and no two videos share a
license. -/
theorem refersIn_of_reachable (h : s.Reachable) :
    s.RefersIn s ∧ ∀ (id id' : VideoId) (row row' : Video) (number : Nat),
      s.videos[id]? = some row → s.videos[id']? = some row' → number ∈ row.license →
        number ∈ row'.license → id = id' := by
  refine ⟨h.visited.refersIn, fun id id' row row' number found found' hnumber hnumber' ↦ ?_⟩
  exact (h.visited.licensesApart found' number hnumber').2 found hnumber

/-- A thread with a poll, a vote, an answer, a moderator, a channel of the thread's author and a
licensed video in it. -/
def referringBlock : Block where
  number := 0
  timestamp := 0
  events := [
    ⟨"forum.CategoryCreated", 0, none, [.string "1", .null, .string "0x", .string "0x"]⟩,
    ⟨"forum.ThreadCreated", 1, none, [.string "1", .string "2", .string "3", .string "4",
      .string "0x", .string "0x", .object [("description", .string "0x"), ("end_time", .int 9),
        ("alternatives", .array [.string "0x", .string "0x"])]]⟩,
    ⟨"forum.VoteOnPoll", 2, none, [.string "2", .int 1, .string "5"]⟩,
    ⟨"forum.PostAdded", 3, none, [.string "6", .string "5", .null, .string "2", .string "0x1003",
      .bool true]⟩,
    ⟨"forum.CategoryMembershipOfModeratorUpdated", 4, none, [.int 0, .string "1", .bool true]⟩,
    ⟨"content.ChannelCreated", 5, none, [.string "Lead", .int 7,
      .object [("owner", .object [("Member", .int 4)])],
      .object [("assets", .array []), ("meta", .string "0x2202656e")]]⟩,
    ⟨"content.VideoCreated", 6, none, [.string "Lead", .int 7, .int 8,
      .object [("assets", .array [coverUpload]), ("meta", .string "0x180052020801")]]⟩]

/-- The store after these events. -/
def referringStore : Store := afterBlock { workers := [forumLead] } referringBlock

/-- The rows refer to each other, and what they refer to is there. -/
theorem refersIn_of_reachable_referringStore :
    referringStore.Reachable ∧
      (referringStore.threads[(⟨"2"⟩ : ThreadId)]?.map fun row ↦ (row.category, row.author)) =
        some (⟨"1"⟩, ⟨"4"⟩) ∧
      (referringStore.posts[(⟨"6"⟩ : PostId)]?.map fun row ↦ (row.thread, row.repliesTo)) =
        some (⟨"2"⟩, some ⟨"3"⟩) ∧
      (⟨"1"⟩, ⟨"forumWorkingGroup-0"⟩) ∈ referringStore.moderators ∧
      (referringStore.videos[(⟨"8"⟩ : VideoId)]?.map fun row ↦ (row.channel, row.license)) =
        some (⟨"7"⟩, some 1) ∧
      referringStore.RefersIn referringStore ∧
      ∀ (id id' : VideoId) (row row' : Video) (number : Nat),
        referringStore.videos[id]? = some row → referringStore.videos[id']? = some row' →
          number ∈ row.license → number ∈ row'.license → id = id' := by
  have hseeded : Seeded { workers := [forumLead] } := .worker .fresh rfl
  have hreachable : referringStore.Reachable := .block (.seeded hseeded) _ fun _ _ ↦ trivial
  refine ⟨hreachable, ?_, ?_, ?_, ?_, refersIn_of_reachable hreachable⟩
  all_goals decide +kernel

end Store

end ChainProjection
