import ChainProjection.Proofs.Flags
import Mathlib.Data.List.Chain

/-!
# The rows and the log

**What the rows hold is what the log says last.**  The title of a thread is that of the last record
that gives it one, the text of a post is the last one it was given since it was added, a thread is
in the category that its last move names, and so on for censorship and moderators.  Each of these is
a field that some kinds of events own: an event of another kind may load the row and save it, but it
saves the field as it found it, and the record says nothing of it.

So a step is said to *account for* all rows: each row after it was created by it, or was there and
differs by what the record says (`EventData.RewritesThread`, `EventData.AccountsForPost`).  The
induction over runs then never looks at an event, only at its record; `Handles.accountsForThreads`
and `Handles.accountsForPosts` are the steps, `Visited.title_eq`, `Visited.leadsTo` and
`Visited.hasLatestText` the runs, and `agreesWithLog_of_reachable` has them all.

Two of the readings need care.  A thread id can be created again, and then its earlier moves are no
longer its moves, so moves count from the last creation.  A post is found under the origin it was
added with, and the text is the last one since that record, which is looked up by its id and not by
its place in the log.
-/

namespace ChainProjection

open Store Table

variable {s s' : Store} {o : Occurrence} {d : EventData} {admits : Occurrence → Prop}

/-! ### What records say -/

/-- The categories between which a thread was moved. -/
structure ThreadMove where
  oldCategory : CategoryId
  newCategory : CategoryId

namespace EventData

/-- Whether an event creates a thread. -/
def createsThread (thread : ThreadId) : EventData → Bool
  | .threadCreated created _ _ => created = thread
  | _ => false

/-- The title an event gives a thread. -/
def title? (thread : ThreadId) : EventData → Option String
  | .threadCreated created title _ => if created = thread then some title else none
  | .threadTitleUpdated updated newTitle => if updated = thread then some newTitle else none
  | _ => none

/-- Where an event moves a thread. -/
def move? (thread : ThreadId) : EventData → Option ThreadMove
  | .threadMoved moved oldCategory newCategory _ =>
    if moved = thread then some ⟨oldCategory, newCategory⟩ else none
  | _ => none

/-- The text of the post that an event adds. -/
def addedText? : EventData → Option String
  | .threadCreated _ _ text => some text
  | .postAdded _ _ text => some text
  | _ => none

/-- The text an event gives a post that is there. -/
def newText? (post : PostId) : EventData → Option String
  | .postTextUpdated updated newText => if updated = post then some newText else none
  | _ => none

/-- Whether an event makes a worker a moderator of a category or one no more. -/
def moderates? (category : CategoryId) (worker : WorkerId) : EventData → Option Bool
  | .categoryMembershipOfModeratorUpdated changed moderator canModerate =>
    if (changed, moderator) = (category, worker) then some canModerate else none
  | _ => none

end EventData

/-- The moves of a thread since its last creation, the last move first. -/
def moves (thread : ThreadId) (log : List EventRecord) : List ThreadMove :=
  (log.takeWhile fun record ↦ !record.data.createsThread thread).filterMap (·.data.move? thread)

/-- A record on top is the last move, or no move, or a new beginning. -/
theorem moves_cons (thread : ThreadId) (record : EventRecord) (log : List EventRecord) :
    moves thread (record :: log) = if record.data.createsThread thread then []
      else (record.data.move? thread).toList ++ moves thread log := by
  rw [moves, List.takeWhile_cons]
  cases record.data.createsThread thread with
  | true => rfl
  | false => cases hmove : record.data.move? thread <;> simp [hmove, moves]

/-- The last move leads to a category, and every move starts where the one before it led. -/
structure LeadsTo (moves : List ThreadMove) (category : CategoryId) : Prop where
  last : ∀ move ∈ moves.head?, move.newCategory = category
  chain : moves.IsChain fun later earlier ↦ later.oldCategory = earlier.newCategory

/-! ### Threads -/

/-- How an event that does not create a thread leaves its row, by its record. -/
structure EventData.RewritesThread (d : EventData) (id : ThreadId) (row row' : Thread) : Prop where
  created : d.createsThread id = false
  title : row'.title = (d.title? id).getD row.title
  kept : d.move? id = none → row'.category = row.category
  moved : ∀ move, d.move? id = some move →
    move.oldCategory = row.category ∧ move.newCategory = row'.category

/-- An event that says nothing of a thread leaves its title and its category. -/
theorem EventData.rewritesThread_of_silent {id : ThreadId} {row row' : Thread}
    (hcreated : d.createsThread id = false) (htitle : d.title? id = none)
    (hmove : d.move? id = none) (hsame : row'.title = row.title)
    (hstays : row'.category = row.category) : d.RewritesThread id row row' where
  created := hcreated
  title := by rw [htitle, hsame, Option.getD_none]
  kept _ := hstays
  moved move hmoved := by rw [hmove] at hmoved; cases hmoved

/-- A thread that is found after an event was created by it, or was there and is left as the record
says. -/
def EventData.AccountsForThread (d : EventData) (s : Store) (id : ThreadId)
    (row' : Thread) : Prop :=
  (d.createsThread id = true ∧ d.title? id = some row'.title) ∨
    ∃ row, s.threads[id]? = some row ∧ d.RewritesThread id row row'

/-- A forum event accounts for all threads. -/
theorem ForumEvent.Step.accountsForThreads {e : ForumEvent} (hkeyed : s.Keyed)
    (step : Step o s e d s') : Forall (d.AccountsForThread s) s'.threads := by
  intro id row' found'
  cases step with
  | @threadCreated category thread post author title text poll row t found polled =>
    rw [savePost, polled.threads_eq] at found'
    rcases getElem?_upsert_eq_some rfl found' with ⟨old, rfl, rfl⟩ | ⟨hid, hother⟩
    · refine Or.inl ⟨?_, ?_⟩
      · simp [EventData.createsThread]
      · simp [EventData.title?, Thread.rewrittenAs]
    · have hne : thread ≠ id := fun heq ↦ hid heq.symm
      refine Or.inr ⟨row', hother, EventData.rewritesThread_of_silent ?_ ?_ rfl rfl rfl⟩
      · simp [EventData.createsThread, hne]
      · simp [EventData.title?, hne]
  | @threadModerated thread rationale actor row worker status granted found allowed =>
    rcases getElem?_upsert_eq_some rfl found' with ⟨old, rfl, rfl⟩ | ⟨hid, hother⟩
    · rw [hkeyed.threads found]
      exact Or.inr ⟨row, found, EventData.rewritesThread_of_silent rfl rfl rfl rfl rfl⟩
    · exact Or.inr ⟨row', hother, EventData.rewritesThread_of_silent rfl rfl rfl rfl rfl⟩
  | @threadTitleUpdated thread title row found =>
    have hrow := hkeyed.threads found
    rcases getElem?_upsert_eq_some rfl found' with ⟨old, hid, rfl⟩ | ⟨hid, hother⟩
    · obtain rfl : id = thread := hid.trans hrow
      refine Or.inr ⟨row, found, rfl, ?_, fun _ ↦ rfl, fun _ hmoved ↦ by cases hmoved⟩
      simp [EventData.title?, Thread.rewrittenAs]
    · have hne : thread ≠ id := fun heq ↦ hid (heq.symm.trans hrow.symm)
      refine Or.inr ⟨row', hother, EventData.rewritesThread_of_silent rfl ?_ rfl rfl rfl⟩
      simp [EventData.title?, hne]
  | @threadDeleted thread hide row status found allowed =>
    rcases getElem?_upsert_eq_some rfl found' with ⟨old, rfl, rfl⟩ | ⟨hid, hother⟩
    · rw [hkeyed.threads found]
      exact Or.inr ⟨row, found, EventData.rewritesThread_of_silent rfl rfl rfl rfl rfl⟩
    · exact Or.inr ⟨row', hother, EventData.rewritesThread_of_silent rfl rfl rfl rfl rfl⟩
  | @threadMoved thread newCategory actor row worker target found granted there =>
    have hrow := hkeyed.threads found
    rcases getElem?_upsert_eq_some rfl found' with ⟨old, hid, rfl⟩ | ⟨hid, hother⟩
    · obtain rfl : id = thread := hid.trans hrow
      have hmove : (EventData.threadMoved id row.category newCategory worker.id).move? id =
          some ⟨row.category, newCategory⟩ := by simp [EventData.move?]
      refine Or.inr ⟨row, found, rfl, rfl, fun hkept ↦ ?_, fun move hmoved ↦ ?_⟩
      · rw [hmove] at hkept
        cases hkept
      · rw [hmove] at hmoved
        cases hmoved
        exact ⟨rfl, (hkeyed.categories there).symm⟩
    · have hne : thread ≠ id := fun heq ↦ hid (heq.symm.trans hrow.symm)
      refine Or.inr ⟨row', hother, EventData.rewritesThread_of_silent rfl rfl ?_ rfl rfl⟩
      simp [EventData.move?, hne]
  | postDeleted allowed =>
    rw [foldl_savePost] at found'
    exact Or.inr ⟨row', found', EventData.rewritesThread_of_silent rfl rfl rfl rfl rfl⟩
  | categoryStickyThreadUpdate found granted replaced =>
    -- The flags and times of some rows are new, and nothing else of them.
    have hrows := forall_replaceSticky (P := fun id row' ↦ ∃ row, s.threads[id]? = some row ∧
      row'.title = row.title ∧ row'.category = row.category) replaced
      (fun _ row hrow ↦ ⟨row, hrow, rfl, rfl⟩) fun _ _ _ hrow ↦ hrow
    obtain ⟨row, hrow, htitle, hcategory⟩ := hrows found'
    exact Or.inr ⟨row, hrow, EventData.rewritesThread_of_silent rfl rfl rfl htitle hcategory⟩
  | @categoryMembershipOfModeratorUpdated _ _ canModerate =>
    have hrow : s.threads[id]? = some row' := by cases canModerate <;> exact found'
    exact Or.inr ⟨row', hrow, EventData.rewritesThread_of_silent rfl rfl rfl rfl rfl⟩
  | _ => exact Or.inr ⟨row', found', EventData.rewritesThread_of_silent rfl rfl rfl rfl rfl⟩

/-- Every step accounts for all threads. -/
theorem Handles.accountsForThreads (hkeyed : s.Keyed) (handled : Handles o s d s') :
    Forall (d.AccountsForThread s) s'.threads := by
  rcases handled with ⟨-, -, step⟩ | ⟨-, -, step⟩ | ⟨-, -, step⟩
  · exact step.accountsForThreads hkeyed
  · intro id row found
    rw [step.writesContent.threads] at found
    cases step <;>
      exact Or.inr ⟨row, found, EventData.rewritesThread_of_silent rfl rfl rfl rfl rfl⟩
  · intro id row found
    rw [step.writesContent.threads] at found
    cases step
    exact Or.inr ⟨row, found, EventData.rewritesThread_of_silent rfl rfl rfl rfl rfl⟩

/-- In a visited store the title of a thread is the last one a record gives it. -/
theorem Store.Visited.title_eq (h : Visited admits s) :
    Forall (fun id row ↦ s.log.findSome? (·.data.title? id) = some row.title) s.threads := by
  induction h with
  | seeded h =>
    rw [h.eq]
    exact forall_empty
  | @event s t o d visited _ handled _ ih =>
    intro id row' found'
    rw [handled.log_withRecord, List.findSome?_cons, Occurrence.record_data]
    rcases handled.accountsForThreads visited.keyed found' with ⟨-, htitle⟩ | ⟨row, found, rewrites⟩
    · rw [htitle]
    · rw [rewrites.title]
      rcases d.title? id with - | title
      · exact ih found
      · rfl
  | cursor _ _ ih => exact ih

/-- In a visited store a thread is where its moves since its last creation lead. -/
theorem Store.Visited.leadsTo (h : Visited admits s) :
    Forall (fun id row ↦ LeadsTo (moves id s.log) row.category) s.threads := by
  induction h with
  | seeded h =>
    rw [h.eq]
    exact forall_empty
  | @event s t o d visited _ handled _ ih =>
    intro id row' found'
    rw [handled.log_withRecord, moves_cons, Occurrence.record_data]
    rcases handled.accountsForThreads visited.keyed found' with ⟨hcreates, -⟩ |
      ⟨row, found, rewrites⟩
    · rw [if_pos hcreates]
      exact ⟨fun _ hmove ↦ absurd hmove (by simp), List.IsChain.nil⟩
    · obtain ⟨hlast, hchain⟩ := ih found
      rw [if_neg (Bool.eq_false_iff.1 rewrites.created)]
      rcases hmove : d.move? id with - | move
      · rw [rewrites.kept hmove]
        exact ⟨hlast, hchain⟩
      · -- The move starts where the thread was, which is where the moves before it led.
        obtain ⟨hold, hnew⟩ := rewrites.moved move hmove
        refine ⟨fun later hlater ↦ ?_, List.isChain_cons.2 ⟨fun earlier hearlier ↦ ?_, hchain⟩⟩
        · cases hlater
          exact hnew
        · exact hold.trans (hlast earlier hearlier).symm
  | cursor _ _ ih => exact ih

/-! ### Posts -/

/-- A post that is found after an event was added by it, with the text of its record, or was there
and has the origin it had and the text that the record gives it, if it gives it one. -/
def EventData.AccountsForPost (d : EventData) (o : Occurrence) (s : Store) (id : PostId)
    (row' : Post) : Prop :=
  (row'.origin.cause? = some o.id ∧ d.addedText? = some row'.text) ∨
    ∃ row, s.posts[id]? = some row ∧ row'.origin = row.origin ∧
      row'.text = (d.newText? id).getD row.text

/-- A forum event accounts for all posts. -/
theorem ForumEvent.Step.accountsForPosts {e : ForumEvent} (hkeyed : s.Keyed)
    (step : Step o s e d s') : Forall (d.AccountsForPost o s) s'.posts := by
  intro id row' found'
  cases step with
  | @threadCreated category thread post author title text poll row t found polled =>
    rcases getElem?_upsert_eq_some rfl found' with ⟨old, rfl, rfl⟩ | ⟨-, hother⟩
    · exact Or.inl ⟨rfl, rfl⟩
    · rw [polled.frame] at hother
      exact Or.inr ⟨row', hother, rfl, rfl⟩
  | @postAdded post author thread payload editable row found =>
    rcases getElem?_upsert_eq_some rfl found' with ⟨old, rfl, rfl⟩ | ⟨-, hother⟩
    · exact Or.inl ⟨rfl, rfl⟩
    · exact Or.inr ⟨row', hother, rfl, rfl⟩
  | @postModerated post rationale actor row worker granted found =>
    rcases getElem?_upsert_eq_some rfl found' with ⟨old, rfl, rfl⟩ | ⟨-, hother⟩
    · rw [hkeyed.posts found]
      exact Or.inr ⟨row, found, rfl, rfl⟩
    · exact Or.inr ⟨row', hother, rfl, rfl⟩
  | @postDeleted rationale actor posts hide rows allowed =>
    have hrows : Forall (fun id row' ↦ ∃ row, s.posts[id]? = some row ∧
        row'.origin = row.origin ∧ row'.text = row.text)
        (rows.foldl Store.savePost (s.ensureMember actor o.block)).posts := by
      refine forall_foldl_savePost (fun _ row found ↦ ⟨row, found, rfl, rfl⟩) ?_
      -- The rows that are saved were loaded before the first of them was.
      intro post hpost old
      obtain ⟨deleted, -, row, status, found, -, rfl⟩ := exists_deletesTo allowed hpost
      have hrow : row.id = deleted := hkeyed.posts found
      exact ⟨row, hrow ▸ found, rfl, rfl⟩
    exact Or.inr (hrows found')
  | @postTextUpdated post text row found =>
    have hrow := hkeyed.posts found
    rcases getElem?_upsert_eq_some rfl found' with ⟨old, hid, rfl⟩ | ⟨hid, hother⟩
    · obtain rfl : id = post := hid.trans hrow
      refine Or.inr ⟨row, found, rfl, ?_⟩
      simp [EventData.newText?, Post.rewrittenAs]
    · have hne : post ≠ id := fun heq ↦ hid (heq.symm.trans hrow.symm)
      refine Or.inr ⟨row', hother, rfl, ?_⟩
      simp [EventData.newText?, hne]
  | categoryStickyThreadUpdate found granted replaced =>
    rw [replaceSticky_frame replaced] at found'
    exact Or.inr ⟨row', found', rfl, rfl⟩
  | @categoryMembershipOfModeratorUpdated _ _ canModerate =>
    have hrow : s.posts[id]? = some row' := by cases canModerate <;> exact found'
    exact Or.inr ⟨row', hrow, rfl, rfl⟩
  | _ => exact Or.inr ⟨row', found', rfl, rfl⟩

/-- Every step accounts for all posts. -/
theorem Handles.accountsForPosts (hkeyed : s.Keyed) (handled : Handles o s d s') :
    Forall (d.AccountsForPost o s) s'.posts := by
  rcases handled with ⟨-, -, step⟩ | ⟨-, -, step⟩ | ⟨-, -, step⟩
  · exact step.accountsForPosts hkeyed
  · intro id row found
    rw [step.writesContent.posts] at found
    cases step <;> exact Or.inr ⟨row, found, rfl, rfl⟩
  · intro id row found
    rw [step.writesContent.posts] at found
    cases step
    exact Or.inr ⟨row, found, rfl, rfl⟩

/-- The text of a post is the last one it was given in the log since the record that its origin
names, which is in the log, or else the text of that record. -/
def Post.HasLatestText (row : Post) (s : Store) (id : PostId) : Prop :=
  ∃ record text, row.origin.cause? = some record.id ∧ s.event? record.id = some record ∧
    record.data.addedText? = some text ∧
    row.text = lastSince (·.id = record.id) (·.data.newText? id) text s.log

/-- In a visited store every post has the last text it was given. -/
theorem Store.Visited.hasLatestText (h : Visited admits s) :
    Forall (fun id row ↦ row.HasLatestText s id) s.posts := by
  induction h with
  | seeded h =>
    rw [h.eq]
    exact forall_empty
  | @event s t o d visited _ handled fresh ih =>
    intro id row' found'
    rcases handled.accountsForPosts visited.keyed found' with ⟨horigin, htext⟩ |
      ⟨row, found, horigin, htext⟩
    · refine ⟨o.record d, row'.text, horigin, event?_withRecord_self .., htext, ?_⟩
      rw [handled.log_withRecord, lastSince_cons]
      exact (if_pos (decide_eq_true rfl)).symm
    · obtain ⟨record, text, hnamed, hrecord, hadded, hlast⟩ := ih found
      have hkept := handled.event?_withRecord fresh hrecord
      refine ⟨record, text, horigin ▸ hnamed, hkept, hadded, ?_⟩
      -- The new record is not the one the origin names, which was there before.
      have hne : o.id ≠ record.id := by
        intro heq
        have hfresh : s.event? o.id = none := by
          rw [event?, ← handled.past_eq.1]
          exact fresh
        rw [heq, hrecord] at hfresh
        cases hfresh
      rw [handled.log_withRecord, lastSince_cons, ← hlast, htext]
      exact (if_neg fun hsame ↦ hne (of_decide_eq_true hsame)).symm
  | cursor _ _ ih => exact ih

/-! ### Moderators -/

/-- One pair is put in or taken out; the others stay. -/
theorem Store.mem_moderators_withModerator (s : Store) (changed : CategoryId)
    (moderator : WorkerId) (canModerate : Bool) (category : CategoryId) (worker : WorkerId) :
    (category, worker) ∈ (s.withModerator changed moderator canModerate).moderators ↔
      if (changed, moderator) = (category, worker) then canModerate = true
      else (category, worker) ∈ s.moderators := by
  have hcompare : compare (changed, moderator) (category, worker) = .eq ↔
      (changed, moderator) = (category, worker) := Std.LawfulEqCmp.compare_eq_iff_eq
  cases canModerate with
  | true =>
    rw [withModerator, if_pos rfl, addModerator, Std.ExtTreeSet.mem_insert, hcompare]
    by_cases heq : (changed, moderator) = (category, worker) <;> simp [heq]
  | false =>
    rw [withModerator, if_neg Bool.false_ne_true, removeModerator, Std.ExtTreeSet.mem_erase, ne_eq,
      hcompare]
    by_cases heq : (changed, moderator) = (category, worker) <;> simp [heq]

/-- After a step a worker moderates a category if the record says so, or if it says nothing of the
two and the worker did before. -/
theorem Handles.mem_moderators (hkeyed : s.Keyed) (handled : Handles o s d s')
    (category : CategoryId) (worker : WorkerId) :
    (category, worker) ∈ s'.moderators ↔ match d.moderates? category worker with
      | some canModerate => canModerate = true
      | none => (category, worker) ∈ s.moderators := by
  rcases handled with ⟨-, -, step⟩ | ⟨-, -, step⟩ | ⟨-, -, step⟩
  · cases step with
    | @categoryMembershipOfModeratorUpdated _ _ canModerate row moderator granted found =>
      show (category, worker) ∈ (s.withModerator row.id moderator.id canModerate).moderators ↔ _
      rw [mem_moderators_withModerator, hkeyed.categories found, EventData.moderates?]
      split <;> rfl
    | threadCreated found polled =>
      rw [polled.frame]
      rfl
    | postDeleted allowed =>
      rw [foldl_savePost]
      rfl
    | categoryStickyThreadUpdate found granted replaced =>
      rw [replaceSticky_frame replaced]
      rfl
    | _ => rfl
  · rw [step.writesContent.moderators]
    cases step <;> rfl
  · rw [step.writesContent.moderators]
    cases step
    rfl

/-- In a visited store a worker moderates a category exactly if the last record for the two says
so. -/
theorem Store.Visited.mem_moderators (h : Visited admits s) (category : CategoryId)
    (worker : WorkerId) : (category, worker) ∈ s.moderators ↔
      s.log.findSome? (·.data.moderates? category worker) = some true := by
  induction h with
  | seeded h =>
    rw [h.eq]
    simp
  | @event s t o d visited _ handled _ ih =>
    have hstep := handled.mem_moderators visited.keyed category worker
    rw [handled.log_withRecord, List.findSome?_cons, Occurrence.record_data]
    refine hstep.trans ?_
    rcases d.moderates? category worker with - | canModerate
    · exact ih
    · simp
  | cursor _ _ ih => exact ih

/-! ### All of it -/

namespace Store

/-- The rows say what the log says. -/
structure AgreesWithLog (s : Store) : Prop where
  /-- The title of a thread is the one in the last record that gives it a title. -/
  titles : Forall (fun id row ↦ s.log.findSome? (·.data.title? id) = some row.title) s.threads
  /-- The text of a post is the last one it was given since it was added. -/
  texts : Forall (fun id row ↦ row.HasLatestText s id) s.posts
  /-- A thread is where its moves since its last creation lead, each from where the last led. -/
  places : Forall (fun id row ↦ LeadsTo (moves id s.log) row.category) s.threads
  /-- A channel is censored if its last censorship since its last creation says so. -/
  channels : Forall (fun id row ↦ row.isCensored =
    lastSince (·.data.createsChannel id) (·.data.channelCensored? id) false s.log) s.channels
  /-- A video is censored if its last censorship since its last creation says so. -/
  videos : Forall (fun id row ↦ row.isCensored =
    lastSince (·.data.createsVideo id) (·.data.videoCensored? id) false s.log) s.videos
  /-- A worker moderates a category if the last record for the two says so. -/
  moderators : ∀ category worker, (category, worker) ∈ s.moderators ↔
    s.log.findSome? (·.data.moderates? category worker) = some true

/-- In a reachable store the rows say what the log says. -/
theorem agreesWithLog_of_reachable (h : s.Reachable) : s.AgreesWithLog where
  titles := h.visited.title_eq
  texts := h.visited.hasLatestText
  places := h.visited.leadsTo
  channels id row found := h.visited.channelFlag?_eq_some (by rw [channelFlag?, found]; rfl)
  videos id row found := h.visited.videoFlags?_eq_some (by rw [videoFlags?, found]; rfl)
  moderators := h.visited.mem_moderators

/-- A thread gets another title and another category, its post another text, and the category it
leaves gets a moderator and loses it again. -/
def editingBlock : Block where
  number := 0
  timestamp := 0
  events := [
    ⟨"forum.CategoryCreated", 0, none, [.string "1", .null, .string "0x", .string "0x"]⟩,
    ⟨"forum.CategoryCreated", 1, none, [.string "2", .null, .string "0x", .string "0x"]⟩,
    ⟨"forum.ThreadCreated", 2, none, [.string "1", .string "3", .string "4", .string "5",
      .string "0x61", .string "0x62", .null]⟩,
    ⟨"forum.ThreadTitleUpdated", 3, none, [.string "3", .null, .null, .string "0x63"]⟩,
    ⟨"forum.ThreadMoved", 4, none, [.string "3", .string "2", .string "Lead", .string "1"]⟩,
    ⟨"forum.PostTextUpdated", 5, none, [.string "4", .null, .null, .null, .string "0x64"]⟩,
    ⟨"forum.CategoryMembershipOfModeratorUpdated", 6, none, [.int 0, .string "1", .bool true]⟩,
    ⟨"forum.CategoryMembershipOfModeratorUpdated", 7, none, [.int 0, .string "1", .bool false]⟩]

/-- The store after these events. -/
def editedStore : Store := afterBlock { workers := [forumLead] } editingBlock

/-- The rows have the new title, category and text, there is no moderator, and the log says so. -/
theorem agreesWithLog_of_reachable_editedStore :
    editedStore.Reachable ∧
      (editedStore.threads[(⟨"3"⟩ : ThreadId)]?.map fun row ↦ (row.title, row.category)) =
        some ("c", ⟨"2"⟩) ∧
      editedStore.posts[(⟨"4"⟩ : PostId)]?.map Post.text = some "d" ∧
      editedStore.moderators = ∅ ∧ editedStore.log.length = 8 ∧ editedStore.AgreesWithLog := by
  have hseeded : Seeded { workers := [forumLead] } := .worker .fresh rfl
  have hreachable : editedStore.Reachable := .block (.seeded hseeded) _ fun _ _ ↦ trivial
  refine ⟨hreachable, ?_, ?_, ?_, ?_, agreesWithLog_of_reachable hreachable⟩
  · decide +kernel
  · decide +kernel
  · exact Std.ExtTreeSet.isEmpty_iff.1 (by decide +kernel)
  · decide +kernel

end Store

end ChainProjection
