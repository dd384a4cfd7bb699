import ChainProjection.Proofs.Causes

/-!
# Pinned threads

Whether a thread is pinned can be read off the log (`pinned`), and the flag always says what the log
says: `Visited.pinnedAs`, by one step lemma (`Handles.pinnedAs`) and one induction.  A thread comes
in unpinned, and replacing the pinned threads of its category pins it exactly if it is listed.

**A thread that is moved takes its flag along**, so it may be pinned in a category that never pinned
it; only then does the flag say something else than the last replacement for the category the thread
is in.  The reading of the log therefore goes by category as well as by thread: where a thread was
moved, what matters is whether it was pinned in the category it came from.  `pinned_of_reachable`
has both halves, the reading and the condition under which it agrees with the last replacement.

The second half is about logs alone (`mem_lastPins_of_pinned`), and it is an induction on the log
from its newest record on.
-/

namespace ChainProjection

open Store Table

variable {s s' t : Store} {o : Occurrence} {d : EventData} {admits : Occurrence → Prop}

/-! ### Replacing the pinned threads of a category -/

/-- A thread after the pinned threads of a category were replaced: if it is in the category and its
flag is not the wanted one, it gets that flag and the time. -/
def Thread.repinned (category : CategoryId) (wanted : Bool) (updatedAt : Int64) (row : Thread) :
    Thread :=
  if row.category = category ∧ row.isSticky ≠ wanted then
    { row with isSticky := wanted, updatedAt := updatedAt }
  else row

namespace Store

/-- The threads in scope are those of the category, each with its flag. -/
theorem mem_inScope_stickyThreads {category : CategoryId} {text : String} {flag : Bool} :
    (text, flag) ∈ s.inScope (.stickyThreads category) ↔
      ∃ (id : ThreadId) (row : Thread), s.threads[id]? = some row ∧ row.category = category ∧
        id.text = text ∧ row.isSticky = flag := by
  simp [inScope, and_assoc, Std.ExtTreeMap.mem_toList_iff_getElem?_eq_some]

/-- A thread that is found is in scope if it is in the category. -/
theorem mem_inScope_of_found {category : CategoryId} {id : ThreadId} {row : Thread}
    {flag : Bool} (found : s.threads[id]? = some row) :
    (id.text, flag) ∈ s.inScope (.stickyThreads category) ↔
      row.category = category ∧ row.isSticky = flag := by
  rw [mem_inScope_stickyThreads]
  constructor
  · rintro ⟨⟨text⟩, row', found', hcategory, rfl, hflag⟩
    cases found.symm.trans found'
    exact ⟨hcategory, hflag⟩
  · rintro ⟨hcategory, hflag⟩
    exact ⟨id, row, found, hcategory, rfl, hflag⟩

/-- The threads that lose their pins are those of the category that are pinned and not wanted. -/
theorem mem_removed_stickyThreads {category : CategoryId} {wanted : List String} {id : ThreadId}
    {row : Thread} (found : s.threads[id]? = some row) :
    id.text ∈ (s.changeTo (.stickyThreads category) wanted).removed ↔
      row.category = category ∧ row.isSticky = true ∧ id.text ∉ wanted := by
  simp [changeTo, mem_inScope_of_found found, and_assoc]

/-- The threads that get pins are those of the category that are wanted and not pinned. -/
theorem mem_added_stickyThreads {category : CategoryId} {wanted : List String} {id : ThreadId}
    {row : Thread} (found : s.threads[id]? = some row) :
    id.text ∈ (s.changeTo (.stickyThreads category) wanted).added ↔
      row.category = category ∧ row.isSticky = false ∧ id.text ∈ wanted := by
  simp [changeTo, mem_inScope_of_found found, and_assoc]

/-- An id is known by its text. -/
theorem mem_map_text {entity : Entity} {id : Id entity} {ids : List (Id entity)} :
    id.text ∈ ids.map (·.text) ↔ id ∈ ids := by
  refine List.mem_map_of_injective fun id id' htext ↦ ?_
  rcases id with ⟨text⟩
  cases htext
  rfl

/-- Replacing the pinned threads of a category gives each thread what `Thread.repinned` says. -/
theorem getElem?_replaceSticky {category : CategoryId} {wanted : List String} {updatedAt : Int64}
    {change : SetChange}
    (replaced : s.replaceSet (.stickyThreads category) wanted updatedAt = .ok (change, s'))
    (id : ThreadId) :
    s'.threads[id]? = s.threads[id]?.map
      (·.repinned category (decide (id.text ∈ wanted)) updatedAt) := by
  obtain ⟨rfl, rfl⟩ := replaceSet_eq_ok replaced
  rw [setFlag, setFlag, Std.ExtTreeMap.getElem?_map, Std.ExtTreeMap.getElem?_map]
  rcases found : s.threads[id]? with - | row
  · rfl
  · -- A flag is cleared or set only where it differs from what is wanted.
    simp only [Option.map_some, List.contains_iff_mem, mem_added_stickyThreads found,
      mem_removed_stickyThreads found, Thread.repinned]
    by_cases hscope : row.category = category
    · cases hsticky : row.isSticky <;> by_cases hwanted : id.text ∈ wanted <;>
        simp [hscope, hwanted]
    · simp [hscope]

/-- Replacing the pinned threads of a category pins those of its threads that are wanted, and leaves
the threads of other categories as they are. -/
theorem exists_of_replaceSticky {category : CategoryId} {wanted : List String} {updatedAt : Int64}
    {change : SetChange}
    (replaced : s.replaceSet (.stickyThreads category) wanted updatedAt = .ok (change, s'))
    {id : ThreadId} {row' : Thread} (found' : s'.threads[id]? = some row') :
    ∃ row, s.threads[id]? = some row ∧ row'.category = row.category ∧
      row'.isSticky = if row.category = category then decide (id.text ∈ wanted)
        else row.isSticky := by
  rw [getElem?_replaceSticky replaced, Option.map_eq_some_iff] at found'
  obtain ⟨row, found, rfl⟩ := found'
  refine ⟨row, found, ?_⟩
  rw [Thread.repinned]
  split
  · next hchanged => exact ⟨rfl, (if_pos hchanged.1).symm⟩
  · next hkept =>
    refine ⟨rfl, ?_⟩
    split
    · next hscope => exact Decidable.of_not_not fun hne ↦ hkept ⟨hscope, hne⟩
    · rfl

end Store

/-! ### Pins in the log -/

/-- Whether a thread is pinned in a category after an event, by whether it was before in each. -/
def EventData.pinned (before : CategoryId → Bool) (thread : ThreadId) (category : CategoryId) :
    EventData → Bool
  | .threadCreated created _ _ => created ≠ thread && before category
  | .threadMoved moved oldCategory _ _ => before (if moved = thread then oldCategory else category)
  | .categoryStickyThreadUpdate changed threads _ =>
    if changed = category then decide (thread ∈ threads) else before category
  | _ => before category

/-- Whether a log, newest first, leaves a thread pinned in a category. -/
def pinned : List EventRecord → ThreadId → CategoryId → Bool
  | [], _, _ => false
  | record :: rest, thread, category => record.data.pinned (pinned rest thread) thread category

/-- Every thread has the flag that `flags` gives it in its category. -/
def Store.PinnedAs (s : Store) (flags : ThreadId → CategoryId → Bool) : Prop :=
  Forall (fun id row ↦ row.isSticky = flags id row.category) s.threads

variable {before flags : ThreadId → CategoryId → Bool}

/-- What writes no thread pins none. -/
theorem Store.PinnedAs.of_threads (h : s.PinnedAs flags) (heq : s'.threads = s.threads) :
    s'.PinnedAs flags := by
  rw [PinnedAs, heq]
  exact h

/-- Saving a thread has to get its own flag right and leave the others. -/
theorem Store.PinnedAs.saveThread {thread : Thread}
    (hsaved : thread.isSticky = flags thread.id thread.category)
    (hothers : ∀ (id : ThreadId) (row : Thread), id ≠ thread.id → s.threads[id]? = some row →
      row.isSticky = flags id row.category) : (s.saveThread thread).PinnedAs flags := by
  intro id row found
  rcases getElem?_upsert_eq_some rfl found with ⟨_, rfl, rfl⟩ | ⟨hid, found⟩
  · exact hsaved
  · exact hothers id row hid found

/-- A poll writes no thread. -/
theorem ForumEvent.PollStep.threads_eq {thread : ThreadId} {poll : Option PollInput}
    (polled : PollStep o s thread poll s') : s'.threads = s.threads := by
  cases polled with
  | none => rfl
  | some _ attached =>
    obtain rfl := insertPoll_eq_ok attached
    rfl

/-- A forum event changes flags as its record says. -/
theorem ForumEvent.Step.pinnedAs (hkeyed : s.Keyed) (h : s.PinnedAs before) {e : ForumEvent}
    (step : Step o s e d s') :
    s'.PinnedAs fun thread category ↦ d.pinned (before thread) thread category := by
  cases step with
  | @threadCreated category thread post author title text poll row t found polled =>
    refine PinnedAs.of_threads (PinnedAs.saveThread ?_ fun id other hid hother ↦ ?_)
      polled.threads_eq
    · simp [EventData.pinned]
    · simpa [EventData.pinned, Ne.symm hid] using h hother
  | @threadModerated thread rationale actor row worker status granted found =>
    refine PinnedAs.saveThread ?_ fun id other hid hother ↦ h hother
    have hrow := h found
    rwa [← hkeyed.threads found] at hrow
  | @threadTitleUpdated thread title row found =>
    refine PinnedAs.saveThread ?_ fun id other hid hother ↦ h hother
    have hrow := h found
    rwa [← hkeyed.threads found] at hrow
  | @threadDeleted thread hide row status found =>
    refine PinnedAs.saveThread ?_ fun id other hid hother ↦ h hother
    have hrow := h found
    rwa [← hkeyed.threads found] at hrow
  | @threadMoved thread newCategory actor row worker target found granted there =>
    have hid := hkeyed.threads found
    refine PinnedAs.saveThread ?_ fun id other hother found' ↦ ?_
    · -- The flag is the one the thread had in the category it comes from.
      simpa [EventData.pinned, hid] using h found
    · have hne : thread ≠ id := by
        rintro rfl
        exact hother hid.symm
      simpa [EventData.pinned, hne] using h found'
  | postDeleted allowed =>
    rw [foldl_savePost]
    exact h
  | @categoryStickyThreadUpdate category threads actor row worker change t found granted replaced =>
    intro id row' found'
    obtain ⟨old, hold, hcategory, hsticky⟩ := exists_of_replaceSticky replaced found'
    have hlisted : id.text ∈ threads.map (·.text) ↔ id ∈ threads := mem_map_text
    rw [hsticky, hcategory, hkeyed.categories found]
    simp only [EventData.pinned, hlisted, h hold, @eq_comm _ category]
  | @categoryMembershipOfModeratorUpdated _ _ canModerate =>
    cases canModerate <;> exact h
  | _ => exact h

/-- A step changes flags as its record says. -/
theorem Handles.pinnedAs (hkeyed : s.Keyed) (h : s.PinnedAs before) (handled : Handles o s d s') :
    s'.PinnedAs fun thread category ↦ d.pinned (before thread) thread category := by
  rcases handled with ⟨-, -, step⟩ | ⟨-, -, step⟩ | ⟨-, -, step⟩
  · exact step.pinnedAs hkeyed h
  · have hrows := h.of_threads step.writesContent.threads
    cases step <;> exact hrows
  · have hrows := h.of_threads step.writesContent.threads
    cases step
    exact hrows

/-- In a visited store every thread has the flag that the log gives it in its category. -/
theorem Store.Visited.pinnedAs (h : Visited admits s) : s.PinnedAs (pinned s.log) := by
  induction h with
  | seeded h =>
    rw [h.eq]
    exact forall_empty
  | event visited _ handled _ ih =>
    have hstep := handled.pinnedAs visited.keyed ih
    rw [← handled.past_eq.1] at hstep
    exact hstep
  | cursor _ _ ih => exact ih

/-! ### The last replacement for a category -/

/-- The threads that the last replacement for a category lists, if there was one. -/
def lastPins (category : CategoryId) : List EventRecord → Option (List ThreadId)
  | [] => none
  | record :: rest => match record.data with
    | .categoryStickyThreadUpdate changed threads _ =>
      if changed = category then some threads else lastPins category rest
    | _ => lastPins category rest

/-- Whether a thread was moved since the last replacement for a category, or ever if there was
none. -/
def movedSincePins (thread : ThreadId) (category : CategoryId) : List EventRecord → Bool
  | [] => false
  | record :: rest => match record.data with
    | .threadMoved moved _ _ _ => moved = thread || movedSincePins thread category rest
    | .categoryStickyThreadUpdate changed _ _ =>
      changed ≠ category && movedSincePins thread category rest
    | _ => movedSincePins thread category rest

/-- A thread that was not moved since the last replacement for a category and is pinned in it is
listed by that replacement. -/
theorem mem_lastPins_of_pinned {thread : ThreadId} {category : CategoryId} {log : List EventRecord}
    (hpinned : pinned log thread category = true)
    (hstayed : movedSincePins thread category log = false) :
    ∃ threads, lastPins category log = some threads ∧ thread ∈ threads := by
  induction log with
  | nil => cases hpinned
  | cons record rest ih =>
    rw [pinned] at hpinned
    rw [movedSincePins] at hstayed
    rw [lastPins]
    generalize record.data = d at hpinned hstayed
    cases d with
    | threadCreated created title text =>
      exact ih (Bool.and_eq_true_iff.1 hpinned).2 hstayed
    | threadMoved moved oldCategory newCategory actor =>
      -- Another thread was moved: the pins of this one are what they were.
      obtain ⟨hother, hstayed⟩ := Bool.or_eq_false_iff.1 hstayed
      have hne : moved ≠ thread := of_decide_eq_false hother
      rw [EventData.pinned, if_neg hne] at hpinned
      exact ih hpinned hstayed
    | categoryStickyThreadUpdate changed threads actor =>
      by_cases hchanged : changed = category
      · rw [EventData.pinned, if_pos hchanged] at hpinned
        exact ⟨threads, if_pos hchanged, of_decide_eq_true hpinned⟩
      · rw [EventData.pinned, if_neg hchanged] at hpinned
        simp only [hchanged, ne_eq, not_false_eq_true, decide_true, Bool.true_and] at hstayed
        simp only [hchanged, if_false]
        exact ih hpinned hstayed
    | _ => exact ih hpinned hstayed

namespace Store

/-- In a reachable store a thread is pinned exactly if the log says so of the category it is in; and
unless it was moved since the last replacement for that category, one that is pinned is listed
there. -/
theorem pinned_of_reachable (h : s.Reachable) {id : ThreadId} {row : Thread}
    (found : s.threads[id]? = some row) :
    row.isSticky = pinned s.log id row.category ∧
      (movedSincePins id row.category s.log = false → row.isSticky = true →
        ∃ threads, lastPins row.category s.log = some threads ∧ id ∈ threads) := by
  have hflag := h.visited.pinnedAs found
  refine ⟨hflag, fun hstayed hsticky ↦ ?_⟩
  rw [hflag] at hsticky
  exact mem_lastPins_of_pinned hsticky hstayed

/-- A thread is pinned in one category and then moved to another. -/
def movingBlock : Block where
  number := 0
  timestamp := 0
  events := [
    ⟨"forum.CategoryCreated", 0, none, [.string "1", .null, .string "0x", .string "0x"]⟩,
    ⟨"forum.CategoryCreated", 1, none, [.string "2", .null, .string "0x", .string "0x"]⟩,
    ⟨"forum.ThreadCreated", 2, none, [.string "1", .string "3", .string "4", .string "5",
      .string "0x", .string "0x", .null]⟩,
    ⟨"forum.CategoryStickyThreadUpdate", 3, none, [.string "1", .array [.string "3"],
      .string "Lead"]⟩,
    ⟨"forum.ThreadMoved", 4, none, [.string "3", .string "2", .string "Lead", .string "1"]⟩]

/-- The store after the thread was pinned and moved. -/
def movedStore : Store := afterBlock { workers := [forumLead] } movingBlock

/-- The thread is still pinned where nothing was ever pinned. -/
theorem pinned_of_reachable_movedStore :
    movedStore.Reachable ∧ ∃ row, movedStore.threads[(⟨"3"⟩ : ThreadId)]? = some row ∧
      row.category = ⟨"2"⟩ ∧ row.isSticky = true ∧ lastPins ⟨"2"⟩ movedStore.log = none ∧
      pinned movedStore.log ⟨"3"⟩ ⟨"2"⟩ = true := by
  have hseeded : Seeded { workers := [forumLead] } := .worker .fresh rfl
  have hreachable : movedStore.Reachable := .block (.seeded hseeded) _ fun _ _ ↦ trivial
  have hrow : (movedStore.threads[(⟨"3"⟩ : ThreadId)]?.map fun row ↦
      (row.category, row.isSticky)) = some (⟨"2"⟩, true) := by decide +kernel
  obtain ⟨row, found, hpair⟩ := Option.map_eq_some_iff.1 hrow
  obtain ⟨hcategory, hsticky⟩ := Prod.mk.inj hpair
  have hflag := (pinned_of_reachable hreachable found).1
  rw [hcategory, hsticky] at hflag
  exact ⟨hreachable, row, found, hcategory, hsticky, by decide +kernel, hflag.symm⟩

end Store

end ChainProjection
