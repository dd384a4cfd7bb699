import ChainProjection.Proofs.Failures
import ChainProjection.Proofs.History
import ChainProjection.Proofs.Projection.Endings
import ChainProjection.Proofs.Readable
import ChainProjection.Proofs.Retention

/-!
# Votes

A vote names a thread and a place, and its record names the row of an alternative.  Rows are
numbered one after the other over all polls, and so the row of a place is known from where the
numbers of its poll begin (`pollAlternative?_eq`).  **Two votes have one row exactly if they are for
one thread and one place** (`Store.pollAlternative?_inj`): two polls never share a number, because a
poll begins past all the numbers there are, and within a poll the number tells the place.  The first
half is an invariant of runs (`Store.AlternativesApart`), and it needs another one beside it, that
the counter is above all numbers in use.

A poll comes from an event of the run and stays as it was attached.  So what a vote finds, and what
it found long ago, is said by the history alone: `Store.PollsOf` relates the polls of a store to the
events that brought them, in both directions.  One direction alone would not do.  That every poll
was brought gives the texts of what is found, and that every poll brought is still there gives that
something is found.

What a step does to polls is said once, by the poll its event brings (`Attaches`), and both
invariants follow from that.  A step attaches its poll before it is recorded, and so the part about
failures (`past_of_fails_handler`) has to show that no work fails after it attached one: a poll is
the last thing that a new thread is refused for.

The votes themselves are `Projection.yields_vote` and, for the votes of a history,
`VisitedWith.voted`.  `Store.votes_of_visitedWith` states them together with what is kept of polls
when an event or a whole block fails.
-/

namespace ChainProjection

open Projection Store Table

variable {s s' : Store} {o : Occurrence} {d : EventData} {history : List Occurrence}
  {thread : ThreadId} {index : UInt32} {first i place row : Nat} {texts : List String}

/-! ### Alternatives -/

/-- The alternative at a place of the list is the text at this place, with both numbers counted on.
-/
theorem getElem?_alternativesFrom (place row : Nat) (texts : List String) (i : Nat) :
    (alternativesFrom place row texts)[i]? =
      texts[i]?.map fun text ↦ ⟨row + i, place + i, text⟩ := by
  induction texts generalizing place row i with
  | nil => rfl
  | cons text rest ih =>
    cases i with
    | zero => rfl
    | succ i =>
      rw [alternativesFrom, List.getElem?_cons_succ, List.getElem?_cons_succ, ih,
        Nat.add_right_comm row, Nat.add_right_comm place]
      rfl

/-- The alternatives of a list are its texts, each with its place and its number. -/
theorem mem_alternativesFrom {a : PollAlternative} :
    a ∈ alternativesFrom place row texts ↔
      ∃ i text, texts[i]? = some text ∧ a = ⟨row + i, place + i, text⟩ := by
  simp only [List.mem_iff_getElem?, getElem?_alternativesFrom, Option.map_eq_some_iff]
  constructor
  · rintro ⟨i, text, htext, rfl⟩
    exact ⟨i, text, htext, rfl⟩
  · rintro ⟨i, text, htext, rfl⟩
    exact ⟨i, text, htext, rfl⟩

/-- The alternative with a place is the one at this place. -/
theorem find?_alternativesFrom (place row : Nat) (texts : List String) (i : Nat) :
    ((alternativesFrom place row texts).find? fun a ↦ a.index = place + i) =
      texts[i]?.map fun text ↦ ⟨row + i, place + i, text⟩ := by
  induction texts generalizing place row i with
  | nil => rfl
  | cons text rest ih =>
    cases i with
    | zero => simp [alternativesFrom]
    | succ i =>
      have hrest := ih (place + 1) (row + 1) i
      rw [Nat.add_right_comm place 1 i, Nat.add_right_comm row 1 i] at hrest
      rw [alternativesFrom, List.find?_cons_of_neg (by simp), List.getElem?_cons_succ]
      exact hrest

/-- What a vote finds in a poll that was made of a list of texts. -/
theorem pollAlternative?_eq {poll : Poll} (found : s.polls[thread]? = some poll)
    (made : poll.alternatives = alternativesFrom 0 first texts) (index : UInt32) :
    s.pollAlternative? thread index =
      texts[index.toNat]?.map fun text ↦ ⟨first + index.toNat, index.toNat, text⟩ := by
  have hfind := find?_alternativesFrom 0 first texts index.toNat
  rw [Nat.zero_add] at hfind
  rw [pollAlternative?, found, Option.bind_some, made, hfind]

/-! ### Numbers -/

/-- No two polls have an alternative with the same number. -/
def Store.AlternativesApart (s : Store) : Prop :=
  ∀ (thread thread' : ThreadId) (poll poll' : Poll), s.polls[thread]? = some poll →
    s.polls[thread']? = some poll' → ∀ a ∈ poll.alternatives, ∀ a' ∈ poll'.alternatives,
    a.id = a'.id → thread = thread'

/-- Polls stay apart in a step, as long as the counter is above all numbers in use. -/
theorem Attaches.alternativesApart {brought : Option (ThreadId × PollInput)}
    (h : Attaches s s' brought) (hcounted : s.RowsCounted) (hs : s.AlternativesApart) :
    s'.AlternativesApart := by
  cases h with
  | nothing polls =>
    rw [AlternativesApart, polls]
    exact hs
  | @poll thread input poll new row made polls =>
    -- The numbers of the new poll are past the old ones.
    have hnew (a : PollAlternative) (ha : a ∈ poll.alternatives) : s.alternativeRows < a.id := by
      rw [made] at ha
      obtain ⟨i, text, -, rfl⟩ := mem_alternativesFrom.1 ha
      exact Nat.lt_of_lt_of_le (Nat.lt_succ_self _) (Nat.le_add_right _ i)
    intro thread₁ thread₂ poll₁ poll₂ found₁ found₂ a ha a' ha' hid
    rw [polls, getElem?_insert] at found₁ found₂
    split at found₁ <;> split at found₂
    · next h₁ h₂ => exact h₁.symm.trans h₂
    · cases found₁
      have hle := hcounted.polls found₂ a' ha'
      have hlt := hnew a ha
      omega
    · cases found₂
      have hle := hcounted.polls found₁ a ha
      have hlt := hnew a' ha'
      omega
    · exact hs _ _ _ _ found₁ found₂ a ha a' ha' hid

/-- In a run the polls are apart in every store. -/
theorem Store.Visited.alternativesApart {admits : Occurrence → Prop} (h : Visited admits s) :
    s.AlternativesApart := by
  induction h with
  | seeded h =>
    rw [h.eq]
    intro thread thread' poll poll' found
    simp at found
  | event hvisited _ handled _ ih =>
    exact handled.attaches.alternativesApart hvisited.rowsCounted ih
  | cursor _ _ ih => exact ih

/-! ### Polls of a run -/

/-- The polls of a store are those that the events of a history brought, as they brought them. -/
structure Store.PollsOf (history : List Occurrence) (s : Store) : Prop where
  brought : Forall (fun thread poll ↦ ∃ o ∈ history, ∃ input first,
    o.poll? = some (thread, input) ∧
      poll.alternatives = alternativesFrom 0 first input.alternatives) s.polls
  kept : ∀ o ∈ history, ∀ thread input, o.poll? = some (thread, input) →
    ∃ poll first, s.polls[thread]? = some poll ∧
      poll.alternatives = alternativesFrom 0 first input.alternatives

/-- A step adds the poll it brings to those of the history. -/
theorem Attaches.pollsOf (h : Attaches s s' o.poll?) (hs : s.PollsOf history) :
    s'.PollsOf (history ++ [o]) := by
  have hbrought : Forall (fun thread poll ↦ ∃ o' ∈ history ++ [o], ∃ input first,
      o'.poll? = some (thread, input) ∧
        poll.alternatives = alternativesFrom 0 first input.alternatives) s.polls :=
    hs.brought.imp fun _ _ ⟨o', hmem, hpoll⟩ ↦ ⟨o', List.mem_append_left _ hmem, hpoll⟩
  generalize hbrings : o.poll? = brings at h
  cases h with
  | nothing polls =>
    refine ⟨polls ▸ hbrought, fun o' hmem thread input hpoll ↦ ?_⟩
    rcases List.mem_append.1 hmem with hmem | hmem
    · rw [polls]
      exact hs.kept o' hmem thread input hpoll
    · rw [List.mem_singleton.1 hmem, hbrings] at hpoll
      cases hpoll
  | @poll thread input poll new row made polls =>
    refine ⟨?_, fun o' hmem thread' input' hpoll ↦ ?_⟩
    · rw [polls]
      exact hbrought.insert ⟨o, by simp, input, _, hbrings, made⟩
    · rw [polls]
      simp only [getElem?_insert]
      rcases List.mem_append.1 hmem with hmem | hmem
      -- A poll of the history is one that the store has, and the new one is for another thread.
      · obtain ⟨poll', first, found, made'⟩ := hs.kept o' hmem thread' input' hpoll
        have hne : thread ≠ thread' := by
          rintro rfl
          exact new (mem_of_getElem?_eq_some found)
        exact ⟨poll', first, by rw [if_neg hne, found], made'⟩
      · rw [List.mem_singleton.1 hmem, hbrings] at hpoll
        cases hpoll
        exact ⟨poll, _, if_pos rfl, made⟩

theorem Occurrence.poll?_eq_none_of_unknown (unknown : handler? o.name = none) :
    o.poll? = none := by
  rw [poll?, forum?_eq_none_of_unknown unknown, Option.bind_none]

/-- In a run the polls are those of its history. -/
theorem Store.VisitedWith.pollsOf (h : VisitedWith history s) : s.PollsOf history := by
  induction h with
  | seeded h =>
    rw [h.eq]
    exact ⟨forall_empty, fun _ hmem ↦ absurd hmem List.not_mem_nil⟩
  | event _ handled _ ih =>
    have hpolls := handled.attaches.pollsOf ih
    exact ⟨hpolls.brought, hpolls.kept⟩
  | @unknown history s o _ unknown ih =>
    have hkept : Attaches s s o.poll? := by
      rw [Occurrence.poll?_eq_none_of_unknown unknown]
      exact .nothing rfl rfl rfl
    exact hkept.pollsOf ih
  | cursor _ _ ih => exact ⟨ih.brought, ih.kept⟩

/-- A vote finds an alternative exactly if an event of the history brought one. -/
theorem Store.PollsOf.exists_pollAlternative?_iff (h : s.PollsOf history) :
    (∃ a, s.pollAlternative? thread index = some a) ↔ ∃ o ∈ history, ∃ input,
      o.poll? = some (thread, input) ∧ index.toNat < input.alternatives.length := by
  constructor
  · rintro ⟨a, ha⟩
    obtain ⟨poll, found, -⟩ := Option.bind_eq_some_iff.1 ha
    obtain ⟨o, hmem, input, first, hpoll, made⟩ := h.brought found
    rw [pollAlternative?_eq found made, Option.map_eq_some_iff] at ha
    obtain ⟨text, htext, -⟩ := ha
    exact ⟨o, hmem, input, hpoll, (List.getElem?_eq_some_iff.1 htext).1⟩
  · rintro ⟨o, hmem, input, hpoll, hindex⟩
    obtain ⟨poll, first, found, made⟩ := h.kept o hmem thread input hpoll
    rw [pollAlternative?_eq found made, List.getElem?_eq_getElem hindex]
    exact ⟨_, rfl⟩

/-- An alternative that is found is the one that each event of the history with a poll for the
thread brought at the place. -/
theorem Store.PollsOf.mem_alternatives (h : s.PollsOf history) {a : PollAlternative}
    (ha : s.pollAlternative? thread index = some a) (hmem : o ∈ history) {input : PollInput}
    (hpoll : o.poll? = some (thread, input)) :
    ∃ poll, s.polls[thread]? = some poll ∧ a ∈ poll.alternatives ∧ a.index = index.toNat ∧
      input.alternatives[index.toNat]? = some a.text := by
  obtain ⟨poll, first, found, made⟩ := h.kept o hmem thread input hpoll
  rw [pollAlternative?_eq found made, Option.map_eq_some_iff] at ha
  obtain ⟨text, htext, rfl⟩ := ha
  refine ⟨poll, found, ?_, rfl, htext⟩
  rw [made, mem_alternativesFrom]
  exact ⟨index.toNat, text, htext, by rw [Nat.zero_add]⟩

/-- Votes for one alternative are votes for one thread and one place. -/
theorem Store.pollAlternative?_inj {thread' : ThreadId} {index' : UInt32} {a a' : PollAlternative}
    (hpolls : s.PollsOf history) (hapart : s.AlternativesApart)
    (ha : s.pollAlternative? thread index = some a)
    (ha' : s.pollAlternative? thread' index' = some a') :
    a.id = a'.id ↔ thread = thread' ∧ index = index' := by
  constructor
  · intro hid
    obtain ⟨poll, found, hfind⟩ := Option.bind_eq_some_iff.1 ha
    obtain ⟨poll', found', hfind'⟩ := Option.bind_eq_some_iff.1 ha'
    obtain rfl := hapart _ _ _ _ found found' a (List.mem_of_find?_eq_some hfind) a'
      (List.mem_of_find?_eq_some hfind') hid
    -- Within the poll the numbers count the places.
    obtain ⟨-, -, input, first, -, made⟩ := hpolls.brought found
    rw [pollAlternative?_eq found made, Option.map_eq_some_iff] at ha ha'
    obtain ⟨text, -, rfl⟩ := ha
    obtain ⟨text', -, rfl⟩ := ha'
    exact ⟨rfl, UInt32.toNat_inj.1 (Nat.add_left_cancel hid)⟩
  · rintro ⟨rfl, rfl⟩
    rw [ha, Option.some_inj] at ha'
    rw [ha']

/-! ### What stays -/

/-- Every poll of `s` is in `s'` as it was. -/
def Store.KeepsPolls (s s' : Store) : Prop :=
  ∀ (thread : ThreadId) (poll : Poll), s.polls[thread]? = some poll → s'.polls[thread]? = some poll

theorem Store.KeepsPolls.of_eq (h : s'.polls = s.polls) : s.KeepsPolls s' :=
  fun _ _ found ↦ h ▸ found

/-- A vote finds what it found before, if the polls are kept. -/
theorem Store.KeepsPolls.pollAlternative?_eq (h : s.KeepsPolls s') {a : PollAlternative}
    (ha : s.pollAlternative? thread index = some a) :
    s'.pollAlternative? thread index = some a := by
  obtain ⟨poll, found, hfind⟩ := Option.bind_eq_some_iff.1 ha
  rw [pollAlternative?, h thread poll found, Option.bind_some]
  exact hfind

namespace ForumEvent

/-- A new thread that fails has attached no poll and recorded nothing. -/
theorem past_of_fails_createThread {category : CategoryId} {post : PostId} {author : MemberId}
    {title text : String} {poll : Option PollInput} {error : ProjectionError}
    (h : (createThread o category thread post author title text poll).Fails s error s') :
    s'.polls = s.polls ∧ s'.log = s.log := by
  cases poll with
  | none =>
    simp only [createThread, checkPoll, attachPoll, pure_bind_eq, fails_bind, fails_category,
      yields_category, fails_member, yields_member, fails_write, yields_write, fails_pure,
      and_false, exists_false, or_self, or_false] at h
    rw [h.2.2]
    exact ⟨rfl, rfl⟩
  | some poll =>
    simp only [createThread, checkPoll, attachPoll, fails_bind, fails_category, yields_category,
      fails_member, yields_member, fails_pollEnd, Bool.not_eq_true, yields_pollEnd, fails_pure,
      and_false, exists_false, exists_const, or_false, yields_bind, yields_pure,
      exists_eq_right_right', ↓existsAndEq, true_and, fails_write, yields_write, or_self,
      exists_eq_left, false_or, and_true, fails_store, yields_store, fails_ofStore,
      yields_ofStore] at h
    -- It failed for its category, for the end of its poll or for the poll itself.
    rcases h with ⟨-, -, rfl⟩ | ⟨row, -, ⟨-, -, rfl⟩ | ⟨-, e, -, -, rfl⟩⟩ <;> exact ⟨rfl, rfl⟩

/-- A forum event that fails leaves the polls and the log as they are. -/
theorem past_of_fails_project {e : ForumEvent} {error : ProjectionError}
    (h : (project o e).Fails s error s') : s'.polls = s.polls ∧ s'.log = s.log := by
  cases e with
  | threadCreated => exact past_of_fails_createThread h
  | _ =>
    cases error with
    | inconsistent =>
      rw [checksFirst_project (by trivial) h trivial]
      exact ⟨rfl, rfl⟩
    | store error =>
      obtain ⟨-, thread, hpolled, -⟩ := fails_project_store h
      cases hpolled

end ForumEvent

/-- What is done with what is read leaves the polls and the log as they are if it fails, if it does
so whatever is read. -/
theorem Projection.past_of_fails_reading {E : Type} {result : Except Inconsistency E}
    {work : E → Projection EventData} {error : ProjectionError}
    (hwork : ∀ {e}, (work e).Fails s error s' → s'.polls = s.polls ∧ s'.log = s.log)
    (fails : (ensure o result >>= work).Fails s error s') :
    s'.polls = s.polls ∧ s'.log = s.log := by
  rcases fails_bind.1 fails with hreading | ⟨e, t, hreading, hfails⟩
  · rw [(Looks.ensure o result).eq_of_fails hreading]
    exact ⟨rfl, rfl⟩
  · obtain ⟨-, rfl⟩ := yields_ensure.1 hreading
    exact hwork hfails

/-- What is done for a known name leaves the polls and the log as they are if it fails. -/
theorem Projection.past_of_fails_handler {handle : Occurrence → Projection EventData}
    {error : ProjectionError} (h : handler? o.name = some handle)
    (fails : (handle o).Fails s error s') : s'.polls = s.polls ∧ s'.log = s.log := by
  rcases handler?_eq_some h with ⟨read, -, rfl⟩ | ⟨read, -, rfl⟩ | ⟨read, -, rfl⟩
  · exact past_of_fails_reading ForumEvent.past_of_fails_project fails
  · exact past_of_fails_reading (fun h ↦ eq_of_fails_content h ▸ ⟨rfl, rfl⟩) fails
  · exact past_of_fails_reading (fun h ↦ eq_of_fails_acceptance h ▸ ⟨rfl, rfl⟩) fails

/-- However an event ends, the polls there were stay as they were. -/
theorem Projection.keepsPolls_event (o : Occurrence) (s : Store) :
    s.KeepsPolls (event o s).store := by
  rcases yields_or_fails (event o) s with ⟨known, s', yields⟩ | ⟨error, s', fails⟩
  · rw [yields.2]
    rcases yields_event.1 yields with ⟨-, -, rfl⟩ | ⟨-, -, d, t, handled, -, rfl⟩
    · exact .of_eq rfl
    · exact handled.retains.polls
  · rw [fails.2]
    obtain ⟨handle, known, hhandle | ⟨-, -, d, handled⟩⟩ := fails_event.1 fails
    · exact .of_eq (past_of_fails_handler known hhandle).1
    · exact handled.retains.polls

/-- A block keeps the polls too, if it fails because it is taken back. -/
theorem Store.keepsPolls_afterBlock {admits : Occurrence → Prop} (h : Visited admits s)
    (b : Block) : s.KeepsPolls (s.afterBlock b) :=
  (rel_afterBlock (R := KeepsPolls) (fun _ _ _ found ↦ found)
    (fun h h' thread poll found ↦ h' thread poll (h thread poll found))
    (fun _ _ handled _ ↦ handled.retains.polls) (fun _ _ _ found ↦ found)
    (h.imp fun _ _ ↦ trivial) fun _ _ ↦ trivial).2

/-! ### Votes -/

/-- A vote succeeds exactly if it finds an alternative, and its record names the row of it. -/
theorem Projection.yields_vote {voter : MemberId}
    (reads : o.forum? = some (.voteOnPoll thread index voter)) :
    (event o).Yields s true s' ↔ s.event? o.id = none ∧ ∃ a,
      s.pollAlternative? thread index = some a ∧
        s' = (s.ensureMember voter o.block).withRecord (o.record (.voteOnPoll a.id voter)) := by
  rw [yields_event_of_forum reads]
  refine and_congr_right fun _ ↦ ?_
  constructor
  · rintro ⟨d, t, step, rfl⟩
    cases step with
    | voteOnPoll found => exact ⟨_, found, rfl⟩
  · rintro ⟨a, found, rfl⟩
    exact ⟨_, _, .voteOnPoll found, rfl⟩

/-- Every vote of the history finds its alternative still, and has its record. -/
theorem Store.VisitedWith.voted (h : VisitedWith history s) :
    ∀ o ∈ history, ∀ thread index voter, o.forum? = some (.voteOnPoll thread index voter) →
      ∃ a, s.pollAlternative? thread index = some a ∧
        s.event? o.id = some (o.record (.voteOnPoll a.id voter)) := by
  induction h with
  | seeded => exact fun _ hmem ↦ absurd hmem List.not_mem_nil
  | @event history s t o' d _ handled fresh ih =>
    intro o hmem thread index voter reads
    rcases List.mem_append.1 hmem with hmem | hmem
    · obtain ⟨a, found, recorded⟩ := ih o hmem thread index voter reads
      have hkept : s.KeepsPolls (t.withRecord (o'.record d)) := handled.retains.polls
      exact ⟨a, hkept.pollAlternative?_eq found, handled.event?_withRecord fresh recorded⟩
    · obtain rfl := List.mem_singleton.1 hmem
      cases handled.step_of_forum reads with
      | voteOnPoll found => exact ⟨_, found, event?_withRecord_self ..⟩
  | @unknown history s o' _ unknown ih =>
    intro o hmem thread index voter reads
    rcases List.mem_append.1 hmem with hmem | hmem
    · exact ih o hmem thread index voter reads
    · obtain rfl := List.mem_singleton.1 hmem
      rw [Occurrence.forum?_eq_none_of_unknown unknown] at reads
      cases reads
  | cursor _ _ ih => exact ih

/-- An event with a poll for a thread that has one fails. -/
theorem Projection.exists_fails_secondPoll {input : PollInput}
    (hpoll : o.poll? = some (thread, input)) (polled : thread ∈ s.polls) :
    ∃ error s', (event o).Fails s error s' := by
  rcases yields_or_fails (event o) s with ⟨known, s', yields⟩ | fails
  · exfalso
    rcases yields_event.1 yields with ⟨-, unknown, -⟩ | ⟨-, -, d, t, handled, -, -⟩
    · rw [Occurrence.poll?_eq_none_of_unknown unknown] at hpoll
      cases hpoll
    · have hattaches := handled.attaches
      rw [hpoll] at hattaches
      cases hattaches with
      | poll new => exact new polled
  · exact fails

namespace Store

/-- In a store that a run meets, a vote that is not recorded yet succeeds exactly if an event of the
run brought a poll for its thread with more alternatives than its place says, and then its record
names the row of the alternative at this place, with the text that was brought.  Two votes of the
run name one row exactly if they name one thread and one place.  No event and no block changes or
removes a poll, and a second poll for a thread is refused. -/
theorem votes_of_visitedWith (h : VisitedWith history s) :
    (∀ (o : Occurrence) (thread : ThreadId) (index : UInt32) (voter : MemberId),
      o.forum? = some (.voteOnPoll thread index voter) → s.event? o.id = none →
      ((∃ s', (event o).Yields s true s') ↔ ∃ o' ∈ history, ∃ input,
        o'.poll? = some (thread, input) ∧ index.toNat < input.alternatives.length) ∧
      ∀ s', (event o).Yields s true s' → ∀ o' ∈ history, ∀ input,
        o'.poll? = some (thread, input) → ∃ poll a, s.polls[thread]? = some poll ∧
          a ∈ poll.alternatives ∧ a.index = index.toNat ∧
          input.alternatives[index.toNat]? = some a.text ∧
          s'.event? o.id = some (o.record (.voteOnPoll a.id voter))) ∧
    (∀ o₁ ∈ history, ∀ o₂ ∈ history, ∀ thread₁ thread₂ index₁ index₂ voter₁ voter₂,
      o₁.forum? = some (.voteOnPoll thread₁ index₁ voter₁) →
      o₂.forum? = some (.voteOnPoll thread₂ index₂ voter₂) →
      ∃ row₁ row₂, s.event? o₁.id = some (o₁.record (.voteOnPoll row₁ voter₁)) ∧
        s.event? o₂.id = some (o₂.record (.voteOnPoll row₂ voter₂)) ∧
        (row₁ = row₂ ↔ thread₁ = thread₂ ∧ index₁ = index₂)) ∧
    (∀ (o : Occurrence) (thread : ThreadId) (poll : Poll), s.polls[thread]? = some poll →
      (event o s).store.polls[thread]? = some poll) ∧
    (∀ (b : Block) (thread : ThreadId) (poll : Poll), s.polls[thread]? = some poll →
      (s.afterBlock b).polls[thread]? = some poll) ∧
    ∀ (o : Occurrence) (thread : ThreadId) (input : PollInput), o.poll? = some (thread, input) →
      thread ∈ s.polls → ∃ error s', (event o).Fails s error s' := by
  refine ⟨fun o thread index voter reads fresh ↦ ⟨?_, fun s' yields o' hmem input hpoll ↦ ?_⟩,
    fun o₁ hmem₁ o₂ hmem₂ thread₁ thread₂ index₁ index₂ voter₁ voter₂ reads₁ reads₂ ↦ ?_,
    fun o ↦ keepsPolls_event o s, fun b ↦ keepsPolls_afterBlock h.visited b,
    fun o thread input ↦ exists_fails_secondPoll⟩
  · rw [← h.pollsOf.exists_pollAlternative?_iff]
    simp only [yields_vote reads, fresh, true_and]
    constructor
    · rintro ⟨s', a, found, -⟩
      exact ⟨a, found⟩
    · rintro ⟨a, found⟩
      exact ⟨_, a, found, rfl⟩
  · obtain ⟨-, a, found, rfl⟩ := (yields_vote reads).1 yields
    obtain ⟨poll, there, hin, hindex, htext⟩ := h.pollsOf.mem_alternatives found hmem hpoll
    exact ⟨poll, a, there, hin, hindex, htext, event?_withRecord_self ..⟩
  · obtain ⟨a₁, found₁, recorded₁⟩ := h.voted o₁ hmem₁ thread₁ index₁ voter₁ reads₁
    obtain ⟨a₂, found₂, recorded₂⟩ := h.voted o₂ hmem₂ thread₂ index₂ voter₂ reads₂
    have hsame := pollAlternative?_inj h.pollsOf h.visited.alternativesApart found₁ found₂
    exact ⟨a₁.id, a₂.id, recorded₁, recorded₂, Int.ofNat_inj.trans hsame⟩

/-- A thread with a poll, for the thread named. -/
def pollEvent (index : UInt32) (thread post : String) (texts : List String) : RuntimeEvent :=
  ⟨"forum.ThreadCreated", index, none, [.string "1", .string thread, .string post, .string "4",
    .string "0x", .string "0x", .object [("description", .string "0x"), ("end_time", .int 9),
      ("alternatives", .array (texts.map .string))]]⟩

/-- A vote in the thread named. -/
def voteEvent (index : UInt32) (thread : String) (place : Int) : RuntimeEvent :=
  ⟨"forum.VoteOnPoll", index, none, [.string thread, .int place, .string "4"]⟩

/-- Two polls that share a text, and a vote for it in each of them. -/
def votingBlock : Block where
  number := 0
  timestamp := 0
  events := [
    ⟨"forum.CategoryCreated", 0, none, [.string "1", .null, .string "0x", .string "0x"]⟩,
    pollEvent 1 "2" "3" ["0x61", "0x62"],
    pollEvent 2 "5" "6" ["0x62"],
    voteEvent 3 "2" 1,
    voteEvent 4 "5" 0]

/-- The store with the votes. -/
def votingStore : Store := afterBlock {} votingBlock

/-- The votes for the text are recorded apart.  A vote for the other text of the first poll is
recorded with it, the second poll has no second place to vote for, and neither thread gets another
poll. -/
theorem votes_of_visitedWith_votingStore :
    VisitedWith votingBlock.occurrences votingStore ∧
      (∃ row₁ row₂, votingStore.event? ⟨"0-3"⟩ = some ((Occurrence.ofEvent 0 0
          (voteEvent 3 "2" 1)).record (.voteOnPoll row₁ ⟨"4"⟩)) ∧
        votingStore.event? ⟨"0-4"⟩ = some ((Occurrence.ofEvent 0 0
          (voteEvent 4 "5" 0)).record (.voteOnPoll row₂ ⟨"4"⟩)) ∧ row₁ ≠ row₂) ∧
      (∃ s' a, (event (.ofEvent 1 5 (voteEvent 0 "2" 0))).Yields votingStore true s' ∧
        a.text = "a" ∧ s'.event? ⟨"1-0"⟩ = some ((Occurrence.ofEvent 1 5
          (voteEvent 0 "2" 0)).record (.voteOnPoll (PollAlternative.id a) ⟨"4"⟩))) ∧
      (¬∃ s', (event (.ofEvent 1 5 (voteEvent 0 "5" 1))).Yields votingStore true s') ∧
      ∃ error s', (event (.ofEvent 1 5 (pollEvent 0 "5" "7" []))).Fails votingStore error s' := by
  have hyields : (Projection.block votingBlock).Yields {} ⟨5, 0⟩ votingStore :=
    ⟨by decide +kernel, rfl⟩
  have hreachable : ReachableWith votingBlock.occurrences votingStore :=
    .block (.seeded .fresh) hyields
  obtain ⟨hvote, hapart, -, -, hsecond⟩ := votes_of_visitedWith hreachable.visitedWith
  have hmem (e : RuntimeEvent) (he : e ∈ votingBlock.events) :
      Occurrence.ofEvent 0 0 e ∈ votingBlock.occurrences := List.mem_map_of_mem he
  -- What the events bring.
  have hfirst : (Occurrence.ofEvent 0 0 (pollEvent 1 "2" "3" ["0x61", "0x62"])).poll? =
      some (⟨"2"⟩, ⟨"", 9, ["a", "b"]⟩) := by decide +kernel
  refine ⟨hreachable.visitedWith, ?_, ?_, ?_, ?_⟩
  · obtain ⟨row₁, row₂, recorded₁, recorded₂, hsame⟩ :=
      hapart _ (hmem (voteEvent 3 "2" 1) (by simp [votingBlock]))
        _ (hmem (voteEvent 4 "5" 0) (by simp [votingBlock]))
        ⟨"2"⟩ ⟨"5"⟩ 1 0 ⟨"4"⟩ ⟨"4"⟩ (by decide +kernel) (by decide +kernel)
    have hthreads : ¬((⟨"2"⟩ : ThreadId) = ⟨"5"⟩ ∧ (1 : UInt32) = 0) := by decide
    exact ⟨row₁, row₂, recorded₁, recorded₂, fun h ↦ hthreads (hsame.1 h)⟩
  · have hpoll := hmem (pollEvent 1 "2" "3" ["0x61", "0x62"]) (by simp [votingBlock])
    obtain ⟨hsucceeds, hrecord⟩ := hvote (.ofEvent 1 5 (voteEvent 0 "2" 0)) ⟨"2"⟩ 0 ⟨"4"⟩
      (by decide +kernel) (by decide +kernel)
    obtain ⟨s', yields⟩ := hsucceeds.2 ⟨_, hpoll, _, hfirst, by decide⟩
    obtain ⟨-, a, -, -, -, htext, recorded⟩ := hrecord s' yields _ hpoll _ hfirst
    exact ⟨s', a, yields, (Option.some_inj.1 htext).symm, recorded⟩
  · obtain ⟨hsucceeds, -⟩ := hvote (.ofEvent 1 5 (voteEvent 0 "5" 1)) ⟨"5"⟩ 1 ⟨"4"⟩
      (by decide +kernel) (by decide +kernel)
    have hpolls : ∀ o ∈ votingBlock.occurrences, o.poll?.all
        fun brought ↦ brought.1 = ⟨"5"⟩ → brought.2.alternatives.length ≤ 1 := by decide +kernel
    rw [hsucceeds]
    rintro ⟨o, hmem, input, hpoll, hlt⟩
    have hle := hpolls o hmem
    rw [hpoll, Option.all_some, decide_eq_true_eq] at hle
    exact Nat.not_lt.2 (hle rfl) hlt
  · exact hsecond (.ofEvent 1 5 (pollEvent 0 "5" "7" [])) ⟨"5"⟩ ⟨"", 9, []⟩
      (by decide +kernel) (by decide +kernel)

end Store

end ChainProjection
