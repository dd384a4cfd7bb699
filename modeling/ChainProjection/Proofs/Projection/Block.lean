import ChainProjection.Projection.Block
import ChainProjection.Proofs.Content.Step
import ChainProjection.Proofs.Forum.Step

/-!
# Rules for events and blocks

An event of a name the projection knows is a step of its kind and then a record; a block is its
events in order and then the cursor, or nothing at all.  The main results are the equivalences for
the three levels.

* `yields_handler`: what is done for a known name is a step of a forum event, of a content event or
  of an acceptance, `Handles`.  Which of the three is decided by the name alone, since **no name is
  known as one of two kinds** (`ContentEvent.reader?_eq_none` and its likes), and this is checked
  over the lists of names, not taken for granted.
* `yields_event` and `fails_event`: an event of an unknown name changes nothing; any other takes its
  step and is recorded, and it fails in its step or, with the step taken, at its record.
* `yields_block` and `eq_of_fails_block`: a block is all or nothing.  A single event is not, which
  is why `fails_event` has to say what store it leaves.

Later modules use these and the steps (`Proofs.Forum.Step`, `Proofs.Content.Step`) and do not look
at a handler again.  The last section has the one error that is no inconsistency and no fault of the
block either: a row that cannot be read, `fails_event_unreadable`.
-/

namespace ChainProjection

variable {o : Occurrence} {s s' t : Store}

/-! ### The log -/

namespace Store

/-- The store with one more record. -/
def withRecord (s : Store) (record : EventRecord) : Store := { s with log := record :: s.log }

/-- A record can be added once; it is then the record with its id. -/
@[simp]
theorem insertEvent_eq_ok {record : EventRecord} :
    s.insertEvent record = .ok s' ↔ s.event? record.id = none ∧ s' = s.withRecord record := by
  rw [insertEvent]
  split
  · next h => simp [Option.isSome_iff_ne_none.1 h]
  · next h => simp [Option.not_isSome_iff_eq_none.1 h, withRecord, eq_comm]

/-- A record is refused exactly if there is one with its id. -/
theorem insertEvent_eq_error {record : EventRecord} {error : StoreError} :
    s.insertEvent record = .error error ↔
      error = .duplicateEvent ∧ s.event? record.id ≠ none := by
  rw [insertEvent]
  split
  · next h => simp [Option.isSome_iff_ne_none.1 h, eq_comm]
  · next h => simp [Option.not_isSome_iff_eq_none.1 h]

/-- The record that was added is the one found by its id. -/
@[simp]
theorem event?_withRecord_self (s : Store) (record : EventRecord) :
    (s.withRecord record).event? record.id = some record := by
  simp [event?, withRecord]

/-- A record is not found by another id than its own. -/
theorem event?_withRecord_of_ne {record : EventRecord} {id : EventId} (hne : record.id ≠ id) :
    (s.withRecord record).event? id = s.event? id := by
  rw [event?, withRecord, List.find?_cons_of_neg (by simpa using hne)]
  rfl

/-- A record with a new id hides none there was. -/
theorem event?_withRecord {record found : EventRecord} {id : EventId}
    (fresh : s.event? record.id = none) (h : s.event? id = some found) :
    (s.withRecord record).event? id = some found := by
  have hne : record.id ≠ id := by
    rintro rfl
    rw [fresh] at h
    cases h
  rw [event?_withRecord_of_ne hne]
  exact h

end Store

/-! ### Names -/

/-- No name is known both as that of a forum event and as that of a content event. -/
theorem ContentEvent.reader?_eq_none {name : String} {read : Reader ForumEvent}
    (h : ForumEvent.reader? name = some read) : ContentEvent.reader? name = none := by
  unfold ForumEvent.reader? at h
  split at h
  all_goals first
    | rfl
    | cases h

/-- No name is known both as that of a forum event and as that of the acceptance. -/
theorem ContentAcceptance.reader?_eq_none {name : String} {read : Reader ForumEvent}
    (h : ForumEvent.reader? name = some read) : ContentAcceptance.reader? name = none := by
  unfold ForumEvent.reader? at h
  split at h
  all_goals first
    | rfl
    | cases h

/-- No name is known both as that of a content event and as that of the acceptance. -/
theorem ContentAcceptance.reader?_eq_none_of_content {name : String} {read : Reader ContentEvent}
    (h : ContentEvent.reader? name = some read) : ContentAcceptance.reader? name = none := by
  unfold ContentEvent.reader? at h
  split at h
  all_goals first
    | rfl
    | cases h

/-- The name of a content event is not known as that of a forum event. -/
theorem ForumEvent.reader?_eq_none_of_content {name : String} {read : Reader ContentEvent}
    (h : ContentEvent.reader? name = some read) : ForumEvent.reader? name = none := by
  rw [Option.eq_none_iff_forall_ne_some]
  intro read' hforum
  simp [ContentEvent.reader?_eq_none hforum] at h

/-- The name of the acceptance is not known as that of a forum event. -/
theorem ForumEvent.reader?_eq_none_of_acceptance {name : String} {read : Reader ContentAcceptance}
    (h : ContentAcceptance.reader? name = some read) : ForumEvent.reader? name = none := by
  rw [Option.eq_none_iff_forall_ne_some]
  intro read' hforum
  simp [ContentAcceptance.reader?_eq_none hforum] at h

/-- What an occurrence of a known name can do before its record is written. -/
inductive Handles (o : Occurrence) (s : Store) (d : EventData) (s' : Store) : Prop
  | forum {read : Reader ForumEvent} {e : ForumEvent}
      (known : ForumEvent.reader? o.name = some read) (reads : read o = .ok e)
      (step : ForumEvent.Step o s e d s')
  | content {read : Reader ContentEvent} {e : ContentEvent}
      (known : ContentEvent.reader? o.name = some read) (reads : read o = .ok e)
      (step : ContentEvent.Step o s e d s')
  | acceptance {read : Reader ContentAcceptance} {acceptance : ContentAcceptance}
      (known : ContentAcceptance.reader? o.name = some read) (reads : read o = .ok acceptance)
      (step : ContentAcceptance.Step o s acceptance d s')

/-- The name of an occurrence that can do something is known. -/
theorem Handles.exists_handler? {d : EventData} (h : Handles o s d s') :
    ∃ handle, Projection.handler? o.name = some handle := by
  rw [← Option.isSome_iff_exists, Projection.handler?]
  rcases h with ⟨known, -, -⟩ | ⟨known, -, -⟩ | ⟨known, -, -⟩
  · rw [known]
    rfl
  · rw [known]
    cases ForumEvent.reader? o.name <;> rfl
  · rw [known]
    cases ForumEvent.reader? o.name <;> cases ContentEvent.reader? o.name <;> rfl

/-! ### What an occurrence reads as -/

namespace Occurrence

/-- The forum event that an occurrence reads as, if it does. -/
def forum? (o : Occurrence) : Option ForumEvent :=
  (ForumEvent.reader? o.name).bind fun read ↦ (read o).toOption

/-- The content event that an occurrence reads as, if it does. -/
def content? (o : Occurrence) : Option ContentEvent :=
  (ContentEvent.reader? o.name).bind fun read ↦ (read o).toOption

/-- The acceptance that an occurrence reads as, if it does. -/
def acceptance? (o : Occurrence) : Option ContentAcceptance :=
  (ContentAcceptance.reader? o.name).bind fun read ↦ (read o).toOption

/-- An occurrence of a known name reads as the event its reader gives. -/
theorem forum?_eq_some {e : ForumEvent} {read : Reader ForumEvent}
    (known : ForumEvent.reader? o.name = some read) (reads : read o = .ok e) :
    o.forum? = some e := by
  simp [forum?, known, reads, Except.toOption]

theorem content?_eq_some {e : ContentEvent} {read : Reader ContentEvent}
    (known : ContentEvent.reader? o.name = some read) (reads : read o = .ok e) :
    o.content? = some e := by
  simp [content?, known, reads, Except.toOption]

theorem acceptance?_eq_some {acceptance : ContentAcceptance} {read : Reader ContentAcceptance}
    (known : ContentAcceptance.reader? o.name = some read) (reads : read o = .ok acceptance) :
    o.acceptance? = some acceptance := by
  simp [acceptance?, known, reads, Except.toOption]

/-- To read as a forum event is to have the name of one and to be read by its reader. -/
theorem forum?_eq_some_iff {e : ForumEvent} :
    o.forum? = some e ↔ ∃ read, ForumEvent.reader? o.name = some read ∧ read o = .ok e := by
  rw [forum?, Option.bind_eq_some_iff]
  refine exists_congr fun read ↦ and_congr_right fun _ ↦ ?_
  cases read o <;> simp [Except.toOption]

/-- To read as a content event is to have the name of one and to be read by its reader. -/
theorem content?_eq_some_iff {e : ContentEvent} :
    o.content? = some e ↔ ∃ read, ContentEvent.reader? o.name = some read ∧ read o = .ok e := by
  rw [content?, Option.bind_eq_some_iff]
  refine exists_congr fun read ↦ and_congr_right fun _ ↦ ?_
  cases read o <;> simp [Except.toOption]

/-- What has the name of a content event reads as no forum event. -/
theorem forum?_eq_none_of_content {read : Reader ContentEvent}
    (known : ContentEvent.reader? o.name = some read) : o.forum? = none := by
  simp [forum?, ForumEvent.reader?_eq_none_of_content known]

theorem forum?_eq_none_of_acceptance {read : Reader ContentAcceptance}
    (known : ContentAcceptance.reader? o.name = some read) : o.forum? = none := by
  simp [forum?, ForumEvent.reader?_eq_none_of_acceptance known]

/-- What has no known name reads as nothing. -/
theorem forum?_eq_none_of_unknown (unknown : Projection.handler? o.name = none) :
    o.forum? = none := by
  rw [forum?, Option.bind_eq_none_iff]
  intro read known
  simp [Projection.handler?, known] at unknown

/-- What has the name of a forum event reads as no content event. -/
theorem content?_eq_none_of_forum {read : Reader ForumEvent}
    (known : ForumEvent.reader? o.name = some read) : o.content? = none := by
  simp [content?, ContentEvent.reader?_eq_none known]

theorem content?_eq_none_of_acceptance {read : Reader ContentAcceptance}
    (known : ContentAcceptance.reader? o.name = some read) : o.content? = none := by
  rw [content?, Option.bind_eq_none_iff]
  intro read' hcontent
  simp [ContentAcceptance.reader?_eq_none_of_content hcontent] at known

end Occurrence

namespace Projection

/-! ### Events -/

/-- A known name has a reader of one of the three kinds. -/
theorem handler?_eq_some {name : String} {handle : Occurrence → Projection EventData}
    (h : handler? name = some handle) :
    (∃ read, ForumEvent.reader? name = some read ∧
      handle = fun o ↦ ensure o (read o) >>= ForumEvent.project o) ∨
    (∃ read, ContentEvent.reader? name = some read ∧
      handle = fun o ↦ ensure o (read o) >>= ContentEvent.project o) ∨
    ∃ read, ContentAcceptance.reader? name = some read ∧
      handle = fun o ↦ ensure o (read o) >>= ContentAcceptance.project o := by
  rw [handler?] at h
  rcases hforum : ForumEvent.reader? name with - | read
  · rcases hcontent : ContentEvent.reader? name with - | read
    · rcases hacceptance : ContentAcceptance.reader? name with - | read
      · simp [hforum, hcontent, hacceptance] at h
      · simp only [hforum, hcontent, hacceptance, Option.some_inj] at h
        exact Or.inr (Or.inr ⟨read, rfl, h.symm⟩)
    · simp only [hforum, hcontent, Option.some_inj] at h
      exact Or.inr (Or.inl ⟨read, rfl, h.symm⟩)
  · simp only [hforum, Option.some_inj] at h
    exact Or.inl ⟨read, rfl, h.symm⟩

/-- What is done for a known name, by its kind. -/
theorem yields_handler {handle : Occurrence → Projection EventData} {d : EventData}
    (h : handler? o.name = some handle) : (handle o).Yields s d s' ↔ Handles o s d s' := by
  rcases handler?_eq_some h with ⟨read, hforum, rfl⟩ | ⟨read, hcontent, rfl⟩ |
    ⟨read, hacceptance, rfl⟩
  · simp only [yields_bind, yields_ensure, ForumEvent.yields_project]
    constructor
    · rintro ⟨e, _, ⟨reads, rfl⟩, step⟩
      exact .forum hforum reads step
    -- The name is that of a forum event and so of no other kind.
    · rintro (⟨known, reads, step⟩ | ⟨known, -, -⟩ | ⟨known, -, -⟩)
      · cases hforum.symm.trans known
        exact ⟨_, _, ⟨reads, rfl⟩, step⟩
      · simp [ContentEvent.reader?_eq_none hforum] at known
      · simp [ContentAcceptance.reader?_eq_none hforum] at known
  · simp only [yields_bind, yields_ensure, ContentEvent.yields_project]
    constructor
    · rintro ⟨e, _, ⟨reads, rfl⟩, step⟩
      exact .content hcontent reads step
    · rintro (⟨known, -, -⟩ | ⟨known, reads, step⟩ | ⟨known, -, -⟩)
      · simp [ContentEvent.reader?_eq_none known] at hcontent
      · cases hcontent.symm.trans known
        exact ⟨_, _, ⟨reads, rfl⟩, step⟩
      · simp [ContentAcceptance.reader?_eq_none_of_content hcontent] at known
  · simp only [yields_bind, yields_ensure, ContentAcceptance.yields_project]
    constructor
    · rintro ⟨e, _, ⟨reads, rfl⟩, step⟩
      exact .acceptance hacceptance reads step
    · rintro (⟨known, -, -⟩ | ⟨known, -, -⟩ | ⟨known, reads, step⟩)
      · simp [ContentAcceptance.reader?_eq_none known] at hacceptance
      · simp [ContentAcceptance.reader?_eq_none_of_content known] at hacceptance
      · cases hacceptance.symm.trans known
        exact ⟨_, _, ⟨reads, rfl⟩, step⟩

/-- A record is kept under its id if there is none yet. -/
@[simp]
theorem yields_keepRecord {d : EventData} {x : Unit} :
    (keepRecord o d).Yields s x s' ↔ s.event? o.id = none ∧ s' = s.withRecord (o.record d) := by
  simp only [keepRecord, yields_bind, yields_store, yields_ofStore, yields_write, and_assoc,
    exists_and_left, exists_eq_left, Store.insertEvent_eq_ok]
  exact Iff.rfl

/-- Only a record with the same id keeps one from being kept. -/
theorem fails_keepRecord {d : EventData} {error : ProjectionError} :
    (keepRecord o d).Fails s error s' ↔
      error = .store .duplicateEvent ∧ s.event? o.id ≠ none ∧ s' = s := by
  simp only [keepRecord, fails_bind, fails_store, yields_store, fails_ofStore, fails_write,
    and_false, exists_false, or_false, false_or, Store.insertEvent_eq_error]
  constructor
  · rintro ⟨_, _, ⟨rfl, rfl⟩, _, ⟨rfl, recorded⟩, rfl, rfl⟩
    exact ⟨rfl, recorded, rfl⟩
  · rintro ⟨rfl, recorded, rfl⟩
    exact ⟨_, _, ⟨rfl, rfl⟩, _, ⟨rfl, recorded⟩, rfl, rfl⟩

/-- **What an event does**: one of an unknown name changes nothing; any other takes its step and is
recorded. -/
theorem yields_event {known : Bool} :
    (event o).Yields s known s' ↔
      known = false ∧ handler? o.name = none ∧ s' = s ∨
        known = true ∧ (handler? o.name).isSome ∧ ∃ d t, Handles o s d t ∧
          t.event? o.id = none ∧ s' = t.withRecord (o.record d) := by
  rw [event]
  split
  · next h => simp [h]
  · next handle h =>
    simp only [yields_bind, yields_handler h, yields_keepRecord, yields_pure, h, reduceCtorEq,
      false_and, and_false, false_or, Option.isSome_some, true_and]
    constructor
    · rintro ⟨d, t, handled, _, _, ⟨fresh, rfl⟩, rfl, rfl⟩
      exact ⟨rfl, d, t, handled, fresh, rfl⟩
    · rintro ⟨rfl, d, t, handled, fresh, rfl⟩
      exact ⟨d, t, handled, (), _, ⟨fresh, rfl⟩, rfl, rfl⟩

/-- **How an event fails**: in what is done for its name, or with its step taken and its record
refused. -/
theorem fails_event {error : ProjectionError} :
    (event o).Fails s error s' ↔ ∃ handle, handler? o.name = some handle ∧
      ((handle o).Fails s error s' ∨ error = .store .duplicateEvent ∧
        s'.event? o.id ≠ none ∧ ∃ d, Handles o s d s') := by
  rw [event]
  split
  · next h => simp [h]
  · next handle h =>
    simp only [fails_bind, yields_handler h, fails_keepRecord, fails_pure, h, Option.some_inj,
      exists_eq_left', and_false, exists_false, or_false]
    refine or_congr_right ⟨?_, ?_⟩
    · rintro ⟨d, t, handled, rfl, recorded, rfl⟩
      exact ⟨rfl, recorded, d, handled⟩
    · rintro ⟨rfl, recorded, d, handled⟩
      exact ⟨d, s', handled, rfl, recorded, rfl⟩

/-! ### Blocks -/

/-- The cursor moves to a number that the storage can take. -/
theorem yields_advance {number : UInt64} {x : Unit} :
    (advance number).Yields s x s' ↔
      isSigned number.toNat = true ∧ s' = { s with cursor := some number } := by
  rcases h : isSigned number.toNat with _ | _ <;>
    simp [advance, Store.setCursor, h, and_assoc, eq_comm]

/-- The cursor cannot move to a number past the signed ones. -/
theorem fails_advance {number : UInt64} {error : ProjectionError} :
    (advance number).Fails s error s' ↔
      isSigned number.toNat = false ∧ error = .store .unwritable ∧ s' = s := by
  rcases h : isSigned number.toNat with _ | _ <;>
    simp [advance, Store.setCursor, h, and_comm]

/-- **A block is its events in order**, and then its number is the cursor. -/
theorem yields_block {b : Block} {tally : Tally} :
    (block b).Yields s tally s' ↔ ∃ t, (events b b.events {}).Yields s tally t ∧
      isSigned b.number.toNat = true ∧ s' = { t with cursor := some b.number } := by
  simp only [block, yields_atomically, yields_bind, yields_advance, yields_pure]
  constructor
  · rintro ⟨_, t, hevents, _, _, ⟨signed, rfl⟩, rfl, rfl⟩
    exact ⟨t, hevents, signed, rfl⟩
  · rintro ⟨t, hevents, signed, rfl⟩
    exact ⟨_, t, hevents, (), _, ⟨signed, rfl⟩, rfl, rfl⟩

/-- **A block that fails leaves the store as it was.** -/
theorem eq_of_fails_block {b : Block} {error : ProjectionError} (h : (block b).Fails s error s') :
    s' = s := by
  rw [block, fails_atomically] at h
  exact h.1

/-! ### Store errors -/

/-- The name of a content event is known. -/
theorem handler?_ne_none {name : String} {read : Reader ContentEvent}
    (h : ContentEvent.reader? name = some read) : handler? name ≠ none := by
  rw [handler?, h]
  rcases ForumEvent.reader? name with - | read
  · exact Option.some_ne_none _
  · exact Option.some_ne_none _

/-- The event needs a video whose row cannot be read. -/
def NeedsUnreadable (o : Occurrence) (s : Store) : Prop :=
  ∃ read e id row, ContentEvent.reader? o.name = some read ∧ read o = .ok e ∧
    e.video? = some id ∧ s.videos[id]? = some row ∧ ¬row.SizeFits

/-- What is done for a known name fails to read a row only if it needs an unreadable video. -/
theorem fails_handler_unreadable {handle : Occurrence → Projection EventData}
    (h : handler? o.name = some handle) :
    (handle o).Fails s (.store .unreadable) s' ↔ s' = s ∧ NeedsUnreadable o s := by
  rcases handler?_eq_some h with ⟨read, hforum, rfl⟩ | ⟨read, hcontent, rfl⟩ |
    ⟨read, hacceptance, rfl⟩
  · simp [NeedsUnreadable, ForumEvent.not_fails_project_unreadable,
      ContentEvent.reader?_eq_none hforum]
  · simp only [NeedsUnreadable, fails_bind, fails_ensure, yields_ensure,
      Occurrence.store_ne_inconsistent, ContentEvent.fails_project_store, hcontent, false_and,
      true_and, and_false, exists_false, exists_and_left, ↓existsAndEq, and_true, false_or,
      Option.some_inj, exists_eq_left']
    constructor
    · rintro ⟨e, reads, rfl, hneeds⟩
      exact ⟨rfl, e, reads, hneeds⟩
    · rintro ⟨rfl, e, reads, hneeds⟩
      exact ⟨e, reads, rfl, hneeds⟩
  · have hcontent : ContentEvent.reader? o.name = none := by
      rw [Option.eq_none_iff_forall_ne_some]
      intro read' hcontent
      simp [ContentAcceptance.reader?_eq_none_of_content hcontent] at hacceptance
    simp [NeedsUnreadable, ContentAcceptance.not_fails_project_store, hcontent]

/-- An event fails to read a row exactly if it needs an unreadable video. -/
theorem fails_event_unreadable :
    (event o).Fails s (.store .unreadable) s' ↔ s' = s ∧ NeedsUnreadable o s := by
  simp only [fails_event, ProjectionError.store.injEq, reduceCtorEq, false_and, or_false]
  constructor
  · rintro ⟨handle, known, fails⟩
    exact (fails_handler_unreadable known).1 fails
  · rintro ⟨rfl, needs⟩
    obtain ⟨read, e, id, row, hcontent, -⟩ := id needs
    obtain ⟨handle, known⟩ := Option.ne_none_iff_exists'.1 (handler?_ne_none hcontent)
    exact ⟨handle, known, (fails_handler_unreadable known).2 ⟨rfl, needs⟩⟩

end Projection

end ChainProjection
