import ChainProjection.Proofs.Checks
import ChainProjection.Proofs.Frames

/-!
# Projections that end alike

Two projections agree if on every store they come to the same result and leave the same store, also
where they fail.  What they leave out is no part of that: it is noted for whoever reads the journal,
and no projection can look at it.  So equality would be too much to ask of two runs that differ only
in a payload that is left out, and **agreement is what a later part of a run can tell**; it is an
equivalence and a congruence for sequencing (`Agrees.bind`), hence two long handlers are compared
part by part.

Where nothing is noted projections can be equal.  `event_eq_of_forum` and `event_eq_of_content` are
such equations: an event is the work for what it reads as, and then its record.  From them come the
rules that later modules use for one event at a time:

* `yields_event_of_forum` and `yields_event_of_content`: an event succeeds in the steps of what it
  reads as, unless it is recorded already;
* `fails_event_of_forum`: where it is not recorded yet it is the work that fails;
* `store_event_of_content`: what every step keeps is kept however the event ends, since a content
  event that fails has written nothing (`eq_of_fails_content`).  For forum events this is not so: a
  member may have been made known before the failure.
-/

namespace ChainProjection

variable {α β : Type} {s s' : Store} {o : Occurrence} {error : ProjectionError}

/-- What an occurrence that reads as a forum event can do are the steps of this event. -/
theorem Handles.step_of_forum {e : ForumEvent} {d : EventData} (h : Handles o s d s')
    (reads : o.forum? = some e) : ForumEvent.Step o s e d s' := by
  rcases h with ⟨known, reads', step⟩ | ⟨known, -, -⟩ | ⟨known, -, -⟩
  · cases (Occurrence.forum?_eq_some known reads').symm.trans reads
    exact step
  · cases (Occurrence.forum?_eq_none_of_content known).symm.trans reads
  · cases (Occurrence.forum?_eq_none_of_acceptance known).symm.trans reads

namespace Projection

/-! ### Agreement -/

@[simp]
theorem pure_bind_eq (x : α) (next : α → Projection β) : pure x >>= next = next x := by
  funext s
  show Projection.bind (Projection.pure x) next s = next x s
  simp [Projection.bind, Projection.pure]

/-- On every store both projections come to one result and leave one store. -/
def Agrees (p q : Projection α) : Prop :=
  ∀ s, (p s).result = (q s).result ∧ (p s).store = (q s).store

namespace Agrees

variable {p q r : Projection α}

theorem refl (p : Projection α) : p.Agrees p :=
  fun _ ↦ ⟨rfl, rfl⟩

/-- Equal projections agree; the converse fails where something is noted. -/
theorem of_eq (h : p = q) : p.Agrees q :=
  h ▸ refl p

theorem symm (h : p.Agrees q) : q.Agrees p :=
  fun s ↦ ⟨(h s).1.symm, (h s).2.symm⟩

theorem trans (h : p.Agrees q) (h' : q.Agrees r) : p.Agrees r :=
  fun s ↦ ⟨(h s).1.trans (h' s).1, (h s).2.trans (h' s).2⟩

/-- **Agreement is kept by sequencing**: projections that agree can be gone on from in ways that
agree. -/
theorem bind {next next' : α → Projection β} (h : p.Agrees q)
    (hnext : ∀ x, (next x).Agrees (next' x)) : (p >>= next).Agrees (q >>= next') := by
  intro s
  obtain ⟨hresult, hstore⟩ := h s
  show (Projection.bind p next s).result = (Projection.bind q next' s).result ∧
    (Projection.bind p next s).store = (Projection.bind q next' s).store
  simp only [Projection.bind, hresult, hstore]
  rcases (q s).result with error | x
  · exact ⟨rfl, rfl⟩
  · exact hnext x (q s).store

theorem bind_left {next : α → Projection β} (h : p.Agrees q) :
    (p >>= next).Agrees (q >>= next) :=
  h.bind fun x ↦ refl (next x)

/-- The first part may stay as it is; the second is compared for each of its results. -/
theorem bind_right {next next' : α → Projection β} (h : ∀ x, (next x).Agrees (next' x)) :
    (p >>= next).Agrees (p >>= next') :=
  (refl p).bind h

end Agrees

/-- What is left out makes no difference. -/
theorem leaveOut_agrees (field : String) (reason : Reason) :
    (leaveOut o field reason).Agrees (pure ()) :=
  fun _ ↦ ⟨rfl, rfl⟩

/-! ### Events -/

/-- Work and then the record of what it comes to. -/
def recorded (o : Occurrence) (work : Projection EventData) : Projection Bool :=
  work >>= fun d ↦ keepRecord o d >>= fun _ ↦ pure true

/-- An event that reads as a forum event is the work for it and then its record. -/
theorem event_eq_of_forum {e : ForumEvent} (reads : o.forum? = some e) :
    event o = recorded o (ForumEvent.project o e) := by
  obtain ⟨read, known, hread⟩ := Occurrence.forum?_eq_some_iff.1 reads
  have hhandler : handler? o.name = some fun o ↦ ensure o (read o) >>= ForumEvent.project o := by
    rw [handler?, known]
  rw [event, hhandler]
  simp only [hread, ensure, pure_bind_eq]
  rfl

/-- An event that reads as a content event is the work for it and then its record. -/
theorem event_eq_of_content {e : ContentEvent} (reads : o.content? = some e) :
    event o = recorded o (ContentEvent.project o e) := by
  obtain ⟨read, known, hread⟩ := Occurrence.content?_eq_some_iff.1 reads
  have hhandler : handler? o.name = some fun o ↦ ensure o (read o) >>= ContentEvent.project o := by
    rw [handler?, known, ForumEvent.reader?_eq_none_of_content known]
  rw [event, hhandler]
  simp only [hread, ensure, pure_bind_eq]
  rfl

section Recorded

variable {work : Projection EventData}
  (hlog : ∀ d t, work.Yields s d t → t.event? o.id = s.event? o.id)
include hlog

/-- Work that leaves the log alone can be recorded once. -/
theorem yields_recorded : (recorded o work).Yields s true s' ↔ s.event? o.id = none ∧
    ∃ d t, work.Yields s d t ∧ s' = t.withRecord (o.record d) := by
  simp only [recorded, yields_bind, yields_keepRecord, yields_pure, true_and]
  constructor
  · rintro ⟨d, t, hwork, -, _, ⟨fresh, rfl⟩, rfl⟩
    exact ⟨hlog d t hwork ▸ fresh, d, t, hwork, rfl⟩
  · rintro ⟨fresh, d, t, hwork, rfl⟩
    exact ⟨d, t, hwork, (), _, ⟨(hlog d t hwork).trans fresh, rfl⟩, rfl⟩

/-- Where there is no record yet it is the work that fails. -/
theorem fails_recorded (fresh : s.event? o.id = none) :
    (recorded o work).Fails s error s' ↔ work.Fails s error s' := by
  rw [recorded, fails_bind, or_iff_left]
  rintro ⟨d, t, hwork, fails⟩
  have hkept : t.insertEvent (o.record d) = .ok (t.withRecord (o.record d)) :=
    Store.insertEvent_eq_ok.2 ⟨(hlog d t hwork).trans fresh, rfl⟩
  simp [keepRecord, hkept] at fails

end Recorded

/-- No step of a forum event touches the log. -/
theorem event?_eq_of_yields_forum {e : ForumEvent} {d : EventData} {t : Store} (id : EventId)
    (h : (ForumEvent.project o e).Yields s d t) : t.event? id = s.event? id := by
  rw [Store.event?, Store.event?, (ForumEvent.yields_project.1 h).writesForum.log]

/-- No step of a content event touches the log. -/
theorem event?_eq_of_yields_content {e : ContentEvent} {d : EventData} {t : Store} (id : EventId)
    (h : (ContentEvent.project o e).Yields s d t) : t.event? id = s.event? id := by
  rw [Store.event?, Store.event?, (ContentEvent.yields_project.1 h).writesContent.log]

/-- An event that reads as a forum event succeeds in the steps of this event, each with its record,
unless it is recorded already. -/
theorem yields_event_of_forum {e : ForumEvent} (reads : o.forum? = some e) :
    (event o).Yields s true s' ↔ s.event? o.id = none ∧
      ∃ d t, ForumEvent.Step o s e d t ∧ s' = t.withRecord (o.record d) := by
  rw [event_eq_of_forum reads, yields_recorded fun _ _ ↦ event?_eq_of_yields_forum o.id]
  simp only [ForumEvent.yields_project]

/-- An event that reads as a content event succeeds in the steps of this event, each with its
record, unless it is recorded already. -/
theorem yields_event_of_content {e : ContentEvent} (reads : o.content? = some e) :
    (event o).Yields s true s' ↔ s.event? o.id = none ∧
      ∃ d t, ContentEvent.Step o s e d t ∧ s' = t.withRecord (o.record d) := by
  rw [event_eq_of_content reads, yields_recorded fun _ _ ↦ event?_eq_of_yields_content o.id]
  simp only [ContentEvent.yields_project]

/-- A content event that fails has written nothing. -/
theorem eq_of_fails_content {e : ContentEvent}
    (fails : (ContentEvent.project o e).Fails s error s') : s' = s := by
  cases error with
  | inconsistent => exact ContentEvent.checksFirst_project o e fails trivial
  | store error => exact (ContentEvent.fails_project_store.1 fails).2.1

/-- An acceptance that fails has written nothing. -/
theorem eq_of_fails_acceptance {acceptance : ContentAcceptance}
    (fails : (ContentAcceptance.project o acceptance).Fails s error s') : s' = s := by
  cases error with
  | inconsistent => exact ContentAcceptance.checksFirst_project o acceptance fails trivial
  | store error => exact absurd fails ContentAcceptance.not_fails_project_store

/-- What a content event leaves, however it ends, has what the store had, if the steps of the event
and the record keep it. -/
theorem store_event_of_content (P : Store → Prop) {e : ContentEvent}
    (reads : o.content? = some e) (hs : P s) (hstep : ∀ d t, ContentEvent.Step o s e d t → P t)
    (hrecord : ∀ t record, P t → P (t.withRecord record)) : P (event o s).store := by
  rw [event_eq_of_content reads]
  rcases yields_or_fails (recorded o (ContentEvent.project o e)) s with
    ⟨known, u, yields⟩ | ⟨error, u, fails⟩
  · rw [yields.2]
    simp only [recorded, yields_bind, yields_keepRecord, yields_pure] at yields
    obtain ⟨d, t, hwork, -, _, ⟨-, rfl⟩, -, rfl⟩ := yields
    exact hrecord _ _ (hstep d t (ContentEvent.yields_project.1 hwork))
  · rw [fails.2]
    rcases fails_bind.1 fails with hwork | ⟨d, t, hwork, fails⟩
    · rw [eq_of_fails_content hwork]
      exact hs
    -- The log had a record already, and the work was done all the same.
    · rcases fails_bind.1 fails with hkept | ⟨_, _, -, hpure⟩
      · rw [(fails_keepRecord.1 hkept).2.2]
        exact hstep d t (ContentEvent.yields_project.1 hwork)
      · exact absurd hpure fails_pure

/-- An event that is not recorded yet fails as the work for it fails. -/
theorem fails_event_of_forum {e : ForumEvent} (reads : o.forum? = some e)
    (fresh : s.event? o.id = none) :
    (event o).Fails s error s' ↔ (ForumEvent.project o e).Fails s error s' := by
  rw [event_eq_of_forum reads, fails_recorded (fun _ _ ↦ event?_eq_of_yields_forum o.id) fresh]

end Projection

end ChainProjection
