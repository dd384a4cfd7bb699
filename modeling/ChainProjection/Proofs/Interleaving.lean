import ChainProjection.Proofs.Log
import ChainProjection.Proofs.Sides

/-!
# Interleavings

**The order of the events of a block matters within a side of the store only.**  Two events next to
each other of which one is a forum event and the other is not can change places: neither looks at
what the other writes, and the members they make known get the number of the same block either way.
Events of unknown names can be put in or left out anywhere.

The obvious argument would be by permutations: two blocks that agree on each side differ by swaps of
neighbours of different sides.  Which swaps these are is a question one need not answer.  By such
changes **every block comes to its forum events followed by the rest of those it knows**
(`interchangeable_eventsOf`), so two blocks that agree on each side come to the same, and
`Interchangeable` is an equivalence.

What does depend on the order is the order of the log.  Records are found by their ids, and no two
have the same id, so which record came first can be seen from no look-up; stores that differ in this
alone are called alike.  This is why the swap is stated up to `Store.Alike`, and why it has to be
shown that an event does the same on stores that are alike (`Store.Alike.event`).

The main result is `alike_of_reachable`, and it rests on `Handles.exists_comm` for the swap, which
in turn is two uses of `Handles.exists_graft`.  That two blocks succeed together is part of the
result and not a hypothesis of it.
-/

namespace ChainProjection

open Projection

variable {s s' t u : Store} {o o' : Occurrence} {d : EventData}

/-! ### Stores that are alike -/

namespace Store

/-- The stores are the same but for the order of their logs. -/
structure Alike (s t : Store) : Prop where
  log : t.log.Perm s.log
  rest : t = { s with log := t.log }

namespace Alike

theorem refl (s : Store) : Alike s s := ⟨.refl _, rfl⟩

theorem trans (h : Alike s t) (h' : Alike t u) : Alike s u where
  log := h'.log.trans h.log
  rest := by rw [h'.rest, h.rest]

/-- Alike stores have records with the same ids. -/
theorem event?_eq_none (h : Alike s t) {id : EventId} :
    t.event? id = none ↔ s.event? id = none := by
  rw [Store.event?_eq_none, Store.event?_eq_none, (h.log.map _).mem_iff]

/-- In alike stores lookups of records agree, as long as no two records have one id. -/
theorem event?_eq (h : Alike s t) (hnodup : (s.log.map (·.id)).Nodup) (id : EventId) :
    t.event? id = s.event? id := by
  rcases hfound : s.event? id with - | record
  · exact h.event?_eq_none.2 hfound
  · obtain ⟨hmem, rfl⟩ := mem_of_event?_eq_some hfound
    exact event?_of_mem ((h.log.map _).nodup_iff.2 hnodup) (h.log.mem_iff.2 hmem)

end Alike

/-! ### Members -/

/-- Stores that are the same but for the members and have the same members are the same. -/
theorem eq_of_members (hrest : s = { t with members := s.members })
    (hmembers : s.members = t.members) : s = t := by
  rw [hmembers] at hrest
  exact hrest

/-- **Members are made known in any order**, as they get the number of one block. -/
theorem knowing_comm (s : Store) (block : UInt64) (member member' : Option MemberId) :
    (s.knowing block member).knowing block member' =
      (s.knowing block member').knowing block member := by
  rcases member with - | id
  · rfl
  · rcases member' with - | id'
    · rfl
    · have hsame : (s.members.insertIfNew id block).insertIfNew id' block =
          (s.members.insertIfNew id' block).insertIfNew id block := by
        refine Std.ExtTreeMap.ext_getElem? fun key ↦ ?_
        simp only [Std.ExtTreeMap.getElem?_insertIfNew, Std.ExtTreeMap.mem_insertIfNew,
          Std.compare_eq_iff_eq]
        by_cases hid : id = key <;> by_cases hid' : id' = key <;>
          by_cases hkey : key ∈ s.members <;> simp_all
      exact congrArg (fun members ↦ { s with members := members }) hsame

end Store

open Store

/-! ### Two events next to each other -/

/-- An event does the same on alike stores and leaves them alike. -/
theorem Store.Alike.event (h : s.Alike t) {known : Bool}
    (yields : (event o).Yields s known s') : ∃ t', (event o).Yields t known t' ∧ s'.Alike t' := by
  rcases yields_event.1 yields with ⟨rfl, hunknown, rfl⟩ |
    ⟨rfl, hknown, d, r, handled, fresh, rfl⟩
  · exact ⟨t, yields_event.2 (Or.inl ⟨rfl, hunknown, rfl⟩), h⟩
  · obtain ⟨side, member, -, hgraft⟩ := handled.exists_graft
    have hwritten := handled.eq_graft hgraft
    -- The other store has the same side, and what is left of it differs in the log only.
    have hside : t.graft side s = t := by
      rw [h.rest]
      cases side <;> rfl
    have hresult : (t.knowing o.block member).graft side r = { r with log := t.log } := by
      rw [hwritten, h.rest]
      cases side <;> cases member <;> rfl
    have handled' := hgraft t
    rw [hside, hresult] at handled'
    have halike : r.Alike { r with log := t.log } := by
      refine ⟨?_, rfl⟩
      rw [handled.past_eq.1]
      exact h.log
    exact ⟨_, yields_event.2 (Or.inr ⟨rfl, hknown, d, _, handled', halike.event?_eq_none.2 fresh,
      rfl⟩), ⟨halike.log.cons _, rfl⟩⟩

/-- Steps of different sides in one block can change places; what they leave differs in the log
only. -/
theorem Handles.exists_comm {d' : EventData} {r r' : Store} (handled : Handles o s d r)
    (handled' : Handles o' (r.withRecord (o.record d)) d' r')
    (hne : Side.ofName? o.name ≠ Side.ofName? o'.name) (hblock : o.block = o'.block) :
    ∃ q q', Handles o' s d' q ∧ Handles o (q.withRecord (o'.record d')) d q' ∧
      q' = { r' with log := q'.log } := by
  obtain ⟨side, member, hside, hgraft⟩ := handled.exists_graft
  obtain ⟨side', member', hside', hgraft'⟩ := handled'.exists_graft
  have hwritten := handled.eq_graft hgraft
  have hwritten' := handled'.eq_graft hgraft'
  have hsides : side ≠ side' := by
    rintro rfl
    exact hne (hside.trans hside'.symm)
  -- The second event finds its side as it was before the first one.
  have hbefore : s.graft side' (r.withRecord (o.record d)) = s := by
    rw [hwritten, graft_of_ne hsides, graft_self]
  have hearly := hgraft' s
  rw [hbefore, ← hblock] at hearly
  -- And the first one finds its own as it was before the second.
  obtain ⟨q, hq⟩ : ∃ q, q = (s.knowing o.block member').graft side' r' := ⟨_, rfl⟩
  rw [← hq] at hearly
  have hafter : (q.withRecord (o'.record d')).graft side s = q.withRecord (o'.record d') := by
    have hother := graft_of_ne (Ne.symm hsides) (q.withRecord (o'.record d')) s r' o.block member'
      (o'.record d')
    rw [← hother, ← hq, graft_self]
  have hlate := hgraft (q.withRecord (o'.record d'))
  rw [hafter] at hlate
  refine ⟨q, _, hearly, hlate, ?_⟩
  -- Each side was written by its own event, and both orders make the same members known.
  rw [← hblock] at hwritten'
  have hmembers := congrArg Store.members (knowing_comm s o.block member' member)
  refine eq_of_members ?_ ?_
  · rw [hq, hwritten', hwritten]
    cases side <;> cases side' <;> first
      | contradiction
      | (cases member <;> cases member' <;> rfl)
  · rw [hq, hwritten', hwritten]
    cases side <;> cases side' <;> first
      | contradiction
      | (cases member <;> cases member' <;> exact hmembers)

/-- Two events of different sides in one block can change places. -/
theorem exists_event_comm {known known' : Bool} (hknown : handler? o.name ≠ none)
    (hknown' : handler? o'.name ≠ none) (hne : Side.ofName? o.name ≠ Side.ofName? o'.name)
    (hblock : o.block = o'.block) (yields : (event o).Yields s known u)
    (yields' : (event o').Yields u known' t) :
    ∃ u' t', (event o').Yields s known' u' ∧ (event o).Yields u' known t' ∧ t.Alike t' := by
  obtain ⟨rfl, hsome, d, r, handled, fresh, rfl⟩ :=
    (yields_event.1 yields).resolve_left fun h ↦ hknown h.2.1
  obtain ⟨rfl, hsome', d', r', handled', fresh', rfl⟩ :=
    (yields_event.1 yields').resolve_left fun h ↦ hknown' h.2.1
  obtain ⟨q, q', hearly, hlate, hsame⟩ := handled.exists_comm handled' hne hblock
  have hlog : r'.log = o.record d :: s.log := handled'.past_eq.1.trans handled.log_withRecord
  have hlog' : q'.log = o'.record d' :: s.log := hlate.past_eq.1.trans hearly.log_withRecord
  -- Neither record is there before, and they have different ids.
  rw [event?_eq_none, handled.past_eq.1] at fresh
  rw [event?_eq_none, hlog, List.map_cons, List.mem_cons, not_or] at fresh'
  have hfresh' : q.event? o'.id = none := by
    rw [event?_eq_none, hearly.past_eq.1]
    exact fresh'.2
  have hfresh : q'.event? o.id = none := by
    rw [event?_eq_none, hlog', List.map_cons, List.mem_cons, not_or]
    exact ⟨Ne.symm fresh'.1, fresh⟩
  refine ⟨_, _, yields_event.2 (Or.inr ⟨rfl, hsome', d', q, hearly, hfresh', rfl⟩),
    yields_event.2 (Or.inr ⟨rfl, hsome, d, q', hlate, hfresh, rfl⟩), ?_, ?_⟩
  · show (o.record d :: q'.log).Perm (o'.record d' :: r'.log)
    rw [hlog, hlog']
    exact .swap ..
  · rw [hsame]
    rfl

/-! ### Lists of events -/

variable {number : UInt64} {timestamp : Int64} {es es' es'' : List RuntimeEvent}

/-- Projecting events in order, in a block of this number and time, leads from `s` to `t`. -/
def ProjectsTo (number : UInt64) (timestamp : Int64) :
    List RuntimeEvent → Store → Store → Prop
  | [], s, t => t = s
  | e :: rest, s, t => ∃ known u, (event (.ofEvent number timestamp e)).Yields s known u ∧
      ProjectsTo number timestamp rest u t

/-- Projecting the events of a block is projecting them in order, whatever was counted before. -/
theorem exists_yields_events {b : Block} (tally : Tally) :
    (∃ tally', (events b es tally).Yields s tally' t) ↔
      ProjectsTo b.number b.timestamp es s t := by
  induction es generalizing s tally with
  | nil => simp [events, ProjectsTo]
  | cons e rest ih =>
    simp only [events, yields_bind, ProjectsTo]
    constructor
    · rintro ⟨tally', known, u, hevent, hrest⟩
      exact ⟨known, u, hevent, (ih _).1 ⟨tally', hrest⟩⟩
    · rintro ⟨known, u, hevent, hrest⟩
      obtain ⟨tally', hyields⟩ := (ih _).2 hrest
      exact ⟨tally', known, u, hevent, hyields⟩

/-- The same events lead from alike stores to alike stores. -/
theorem ProjectsTo.alike (h : ProjectsTo number timestamp es s t) (hs : s.Alike s') :
    ∃ t', ProjectsTo number timestamp es s' t' ∧ t.Alike t' := by
  induction es generalizing s s' with
  | nil =>
    obtain rfl : t = s := h
    exact ⟨s', rfl, hs⟩
  | cons e rest ih =>
    obtain ⟨known, u, hevent, hrest⟩ := h
    obtain ⟨u', hevent', hu⟩ := hs.event hevent
    obtain ⟨t', hrest', ht⟩ := ih hrest hu
    exact ⟨t', ⟨known, u', hevent', hrest'⟩, ht⟩

/-- Wherever the one list of events leads, the other leads to an alike store. -/
def Matches (number : UInt64) (timestamp : Int64) (es es' : List RuntimeEvent) : Prop :=
  ∀ s t, ProjectsTo number timestamp es s t →
    ∃ t', ProjectsTo number timestamp es' s t' ∧ t.Alike t'

/-- Each list of events leads to stores alike to those the other leads to. -/
structure Interchangeable (number : UInt64) (timestamp : Int64) (es es' : List RuntimeEvent) :
    Prop where
  forth : Matches number timestamp es es'
  back : Matches number timestamp es' es

/-- Matches can be chained, since events do the same on stores that are alike. -/
theorem Matches.trans (h : Matches number timestamp es es')
    (h' : Matches number timestamp es' es'') : Matches number timestamp es es'' := by
  intro s t hes
  obtain ⟨t', hes', ht⟩ := h s t hes
  obtain ⟨t'', hes'', ht'⟩ := h' s t' hes'
  exact ⟨t'', hes'', ht.trans ht'⟩

/-- Events that match do so behind an event they share. -/
theorem Matches.cons (h : Matches number timestamp es es') (e : RuntimeEvent) :
    Matches number timestamp (e :: es) (e :: es') := by
  rintro s t ⟨known, u, hevent, hrest⟩
  obtain ⟨t', hrest', ht⟩ := h u t hrest
  exact ⟨t', ⟨known, u, hevent, hrest'⟩, ht⟩

/-- Two events of different sides match in the other order. -/
theorem Matches.swap {e e' : RuntimeEvent} (hknown : handler? e.name ≠ none)
    (hknown' : handler? e'.name ≠ none) (hne : Side.ofName? e.name ≠ Side.ofName? e'.name)
    (rest : List RuntimeEvent) :
    Matches number timestamp (e :: e' :: rest) (e' :: e :: rest) := by
  rintro s t ⟨known, u, hevent, known', v, hevent', hrest⟩
  have hsides : Side.ofName? (Occurrence.ofEvent number timestamp e).name ≠
      Side.ofName? (Occurrence.ofEvent number timestamp e').name := hne
  obtain ⟨u', v', hearly, hlate, hv⟩ :=
    exists_event_comm hknown hknown' hsides rfl hevent hevent'
  obtain ⟨t', hrest', ht⟩ := hrest.alike hv
  exact ⟨t', ⟨known', u', hearly, known, v', hlate, hrest'⟩, ht⟩

namespace Interchangeable

theorem refl (es : List RuntimeEvent) : Interchangeable number timestamp es es :=
  ⟨fun _ t hes ↦ ⟨t, hes, .refl t⟩, fun _ t hes ↦ ⟨t, hes, .refl t⟩⟩

theorem symm (h : Interchangeable number timestamp es es') :
    Interchangeable number timestamp es' es := ⟨h.back, h.forth⟩

theorem trans (h : Interchangeable number timestamp es es')
    (h' : Interchangeable number timestamp es' es'') : Interchangeable number timestamp es es'' :=
  ⟨h.forth.trans h'.forth, h'.back.trans h.back⟩

theorem cons (h : Interchangeable number timestamp es es') (e : RuntimeEvent) :
    Interchangeable number timestamp (e :: es) (e :: es') := ⟨h.forth.cons e, h.back.cons e⟩

/-- Two events of different sides can change places. -/
theorem swap {e e' : RuntimeEvent} {side side' : Side} (hside : Side.ofName? e.name = some side)
    (hside' : Side.ofName? e'.name = some side') (hne : side ≠ side') (rest : List RuntimeEvent) :
    Interchangeable number timestamp (e :: e' :: rest) (e' :: e :: rest) := by
  have hknown : handler? e.name ≠ none := by simp [← Side.ofName?_eq_none, hside]
  have hknown' : handler? e'.name ≠ none := by simp [← Side.ofName?_eq_none, hside']
  have hnames : Side.ofName? e.name ≠ Side.ofName? e'.name := by simpa [hside, hside'] using hne
  exact ⟨.swap hknown hknown' hnames rest, .swap hknown' hknown hnames.symm rest⟩

/-- An event of an unknown name can be put in or left out. -/
theorem skip {e : RuntimeEvent} (hunknown : handler? e.name = none) (es : List RuntimeEvent) :
    Interchangeable number timestamp (e :: es) es := by
  constructor
  · rintro s t ⟨known, u, hevent, hrest⟩
    rcases yields_event.1 hevent with ⟨-, -, rfl⟩ | ⟨-, hknown, -⟩
    · exact ⟨t, hrest, .refl t⟩
    · have hnone : handler? (Occurrence.ofEvent number timestamp e).name = none := hunknown
      rw [hnone] at hknown
      cases hknown
  · intro s t hes
    exact ⟨t, ⟨false, s, yields_event.2 (Or.inl ⟨rfl, hunknown, rfl⟩), hes⟩, .refl t⟩

/-- An event can pass all events of the other side that follow it. -/
theorem pass {e : RuntimeEvent} {side side' : Side} (hside : Side.ofName? e.name = some side)
    (hne : side ≠ side') (rest : List RuntimeEvent)
    (hothers : ∀ e' ∈ es, Side.ofName? e'.name = some side') :
    Interchangeable number timestamp (e :: (es ++ rest)) (es ++ e :: rest) := by
  induction es with
  | nil => exact refl _
  | cons e' others ih =>
    rw [List.forall_mem_cons] at hothers
    exact (swap hside hothers.1 hne _).trans ((ih hothers.2).cons e')

end Interchangeable

/-- The events of one side, in their order. -/
def eventsOf (side : Side) (es : List RuntimeEvent) : List RuntimeEvent :=
  es.filter fun e ↦ Side.ofName? e.name = some side

/-- Events can be brought into the order in which those of the forum come first and those of unknown
names not at all. -/
theorem interchangeable_eventsOf (es : List RuntimeEvent) :
    Interchangeable number timestamp es (eventsOf .forum es ++ eventsOf .content es) := by
  induction es with
  | nil => exact .refl _
  | cons e rest ih =>
    rcases hside : Side.ofName? e.name with - | (- | -)
    · have hskipped (side : Side) : eventsOf side (e :: rest) = eventsOf side rest :=
        List.filter_cons_of_neg (by simp [hside])
      rw [hskipped, hskipped]
      exact (Interchangeable.skip (Side.ofName?_eq_none.1 hside) rest).trans ih
    · have hforum : eventsOf .forum (e :: rest) = e :: eventsOf .forum rest :=
        List.filter_cons_of_pos (by simp [hside])
      have hcontent : eventsOf .content (e :: rest) = eventsOf .content rest :=
        List.filter_cons_of_neg (by simp [hside])
      rw [hforum, hcontent]
      exact ih.cons e
    · have hforum : eventsOf .forum (e :: rest) = eventsOf .forum rest :=
        List.filter_cons_of_neg (by simp [hside])
      have hcontent : eventsOf .content (e :: rest) = e :: eventsOf .content rest :=
        List.filter_cons_of_pos (by simp [hside])
      rw [hforum, hcontent]
      have hne : Side.content ≠ .forum := by decide
      -- An event of the content passes all those of the forum behind it.
      refine (ih.cons e).trans (Interchangeable.pass hside hne _ fun e' hmem ↦ ?_)
      exact of_decide_eq_true (List.mem_filter.1 hmem).2

/-! ### Blocks -/

/-- A block leads where its events do, if its number can be a cursor. -/
theorem exists_yields_block {b : Block} :
    (∃ tally, (block b).Yields s tally t) ↔ isSigned b.number.toNat = true ∧
      ∃ u, ProjectsTo b.number b.timestamp b.events s u ∧
        t = { u with cursor := some b.number } := by
  simp only [yields_block, ← exists_yields_events {}]
  constructor
  · rintro ⟨tally, u, hevents, hsigned, rfl⟩
    exact ⟨hsigned, u, ⟨tally, hevents⟩, rfl⟩
  · rintro ⟨hsigned, u, ⟨tally, hevents⟩, rfl⟩
    exact ⟨tally, u, hevents, hsigned, rfl⟩

/-- Where a block leads, one of its number and time with matching events leads as well. -/
theorem Matches.block {b b' : Block} (hnumber : b'.number = b.number)
    (htimestamp : b'.timestamp = b.timestamp)
    (h : Matches b.number b.timestamp b.events b'.events) {tally : Tally}
    (yields : (block b).Yields s tally t) :
    ∃ tally' t', (Projection.block b').Yields s tally' t' ∧ t.Alike t' := by
  obtain ⟨hsigned, u, hevents, rfl⟩ := exists_yields_block.1 ⟨tally, yields⟩
  obtain ⟨u', hevents', hu⟩ := h s u hevents
  rw [← hnumber, ← htimestamp] at hevents'
  rw [← hnumber] at hsigned
  obtain ⟨tally', yields'⟩ := exists_yields_block.2 ⟨hsigned, u', hevents', rfl⟩
  refine ⟨tally', _, yields', hu.log, ?_⟩
  rw [hnumber, hu.rest]

namespace Store

/-- Take two blocks of one number and time that have the same forum events in the same order and the
same content and storage events in the same order, each event with its place in the chain, however
the two sides are interleaved and whatever events of unknown names there are besides.  From a
reachable store the one succeeds exactly if the other does, and they leave the same: every table,
every row number, the cursor, and the same record for each id. -/
theorem alike_of_reachable (h : s.Reachable) {b b' : Block} (hnumber : b'.number = b.number)
    (htimestamp : b'.timestamp = b.timestamp)
    (hsame : ∀ side, eventsOf side b'.events = eventsOf side b.events) :
    ((∃ tally t, (block b).Yields s tally t) ↔ ∃ tally t, (block b').Yields s tally t) ∧
      ∀ tally t tally' t', (block b).Yields s tally t → (block b').Yields s tally' t' →
        t.Alike t' ∧ ∀ id, t'.event? id = t.event? id := by
  have hevents : Interchangeable b.number b.timestamp b.events b'.events := by
    refine (interchangeable_eventsOf b.events).trans ?_
    rw [← hsame, ← hsame]
    exact (interchangeable_eventsOf b'.events).symm
  constructor
  · constructor
    · rintro ⟨tally, t, yields⟩
      obtain ⟨tally', t', yields', -⟩ := hevents.forth.block hnumber htimestamp yields
      exact ⟨tally', t', yields'⟩
    · rintro ⟨tally', t', yields'⟩
      have hback := hevents.back
      rw [← hnumber, ← htimestamp] at hback
      obtain ⟨tally, t, yields, -⟩ := hback.block hnumber.symm htimestamp.symm yields'
      exact ⟨tally, t, yields⟩
  · intro tally t tally' t' yields yields'
    obtain ⟨tally'', t'', yields'', halike⟩ := hevents.forth.block hnumber htimestamp yields
    obtain rfl : t'' = t' := (yields''.unique yields').2
    have hreachable : t.Reachable := yields.2 ▸ .block h b fun _ _ ↦ trivial
    exact ⟨halike, halike.event?_eq hreachable.visited.nodup_ids⟩

/-- A category and a thread in it, a channel and its censorship. -/
def orderedBlock : Block where
  number := 0
  timestamp := 0
  events := [
    ⟨"forum.CategoryCreated", 0, none, [.string "1", .null, .string "0x", .string "0x"]⟩,
    ⟨"content.ChannelCreated", 1, none, [.string "Lead", .int 2,
      .object [("owner", .object [("Member", .int 3)])], .object [("meta", .string "0x")]]⟩,
    ⟨"forum.ThreadCreated", 2, none, [.string "1", .string "4", .string "5", .string "3",
      .string "0x", .string "0x", .null]⟩,
    ⟨"content.ChannelCensored", 3, none, [.string "Lead", .int 2, .string "0x"]⟩]

/-- The same events with those of the content first and one of an unknown name between. -/
def shuffledBlock : Block where
  number := 0
  timestamp := 0
  events := [
    ⟨"content.ChannelCreated", 1, none, [.string "Lead", .int 2,
      .object [("owner", .object [("Member", .int 3)])], .object [("meta", .string "0x")]]⟩,
    ⟨"content.ChannelCensored", 3, none, [.string "Lead", .int 2, .string "0x"]⟩,
    ⟨"system.ExtrinsicSuccess", 4, none, []⟩,
    ⟨"forum.CategoryCreated", 0, none, [.string "1", .null, .string "0x", .string "0x"]⟩,
    ⟨"forum.ThreadCreated", 2, none, [.string "1", .string "4", .string "5", .string "3",
      .string "0x", .string "0x", .null]⟩]

/-- Both blocks agree on each side, both succeed, and they leave the same but for the order of the
log. -/
theorem alike_of_reachable_shuffledBlock :
    (∀ side, eventsOf side shuffledBlock.events = eventsOf side orderedBlock.events) ∧
      (block orderedBlock).Yields {} ⟨4, 0⟩ (afterBlock {} orderedBlock) ∧
      (block shuffledBlock).Yields {} ⟨4, 1⟩ (afterBlock {} shuffledBlock) ∧
      (afterBlock {} orderedBlock).Alike (afterBlock {} shuffledBlock) ∧
      ∀ id, (afterBlock {} shuffledBlock).event? id = (afterBlock {} orderedBlock).event? id := by
  have hyields : (block orderedBlock).Yields {} ⟨4, 0⟩ (afterBlock {} orderedBlock) :=
    ⟨by decide +kernel, rfl⟩
  have hyields' : (block shuffledBlock).Yields {} ⟨4, 1⟩ (afterBlock {} shuffledBlock) :=
    ⟨by decide +kernel, rfl⟩
  have hsame (side : Side) :
      eventsOf side shuffledBlock.events = eventsOf side orderedBlock.events := by
    cases side <;> rfl
  have hnumber : shuffledBlock.number = orderedBlock.number := rfl
  have htimestamp : shuffledBlock.timestamp = orderedBlock.timestamp := rfl
  obtain ⟨-, hleft⟩ := alike_of_reachable (.seeded .fresh) hnumber htimestamp hsame
  exact ⟨hsame, hyields, hyields', hleft _ _ _ _ hyields hyields'⟩

end Store

end ChainProjection
