import ChainProjection.Proofs.Frames
import ChainProjection.Proofs.Reachable
import Mathlib.Data.List.Nodup

/-!
# The log

A block that succeeds puts one record on top of the log for each of its events whose name is known,
in the order of the events, and leaves every record that was there (`log_of_yields_block`).  **No
two records ever have one id** (`Visited.nodup_ids`).

The second fact makes the projection of an event happen at most once.  The id of a record is made of
the block number and the place of the event in the block, so a block that brought a known event to a
place where one has been recorded before would need the id again, and it fails as a whole
(`fails_block_of_recorded`).  It does not matter whether it is the same event, or the same block:
the place alone decides.  Together they are `recordsOnce_of_reachable`, which says this of all
blocks that come later too, since records stay (`Visited.log_suffix`).

Later modules read states off the log.  `lastSince` is what most of them read: the last value since
some other kind of record, newest record first.
-/

namespace ChainProjection

variable {admits : Occurrence → Prop} {s t : Store} {b : Block}

/-- The record that an event of a block gets, whatever its particulars. -/
structure RecordOf (b : Block) (e : RuntimeEvent) (record : EventRecord) : Prop where
  id : record.id = Id.ofEvent b.number e.indexInBlock
  eventType : record.eventType = e.name
  inBlock : record.inBlock = b.number
  indexInBlock : record.indexInBlock = e.indexInBlock
  inExtrinsic : record.inExtrinsic = e.extrinsicHash
  createdAt : record.createdAt = b.timestamp

/-- The record an event gets says where and when it happened, whatever its particulars are. -/
theorem recordOf_record (b : Block) (e : RuntimeEvent) (d : EventData) :
    RecordOf b e ((Occurrence.ofEvent b.number b.timestamp e).record d) :=
  ⟨rfl, rfl, rfl, rfl, rfl, rfl⟩

/-- The ids of records are those that the places of their events give. -/
theorem map_id_of_recordOf {es : List RuntimeEvent} {records : List EventRecord}
    (h : List.Forall₂ (RecordOf b) es records) :
    records.map (·.id) = es.map fun e ↦ Id.ofEvent b.number e.indexInBlock := by
  induction h with
  | nil => rfl
  | cons hrecord _ ih => rw [List.map_cons, List.map_cons, hrecord.id, ih]

/-! ### Reading the log -/

@[simp]
theorem Occurrence.record_data (o : Occurrence) (d : EventData) : (o.record d).data = d := rfl

/-- What the last record with a value says, of those after the last record that starts anew; the
default, if no record since then has a value. -/
def lastSince {α : Type} (starts : EventRecord → Bool) (value? : EventRecord → Option α)
    (default : α) (log : List EventRecord) : α :=
  ((log.takeWhile fun record ↦ !starts record).findSome? value?).getD default

/-- A record on top is looked at first. -/
theorem lastSince_cons {α : Type} (starts : EventRecord → Bool)
    (value? : EventRecord → Option α) (default : α) (record : EventRecord)
    (log : List EventRecord) :
    lastSince starts value? default (record :: log) =
      if starts record then default
      else (value? record).getD (lastSince starts value? default log) := by
  rw [lastSince, List.takeWhile_cons]
  cases starts record with
  | true => rfl
  | false => cases hvalue : value? record <;> simp [hvalue, lastSince]

namespace Projection

/-- The events whose names the projection knows. -/
def knownEvents (es : List RuntimeEvent) : List RuntimeEvent :=
  es.filter fun e ↦ (handler? e.name).isSome

theorem knownEvents_cons_of_known {e : RuntimeEvent} {rest : List RuntimeEvent}
    (h : (handler? e.name).isSome) : knownEvents (e :: rest) = e :: knownEvents rest :=
  List.filter_cons_of_pos h

theorem knownEvents_cons_of_unknown {e : RuntimeEvent} {rest : List RuntimeEvent}
    (h : handler? e.name = none) : knownEvents (e :: rest) = knownEvents rest :=
  List.filter_cons_of_neg (by simp [h])

/-! ### Records of a block -/

/-- An event of a known name is recorded on top of the log; any other is not. -/
theorem log_of_yields_event {e : RuntimeEvent} {known : Bool}
    (h : (event (.ofEvent b.number b.timestamp e)).Yields s known t) :
    known = false ∧ handler? e.name = none ∧ t.log = s.log ∨
      known = true ∧ (handler? e.name).isSome ∧
        ∃ record, RecordOf b e record ∧ t.log = record :: s.log := by
  rcases yields_event.1 h with ⟨rfl, unknown, rfl⟩ | ⟨rfl, hknown, d, u, handled, -, rfl⟩
  · exact Or.inl ⟨rfl, unknown, rfl⟩
  · refine Or.inr ⟨rfl, hknown, _, recordOf_record b e d, ?_⟩
    rw [← handled.past_eq.1]
    rfl

/-- Events in order put their records on top of the log, the last one uppermost, and are counted. -/
theorem log_of_yields_events {es : List RuntimeEvent} {tally tally' : Tally}
    (h : (events b es tally).Yields s tally' t) :
    ∃ records, t.log = records.reverse ++ s.log ∧
      List.Forall₂ (RecordOf b) (knownEvents es) records ∧
      tally'.handled = tally.handled + records.length ∧
      tally'.handled + tally'.skipped = tally.handled + tally.skipped + es.length := by
  induction es generalizing s tally with
  | nil =>
    obtain ⟨rfl, rfl⟩ := yields_pure.1 h
    exact ⟨[], rfl, .nil, rfl, rfl⟩
  | cons e rest ih =>
    rw [events, yields_bind] at h
    obtain ⟨known, u, hevent, hrest⟩ := h
    -- The later events put their records above the one of this event.
    obtain ⟨records, hlog, hrecords, hhandled, hcounted⟩ := ih hrest
    rcases log_of_yields_event hevent with ⟨rfl, unknown, hsame⟩ |
      ⟨rfl, hknown, record, hrecord, hgrown⟩
    · refine ⟨records, ?_, ?_, hhandled, ?_⟩
      · rw [hlog, hsame]
      · rwa [knownEvents_cons_of_unknown unknown]
      · simp only [Tally.count, Bool.false_eq_true, if_false, List.length_cons] at hcounted ⊢
        omega
    · refine ⟨record :: records, ?_, ?_, ?_, ?_⟩
      · rw [hlog, hgrown, List.reverse_cons, List.append_assoc]
        rfl
      · rw [knownEvents_cons_of_known hknown]
        exact .cons hrecord hrecords
      · simp only [Tally.count, if_true, List.length_cons] at hhandled ⊢
        omega
      · simp only [Tally.count, if_true, List.length_cons] at hcounted ⊢
        omega

/-- **The records of a block**: one for each known event, in order, on top of the log. -/
theorem log_of_yields_block {tally : Tally} (h : (block b).Yields s tally t) :
    ∃ records, t.log = records.reverse ++ s.log ∧
      List.Forall₂ (RecordOf b) (knownEvents b.events) records ∧
      tally.handled = records.length ∧ tally.handled + tally.skipped = b.events.length := by
  obtain ⟨u, hevents, -, rfl⟩ := yields_block.1 h
  simpa using log_of_yields_events hevents

end Projection

open Projection

/-! ### Ids of records -/

namespace Store

/-- An id is new if no record has it. -/
theorem event?_eq_none {id : EventId} : s.event? id = none ↔ id ∉ s.log.map (·.id) := by
  rw [event?, List.find?_eq_none, List.mem_map]
  simp

/-- **No two records of a visited store have one id.** -/
theorem Visited.nodup_ids (h : Visited admits s) : (s.log.map (·.id)).Nodup := by
  induction h with
  | seeded h =>
    rw [h.eq]
    exact List.nodup_nil
  | event _ _ handled fresh ih =>
    rw [← handled.past_eq.1] at ih
    exact List.nodup_cons.2 ⟨event?_eq_none.1 fresh, ih⟩
  | cursor _ _ ih => exact ih

/-- Where ids are not repeated, every record is the record with its id. -/
theorem event?_of_mem (nodup : (s.log.map (·.id)).Nodup) {record : EventRecord}
    (hmem : record ∈ s.log) : s.event? record.id = some record := by
  rcases hfound : s.event? record.id with - | found
  · exact absurd (List.mem_map_of_mem hmem) (event?_eq_none.1 hfound)
  · have hid : found.id = record.id := by simpa using List.find?_some hfound
    rw [List.inj_on_of_nodup_map nodup (List.mem_of_find?_eq_some hfound) hmem hid]

/-- A record that is found is in the log. -/
theorem mem_of_event?_eq_some {id : EventId} {record : EventRecord}
    (h : s.event? id = some record) : record ∈ s.log ∧ record.id = id :=
  ⟨List.mem_of_find?_eq_some h, by simpa using List.find?_some h⟩

/-- **Records stay where they are** along a run. -/
theorem Visited.log_suffix (h : Visited (fun _ ↦ True) s) (blocks : List Block) :
    s.log <:+ (s.afterBlocks blocks).log := by
  refine rel_afterBlocks (R := fun s t ↦ s.log <:+ t.log) (fun s ↦ List.suffix_refl s.log)
    (fun h h' ↦ h.trans h') (fun {s t o d} _ _ handled _ ↦ ?_) (fun _ ↦ List.suffix_refl _) h
    fun _ _ _ _ ↦ trivial
  rw [← handled.past_eq.1]
  exact List.suffix_cons _ _

/-- A block with a known event at a place of the chain that has been recorded fails. -/
theorem fails_block_of_recorded (h : s.Reachable) {e : RuntimeEvent}
    (known : e ∈ knownEvents b.events)
    (recorded : Id.ofEvent b.number e.indexInBlock ∈ s.log.map (·.id)) :
    ∃ error, (block b).Fails s error s := by
  rcases yields_or_fails (block b) s with ⟨tally, t, yields⟩ | ⟨error, t, fails⟩
  · -- Otherwise the id would be both among the new records and among the old ones.
    have hreachable : t.Reachable := yields.2 ▸ .block h b fun _ _ ↦ trivial
    have hnodup := hreachable.visited.nodup_ids
    obtain ⟨records, hlog, hrecords, -⟩ := log_of_yields_block yields
    have hnew : Id.ofEvent b.number e.indexInBlock ∈ records.reverse.map (·.id) := by
      rw [List.map_reverse, List.mem_reverse, map_id_of_recordOf hrecords]
      exact List.mem_map_of_mem known
    rw [hlog, List.map_append] at hnodup
    exact absurd recorded (List.disjoint_of_nodup_append hnodup hnew)
  · obtain rfl := eq_of_fails_block fails
    exact ⟨error, fails⟩

/-- A block that succeeds leaves every record as it was and adds one for each event of a known name,
and it counts them; after it, and after any blocks that follow, no block of its number with a known
event at the place of one of its own succeeds, and none that fails changes the store. -/
theorem recordsOnce_of_reachable (h : s.Reachable) {tally : Tally}
    (yields : (block b).Yields s tally t) :
    (∀ id record, s.event? id = some record → t.event? id = some record) ∧
      (∃ records, t.log = records.reverse ++ s.log ∧
        List.Forall₂ (RecordOf b) (knownEvents b.events) records ∧
        (∀ record ∈ records, s.event? record.id = none ∧ t.event? record.id = some record) ∧
        tally.handled = records.length ∧ tally.handled + tally.skipped = b.events.length) ∧
      ∀ e ∈ knownEvents b.events, ∀ blocks b', b'.number = b.number →
        (∃ e' ∈ knownEvents b'.events, e'.indexInBlock = e.indexInBlock) →
        ∃ error, (block b').Fails (t.afterBlocks blocks) error (t.afterBlocks blocks) := by
  have hreachable : t.Reachable := yields.2 ▸ .block h b fun _ _ ↦ trivial
  have hnodup := hreachable.visited.nodup_ids
  obtain ⟨records, hlog, hrecords, hhandled, hcounted⟩ := log_of_yields_block yields
  have hkept {record : EventRecord} (hmem : record ∈ s.log) : record ∈ t.log := by
    rw [hlog]
    exact List.mem_append_right _ hmem
  have hadded {record : EventRecord} (hmem : record ∈ records) : record ∈ t.log := by
    rw [hlog]
    exact List.mem_append_left _ (List.mem_reverse.2 hmem)
  refine ⟨fun id record found ↦ ?_, ⟨records, hlog, hrecords, fun record hmem ↦ ⟨?_, ?_⟩, hhandled,
    hcounted⟩, ?_⟩
  · obtain ⟨hmem, rfl⟩ := mem_of_event?_eq_some found
    exact event?_of_mem hnodup (hkept hmem)
  · rw [hlog, List.map_append] at hnodup
    refine event?_eq_none.2 (List.disjoint_of_nodup_append hnodup ?_)
    exact List.mem_map_of_mem (List.mem_reverse.2 hmem)
  · exact event?_of_mem hnodup (hadded hmem)
  · rintro e known blocks b' hnumber ⟨e', known', hplace⟩
    have hlater : (t.afterBlocks blocks).Reachable :=
      hreachable.afterBlocks fun _ _ _ _ ↦ trivial
    refine fails_block_of_recorded hlater known' ?_
    rw [hnumber, hplace]
    -- The record of the block is still there, however many blocks came since.
    have hrecorded : Id.ofEvent b.number e.indexInBlock ∈ t.log.map (·.id) := by
      rw [hlog, List.map_append, List.map_reverse, map_id_of_recordOf hrecords]
      exact List.mem_append_left _ (List.mem_reverse.2 (List.mem_map_of_mem known))
    exact ((hreachable.visited.log_suffix blocks).map _).subset hrecorded

/-- A block with an event of an unknown name and one of a known name. -/
def mixedBlock : Block where
  number := 3
  timestamp := 7
  events := [
    ⟨"system.ExtrinsicSuccess", 0, none, []⟩,
    ⟨"forum.CategoryCreated", 1, some "0xab", [.string "1", .null, .string "0x", .string "0x"]⟩]

/-- One event is recorded and one is skipped, and the block cannot be projected again. -/
theorem recordsOnce_of_reachable_mixedBlock :
    (block mixedBlock).Yields {} ⟨1, 1⟩ (afterBlock {} mixedBlock) ∧
      (afterBlock {} mixedBlock).log = [⟨⟨"3-1"⟩, "forum.CategoryCreated", 3, 1, some "0xab", 7,
        .categoryCreated ⟨"1"⟩⟩] ∧
      ∃ error, (block mixedBlock).Fails (afterBlock {} mixedBlock) error
        (afterBlock {} mixedBlock) := by
  have hyields : (block mixedBlock).Yields {} ⟨1, 1⟩ (afterBlock {} mixedBlock) :=
    ⟨by decide +kernel, rfl⟩
  obtain ⟨-, -, hagain⟩ := recordsOnce_of_reachable (.seeded .fresh) hyields
  refine ⟨hyields, by decide +kernel, ?_⟩
  have hknown : ⟨"forum.CategoryCreated", 1, some "0xab",
      [.string "1", .null, .string "0x", .string "0x"]⟩ ∈ knownEvents mixedBlock.events :=
    List.mem_filter.2 ⟨List.mem_cons_of_mem _ List.mem_cons_self, by decide +kernel⟩
  exact hagain _ hknown [] mixedBlock rfl ⟨_, hknown, rfl⟩

end Store

end ChainProjection
