import ChainProjection.Proofs.Feed
import ChainProjection.Proofs.Projection.Block
import ChainProjection.Sync

/-!
# Resumption

A run can end anywhere: at the end of the lines there are so far, at a line that is no block, or at
a block that fails.  **A later run over the same lines and more goes on where it ended.**  It passes
over every block it or an earlier run has been at, since the cursor is at or past that block, and it
meets the line at which an earlier run stopped with the store that run had.

`Runs` says what a run does, as a relation over the lines, and knows only stores; `runs_runFrom`
ties it to the loop, which also carries a report, notes and its own copy of the cursor.  Resumption
is then an induction over the first run (`Runs.resume`): what it skipped is skipped again
(`Runs.not_due`), what it projected is skipped now, and where it stopped the second one stops or
goes on as the whole run does.  For lists of lines the result is `run_after_prefix`.

Files are another matter, since a file can be cut within a line.  What it has of the line then is
most often no block, so it ends the run or passes for a blank line, and writes nothing
(`Runs.of_append_singleton`).  **But it can be a block.**  A cut line that reads as a block may be
the whole line, with only its end missing, and then it is a line of the finished file; or the line
may go on with something that makes it malformed, and then the first run has projected what the
finished file does not have.  `runFile_after_growth` is about the first case and excludes the second
by its hypothesis `cut`, which every file that ends with a line meets
(`Feed.ofBytes_prefix_of_endsLine`).
-/

namespace ChainProjection

namespace Sync

open Projection

variable {start : UInt64} {line n m : Nat} {s t u : Store} {lines rest : List FeedLine}
  {error error' : Option SyncError}

/-- What a run over lines does, the first of which has the number `line`: from the store `s` it
projects `n` blocks and ends with the store `t`, because of an error or for want of lines. -/
inductive Runs (start : UInt64) :
    Nat → Store → List FeedLine → Option SyncError → Store → Nat → Prop
  | done {line : Nat} {s : Store} : Runs start line s [] none s 0
  | blank {line n : Nat} {s t : Store} {rest : List FeedLine} {error : Option SyncError}
      (h : Runs start (line + 1) s rest error t n) :
      Runs start line s (.blank :: rest) error t n
  | unreadable {line : Nat} {s : Store} {rest : List FeedLine} :
      Runs start line s (.unreadable :: rest) (some (.unreadableLine line)) s 0
  | malformed {line : Nat} {s : Store} {rest : List FeedLine} :
      Runs start line s (.malformed :: rest) (some (.malformedBlock line)) s 0
  | skipped {line n : Nat} {s t : Store} {b : Block} {rest : List FeedLine}
      {error : Option SyncError}
      (early : isDue start s.cursor b.number = false)
      (h : Runs start (line + 1) s rest error t n) :
      Runs start line s (.block b :: rest) error t n
  | projected {line n : Nat} {s t u : Store} {b : Block} {rest : List FeedLine}
      {error : Option SyncError} {tally : Tally}
      (due : isDue start s.cursor b.number = true) (yields : (block b).Yields s tally u)
      (h : Runs start (line + 1) u rest error t n) :
      Runs start line s (.block b :: rest) error t (n + 1)
  | failed {line : Nat} {s : Store} {b : Block} {rest : List FeedLine} {cause : ProjectionError}
      (due : isDue start s.cursor b.number = true) (fails : (block b).Fails s cause s) :
      Runs start line s (.block b :: rest) (some (.failedBlock b.number cause)) s 0

/-- The result of a run that had a report already and projected `n` blocks. -/
inductive Reports (report : SyncReport) (n : Nat) :
    Option SyncError → Except SyncError SyncReport → Prop
  | complete {report' : SyncReport} (blocks : report'.blocks = report.blocks + n) :
      Reports report n none (.ok report')
  | stopped {error : SyncError} : Reports report n (some error) (.error error)

/-- A report that starts from more blocks and adds fewer comes to the same. -/
theorem Reports.rebase {report report' : SyncReport} {result : Except SyncError SyncReport}
    (h : Reports report n error result) (heq : report.blocks + n = report'.blocks + m) :
    Reports report' m error result := by
  cases h with
  | complete blocks => exact .complete (blocks.trans heq)
  | stopped => exact .stopped

/-! ### Runs -/

/-- A block that is projected leaves the cursor at its number. -/
theorem cursor_of_yields_block {b : Block} {tally : Tally} (h : (block b).Yields s tally t) :
    t.cursor = some b.number := by
  obtain ⟨u, -, -, rfl⟩ := yields_block.1 h
  rfl

/-- A projection that yields, run on a journal, leaves the store it yields and some notes. -/
theorem run_eq_of_yields {α : Type} {p : Projection α} {x : α} {journal : Journal}
    (h : p.Yields journal.store x t) :
    ∃ omissions, p.run journal = (.ok x, ⟨t, omissions⟩) := by
  obtain ⟨hresult, rfl⟩ := h
  exact ⟨(p journal.store).omissions ++ journal.omissions, Prod.ext hresult rfl⟩

/-- A projection that fails, run on a journal, leaves the store it fails with and some notes. -/
theorem run_eq_of_fails {α : Type} {p : Projection α} {cause : ProjectionError}
    {journal : Journal} (h : p.Fails journal.store cause t) :
    ∃ omissions, p.run journal = (.error cause, ⟨t, omissions⟩) := by
  obtain ⟨hresult, rfl⟩ := h
  exact ⟨(p journal.store).omissions ++ journal.omissions, Prod.ext hresult rfl⟩

/-- The copy of the cursor that a run keeps is the cursor of its store, so `Runs` says what a run
does. -/
theorem runs_runFrom (report : SyncReport) (journal : Journal) :
    ∃ error n,
      Runs start line journal.store lines error
        (runFrom start line journal.store.cursor report lines journal).2.store n ∧
      Reports report n error
        (runFrom start line journal.store.cursor report lines journal).1 := by
  induction lines generalizing line report journal with
  | nil => exact ⟨none, 0, .done, .complete rfl⟩
  | cons first rest ih =>
    cases first with
    | blank =>
      obtain ⟨error, n, runs, reports⟩ := @ih (line + 1) report journal
      exact ⟨error, n, .blank runs, reports⟩
    | unreadable => exact ⟨some _, 0, .unreadable, .stopped⟩
    | malformed => exact ⟨some _, 0, .malformed, .stopped⟩
    | block b =>
      rw [runFrom]
      cases due : isDue start journal.store.cursor b.number with
      | false =>
        obtain ⟨error, n, runs, reports⟩ := @ih (line + 1)
          { report with skippedBlocks := report.skippedBlocks + 1 } journal
        exact ⟨error, n, .skipped due runs, reports.rebase rfl⟩
      | true =>
        rcases yields_or_fails (block b) journal.store with ⟨tally, u, yields⟩ | ⟨cause, u, fails⟩
        · obtain ⟨omissions, hrun⟩ := run_eq_of_yields yields
          obtain ⟨error, n, runs, reports⟩ := @ih (line + 1) (addBlock report tally)
            ⟨u, omissions⟩
          rw [if_pos rfl, hrun]
          -- The cursor of the store is now the number that the run goes on with.
          rw [cursor_of_yields_block yields] at runs reports
          refine ⟨error, n + 1, .projected due yields runs, reports.rebase ?_⟩
          show report.blocks + 1 + n = report.blocks + (n + 1)
          omega
        · obtain rfl := eq_of_fails_block fails
          obtain ⟨omissions, hrun⟩ := run_eq_of_fails fails
          rw [if_pos rfl, hrun]
          exact ⟨some _, 0, .failed due fails, .stopped⟩

/-- What a run does is determined by where it starts. -/
theorem Runs.unique {error' : Option SyncError} {t' : Store} {n' : Nat}
    (h : Runs start line s lines error t n) (h' : Runs start line s lines error' t' n') :
    error = error' ∧ t = t' ∧ n = n' := by
  induction h generalizing error' t' n' with
  | done =>
    cases h'
    exact ⟨rfl, rfl, rfl⟩
  | blank _ ih =>
    cases h' with
    | blank h' => exact ih h'
  | unreadable =>
    cases h'
    exact ⟨rfl, rfl, rfl⟩
  | malformed =>
    cases h'
    exact ⟨rfl, rfl, rfl⟩
  | skipped early _ ih =>
    cases h' with
    | skipped _ h' => exact ih h'
    | projected due => simp [early] at due
    | failed due => simp [early] at due
  | projected due yields _ ih =>
    cases h' with
    | skipped early => simp [early] at due
    | projected _ yields' h' =>
      obtain ⟨-, rfl⟩ := yields.unique yields'
      obtain ⟨rfl, rfl, rfl⟩ := ih h'
      exact ⟨rfl, rfl, rfl⟩
    | failed _ fails => exact absurd fails yields.not_fails
  | failed due fails =>
    cases h' with
    | skipped early => simp [early] at due
    | projected _ yields => exact absurd fails yields.not_fails
    | failed _ fails' =>
      obtain ⟨rfl, -⟩ := fails.unique fails'
      exact ⟨rfl, rfl, rfl⟩

/-! ### Blocks that are not due -/

/-- A block is due if it is not before the start, and past the cursor if there is one. -/
theorem isDue_eq_true {last : Option UInt64} {number : UInt64} :
    isDue start last number = true ↔ ¬number < start ∧ ∀ cursor ∈ last, ¬number ≤ cursor := by
  cases last <;> simp [isDue]

/-- A block is not due if it is before the start, or the cursor is at it or past it. -/
theorem isDue_eq_false {last : Option UInt64} {number : UInt64} :
    isDue start last number = false ↔ number < start ∨ ∃ cursor ∈ last, number ≤ cursor := by
  cases last <;> simp [isDue, imp_iff_not_or, UInt64.not_le]

/-- The cursor only moves past blocks that were due, so it never falls behind a block that was
not. -/
theorem isDue_some_eq_false {last : Option UInt64} {number moved : UInt64}
    (early : isDue start last number = false) (due : isDue start last moved = true) :
    isDue start (some moved) number = false := by
  rw [isDue_eq_false] at early ⊢
  rcases early with hstart | ⟨cursor, hcursor, hle⟩
  · exact Or.inl hstart
  · have hlt := (isDue_eq_true.1 due).2 cursor hcursor
    rw [UInt64.not_le] at hlt
    exact Or.inr ⟨moved, rfl, UInt64.le_trans hle (UInt64.le_of_lt hlt)⟩

/-- A block that a run has projected is not due at the cursor of that block. -/
theorem isDue_self_eq_false {number : UInt64} : isDue start (some number) number = false :=
  isDue_eq_false.2 (Or.inr ⟨number, rfl, UInt64.le_refl number⟩)

/-- A block that is not due at some point of a run is not due at its end. -/
theorem Runs.not_due (h : Runs start line s lines error t n) {number : UInt64}
    (early : isDue start s.cursor number = false) : isDue start t.cursor number = false := by
  induction h with
  | done => exact early
  | blank _ ih => exact ih early
  | unreadable => exact early
  | malformed => exact early
  | skipped _ _ ih => exact ih early
  | projected due yields _ ih =>
    refine ih ?_
    rw [cursor_of_yields_block yields]
    exact isDue_some_eq_false early due
  | failed => exact early

/-- A run over more lines from where an earlier run ended does the rest of what it would have done
from the start. -/
theorem Runs.resume (h : Runs start line s lines error t m)
    (whole : Runs start line s (lines ++ rest) error' u n) :
    ∃ k, n = m + k ∧ Runs start line t (lines ++ rest) error' u k := by
  induction h generalizing n with
  | done => exact ⟨n, (Nat.zero_add n).symm, whole⟩
  | blank _ ih =>
    cases whole with
    | blank whole =>
      obtain ⟨k, rfl, again⟩ := ih whole
      exact ⟨k, rfl, .blank again⟩
  | unreadable =>
    cases whole
    exact ⟨0, rfl, .unreadable⟩
  | malformed =>
    cases whole
    exact ⟨0, rfl, .malformed⟩
  | skipped early h ih =>
    cases whole with
    | skipped _ whole =>
      -- What was early then is early now, since the cursor has not fallen back.
      obtain ⟨k, rfl, again⟩ := ih whole
      exact ⟨k, rfl, .skipped (h.not_due early) again⟩
    | projected due => simp [early] at due
    | failed due => simp [early] at due
  | projected due yields h ih =>
    cases whole with
    | skipped early => simp [early] at due
    | projected _ yields' whole =>
      obtain ⟨-, rfl⟩ := yields.unique yields'
      obtain ⟨k, rfl, again⟩ := ih whole
      -- What was projected then is passed over now.
      refine ⟨k, by omega, .skipped (h.not_due ?_) again⟩
      rw [cursor_of_yields_block yields]
      exact isDue_self_eq_false
    | failed _ fails => exact absurd fails yields.not_fails
  | failed due fails =>
    -- The block fails again, with the store it failed with before.
    cases whole with
    | skipped early => simp [early] at due
    | projected _ yields => exact absurd fails yields.not_fails
    | failed _ fails' => exact ⟨0, rfl, .failed due fails'⟩

/-- A second run over the same lines projects nothing and ends as the first did. -/
theorem Runs.again (h : Runs start line s lines error t n) :
    Runs start line t lines error t 0 := by
  have whole : Runs start line s (lines ++ []) error t n := by rwa [List.append_nil]
  obtain ⟨k, hk, again⟩ := h.resume whole
  obtain rfl : k = 0 := by omega
  rwa [List.append_nil] at again

/-! ### Results -/

theorem Reports.exists_eq_ok {report : SyncReport} {result : Except SyncError SyncReport}
    (h : Reports report n none result) :
    ∃ report', result = .ok report' ∧ report'.blocks = report.blocks + n := by
  cases h with
  | complete blocks => exact ⟨_, rfl, blocks⟩

theorem Reports.eq_error {report : SyncReport} {result : Except SyncError SyncReport}
    {error : SyncError} (h : Reports report n (some error) result) : result = .error error := by
  cases h
  rfl

/-- Two runs that end for the same reason have the same result but for their totals. -/
theorem Reports.map_eq {report report' : SyncReport} {result result' : Except SyncError SyncReport}
    (h : Reports report n error result) (h' : Reports report' m error result') :
    result.map (fun _ ↦ ()) = result'.map (fun _ ↦ ()) := by
  cases h <;> cases h' <;> rfl

/-- A run over a feed starts at the first line, with the cursor of its store. -/
theorem runs_run (start : UInt64) (lines : List FeedLine) (journal : Journal) :
    ∃ error n, Runs start 1 journal.store lines error (run start lines journal).2.store n ∧
      Reports {} n error (run start lines journal).1 :=
  runs_runFrom {} journal

/-- A run over the first lines of a feed and then one over all of it leave the store that one run
over all of it leaves, and end as it ends.  A second run over the same feed changes nothing: after a
run that came to the end it projects no block, after one that stopped it stops at the same error. -/
theorem run_after_prefix (start : UInt64) (feed : List FeedLine) (journal : Journal) :
    (∀ first, first <+: feed →
      (run start feed (run start first journal).2).2.store = (run start feed journal).2.store ∧
        (run start feed (run start first journal).2).1.map (fun _ ↦ ()) =
          (run start feed journal).1.map (fun _ ↦ ())) ∧
      (run start feed (run start feed journal).2).2.store = (run start feed journal).2.store ∧
      (∀ report, (run start feed journal).1 = .ok report →
        ∃ report', (run start feed (run start feed journal).2).1 = .ok report' ∧
          report'.blocks = 0) ∧
      ∀ error, (run start feed journal).1 = .error error →
        (run start feed (run start feed journal).2).1 = .error error := by
  obtain ⟨error, n, whole, reports⟩ := runs_run start feed journal
  constructor
  · rintro first ⟨rest, rfl⟩
    obtain ⟨stop, m, hfirst, -⟩ := runs_run start first journal
    obtain ⟨error', k, later, reports'⟩ :=
      runs_run start (first ++ rest) (run start first journal).2
    obtain ⟨j, -, resumed⟩ := hfirst.resume whole
    obtain ⟨rfl, hstore, rfl⟩ := later.unique resumed
    exact ⟨hstore, reports'.map_eq reports⟩
  · obtain ⟨error', k, later, reports'⟩ := runs_run start feed (run start feed journal).2
    obtain ⟨rfl, hstore, rfl⟩ := later.unique whole.again
    refine ⟨hstore, fun report heq ↦ ?_, fun error heq ↦ ?_⟩
    · rw [heq] at reports
      cases reports
      exact reports'.exists_eq_ok
    · rw [heq] at reports
      cases reports
      exact reports'.eq_error

/-! ### Feed files -/

/-- A line behind the others that holds no block can end a run, but writes nothing. -/
theorem Runs.of_append_singleton {last : FeedLine} (hlast : ∀ b, last ≠ .block b)
    (h : Runs start line s (lines ++ [last]) error t n) :
    ∃ error', Runs start line s lines error' t n := by
  induction lines generalizing line s n with
  | nil =>
    cases h with
    | blank h =>
      cases h
      exact ⟨none, .done⟩
    | unreadable => exact ⟨none, .done⟩
    | malformed => exact ⟨none, .done⟩
    | skipped => exact absurd rfl (hlast _)
    | projected => exact absurd rfl (hlast _)
    | failed => exact absurd rfl (hlast _)
  | cons first lines ih =>
    cases h with
    | blank h =>
      obtain ⟨error', runs⟩ := ih h
      exact ⟨error', .blank runs⟩
    | unreadable => exact ⟨_, .unreadable⟩
    | malformed => exact ⟨_, .malformed⟩
    | skipped early h =>
      obtain ⟨error', runs⟩ := ih h
      exact ⟨error', .skipped early runs⟩
    | projected due yields h =>
      obtain ⟨error', runs⟩ := ih h
      exact ⟨error', .projected due yields runs⟩
    | failed due fails => exact ⟨_, .failed due fails⟩

/-- A run over a file that is still being written leaves a store that a run over first lines of the
finished file leaves.  The line the file ends within counts only if it reads as a block already,
and then it has to be a line of the finished file as well. -/
theorem exists_runs_of_prefix {head bytes : List UInt8} (grows : head <+: bytes)
    (cut : ∀ b, FeedLine.ofBytes (Feed.cutLine head) = .block b →
      Feed.ofBytes head <+: Feed.ofBytes bytes) (journal : Journal) :
    ∃ first, first <+: Feed.ofBytes bytes ∧ ∃ error n,
      Runs start 1 journal.store first error
        (run start (Feed.ofBytes head) journal).2.store n := by
  obtain ⟨error, n, runs, -⟩ := runs_run start (Feed.ofBytes head) journal
  -- What the file had of its last line matters only if it was a block.
  by_cases hblock : ∃ b, FeedLine.ofBytes (Feed.cutLine head) = .block b
  · obtain ⟨b, hb⟩ := hblock
    exact ⟨_, cut b hb, error, n, runs⟩
  · obtain ⟨first, hfirst, heq | heq⟩ := Feed.ofBytes_of_prefix grows
    · exact ⟨first, hfirst, error, n, heq ▸ runs⟩
    · have hruns : Runs start 1 journal.store (first ++ [FeedLine.ofBytes (Feed.cutLine head)])
          error (run start (Feed.ofBytes head) journal).2.store n := heq ▸ runs
      obtain ⟨error', runs'⟩ := hruns.of_append_singleton fun b hb ↦ hblock ⟨b, hb⟩
      exact ⟨first, hfirst, error', n, runs'⟩

/-- **Runs over a file that grows**: a run over what there is of the file, and then one over the
file when it is finished, leave the store that one run over the finished file leaves, and end as it
ends.  The file may have ended within a line, as long as what it had of that line was no block. -/
theorem runFile_after_growth {path : String} {head bytes : List UInt8} (grows : head <+: bytes)
    (cut : ∀ b, FeedLine.ofBytes (Feed.cutLine head) = .block b →
      Feed.ofBytes head <+: Feed.ofBytes bytes) (journal : Journal) :
    (runFile start path bytes (runFile start path head journal).2).2.store =
        (runFile start path bytes journal).2.store ∧
      (runFile start path bytes (runFile start path head journal).2).1.map (fun _ ↦ ()) =
        (runFile start path bytes journal).1.map (fun _ ↦ ()) := by
  simp only [runFile]
  obtain ⟨first, ⟨rest, hrest⟩, stop, m, hfirst⟩ := exists_runs_of_prefix grows cut journal
  obtain ⟨error, n, whole, reports⟩ := runs_run start (Feed.ofBytes bytes) journal
  obtain ⟨error', k, later, reports'⟩ :=
    runs_run start (Feed.ofBytes bytes) (run start (Feed.ofBytes head) journal).2
  rw [← hrest] at whole later
  obtain ⟨j, -, resumed⟩ := hfirst.resume whole
  obtain ⟨rfl, hstore, rfl⟩ := later.unique resumed
  rw [← hrest] at reports reports' ⊢
  exact ⟨hstore, reports'.map_eq reports⟩

end Sync

end ChainProjection
