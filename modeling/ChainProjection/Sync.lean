import ChainProjection.Feed
import ChainProjection.Projection.Block

/-!
# Synchronising with a feed

A run takes the blocks of a feed in the order of their lines and projects those that are due: not
before the start block and past the last block projected.  The first line that holds no block, or
block that fails, ends the run; what earlier blocks wrote stays, so that a later run over the same
feed goes on from there.
-/

namespace ChainProjection

/-- Why a run ends early. -/
inductive SyncError where
  /-- A line is no text. -/
  | unreadableLine (line : Nat)
  /-- A line is no block. -/
  | malformedBlock (line : Nat)
  /-- A block cannot be projected. -/
  | failedBlock (number : UInt64) (cause : ProjectionError)
  /-- The feed cannot be opened. -/
  | unopenedFeed (path : String)
  deriving DecidableEq, Repr

namespace SyncError

/-- The words of an error, without those of its cause. -/
def message : SyncError → String
  | .unreadableLine line => "Failed to read feed line " ++ decimal line
  | .malformedBlock line => "Malformed block at feed line " ++ decimal line
  | .failedBlock number _ => "Failed to project block " ++ decimal number.toNat
  | .unopenedFeed path => "Failed to open event feed: " ++ path

/-- What lies behind an error. -/
def cause? : SyncError → Option ProjectionError
  | .failedBlock _ cause => some cause
  | _ => none

end SyncError

/-- The totals of a run. -/
structure SyncReport where
  /-- Blocks that were projected. -/
  blocks : Nat := 0
  /-- Events the projection knew. -/
  events : Nat := 0
  /-- Blocks that were not due. -/
  skippedBlocks : Nat := 0
  deriving DecidableEq, Repr

namespace Sync

/-- Whether a block is due, given the start block and the last block projected. -/
def isDue (start : UInt64) (last : Option UInt64) (number : UInt64) : Bool :=
  !(number < start || last.any (number ≤ ·))

/-- The totals after one more projected block. -/
def addBlock (report : SyncReport) (tally : Projection.Tally) : SyncReport :=
  { report with blocks := report.blocks + 1, events := report.events + tally.handled }

/-- Goes through lines, the first of which has the number given. -/
def runFrom (start : UInt64) (line : Nat) (last : Option UInt64) (report : SyncReport) :
    List FeedLine → Journal → Except SyncError SyncReport × Journal
  | [], journal => (.ok report, journal)
  | .blank :: rest, journal => runFrom start (line + 1) last report rest journal
  | .unreadable :: _, journal => (.error (.unreadableLine line), journal)
  | .malformed :: _, journal => (.error (.malformedBlock line), journal)
  | .block block :: rest, journal =>
    if isDue start last block.number then
      match (Projection.block block).run journal with
      | (.ok tally, journal) =>
        runFrom start (line + 1) (some block.number) (addBlock report tally) rest journal
      | (.error cause, journal) => (.error (.failedBlock block.number cause), journal)
    else
      runFrom start (line + 1) last { report with skippedBlocks := report.skippedBlocks + 1 }
        rest journal

/-- Projects the blocks of a feed that are due. -/
def run (start : UInt64) (feed : List FeedLine) (journal : Journal) :
    Except SyncError SyncReport × Journal :=
  runFrom start 1 journal.store.cursor {} feed journal

/-- Projects the blocks of a feed file; `none` stands for a file that cannot be opened. -/
def runFile (start : UInt64) (path : String) (bytes : Option (List UInt8)) (journal : Journal) :
    Except SyncError SyncReport × Journal :=
  match bytes with
  | none => (.error (.unopenedFeed path), journal)
  | some bytes => run start (Feed.ofBytes bytes) journal

end Sync

end ChainProjection
