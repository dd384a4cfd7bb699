import ChainProjection.CommandLine
import ChainProjection.Config.Basic
import ChainProjection.Sync

/-!
# The program

Reads the configuration and the feed, projects the feed into a fresh store and reports.  Every
decision is made by the library; here files are read and lines are written.
-/

namespace ChainProjection

/-- The bytes of a file; none if it cannot be read. -/
def readFile? (path : String) : IO (Option (List UInt8)) := do
  try
    return some (← IO.FS.readBinFile path).toList
  catch _ => return none

/-- The variables a text names that are set. -/
def readEnvironment (text : String) : IO Config.Environment := do
  let mut known : List (String × String) := []
  for name in Config.namedVariables text do
    if let some value ← IO.getEnv name then
      known := (name, value) :: known
  let values := known
  return fun name => values.lookup name

/-- The configuration in a file. -/
def readConfig (path : String) : IO (Except ConfigError Config) := do
  let bytes ← readFile? path
  let environment ← readEnvironment ((bytes.bind Utf8.decode?).getD "")
  return Config.ofFile environment path bytes

/-- The totals of a run. -/
def SyncReport.lines (report : SyncReport) : List String := [
  "Blocks: " ++ decimal report.blocks,
  "Events: " ++ decimal report.events,
  "Skipped blocks: " ++ decimal report.skippedBlocks]

/-- What a store holds. -/
def Store.Stats.lines (stats : Store.Stats) : List String := [
  "Last block: " ++ ((stats.lastBlockNumber.map fun n => decimal n.toNat).getD "none"),
  "Events: " ++ decimal stats.events,
  "Forum categories: " ++ decimal stats.categories,
  "Forum threads: " ++ decimal stats.threads,
  "Forum posts: " ++ decimal stats.posts,
  "Channels: " ++ decimal stats.channels,
  "Videos: " ++ decimal stats.videos]

/-- The words of a synchronisation error with those of its cause. -/
def SyncError.lines (error : SyncError) : List String :=
  error.message :: error.cause?.toList.map ProjectionError.message

/-- Writes lines. -/
def writeLines (write : String → IO Unit) (lines : List String) : IO Unit := do
  for line in lines do
    write line

/-- Does what the command line asks; the exit code. -/
def CommandLine.perform (command : CommandLine) : IO UInt32 := do
  match ← readConfig command.config with
  | .error error =>
    IO.eprintln error.message
    return 1
  | .ok config =>
    let path := command.events.getD config.source.eventsPath
    let bytes ← readFile? path
    let (result, journal) := Sync.runFile config.source.startBlock path bytes {}
    writeLines IO.eprintln (journal.omissions.reverse.map Omission.message)
    match result with
    | .error error =>
      writeLines IO.eprintln error.lines
      return 1
    | .ok report =>
      match command.action with
      | .run => writeLines IO.println report.lines
      | .status => writeLines IO.println journal.store.stats.lines
      return 0

end ChainProjection

/-- Runs the program with its arguments. -/
def main (arguments : List String) : IO UInt32 := do
  match ChainProjection.CommandLine.ofArguments arguments with
  | some command => command.perform
  | none =>
    IO.eprintln ChainProjection.CommandLine.usage
    return 2
