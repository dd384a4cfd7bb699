/-!
# Command line

What the program is asked to do.  The program projects a feed into a fresh store and reports either
the totals of the run or what the store then holds.
-/

namespace ChainProjection

/-- What to report. -/
inductive Action where
  /-- The totals of the run. -/
  | run
  /-- What the store holds after it. -/
  | status
  deriving DecidableEq, Repr

/-- What the program is asked to do. -/
structure CommandLine where
  action : Action := .run
  /-- The path of the configuration. -/
  config : String := "projection.toml"
  /-- The path of the feed, if it is not that of the configuration. -/
  events : Option String := none
  deriving DecidableEq, Repr

namespace CommandLine

/-- Adds arguments to what was asked so far; `none` if one is not understood. -/
def readFrom (command : CommandLine) : List String → Option CommandLine
  | [] => some command
  | "run" :: rest => readFrom { command with action := .run } rest
  | "status" :: rest => readFrom { command with action := .status } rest
  | "-c" :: path :: rest => readFrom { command with config := path } rest
  | "--config" :: path :: rest => readFrom { command with config := path } rest
  | "--events" :: path :: rest => readFrom { command with events := some path } rest
  | _ => none

/-- What arguments ask for. -/
def ofArguments (arguments : List String) : Option CommandLine := readFrom {} arguments

/-- How the program is used. -/
def usage : String := "Usage: chain-projection [--config FILE] [run [--events FILE] | status]"

end CommandLine

end ChainProjection
