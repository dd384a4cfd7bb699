import ChainProjection.Config.Expansion
import ChainProjection.Text.Utf8
import ChainProjection.Toml.Document

/-!
# Configuration

Where the database is and how it is reached, where the feed is and from which block on it counts,
and how the program logs.  A configuration comes from a text in which placeholders are expanded
first; settings that are not written have their usual values, and settings nobody knows are passed
over.  A section may be written as a table or as an array of its settings in order.

Reading checks types and ranges; `validate` checks what the settings say.
-/

namespace ChainProjection

/-- How the database is reached. -/
structure DatabaseConfig where
  url : String
  maxConnections : UInt32
  minConnections : UInt32
  deriving DecidableEq, Repr

/-- Where events come from. -/
structure SourceConfig where
  /-- The path of the feed. -/
  eventsPath : String
  /-- The first block that counts. -/
  startBlock : UInt64
  deriving DecidableEq, Repr

/-- How the program logs. -/
structure LoggingConfig where
  level : String
  format : String
  deriving DecidableEq, Repr

/-- A configuration. -/
structure Config where
  database : DatabaseConfig
  source : SourceConfig
  logging : LoggingConfig
  deriving DecidableEq, Repr

/-- Why there is no configuration. -/
inductive ConfigError where
  /-- The file is not there or is no text. -/
  | unreadableFile (path : String)
  | expansion (error : Config.ExpansionError)
  /-- The text is no document with the settings that must be there; the path of its file, if it
  comes from one. -/
  | unparsable (path : Option String)
  | emptyUrl
  | foreignUrl (url : String)
  | noConnections
  | tooManyIdle (least most : UInt32)
  | emptyEventsPath
  | unknownFormat (format : String)
  deriving DecidableEq, Repr

/-- The words of a configuration error. -/
def ConfigError.message : ConfigError → String
  | .unreadableFile path => "Failed to read config file: " ++ path
  | .expansion error => error.message
  | .unparsable (some path) => "Failed to parse config file: " ++ path
  | .unparsable none => "Failed to parse TOML configuration"
  | .emptyUrl => "Database URL cannot be empty"
  | .foreignUrl url => "Database URL must be a sqlite URL, got: " ++ url
  | .noConnections => "Database max_connections must be at least 1"
  | .tooManyIdle least most =>
    "Database min_connections (" ++ toString least.toNat ++ ") cannot exceed max_connections (" ++
      toString most.toNat ++ ")"
  | .emptyEventsPath => "Source events_path cannot be empty"
  | .unknownFormat format =>
    "Invalid log format '" ++ format ++ "': expected 'pretty' or 'json'"

namespace Config

/-! ### Settings -/

/-- The settings of a section: by name, or in order. -/
inductive Section where
  | named (members : Toml.Members)
  | listed (items : List Toml.Value)

/-- A value as a section.  A moment is one without any known setting. -/
def Section.ofValue? : Toml.Value → Option Section
  | .table _ members => some (.named members)
  | .tables rows => some (.listed (rows.map (.table .header)))
  | .array items => some (.listed items)
  | .moment _ => some (.named [])
  | _ => none

/-- A setting by its name and its place in the section. -/
def Section.setting? (settings : Section) (name : String) (index : Nat) : Option Toml.Value :=
  match settings with
  | .named members => members.lookup name
  | .listed items => items[index]?

/-- A text. -/
def readText : Toml.Value → Option String
  | .string text => some text
  | _ => none

/-- A natural number below a limit. -/
def readNumber (limit : Nat) : Toml.Value → Option Nat
  | .integer n => if 0 ≤ n ∧ n < limit then some n.toNat else none
  | _ => none

/-- A number of connections. -/
def readConnections (value : Toml.Value) : Option UInt32 :=
  (readNumber UInt32.size value).map UInt32.ofNat

/-- A block number. -/
def readBlock (value : Toml.Value) : Option UInt64 :=
  (readNumber UInt64.size value).map UInt64.ofNat

/-- A setting that may be missing; then it is `usual`. -/
def Section.readOr {α : Type} (settings : Section) (read : Toml.Value → Option α) (name : String)
    (index : Nat) (usual : α) : Option α :=
  match settings.setting? name index with
  | none => some usual
  | some value => read value

/-! ### Sections -/

/-- The database section. -/
def readDatabase (value : Toml.Value) : Option DatabaseConfig := do
  let settings ← Section.ofValue? value
  let url ← (settings.setting? "url" 0).bind readText
  let maxConnections ← settings.readOr readConnections "max_connections" 1 5
  let minConnections ← settings.readOr readConnections "min_connections" 2 1
  return { url, maxConnections, minConnections }

/-- The source section. -/
def readSource (value : Toml.Value) : Option SourceConfig := do
  let settings ← Section.ofValue? value
  let eventsPath ← settings.readOr readText "events_path" 0 "blocks.ndjson"
  let startBlock ← settings.readOr readBlock "start_block" 1 0
  return { eventsPath, startBlock }

/-- The logging section. -/
def readLogging (value : Toml.Value) : Option LoggingConfig := do
  let settings ← Section.ofValue? value
  let level ← settings.readOr readText "level" 0 "info"
  let format ← settings.readOr readText "format" 1 "pretty"
  return { level, format }

/-- A section without any setting. -/
def emptySection : Toml.Value := .table .header []

/-- The configuration a document holds.  The database section must be there. -/
def ofDocument? (document : Toml.Members) : Option Config := do
  let database ← (document.lookup "database").bind readDatabase
  let source ← readSource ((document.lookup "source").getD emptySection)
  let logging ← readLogging ((document.lookup "logging").getD emptySection)
  return { database, source, logging }

/-! ### Validity -/

/-- Checks what the settings of a configuration say; the first fault is reported. -/
def validate (config : Config) : Except ConfigError Unit := do
  let database := config.database
  if database.url.isEmpty then throw .emptyUrl
  if !"sqlite:".toList.isPrefixOf database.url.toList then throw (.foreignUrl database.url)
  if database.maxConnections = 0 then throw .noConnections
  if database.minConnections > database.maxConnections then
    throw (.tooManyIdle database.minConnections database.maxConnections)
  if config.source.eventsPath.isEmpty then throw .emptyEventsPath
  if config.logging.format ≠ "pretty" ∧ config.logging.format ≠ "json" then
    throw (.unknownFormat config.logging.format)

/-! ### Reading -/

/-- The valid configuration in a text; `path` is where the text comes from. -/
def ofContent (environment : Environment) (path : Option String) (text : String) :
    Except ConfigError Config := do
  let expanded ← (expand environment text).mapError .expansion
  match (Toml.parse expanded).bind ofDocument? with
  | none => throw (.unparsable path)
  | some config =>
    config.validate
    return config

/-- The valid configuration in a text. -/
def ofText (environment : Environment) (text : String) : Except ConfigError Config :=
  ofContent environment none text

/-- The valid configuration in a file, from its bytes; `none` stands for a file that cannot be
read. -/
def ofFile (environment : Environment) (path : String) (bytes : Option (List UInt8)) :
    Except ConfigError Config :=
  match bytes.bind Utf8.decode? with
  | none => .error (.unreadableFile path)
  | some text => ofContent environment (some path) text

end Config

end ChainProjection
