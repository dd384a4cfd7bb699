import ChainProjection.Store.Columns
import Std.Data.ExtTreeMap
import Std.Data.ExtTreeSet

/-!
# The store

Everything the projection knows: one table for each kind of entity, the log of event records, and
the cursor that says how far the projection has come.  Tables are extensional ordered maps, so two
stores whose look-ups agree are equal.  The log is newest first.  Row numbers count up from one and
are never given twice to rows that stay.

A table holds the rows as they were saved.  Loading a row goes through its stored form, so it gives
the row back only if that form reads back.
-/

namespace ChainProjection

/-- A table of rows by key. -/
abbrev Table (κ α : Type) [Ord κ] := Std.ExtTreeMap κ α

/-- Saves a row under a key.  Where a row stands there already it is not replaced but rewritten:
`rewrite` says what the old row takes on from the new one. -/
def Table.upsert {κ α : Type} [Ord κ] [Std.TransOrd κ] (table : Table κ α) (key : κ)
    (rewrite : α → α → α) (row : α) : Table κ α :=
  table.insert key (match table[key]? with
    | some old => rewrite old row
    | none => row)

/-- Pairs are ordered by their first part, then by their second. -/
instance : Ord (CategoryId × WorkerId) := lexOrd

/-- The projected state. -/
structure Store where
  categories : Table CategoryId Category := ∅
  /-- Which workers moderate which categories. -/
  moderators : Std.ExtTreeSet (CategoryId × WorkerId) := ∅
  threads : Table ThreadId Thread := ∅
  posts : Table PostId Post := ∅
  /-- The polls by their threads. -/
  polls : Table ThreadId Poll := ∅
  /-- The workers in the order they were first saved. -/
  workers : List Worker := []
  /-- The members by the block that first named them. -/
  members : Table MemberId UInt64 := ∅
  /-- The language codes by the block that first used them. -/
  languages : Table String UInt64 := ∅
  /-- The licenses by row number. -/
  licenses : Table Nat StoredLicense := ∅
  channels : Table ChannelId Channel := ∅
  videos : Table VideoId Video := ∅
  channelCategories : Table ChannelCategoryId (ContentCategory .channelCategory) := ∅
  videoCategories : Table VideoCategoryId (ContentCategory .videoCategory) := ∅
  dataObjects : Table ContentId DataObject := ∅
  /-- The event records, newest first. -/
  log : List EventRecord := []
  /-- The last block projected as a whole. -/
  cursor : Option UInt64 := none
  /-- How many polls have been given a row number. -/
  pollRows : Nat := 0
  /-- How many poll alternatives have been given a row number. -/
  alternativeRows : Nat := 0
  /-- How many licenses have been given a row number. -/
  licenseRows : Nat := 0

namespace Store

/-! ### The event log -/

/-- The record with an id. -/
def event? (store : Store) (id : EventId) : Option EventRecord :=
  store.log.find? fun r => r.id = id

/-- The record with an id, read back from its stored form. -/
def loadEvent (store : Store) (id : EventId) : Except StoreError (Option EventRecord) :=
  (store.event? id).mapM fun record => EventRecord.ofColumns record.columns

/-- Adds a record to the log, which must not have one of the same id. -/
def insertEvent (store : Store) (record : EventRecord) : Except StoreError Store :=
  if (store.event? record.id).isSome then .error .duplicateEvent
  else .ok { store with log := record :: store.log }

/-- How many records there are of events with a name. -/
def countEvents (store : Store) (eventType : String) : Nat :=
  store.log.countP fun r => r.eventType = eventType

/-! ### The cursor -/

/-- Moves the cursor to a block whose number is a signed 64-bit integer. -/
def setCursor (store : Store) (block : UInt64) : Except StoreError Store :=
  if isSigned block.toNat then .ok { store with cursor := some block } else .error .unwritable

/-- The stored form of the cursor. -/
def cursorColumn (store : Store) : Option Int64 := store.cursor.map (·.toInt64)

/-- The cursor, read back from its stored form, which must not be negative. -/
def loadCursor (store : Store) : Except StoreError (Option UInt64) :=
  store.cursorColumn.mapM Columns.uint64

/-- What the store amounts to in numbers. -/
structure Stats where
  events : Nat
  categories : Nat
  threads : Nat
  posts : Nat
  channels : Nat
  videos : Nat
  lastBlockNumber : Option UInt64
  deriving DecidableEq

/-- The numbers of a store. -/
def stats (store : Store) : Stats where
  events := store.log.length
  categories := store.categories.size
  threads := store.threads.size
  posts := store.posts.size
  channels := store.channels.size
  videos := store.videos.size
  lastBlockNumber := store.cursor

end Store

end ChainProjection
