import ChainProjection.Json.Literal
import ChainProjection.Text.Characters
import ChainProjection.Text.Utf8
import ChainProjection.Wire.Event

/-!
# Block feeds

A feed has one block a line, as JSON text.  A line ends at a line feed, and a carriage return in
front of it belongs to the end of the line; the last line may lack its end.  Lines of white space
alone hold nothing but are counted.

A block is read from its text more strictly than from a value: no field of a block or an event may
be written twice.  Members that are no fields are skipped over, so nothing inside them counts
against the limits on numbers, on nesting and on escapes.
-/

namespace ChainProjection

/-- What a line of a feed holds. -/
inductive FeedLine where
  /-- Nothing. -/
  | blank
  /-- A block. -/
  | block (block : Block)
  /-- A text that is no block. -/
  | malformed
  /-- Bytes that are no text. -/
  | unreadable

namespace Feed

/-! ### Lines -/

/-- A line without its end. -/
def chomp (line : List UInt8) : List UInt8 :=
  if line.getLast? = some 0x0D then line.dropLast else line

/-- Splits bytes into lines; `line` is what the present line has so far, last byte first. -/
def splitLines (line : List UInt8) : List UInt8 → List (List UInt8)
  | [] => if line.isEmpty then [] else [line.reverse]
  | byte :: rest =>
    if byte = 0x0A then chomp line.reverse :: splitLines [] rest
    else splitLines (byte :: line) rest

/-- The lines of a feed. -/
def lines (bytes : List UInt8) : List (List UInt8) := splitLines [] bytes

/-! ### Blocks -/

/-- How the fields of a record are read, each with its name, in the order of its array form. -/
abbrev Layout := List (String × (Json.Literal → Option Json))

/-- The value of a member of a record; `none` in the list for one that is no field. -/
def memberValue? (layout : Layout) (member : Option String × Json.Literal) :
    Option (Option (String × Json)) :=
  member.1.bind fun name =>
    match layout.lookup name with
    | none => some none
    | some value => (value member.2).map fun v => some (name, v)

/-- The values of the items of a record in its array form. -/
def itemValues? : Layout → List Json.Literal → Option (List Json)
  | _, [] => some []
  | [], _ :: _ => none
  | (_, value) :: layout, item :: items =>
    match value item, itemValues? layout items with
    | some v, some vs => some (v :: vs)
    | _, _ => none

/-- The value of a record, without members that are no fields. -/
def recordValue? (layout : Layout) : Json.Literal → Option Json
  | .object members => do
    let values := (← members.mapM (memberValue? layout)).filterMap id
    if (values.map Prod.fst).Nodup then some (Json.ofMembers values) else none
  | .array items => (itemValues? layout items).map .array
  | _ => none

/-- The value of a list. -/
def listValue? (value : Json.Literal → Option Json) : Json.Literal → Option Json
  | .array items => (items.mapM value).map .array
  | _ => none

/-- The value of a field that is no record and no list of records; `level` is how many arrays and
objects are around it. -/
def plainValue? (level : Nat) (literal : Json.Literal) : Option Json :=
  literal.value? (Json.depthLimit - level)

/-- How an event is read, which stands in the list of events of its block. -/
def eventLayout : Layout := [
  ("name", plainValue? 3),
  ("index_in_block", plainValue? 3),
  ("extrinsic_hash", plainValue? 3),
  ("params", listValue? (plainValue? 4))]

/-- How a block is read. -/
def blockLayout : Layout := [
  ("block_number", plainValue? 1),
  ("block_timestamp", plainValue? 1),
  ("events", listValue? (recordValue? eventLayout))]

/-- The block a text spells. -/
def block? (text : String) : Option Block := do
  let literal ← Json.parse text
  let value ← recordValue? blockLayout literal
  (Wire.decode value).toOption

end Feed

/-- What a line holds. -/
def FeedLine.ofBytes (line : List UInt8) : FeedLine :=
  match Utf8.decode? line with
  | none => .unreadable
  | some text =>
    if text.toList.all Text.isBlank then .blank
    else match Feed.block? text with
      | some parsed => .block parsed
      | none => .malformed

/-- What the lines of a feed hold. -/
def Feed.ofBytes (bytes : List UInt8) : List FeedLine := (lines bytes).map FeedLine.ofBytes

end ChainProjection
