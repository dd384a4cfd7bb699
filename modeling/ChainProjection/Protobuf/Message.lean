import ChainProjection.Protobuf.Wire
import ChainProjection.Text.Utf8

/-!
# Messages by their fields

A message type is the list of its fields.  Each field says how its payload is merged into a value of
the message and how it is written, so that one description serves the reader (`Schema.decode`) and
the writer (`Schema.encode`).  Every field is optional: one that does not occur stays absent, the
last of several scalars counts, and nested messages merge.
-/

namespace ChainProjection.Protobuf

/-- One field of a message type. -/
structure Field (M : Type) where
  /-- The number of the field on the wire. -/
  tag : Nat
  /-- The name of the field in messages. -/
  name : String
  /-- Merges a payload into the message and gives back the bytes behind it. -/
  merge : (depth : Nat) → M → WireType → List UInt8 → Except Failure (M × List UInt8)
  /-- The field with its key; nothing where the field is absent. -/
  write : M → List UInt8

/-- A message type. -/
structure Schema (M : Type) where
  /-- The name of the type in messages. -/
  name : String
  /-- The message with every field absent. -/
  empty : M
  /-- The fields in order. -/
  fields : List (Field M)

namespace Schema

variable {M : Type}

/-- The field with a tag. -/
def field? (schema : Schema M) (tag : Nat) : Option (Field M) :=
  schema.fields.find? fun field => field.tag = tag

/-- Merges the field at the front of the bytes; one nobody declared is skipped. -/
def mergeField (schema : Schema M) (depth : Nat) (message : M) (bytes : List UInt8) :
    Except Failure (M × List UInt8) := do
  let ((tag, wireType), rest) ← (readKey bytes).mapError Failure.ofCause
  match schema.field? tag with
  | some field =>
    (field.merge depth message wireType rest).mapError (·.within schema.name field.name)
  | none =>
    let rest ←
      (skipPayload (2 * rest.length + 2) depth tag wireType rest).mapError Failure.ofCause
    return (message, rest)

/-- Merges fields while more than `stop` bytes are left.  Each field reads at least one byte, so
`fuel` may be the number of bytes. -/
def mergeFields (schema : Schema M) (depth stop : Nat) :
    Nat → M → List UInt8 → Except Failure (M × List UInt8)
  | 0, message, bytes => .ok (message, bytes)
  | fuel + 1, message, bytes =>
    if bytes.length ≤ stop then .ok (message, bytes)
    else do
      let (message, rest) ← schema.mergeField depth message bytes
      schema.mergeFields depth stop fuel message rest

/-- Reads a message that is all of the bytes. -/
def decode (schema : Schema M) (bytes : List UInt8) : Except Failure M :=
  (schema.mergeFields depthLimit 0 bytes.length schema.empty bytes).map Prod.fst

/-- Merges a nested message: a length, then fields that must end where the length says. -/
def mergeNested (schema : Schema M) (depth : Nat) (message : M) (bytes : List UInt8) :
    Except Failure (M × List UInt8) := do
  if depth = 0 then throw (.ofCause .tooDeep)
  let (length, rest) ← (readVarint bytes).mapError Failure.ofCause
  if rest.length < length then throw (.ofCause .underflow)
  let stop := rest.length - length
  let (message, rest) ← schema.mergeFields (depth - 1) stop rest.length message rest
  if rest.length = stop then return (message, rest)
  else throw (.ofCause .lengthExceeded)

/-- Writes a message field by field. -/
def encode (schema : Schema M) (message : M) : List UInt8 :=
  schema.fields.flatMap fun field => field.write message

end Schema

namespace Field

variable {M : Type}

/-- A field of one wire type, by a reader and a writer of its payload. -/
def scalar {α : Type} (tag : Nat) (name : String) (wireType : WireType)
    (read : List UInt8 → Except Cause (α × List UInt8)) (form : α → List UInt8)
    (get : M → Option α) (set : M → α → M) : Field M where
  tag := tag
  name := name
  merge _ message found bytes := Except.mapError Failure.ofCause do
    expectWireType wireType found
    let (x, rest) ← read bytes
    return (set message x, rest)
  write message := match get message with
    | none => []
    | some x => writeKey tag wireType ++ form x

/-- A field of unsigned 64-bit integers. -/
def uint64 (tag : Nat) (name : String) (get : M → Option UInt64) (set : M → UInt64 → M) :
    Field M :=
  scalar tag name .varint
    (fun bytes => (readVarint bytes).map fun (n, rest) => (UInt64.ofNat n, rest))
    writeVarint get set

/-- A field of unsigned 32-bit integers: the low 32 bits of what is on the wire. -/
def uint32 (tag : Nat) (name : String) (get : M → Option UInt32) (set : M → UInt32 → M) :
    Field M :=
  scalar tag name .varint
    (fun bytes => (readVarint bytes).map fun (n, rest) => (UInt32.ofNat n, rest))
    (fun n => writeVarint n.toUInt64) get set

/-- A field of truth values: anything but zero is true. -/
def bool (tag : Nat) (name : String) (get : M → Option Bool) (set : M → Bool → M) : Field M :=
  scalar tag name .varint
    (fun bytes => (readVarint bytes).map fun (n, rest) => (n != 0, rest))
    (fun b => writeVarint (if b then 1 else 0)) get set

/-- Reads a text behind its length. -/
def readText (bytes : List UInt8) : Except Cause (String × List UInt8) := do
  let (text, rest) ← readDelimited bytes
  match Utf8.decode? text with
  | some text => return (text, rest)
  | none => throw .invalidText

/-- A field of texts. -/
def string (tag : Nat) (name : String) (get : M → Option String) (set : M → String → M) :
    Field M :=
  scalar tag name .lengthDelimited readText (fun text => writeDelimited (Utf8.encode text)) get set

/-- A field of messages of another type; repeated occurrences merge. -/
def message {N : Type} (tag : Nat) (name : String) (schema : Schema N)
    (get : M → Option N) (set : M → N → M) : Field M where
  tag := tag
  name := name
  merge depth outer found bytes := do
    (expectWireType .lengthDelimited found).mapError Failure.ofCause
    let (inner, rest) ← schema.mergeNested depth ((get outer).getD schema.empty) bytes
    return (set outer inner, rest)
  write outer := match get outer with
    | none => []
    | some inner => writeKey tag .lengthDelimited ++ writeDelimited (schema.encode inner)

end Field

end ChainProjection.Protobuf
