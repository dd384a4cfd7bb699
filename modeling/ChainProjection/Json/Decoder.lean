import ChainProjection.Bytes
import ChainProjection.Json.Basic
import ChainProjection.Number.Machine

/-!
# Decoding JSON values

A decoder turns a value into data or says why it cannot.  Records are described once, as `Fields`,
and read in either of their two forms: an object, where the first bad member in order of names is
reported before a missing one, or an array of the fields in order.  Unions come in two shapes: the
name of the variant outside its payload (`variants`), or as one more member inside it (`tagged`).
-/

namespace ChainProjection.Json

/-- What a decoder met where it wanted something else. -/
inductive Found where
  | null
  | bool (value : Bool)
  | int (value : Int)
  | float (value : Binary64)
  | string (text : String)
  | sequence
  | map
  | unitVariant
  deriving DecidableEq, Repr

/-- Why a value does not decode. -/
inductive DecodeError where
  | invalidType (found : Found) (expected : String)
  | invalidValue (found : Found) (expected : String)
  | invalidLength (length : Nat) (expected : String)
  | missingField (name : String)
  | unknownVariant (name : String) (known : List String)
  | noVariant (union : String)
  | invalidHex (cause : Hex.Error)
  deriving DecidableEq, Repr

/-- A value between backticks. -/
def ticked (text : String) : String := "`" ++ text ++ "`"

/-- The words for what was met. -/
def Found.describe : Found → String
  | .null => "null"
  | .bool true => "boolean `true`"
  | .bool false => "boolean `false`"
  | .int n => "integer " ++ ticked (toString n)
  | .float x => "floating point " ++ ticked x.render
  | .string text => "string " ++ Text.quoted text
  | .sequence => "sequence"
  | .map => "map"
  | .unitVariant => "unit variant"

/-- The words for a choice of variants. -/
def describeChoice : List String → String
  | [] => "there are no variants"
  | [a] => "expected " ++ ticked a
  | [a, b] => "expected " ++ ticked a ++ " or " ++ ticked b
  | names => "expected one of " ++ ", ".intercalate (names.map ticked)

/-- The words of an error. -/
def DecodeError.message : DecodeError → String
  | .invalidType found expected => "invalid type: " ++ found.describe ++ ", expected " ++ expected
  | .invalidValue found expected => "invalid value: " ++ found.describe ++ ", expected " ++ expected
  | .invalidLength length expected =>
    "invalid length " ++ toString length ++ ", expected " ++ expected
  | .missingField name => "missing field " ++ ticked name
  | .unknownVariant name known => "unknown variant " ++ ticked name ++ ", " ++ describeChoice known
  | .noVariant union => "data did not match any variant of untagged enum " ++ union
  | .invalidHex cause => cause.report

/-- Reads data from a value. -/
abbrev Decoder (α : Type) := Json → Except DecodeError α

/-- What a value is called when it is not the one wanted. -/
def found : Json → Found
  | .null => .null
  | .bool b => .bool b
  | .int n => .int n
  | .float x => .float x
  | .string text => .string text
  | .array _ => .sequence
  | .object _ => .map

/-- The value has the wrong type. -/
def mistyped {α : Type} (expected : String) (value : Json) : Except DecodeError α :=
  .error (.invalidType value.found expected)

/-! ### Plain values -/

/-- A truth value. -/
def decodeBool : Decoder Bool
  | .bool b => .ok b
  | value => mistyped "a boolean" value

/-- A text. -/
def decodeString : Decoder String
  | .string text => .ok text
  | value => mistyped "a string" value

/-- An integer from `low` up to but not including `high`; `expected` names the range. -/
def decodeRange (low high : Int) (expected : String) : Decoder Int
  | .int n => if low ≤ n ∧ n < high then .ok n else .error (.invalidValue (.int n) expected)
  | value => mistyped expected value

/-- An unsigned 64-bit integer. -/
def decodeUInt64 : Decoder UInt64 := fun value =>
  (decodeRange 0 UInt64.size "u64" value).map fun n => UInt64.ofNat n.toNat

/-- An unsigned 32-bit integer. -/
def decodeUInt32 : Decoder UInt32 := fun value =>
  (decodeRange 0 UInt32.size "u32" value).map fun n => UInt32.ofNat n.toNat

/-- A signed 64-bit integer. -/
def decodeInt64 : Decoder Int64 := fun value =>
  (decodeRange (-signedLimit) signedLimit "i64" value).map Int64.ofInt

/-- Nothing at all. -/
def decodeUnit : Decoder Unit
  | .null => .ok ()
  | value => mistyped "unit" value

/-- A value that may be `null`. -/
def decodeOption {α : Type} (decode : Decoder α) : Decoder (Option α)
  | .null => .ok none
  | value => (decode value).map some

/-- The decoded items of a list; the first bad one is reported. -/
def decodeItems {α : Type} (decode : Decoder α) : List Json → Except DecodeError (List α)
  | [] => .ok []
  | item :: rest => do
    let x ← decode item
    let xs ← decodeItems decode rest
    return x :: xs

/-- A list. -/
def decodeList {α : Type} (decode : Decoder α) : Decoder (List α)
  | .array items => decodeItems decode items
  | value => mistyped "a sequence" value

/-! ### Records -/

/-- How the fields of a record are read. -/
structure Fields (α : Type) where
  /-- How many fields there are. -/
  count : Nat
  /-- Checks one member of an object; a member that is no field passes. -/
  check : String → Json → Except DecodeError Unit
  /-- Builds the record from the members; missing fields are reported in order. -/
  ofMembers : List (String × Json) → Except DecodeError α
  /-- Builds the record from the items in order, the first of which is item number `position`;
  a shortage is reported with the words given.  The items left over come back too. -/
  ofItems : String → Nat → List Json → Except DecodeError (α × List Json)

namespace Fields

/-- A record without fields. -/
protected def pure {α : Type} (x : α) : Fields α where
  count := 0
  check _ _ := .ok ()
  ofMembers _ := .ok x
  ofItems _ _ items := .ok (x, items)

/-- Fields after fields. -/
protected def seq {α β : Type} (first : Fields (α → β)) (second : Fields α) : Fields β where
  count := first.count + second.count
  check name value := do
    first.check name value
    second.check name value
  ofMembers members := do
    let f ← first.ofMembers members
    let x ← second.ofMembers members
    return f x
  ofItems shortage position items := do
    let (f, items) ← first.ofItems shortage position items
    let (x, items) ← second.ofItems shortage (position + first.count) items
    return (f x, items)

instance : Applicative Fields where
  pure := Fields.pure
  seq f x := Fields.seq f (x ())

/-- One field.  `absent` stands for it where an object lacks it, `short` where an array ends before
it; `none` makes the lack an error. -/
def field {α : Type} (name : String) (decode : Decoder α) (absent short : Option α) :
    Fields α where
  count := 1
  check n value := if n = name then (decode value).map fun _ => () else .ok ()
  ofMembers members :=
    match member? name members, absent with
    | some value, _ => decode value
    | none, some x => .ok x
    | none, none => .error (.missingField name)
  ofItems shortage position items :=
    match items, short with
    | item :: rest, _ => (decode item).map (·, rest)
    | [], some x => .ok (x, [])
    | [], none => .error (.invalidLength position shortage)

/-- A field that must be there. -/
def required {α : Type} (name : String) (decode : Decoder α) : Fields α :=
  field name decode none none

/-- A field that may be `null`, and may be missing from an object. -/
def nullable {α : Type} (name : String) (decode : Decoder α) : Fields (Option α) :=
  field name (decodeOption decode) (some none) none

/-- A field that may be missing; then it is `standard`. -/
def withDefault {α : Type} (name : String) (decode : Decoder α) (standard : α) : Fields α :=
  field name decode (some standard) (some standard)

/-- The words for a number of elements. -/
def elements (count : Nat) : String :=
  toString count ++ (if count = 1 then " element" else " elements")

/-- Checks members in order. -/
def checkMembers {α : Type} (fields : Fields α) :
    List (String × Json) → Except DecodeError Unit
  | [] => .ok ()
  | (name, value) :: rest => do
    fields.check name value
    fields.checkMembers rest

/-- Reads a record from the members of an object. -/
def ofObject {α : Type} (fields : Fields α) (members : List (String × Json)) :
    Except DecodeError α := do
  fields.checkMembers members
  fields.ofMembers members

/-- The words for the array form of a record. -/
def arrayForm {α : Type} (fields : Fields α) (name : String) : String :=
  name ++ " with " ++ elements fields.count

/-- Reads a record from the items of an array, all of which must be used. -/
def ofArray {α : Type} (fields : Fields α) (name : String) (items : List Json) :
    Except DecodeError α := do
  let (x, rest) ← fields.ofItems (fields.arrayForm name) 0 items
  if rest.isEmpty then return x
  else throw (.invalidLength items.length "fewer elements in array")

/-- A record by name, in either form. -/
def struct {α : Type} (name : String) (fields : Fields α) : Decoder α
  | .object members => fields.ofObject members
  | .array items => fields.ofArray ("struct " ++ name) items
  | value => mistyped ("struct " ++ name) value

end Fields

/-! ### Unions -/

/-- What comes with the name of a variant. -/
inductive Payload (α : Type) where
  /-- Nothing. -/
  | unit (value : α)
  /-- One value. -/
  | value (decode : Decoder α)
  /-- Several values in order. -/
  | tuple (fields : Fields α)
  /-- Named fields. -/
  | record (fields : Fields α)

/-- What a payload is called when the bare name of its variant is found. -/
def Payload.kind {α : Type} : Payload α → String
  | .unit _ => "unit variant"
  | .value _ => "newtype variant"
  | .tuple _ => "tuple variant"
  | .record _ => "struct variant"

/-- A variant from its name alone. -/
def Payload.bare {α : Type} : Payload α → Except DecodeError α
  | .unit x => .ok x
  | payload => .error (.invalidType .unitVariant payload.kind)

/-- A variant from its payload; `path` is the full name of the variant. -/
def Payload.decode {α : Type} (path : String) (payload : Payload α) (value : Json) :
    Except DecodeError α :=
  match payload with
  | .unit x => (decodeUnit value).map fun _ => x
  | .value decode => decode value
  | .tuple fields => match value with
    | .array [] => .error (.invalidType .null ("tuple variant " ++ path))
    | .array items => fields.ofArray ("tuple variant " ++ path) items
    | value => mistyped "tuple variant" value
  | .record fields => match value with
    | .object members => fields.ofObject members
    | value => mistyped "struct variant" value

/-- The entry of a name in a table of variants. -/
def variant? {β : Type} (table : List (String × β)) (name : String) : Except DecodeError β :=
  match table.lookup name with
  | some entry => .ok entry
  | none => .error (.unknownVariant name (table.map Prod.fst))

/-- A union whose variant is named outside its payload. -/
def variants {α : Type} (union : String) (table : List (String × Payload α)) : Decoder α
  | .string name => do (← variant? table name).bare
  | .object [(name, value)] => do (← variant? table name).decode (union ++ "::" ++ name) value
  | .object _ => .error (.invalidValue .map "map with a single key")
  | value => mistyped "string or map" value

/-- The name of a variant, where it stands as a value. -/
def decodeTag {β : Type} (table : List (String × β)) (value : Json) :
    Except DecodeError (String × β) :=
  match value with
  | .string name => (variant? table name).map (name, ·)
  | value => mistyped "variant identifier" value

/-- A union whose variant is named by a member `tag` among its fields, or by the first item of an
array. -/
def tagged {α : Type} (tag union : String) (table : List (String × Fields α)) : Decoder α
  | .object members =>
    match member? tag members with
    | none => .error (.missingField tag)
    | some value => do
      let (_, fields) ← decodeTag table value
      fields.ofObject (members.filter fun m => m.1 != tag)
  | .array items =>
    match items with
    | [] => .error (.missingField tag)
    | value :: rest => do
      let (name, fields) ← decodeTag table value
      let form := fields.arrayForm ("struct variant " ++ union ++ "::" ++ name)
      let (x, left) ← fields.ofItems form 0 rest
      if left.isEmpty then return x
      else throw (.invalidLength rest.length (Fields.elements fields.count ++ " in sequence"))
  | value => mistyped ("internally tagged enum " ++ union) value

/-- The object form of a variant of a `tagged` union. -/
def withTag (tag name : String) (members : List (String × Json)) : Json :=
  ofMembers ((tag, .string name) :: members)

/-- The object form of a variant of a union of `variants`. -/
def ofVariant (name : String) (payload : Json) : Json := .object [(name, payload)]

end ChainProjection.Json
