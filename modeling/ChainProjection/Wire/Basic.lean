import ChainProjection.Id
import ChainProjection.Json.Decoder

/-!
# Wire forms

A type has a wire form when its values can be written as JSON and read back.  Writing is total;
reading is more generous than writing, since an id may come as a number, hexadecimal text in any
spelling, and a record as an array of its fields.  This module has the plain types and ids.
-/

namespace ChainProjection

/-- A type with a JSON form. -/
class Wire (α : Type) where
  /-- Writes a value. -/
  encode : α → Json
  /-- Reads a value. -/
  decode : Json.Decoder α

namespace Wire

instance : Wire Json where
  encode value := value
  decode value := .ok value

instance : Wire Bool where
  encode := .bool
  decode := Json.decodeBool

instance : Wire String where
  encode := .string
  decode := Json.decodeString

instance : Wire UInt64 where
  encode n := .nat n.toNat
  decode := Json.decodeUInt64

instance : Wire UInt32 where
  encode n := .nat n.toNat
  decode := Json.decodeUInt32

instance : Wire Int64 where
  encode n := .int n.toInt
  decode := Json.decodeInt64

/-- Row numbers; the wire admits those of 64 bits with a sign. -/
instance : Wire Int where
  encode := .int
  decode := Json.decodeRange (-signedLimit) signedLimit "i64"

instance {α : Type} [Wire α] : Wire (Option α) where
  encode := Json.ofOption encode
  decode := Json.decodeOption decode

instance {α : Type} [Wire α] : Wire (List α) where
  encode xs := .array (xs.map encode)
  decode := Json.decodeList decode

/-- Byte strings are hexadecimal text. -/
instance : Wire Bytes where
  encode bytes := .string bytes.toHex
  decode value := do
    let text ← Json.decodeString value
    (Bytes.ofHex text).mapError .invalidHex

/-- Reads an id that may come as a number. -/
def decodeId {entity : Entity} : Json.Decoder (Id entity)
  | .string text => .ok ⟨text⟩
  | .int n =>
    if 0 ≤ n ∧ n < UInt64.size then .ok (.ofNumber (UInt64.ofNat n.toNat))
    else .error (.noVariant "Raw")
  | _ => .error (.noVariant "Raw")

/-- Ids are texts; all but those of events are read from numbers as well. -/
instance {entity : Entity} : Wire (Id entity) where
  encode id := .string id.text
  decode value :=
    match entity with
    | .event => (Json.decodeString value).map Id.mk
    | _ => decodeId value

/-- A field that must be there. -/
def required {α : Type} [Wire α] (name : String) : Json.Fields α :=
  Json.Fields.required name decode

/-- A field that may be `null`, and may be missing from an object. -/
def nullable {α : Type} [Wire α] (name : String) : Json.Fields (Option α) :=
  Json.Fields.nullable name decode

/-- A field that may be missing; then it is `standard`. -/
def withDefault {α : Type} [Wire α] (name : String) (standard : α) : Json.Fields α :=
  Json.Fields.withDefault name decode standard

end Wire

end ChainProjection
