import ChainProjection.Hex
import ChainProjection.Text.Utf8

/-!
# Byte strings of the chain

The chain carries free-form data as byte strings.  On the wire a byte string is hexadecimal text
behind `0x`; read back, any number of leading `0x` is dropped.  Texts are byte strings in UTF-8,
where ill-formed parts are shown as replacement characters.
-/

namespace ChainProjection

/-- A byte string. -/
structure Bytes where
  /-- The bytes in order. -/
  toList : List UInt8
  deriving DecidableEq, Repr

namespace Bytes

/-- Drops every leading `0x`. -/
def dropMarkers : List Char → List Char
  | '0' :: 'x' :: rest => dropMarkers rest
  | digits => digits

/-- Reads hexadecimal text, with or without `0x` in front. -/
def ofHex (text : String) : Except Hex.Error Bytes :=
  (Hex.decode (Utf8.encode (String.ofList (dropMarkers text.toList)))).map Bytes.mk

/-- Writes hexadecimal text with `0x` in front and lower-case digits. -/
def toHex (bytes : Bytes) : String :=
  String.ofList ('0' :: 'x' :: Hex.encode bytes.toList)

/-- The text the bytes spell. -/
def toText (bytes : Bytes) : String :=
  Utf8.decodeLossy bytes.toList

end Bytes

end ChainProjection
