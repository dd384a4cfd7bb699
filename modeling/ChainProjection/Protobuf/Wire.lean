/-!
# The tagged binary format

Protocol Buffers on the wire: a message is a sequence of fields, each a key (tag and wire type) and
a payload.  Readers take the bytes that are left and give back what they leave, so that a nested
message, which is bounded by a length, can run past its end and be found out.  `depth` counts the
levels of nesting still allowed.
-/

namespace ChainProjection.Protobuf

/-- How a payload is laid out. -/
inductive WireType where
  | varint
  | fixed64
  | lengthDelimited
  | startGroup
  | endGroup
  | fixed32
  deriving DecidableEq, Repr

/-- What a wire type is called in messages. -/
def WireType.label : WireType → String
  | .varint => "Varint"
  | .fixed64 => "SixtyFourBit"
  | .lengthDelimited => "LengthDelimited"
  | .startGroup => "StartGroup"
  | .endGroup => "EndGroup"
  | .fixed32 => "ThirtyTwoBit"

/-- The number of a wire type in a key. -/
def WireType.code : WireType → Nat
  | .varint => 0
  | .fixed64 => 1
  | .lengthDelimited => 2
  | .startGroup => 3
  | .endGroup => 4
  | .fixed32 => 5

/-- The wire type of a number. -/
def WireType.ofCode? : Nat → Option WireType
  | 0 => some .varint
  | 1 => some .fixed64
  | 2 => some .lengthDelimited
  | 3 => some .startGroup
  | 4 => some .endGroup
  | 5 => some .fixed32
  | _ => none

/-- Why bytes are no message. -/
inductive Cause where
  | underflow
  | invalidVarint
  | invalidTag
  | invalidKey (key : Nat)
  | unknownWireType (code : Nat)
  | wrongWireType (found expected : WireType)
  | lengthExceeded
  | unexpectedGroupEnd
  | tooDeep
  | invalidText
  deriving DecidableEq, Repr

/-- The words of a cause. -/
def Cause.message : Cause → String
  | .underflow => "buffer underflow"
  | .invalidVarint => "invalid varint"
  | .invalidTag => "invalid tag value: 0"
  | .invalidKey key => "invalid key value: " ++ toString key
  | .unknownWireType code => "invalid wire type value: " ++ toString code
  | .wrongWireType found expected =>
    "invalid wire type: " ++ found.label ++ " (expected " ++ expected.label ++ ")"
  | .lengthExceeded => "delimited length exceeded"
  | .unexpectedGroupEnd => "unexpected end group tag"
  | .tooDeep => "recursion limit reached"
  | .invalidText => "invalid string value: data is not UTF-8 encoded"

/-- A cause with the fields it was met in, each as its message and its name, innermost first. -/
structure Failure where
  path : List (String × String)
  cause : Cause
  deriving DecidableEq, Repr

/-- A failure outside any field. -/
def Failure.ofCause (cause : Cause) : Failure := ⟨[], cause⟩

/-- The same failure seen from a field around it. -/
def Failure.within (failure : Failure) (message field : String) : Failure :=
  ⟨failure.path ++ [(message, field)], failure.cause⟩

/-- The words of a failure. -/
def Failure.message (failure : Failure) : String :=
  "failed to decode Protobuf message: " ++
    String.join (failure.path.map fun (message, field) => message ++ "." ++ field ++ ": ") ++
    failure.cause.message

/-- How many levels of nesting a message may have. -/
def depthLimit : Nat := 100

/-! ### Integers -/

/-- Reads a base-128 integer of at most `bytesLeft` bytes, the first of which is worth `unit`.  The
tenth byte of a 64-bit integer can only be zero or one. -/
def readVarintFrom (unit : Nat) : Nat → List UInt8 → Except Cause (Nat × List UInt8)
  | 0, _ => .error .invalidVarint
  | _ + 1, [] => .error .invalidVarint
  | bytesLeft + 1, byte :: rest =>
    if byte.toNat < 128 then
      if bytesLeft = 0 ∧ 1 < byte.toNat then .error .invalidVarint
      else .ok (byte.toNat * unit, rest)
    else
      (readVarintFrom (unit * 128) bytesLeft rest).map fun (n, after) =>
        ((byte.toNat - 128) * unit + n, after)

/-- Reads a 64-bit base-128 integer. -/
def readVarint (bytes : List UInt8) : Except Cause (Nat × List UInt8) :=
  readVarintFrom 1 10 bytes

/-- Writes an integer in base 128, lowest digits first, in at most `bytesLeft + 1` bytes. -/
def writeVarintTo (n : Nat) : Nat → List UInt8
  | 0 => [UInt8.ofNat (n % 128)]
  | bytesLeft + 1 =>
    if n < 128 then [UInt8.ofNat n]
    else UInt8.ofNat (n % 128 + 128) :: writeVarintTo (n / 128) bytesLeft

/-- Writes a 64-bit base-128 integer. -/
def writeVarint (n : UInt64) : List UInt8 := writeVarintTo n.toNat 9

/-! ### Keys -/

/-- Reads a key: the tag of a field and its wire type. -/
def readKey (bytes : List UInt8) : Except Cause ((Nat × WireType) × List UInt8) := do
  let (key, rest) ← readVarint bytes
  if UInt32.size ≤ key then throw (.invalidKey key)
  else match WireType.ofCode? (key % 8) with
    | none => throw (.unknownWireType (key % 8))
    | some wireType => if key / 8 = 0 then throw .invalidTag else return ((key / 8, wireType), rest)

/-- Writes a key. -/
def writeKey (tag : Nat) (wireType : WireType) : List UInt8 :=
  writeVarint (UInt64.ofNat (tag * 8 + wireType.code))

/-- Accepts the expected wire type only. -/
def expectWireType (expected found : WireType) : Except Cause Unit :=
  if found = expected then .ok () else .error (.wrongWireType found expected)

/-! ### Payloads -/

/-- Drops a number of bytes that must be there. -/
def dropBytes (count : Nat) (bytes : List UInt8) : Except Cause (List UInt8) :=
  if bytes.length < count then .error .underflow else .ok (bytes.drop count)

/-- Reads a length and as many bytes. -/
def readDelimited (bytes : List UInt8) : Except Cause (List UInt8 × List UInt8) := do
  let (length, rest) ← readVarint bytes
  if rest.length < length then throw .underflow
  else return (rest.take length, rest.drop length)

/-- Writes bytes behind their length. -/
def writeDelimited (bytes : List UInt8) : List UInt8 :=
  writeVarint (UInt64.ofNat bytes.length) ++ bytes

mutual

/-- Skips the payload of a field nobody declared.  `fuel` bounds the calls below this one; each of
them reads at least one byte, so the length of the input is enough. -/
def skipPayload (fuel depth : Nat) (tag : Nat) (wireType : WireType) (bytes : List UInt8) :
    Except Cause (List UInt8) :=
  match fuel with
  | 0 => .error .underflow
  | fuel + 1 =>
    if depth = 0 then .error .tooDeep
    else match wireType with
      | .varint => (readVarint bytes).map Prod.snd
      | .fixed32 => dropBytes 4 bytes
      | .fixed64 => dropBytes 8 bytes
      | .lengthDelimited => (readDelimited bytes).map Prod.snd
      | .startGroup => skipGroup fuel depth tag bytes
      | .endGroup => .error .unexpectedGroupEnd

/-- Skips the fields of a group up to the end of the group with its tag. -/
def skipGroup (fuel depth : Nat) (tag : Nat) (bytes : List UInt8) :
    Except Cause (List UInt8) :=
  match fuel with
  | 0 => .error .underflow
  | fuel + 1 => do
    let ((innerTag, innerType), rest) ← readKey bytes
    if innerType = .endGroup then
      if innerTag = tag then return rest else throw .unexpectedGroupEnd
    else
      let rest ← skipPayload fuel (depth - 1) innerTag innerType rest
      skipGroup fuel depth tag rest

end

end ChainProjection.Protobuf
