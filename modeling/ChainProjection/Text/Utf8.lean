/-!
# Text as bytes

UTF-8 read one byte at a time.  A reader is either between two characters or inside one; inside,
it remembers what it has of the character and which range the next byte must lie in.  A byte out
of that range ends an ill-formed part and is read again from between characters, so an
ill-formed part is always the longest one that could still have become a character.

`decode?` accepts well-formed bytes only; `decodeLossy` shows each ill-formed part as the
replacement character.
-/

namespace ChainProjection.Utf8

/-- The bytes of a text. -/
def encode (s : String) : List UInt8 :=
  s.toList.flatMap String.utf8EncodeChar

/-- Where a reader stands between two bytes. -/
inductive Progress where
  /-- Between characters. -/
  | ground
  /-- Inside a character: the bits so far, the range of the next byte, and how many bytes follow
  that one. -/
  | inside (bits low high more : Nat)
  deriving DecidableEq, Repr

/-- Reads a byte from between characters: the part it completes, if any, and the new progress.
A completed part is a character, or `none` where the byte can start no character. -/
def start (byte : Nat) : List (Option Char) × Progress :=
  if byte < 0x80 then ([some (Char.ofNat byte)], .ground)
  else if byte < 0xC2 then ([none], .ground)
  else if byte ≤ 0xDF then ([], .inside (byte - 0xC0) 0x80 0xBF 0)
  else if byte = 0xE0 then ([], .inside 0 0xA0 0xBF 1)
  else if byte = 0xED then ([], .inside 0xD 0x80 0x9F 1)
  else if byte ≤ 0xEF then ([], .inside (byte - 0xE0) 0x80 0xBF 1)
  else if byte = 0xF0 then ([], .inside 0 0x90 0xBF 2)
  else if byte ≤ 0xF3 then ([], .inside (byte - 0xF0) 0x80 0xBF 2)
  else if byte = 0xF4 then ([], .inside 4 0x80 0x8F 2)
  else ([none], .ground)

/-- Reads one byte: the parts it completes and the new progress. -/
def step (progress : Progress) (byte : Nat) : List (Option Char) × Progress :=
  match progress with
  | .ground => start byte
  | .inside bits low high more =>
    if low ≤ byte ∧ byte ≤ high then
      match more with
      | 0 => ([some (Char.ofNat (bits * 64 + (byte - 0x80)))], .ground)
      | more + 1 => ([], .inside (bits * 64 + (byte - 0x80)) 0x80 0xBF more)
    else
      let (parts, next) := start byte
      (none :: parts, next)

/-- The parts of a byte sequence: its characters, with `none` for each ill-formed part. -/
def partsFrom (progress : Progress) : List UInt8 → List (Option Char)
  | [] => match progress with
    | .ground => []
    | .inside .. => [none]
  | byte :: rest =>
    let (parts, next) := step progress byte.toNat
    parts ++ partsFrom next rest

/-- The parts of a byte sequence, read from between characters. -/
def parts (bytes : List UInt8) : List (Option Char) :=
  partsFrom .ground bytes

/-- The text of a well-formed byte sequence. -/
def decode? (bytes : List UInt8) : Option String :=
  ((parts bytes).mapM id).map String.ofList

/-- The text of a byte sequence, with U+FFFD for each ill-formed part. -/
def decodeLossy (bytes : List UInt8) : String :=
  String.ofList ((parts bytes).map (·.getD '\uFFFD'))

end ChainProjection.Utf8
