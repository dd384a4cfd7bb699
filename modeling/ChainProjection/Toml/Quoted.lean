import ChainProjection.Hex

/-!
# Strings of TOML

A string is basic, with escapes behind a backslash, or literal, without any; and it stands on one
line or is a block between triple quotes.  In a block one or two quotes are text, also right before
the closing ones; a line end directly after the opening quotes does not count, every other is a line
feed, however it is written; and a backslash at the end of a line joins it to the next text.

Every scanner here starts behind the opening quotes and returns the text with what follows the
closing ones.
-/

namespace ChainProjection.Toml

/-- Whether a character may stand in strings and comments: the tab is the only control among the
ASCII characters that may. -/
def isPrintable (c : Char) : Bool := c = '\t' || (' ' ≤ c && c.toNat ≠ 0x7F)

/-- The rest behind a line end, if there is one in front. -/
def dropLineEnd? : List Char → Option (List Char)
  | '\n' :: rest => some rest
  | '\r' :: '\n' :: rest => some rest
  | _ => none

/-- Drops blanks within a line. -/
def skipSpaces (chars : List Char) : List Char := chars.dropWhile fun c => c = ' ' || c = '\t'

/-- The character a one-letter escape stands for. -/
def escaped? (c : Char) : Option Char :=
  match c with
  | 'b' => some '\x08'
  | 'f' => some '\x0c'
  | 'n' => some '\n'
  | 'r' => some '\r'
  | 't' => some '\t'
  | '"' => some '"'
  | '\\' => some '\\'
  | _ => none

/-- The number of hexadecimal digits. -/
def hexNumber? (number : Nat) : List Char → Option Nat
  | [] => some number
  | c :: rest => (Hex.digitValue? c.toNat).bind fun d => hexNumber? (number * 16 + d) rest

/-- The character with a number in hexadecimal digits; a surrogate is none. -/
def scalar? (digits : List Char) : Option Char :=
  (hexNumber? 0 digits).bind fun n =>
    if n < 0xD800 ∨ (0xE000 ≤ n ∧ n < 0x110000) then some (Char.ofNat n) else none

/-- Puts a character in front of a scanned text. -/
def prepend (c : Option Char) (scanned : Option (List Char × List Char)) :
    Option (List Char × List Char) :=
  match c, scanned with
  | some c, some (text, after) => some (c :: text, after)
  | _, _ => none

/-! ### On one line -/

/-- A basic string on one line. -/
def scanBasic : List Char → Option (List Char × List Char)
  | [] => none
  | '"' :: rest => some ([], rest)
  | '\\' :: 'u' :: a :: b :: c :: d :: rest => prepend (scalar? [a, b, c, d]) (scanBasic rest)
  | '\\' :: 'U' :: a :: b :: c :: d :: e :: f :: g :: h :: rest =>
    prepend (scalar? [a, b, c, d, e, f, g, h]) (scanBasic rest)
  | '\\' :: c :: rest => prepend (escaped? c) (scanBasic rest)
  | c :: rest => if isPrintable c then prepend (some c) (scanBasic rest) else none

/-- Whether a character may stand in a literal string on one line. -/
def isLiteral (c : Char) : Bool := c ≠ '\x27' && isPrintable c

/-- A literal string on one line. -/
def scanLiteral (chars : List Char) : Option (List Char × List Char) :=
  match chars.dropWhile isLiteral with
  | '\x27' :: after => some (chars.takeWhile isLiteral, after)
  | _ => none

/-! ### Blocks -/

/-- A basic block.  `joining` says that a line was just joined to the next text, so blanks and line
ends are dropped. -/
def scanBasicBlock : Bool → List Char → Option (List Char × List Char)
  | _, [] => none
  | true, ' ' :: rest => scanBasicBlock true rest
  | true, '\t' :: rest => scanBasicBlock true rest
  | true, '\n' :: rest => scanBasicBlock true rest
  | true, '\r' :: '\n' :: rest => scanBasicBlock true rest
  | _, '"' :: '"' :: '"' :: '"' :: '"' :: rest => some (['"', '"'], rest)
  | _, '"' :: '"' :: '"' :: '"' :: rest => some (['"'], rest)
  | _, '"' :: '"' :: '"' :: rest => some ([], rest)
  | _, '\\' :: 'u' :: a :: b :: c :: d :: rest =>
    prepend (scalar? [a, b, c, d]) (scanBasicBlock false rest)
  | _, '\\' :: 'U' :: a :: b :: c :: d :: e :: f :: g :: h :: rest =>
    prepend (scalar? [a, b, c, d, e, f, g, h]) (scanBasicBlock false rest)
  | _, '\\' :: c :: rest =>
    if (dropLineEnd? (skipSpaces (c :: rest))).isSome then scanBasicBlock true (c :: rest)
    else prepend (escaped? c) (scanBasicBlock false rest)
  | _, '\r' :: '\n' :: rest => prepend (some '\n') (scanBasicBlock false rest)
  | _, c :: rest =>
    if c = '\n' ∨ isPrintable c then prepend (some c) (scanBasicBlock false rest) else none

/-- A literal block. -/
def scanLiteralBlock : List Char → Option (List Char × List Char)
  | [] => none
  | '\x27' :: '\x27' :: '\x27' :: '\x27' :: '\x27' :: rest => some (['\x27', '\x27'], rest)
  | '\x27' :: '\x27' :: '\x27' :: '\x27' :: rest => some (['\x27'], rest)
  | '\x27' :: '\x27' :: '\x27' :: rest => some ([], rest)
  | '\r' :: '\n' :: rest => prepend (some '\n') (scanLiteralBlock rest)
  | c :: rest =>
    if c = '\n' ∨ isPrintable c then prepend (some c) (scanLiteralBlock rest) else none

/-! ### Any string -/

/-- A block without the line end that may follow its opening quotes. -/
def blockBody (chars : List Char) : List Char := (dropLineEnd? chars).getD chars

/-- A string with its opening quotes. -/
def scanString : List Char → Option (List Char × List Char)
  | '"' :: '"' :: '"' :: rest => scanBasicBlock false (blockBody rest)
  | '"' :: rest => scanBasic rest
  | '\x27' :: '\x27' :: '\x27' :: rest => scanLiteralBlock (blockBody rest)
  | '\x27' :: rest => scanLiteral rest
  | _ => none

end ChainProjection.Toml
