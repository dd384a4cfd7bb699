import ChainProjection.Json.Basic
import ChainProjection.Number.Machine

/-!
# JSON text as written

Between the characters and the value stands the literal: what was written, with every member of an
object in order and repeated names kept, numbers as their digits, and strings whose escapes spell
no text (an unpaired surrogate) marked as such.  `parse` accepts exactly the grammar of JSON;
whatever depends on the reader and not on the grammar (how deep a value may nest, how large a number
may be, what a repeated name means) is left to `Literal.value?` and to readers of their own.
-/

namespace ChainProjection.Json

/-- A number as written. -/
structure NumberLiteral where
  /-- Whether a minus sign is in front. -/
  negative : Bool
  /-- The digits before the point. -/
  whole : List Nat
  /-- The digits after the point; none where there is no point. -/
  fraction : List Nat
  /-- The exponent, if one is written: whether it is negative, and its digits. -/
  exponent : Option (Bool × List Nat)
  deriving DecidableEq, Repr

/-- A JSON text as written. -/
inductive Literal where
  | null
  | bool (value : Bool)
  | number (digits : NumberLiteral)
  | string (text : Option String)
  | array (items : List Literal)
  | object (members : List (Option String × Literal))
  deriving Repr, Inhabited

/-! ### Numbers -/

/-- The number a digit stands for. -/
def digit? (c : Char) : Option Nat :=
  if '0' ≤ c ∧ c ≤ '9' then some (c.toNat - 48) else none

/-- The digits in front, and what follows them. -/
def spanDigits : List Char → List Nat × List Char
  | [] => ([], [])
  | c :: rest => match digit? c with
    | none => ([], c :: rest)
    | some d => let (ds, after) := spanDigits rest; (d :: ds, after)

/-- An exponent, if one is written; `none` where a mark has no digits behind it. -/
def scanExponent : List Char → Option (Option (Bool × List Nat) × List Char)
  | c :: rest =>
    if c = 'e' ∨ c = 'E' then
      let (negative, rest) := match rest with
        | '+' :: r => (false, r)
        | '-' :: r => (true, r)
        | r => (false, r)
      match spanDigits rest with
      | ([], _) => none
      | (ds, after) => some (some (negative, ds), after)
    else some (none, c :: rest)
  | [] => some (none, [])

/-- A fraction, if one is written; `none` where a point has no digits behind it. -/
def scanFraction : List Char → Option (List Nat × List Char)
  | '.' :: rest => match spanDigits rest with
    | ([], _) => none
    | (ds, after) => some (ds, after)
  | rest => some ([], rest)

/-- A number: no zero stands in front of another digit. -/
def scanNumber (chars : List Char) : Option (NumberLiteral × List Char) :=
  let (negative, chars) := match chars with
    | '-' :: rest => (true, rest)
    | rest => (false, rest)
  match spanDigits chars with
  | ([], _) => none
  | (0 :: _ :: _, _) => none
  | (whole, rest) =>
    (scanFraction rest).bind fun (fraction, rest) =>
      (scanExponent rest).map fun (exponent, rest) =>
        (⟨negative, whole, fraction, exponent⟩, rest)

/-! ### Strings -/

/-- The character a one-letter escape stands for. -/
def escaped? (c : Char) : Option Char :=
  match c with
  | '"' => some '"'
  | '\\' => some '\\'
  | '/' => some '/'
  | 'b' => some '\x08'
  | 'f' => some '\x0c'
  | 'n' => some '\n'
  | 'r' => some '\r'
  | 't' => some '\t'
  | _ => none

/-- The number a hexadecimal digit of either case stands for. -/
def hexDigit? (c : Char) : Option Nat :=
  if '0' ≤ c ∧ c ≤ '9' then some (c.toNat - 48)
  else if 'a' ≤ c ∧ c ≤ 'f' then some (c.toNat - 87)
  else if 'A' ≤ c ∧ c ≤ 'F' then some (c.toNat - 55)
  else none

/-- The number of four hexadecimal digits. -/
def hexQuad? (a b c d : Char) : Option Nat :=
  match hexDigit? a, hexDigit? b, hexDigit? c, hexDigit? d with
  | some a, some b, some c, some d => some (((a * 16 + b) * 16 + c) * 16 + d)
  | _, _, _, _ => none

/-- Reads a string up to its closing quote.  `lead` is the first half of a surrogate pair whose
second half must come next; a half without the other leaves the string without a text. -/
def scanString (lead : Option Nat) : List Char → Option (Option (List Char) × List Char)
  | [] => none
  | '"' :: rest => some (if lead.isSome then none else some [], rest)
  | '\\' :: 'u' :: a :: b :: c :: d :: rest =>
    match hexQuad? a b c d with
    | none => none
    | some n =>
      match lead with
      | some high =>
        if 0xDC00 ≤ n ∧ n < 0xE000 then
          (scanString none rest).map fun (text, after) =>
            (text.map (Char.ofNat (0x10000 + (high - 0xD800) * 0x400 + (n - 0xDC00)) :: ·), after)
        else (scanString none rest).map fun (_, after) => (none, after)
      | none =>
        if 0xD800 ≤ n ∧ n < 0xDC00 then scanString (some n) rest
        else if 0xDC00 ≤ n ∧ n < 0xE000 then
          (scanString none rest).map fun (_, after) => (none, after)
        else (scanString none rest).map fun (text, after) =>
          (text.map (Char.ofNat n :: ·), after)
  | '\\' :: c :: rest =>
    match escaped? c with
    | none => none
    | some e => (scanString none rest).map fun (text, after) =>
      (if lead.isSome then none else text.map (e :: ·), after)
  | c :: rest =>
    if c.toNat < 0x20 then none
    else (scanString none rest).map fun (text, after) =>
      (if lead.isSome then none else text.map (c :: ·), after)

/-! ### Values -/

/-- Drops JSON's white space. -/
def skipSpace : List Char → List Char
  | [] => []
  | c :: rest =>
    if c = ' ' ∨ c = '\n' ∨ c = '\t' ∨ c = '\r' then skipSpace rest else c :: rest

mutual

/-- Reads a value; `fuel` bounds the calls below this one. -/
def scanValue (fuel : Nat) (chars : List Char) : Option (Literal × List Char) :=
  match fuel with
  | 0 => none
  | fuel + 1 =>
    match skipSpace chars with
    | 'n' :: 'u' :: 'l' :: 'l' :: rest => some (.null, rest)
    | 't' :: 'r' :: 'u' :: 'e' :: rest => some (.bool true, rest)
    | 'f' :: 'a' :: 'l' :: 's' :: 'e' :: rest => some (.bool false, rest)
    | '"' :: rest => (scanString none rest).map fun (text, after) =>
        (.string (text.map String.ofList), after)
    | '[' :: rest =>
      match skipSpace rest with
      | ']' :: after => some (.array [], after)
      | inner => (scanItems fuel inner).map fun (items, after) => (.array items, after)
    | '\x7b' :: rest =>
      match skipSpace rest with
      | '\x7d' :: after => some (.object [], after)
      | inner => (scanMembers fuel inner).map fun (members, after) => (.object members, after)
    | rest => (scanNumber rest).map fun (digits, after) => (.number digits, after)

/-- Reads the items of an array that has one, up to its closing bracket. -/
def scanItems (fuel : Nat) (chars : List Char) : Option (List Literal × List Char) :=
  match fuel with
  | 0 => none
  | fuel + 1 =>
    match scanValue fuel chars with
    | none => none
    | some (item, rest) =>
      match skipSpace rest with
      | ']' :: after => some ([item], after)
      | ',' :: after => (scanItems fuel after).map fun (items, after) => (item :: items, after)
      | _ => none

/-- Reads the members of an object that has one, up to its closing brace. -/
def scanMembers (fuel : Nat) (chars : List Char) :
    Option (List (Option String × Literal) × List Char) :=
  match fuel with
  | 0 => none
  | fuel + 1 =>
    match skipSpace chars with
    | '"' :: rest =>
      match scanString none rest with
      | none => none
      | some (name, rest) =>
        match skipSpace rest with
        | ':' :: rest =>
          match scanValue fuel rest with
          | none => none
          | some (value, rest) =>
            let entry := (name.map String.ofList, value)
            match skipSpace rest with
            | '\x7d' :: after => some ([entry], after)
            | ',' :: after =>
              (scanMembers fuel after).map fun (members, after) => (entry :: members, after)
            | _ => none
        | _ => none
    | _ => none

end

/-- Reads a text that is one value with white space around it.  Each character allows two calls,
which is more than any value takes. -/
def parse (text : String) : Option Literal :=
  let chars := text.toList
  match scanValue (2 * chars.length + 2) chars with
  | some (literal, rest) => if skipSpace rest = [] then some literal else none
  | none => none

/-! ### Values of literals -/

/-- Adds digits to a number until one would take it past 64 bits; the digits that are left. -/
def accumulate (number : Nat) : List Nat → Nat × List Nat
  | [] => (number, [])
  | d :: rest =>
    if number * 10 + d < UInt64.size then accumulate (number * 10 + d) rest else (number, d :: rest)

/-- The number digits spell. -/
def ofDigits (digits : List Nat) : Nat := digits.foldl (fun n d => n * 10 + d) 0

/-- The value of a number as written: an integer if it is written as one and has a 64-bit form,
else the floating point number its leading digits and exponent give. -/
def NumberLiteral.value? (n : NumberLiteral) : Option Json :=
  let (number, dropped) := accumulate 0 n.whole
  let float (significand : Nat) (exponent : Int) : Option Json :=
    (Binary64.ofDecimal significand exponent).map fun m => .float (.ofMagnitude n.negative m)
  if n.fraction = [] ∧ n.exponent = none ∧ dropped = [] then
    if !n.negative then some (.int number)
    else if number = 0 ∨ signedLimit < number then float number 0
    else some (.int (-number))
  else
    let (significand, ignored) := accumulate number n.fraction
    let shift : Int := dropped.length - (n.fraction.length - ignored.length : Nat)
    let written : Int := match n.exponent with
      | none => 0
      | some (negative, digits) => if negative then -(ofDigits digits : Int) else ofDigits digits
    float significand (shift + written)

mutual

/-- The value of a literal; `depth` is how many levels of arrays and objects may still be opened,
plus one.  A number past the floating point range and a string without a text have no value. -/
def Literal.value? (depth : Nat) : Literal → Option Json
  | .null => some .null
  | .bool b => some (.bool b)
  | .number digits => digits.value?
  | .string text => text.map .string
  | .array items =>
    if depth ≤ 1 then none else (Literal.values? (depth - 1) items).map .array
  | .object members =>
    if depth ≤ 1 then none else (Literal.memberValues? (depth - 1) members).map ofMembers

/-- The values of a list of literals. -/
def Literal.values? (depth : Nat) : List Literal → Option (List Json)
  | [] => some []
  | item :: rest =>
    match Literal.value? depth item, Literal.values? depth rest with
    | some value, some values => some (value :: values)
    | _, _ => none

/-- The names and values of a list of members. -/
def Literal.memberValues? (depth : Nat) :
    List (Option String × Literal) → Option (List (String × Json))
  | [] => some []
  | (name, literal) :: rest =>
    match name, Literal.value? depth literal, Literal.memberValues? depth rest with
    | some name, some value, some values => some ((name, value) :: values)
    | _, _, _ => none

end

/-- How many levels a document may nest, plus one. -/
def depthLimit : Nat := 128

/-- The value of a JSON text. -/
def ofText? (text : String) : Option Json :=
  (parse text).bind (Literal.value? depthLimit)

end ChainProjection.Json
