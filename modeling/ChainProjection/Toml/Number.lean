import ChainProjection.Date
import ChainProjection.Hex
import ChainProjection.Number.Machine

/-!
# Numbers and moments of TOML

Digits may have single underscores between them.  An integer is decimal, without a zero in front, or
hexadecimal, octal or binary without a sign, and fits in 64 bits with a sign.  A floating point
number has a fraction or an exponent or is one of the names; one that rounds to positive infinity is
refused.  A moment is a day, a time of day, or both with or without an offset.

Every scanner returns what follows.
-/

namespace ChainProjection.Toml

/-! ### Digits -/

/-- The number a digit stands for. -/
def digit? (base : Nat) (c : Char) : Option Nat :=
  (Hex.digitValue? c.toNat).filter (· < base)

/-- Digits with single underscores between them. -/
def scanDigits (base : Nat) : List Char → List Nat × List Char
  | [] => ([], [])
  | c :: '_' :: rest =>
    match digit? base c with
    | none => ([], c :: '_' :: rest)
    | some d =>
      match scanDigits base rest with
      | ([], _) => ([d], '_' :: rest)
      | (ds, after) => (d :: ds, after)
  | c :: rest =>
    match digit? base c with
    | none => ([], c :: rest)
    | some d =>
      let (ds, after) := scanDigits base rest
      (d :: ds, after)

/-- The number digits spell. -/
def ofDigits (base : Nat) (digits : List Nat) : Nat := digits.foldl (fun n d => n * base + d) 0

/-- A sign, if one is written: whether it is a minus. -/
def scanSign : List Char → Bool × List Char
  | '-' :: rest => (true, rest)
  | '+' :: rest => (false, rest)
  | rest => (false, rest)

/-- Decimal digits without a zero in front of others. -/
def scanWhole : List Char → Option (List Nat × List Char)
  | '0' :: rest => some ([0], rest)
  | chars =>
    match scanDigits 10 chars with
    | ([], _) => none
    | (ds, after) => some (ds, after)

/-! ### Integers -/

/-- Digits of a base as an integer of 64 bits with a sign. -/
def scanRadix (base : Nat) (chars : List Char) : Option (Int × List Char) :=
  match scanDigits base chars with
  | ([], _) => none
  | (ds, after) => if isSigned (ofDigits base ds) then some (ofDigits base ds, after) else none

/-- A decimal integer. -/
def scanDecimal (chars : List Char) : Option (Int × List Char) :=
  let (negative, chars) := scanSign chars
  (scanWhole chars).bind fun (ds, after) =>
    let n := ofDigits 10 ds
    if negative then (if n ≤ signedLimit then some (-n, after) else none)
    else if isSigned n then some (n, after) else none

/-- An integer. -/
def scanInteger : List Char → Option (Int × List Char)
  | '0' :: 'x' :: rest => scanRadix 16 rest
  | '0' :: 'o' :: rest => scanRadix 8 rest
  | '0' :: 'b' :: rest => scanRadix 2 rest
  | chars => scanDecimal chars

/-! ### Floating point numbers -/

/-- The digits behind a point; none where no point with digits is written. -/
def scanFraction : List Char → List Nat × List Char
  | '.' :: rest =>
    match scanDigits 10 rest with
    | ([], _) => ([], '.' :: rest)
    | (ds, after) => (ds, after)
  | chars => ([], chars)

/-- An exponent, if one is written. -/
def scanExponent : List Char → Option Int × List Char
  | [] => (none, [])
  | c :: rest =>
    if c = 'e' ∨ c = 'E' then
      let (negative, digits) := scanSign rest
      match scanDigits 10 digits with
      | ([], _) => (none, c :: rest)
      | (ds, after) =>
        let n : Int := ofDigits 10 ds
        (some (if negative then -n else n), after)
    else (none, c :: rest)

/-- Whether `significand · 10 ^ exponent` rounds to infinity.  The number of digits decides far
cases. -/
def isInfinite (significand : Nat) (exponent : Int) : Bool :=
  let digits : Int := (Nat.toDigits 10 significand).length
  if significand = 0 ∨ digits + exponent < 300 then false
  else if 320 < digits + exponent then true
  else
    let numerator := significand * Nat.pow 10 exponent.toNat
    (Binary64.roundRatio numerator (Nat.pow 10 (-exponent).toNat)).isNone

/-- The characters in front of the rest. -/
def written (chars rest : List Char) : String :=
  String.ofList (chars.take (chars.length - rest.length))

/-- A floating point number in digits. -/
def scanFloat (chars : List Char) : Option (String × List Char) := do
  let (negative, rest) := scanSign chars
  let (whole, rest) ← scanWhole rest
  let (fraction, rest) := scanFraction rest
  let (exponent, rest) := scanExponent rest
  if fraction = [] ∧ exponent = none then none
  else
    let shift : Int := exponent.getD 0 - fraction.length
    if !negative && isInfinite (ofDigits 10 (whole ++ fraction)) shift then none
    else some (written chars rest, rest)

/-- A floating point number by name. -/
def scanNamedFloat (chars : List Char) : Option (String × List Char) :=
  match (scanSign chars).2 with
  | 'i' :: 'n' :: 'f' :: rest => some (written chars rest, rest)
  | 'n' :: 'a' :: 'n' :: rest => some (written chars rest, rest)
  | _ => none

/-! ### Moments -/

/-- A day; what follows it. -/
def scanDay (chars : List Char) : Option (List Char) := do
  let (year, rest) ← Date.readNumber 4 4 chars
  let rest ← Date.dropChar '-' rest
  let (month, rest) ← Date.readPair 12 rest
  let rest ← Date.dropChar '-' rest
  let (day, rest) ← Date.readPair 31 rest
  if Date.isDay year month day then some rest else none

/-- A time of day; what follows it. -/
def scanTime (chars : List Char) : Option (List Char) := do
  let (_, rest) ← Date.readPair 23 chars
  let rest ← Date.dropChar ':' rest
  let (_, rest) ← Date.readPair 59 rest
  let rest ← Date.dropChar ':' rest
  let (_, rest) ← Date.readPair 60 rest
  let (_, rest) ← Date.readFraction rest
  some rest

/-- An offset, if one is written; what follows it. -/
def skipOffset (chars : List Char) : List Char :=
  match chars with
  | '\u2212' :: _ => chars
  | _ => ((Date.readOffset chars).map Prod.snd).getD chars

/-- A time of day behind a day, with or without an offset, if one is written; what follows it. -/
def skipTime (chars : List Char) : List Char :=
  match chars with
  | c :: rest =>
    if c = 'T' ∨ c = 't' ∨ c = ' ' then ((scanTime rest).map skipOffset).getD chars else chars
  | [] => []

/-- A moment. -/
def scanMoment (chars : List Char) : Option (String × List Char) :=
  match scanDay chars with
  | some rest => some (written chars (skipTime rest), skipTime rest)
  | none => (scanTime chars).map fun rest => (written chars rest, rest)

end ChainProjection.Toml
