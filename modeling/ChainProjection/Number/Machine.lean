/-!
# Machine numbers

The limits of the signed machine words that the wire, the storage and configuration texts use; those
of the unsigned ones are in the core library.  And the 64-bit floating point format, in exact
arithmetic.  A finite number is its sign with `significand · 2 ^ scale`; `roundRatio` gives the
number nearest to a quotient of naturals, and a tie goes to the even significand.  Nothing here uses
machine arithmetic, so every step can be reasoned about in `Nat`.
-/

namespace ChainProjection

/-! ### Signed words -/

/-- One past the greatest signed 64-bit integer. -/
def signedLimit : Nat := 9223372036854775808

/-- A natural number that is a signed 64-bit integer too. -/
def isSigned (n : Nat) : Bool := n < signedLimit

/-- A signed 64-bit integer that is not negative is one below the limit. -/
theorem isSigned_iff {n : Nat} : isSigned n = true ↔ n < signedLimit :=
  decide_eq_true_iff

/-! ### Floating point -/

/-- A number of the 64-bit format, by its bits. -/
structure Binary64 where
  /-- Sign, exponent field and fraction field. -/
  bits : UInt64
  deriving DecidableEq, Repr

namespace Binary64

/-- The bit of the sign, as a number. -/
def signBit : Nat := 9223372036854775808

/-- The leading bit of a significand, which is not written. -/
def hiddenBit : Nat := 4503599627370496

/-- Whether the sign bit is set. -/
def isNegative (x : Binary64) : Bool := signBit ≤ x.bits.toNat

/-- The bits without the sign. -/
def magnitude (x : Binary64) : Nat := x.bits.toNat % signBit

/-- The significand of a magnitude as a natural number. -/
def significand (magnitude : Nat) : Nat :=
  if magnitude < hiddenBit then magnitude else hiddenBit + magnitude % hiddenBit

/-- The power of two that goes with `significand`. -/
def scale (magnitude : Nat) : Int :=
  if magnitude < hiddenBit then -1074 else (magnitude / hiddenBit : Nat) - 1075

/-- A magnitude with a sign. -/
def ofMagnitude (negative : Bool) (magnitude : Nat) : Binary64 :=
  ⟨UInt64.ofNat (if negative then signBit + magnitude else magnitude)⟩

/-- The value of a magnitude as a numerator and a denominator. -/
def ratio (magnitude : Nat) : Nat × Nat :=
  let e := scale magnitude
  (significand magnitude * Nat.pow 2 e.toNat, Nat.pow 2 (-e).toNat)

/-- The integer nearest to a quotient; a tie goes to the even one. -/
def roundQuotient (num den : Nat) : Nat :=
  let q := num / den
  let r := num % den
  if 2 * r < den then q else if den < 2 * r then q + 1 else q + q % 2

/-- The magnitude nearest to `num / den`, or `none` where that is past the largest finite one. -/
def roundRatio (num den : Nat) : Option Nat :=
  if num = 0 then some 0
  else
    let quotientAt (e : Int) : Nat × Nat := (num * Nat.pow 2 (-e).toNat, den * Nat.pow 2 e.toNat)
    let guess : Int := (num.log2 : Int) - den.log2 - 52
    let (n, d) := quotientAt guess
    let e := max (if n / d < hiddenBit then guess - 1 else guess) (-1074)
    let (n, d) := quotientAt e
    let magnitude := (e + 1074).toNat * hiddenBit + roundQuotient n d
    if magnitude < 2047 * hiddenBit then some magnitude else none

/-- The magnitude of a power of ten up to `10 ^ 308`. -/
def powerOfTen (exponent : Nat) : Nat := (roundRatio (Nat.pow 10 exponent) 1).getD 0

/-- The rounded product of two magnitudes. -/
def multiply (x y : Nat) : Option Nat :=
  let (a, b) := ratio x
  let (c, d) := ratio y
  roundRatio (a * c) (b * d)

/-- The rounded quotient of two magnitudes. -/
def divide (x y : Nat) : Option Nat :=
  let (a, b) := ratio x
  let (c, d) := ratio y
  roundRatio (a * d) (b * c)

/-- Divides by `10 ^ 308` while the exponent is below `-308` and the magnitude is not zero; `steps`
bounds the divisions, of which two bring any 64-bit integer down to zero. -/
def scaleDown (steps : Nat) (magnitude : Nat) (exponent : Int) : Nat :=
  if exponent ≥ -308 then (divide magnitude (powerOfTen (-exponent).toNat)).getD 0
  else match steps with
    | 0 => 0
    | steps + 1 => scaleDown steps ((divide magnitude (powerOfTen 308)).getD 0) (exponent + 308)

/-- The magnitude read from a decimal `significand · 10 ^ exponent`.  The significand is rounded,
then scaled by a rounded power of ten, so the result can differ from the nearest number in its last
place.  `none` where the scaled number is past the largest finite one. -/
def ofDecimal (significand : Nat) (exponent : Int) : Option Nat :=
  (roundRatio significand 1).bind fun m =>
    if m = 0 then some 0
    else if exponent < 0 then some (scaleDown 3 m exponent)
    else if exponent ≤ 308 then multiply m (powerOfTen exponent.toNat)
    else none

end Binary64

end ChainProjection
