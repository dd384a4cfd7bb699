import ChainProjection.Number.Machine

/-!
# Shortest decimal text of a number

The digits are those of the coarsest power of ten of which some multiple still reads back as the
number; of the two multiples beside the number the nearer one is taken, and of two equally near the
even one.  The text is positional from `10 ^ -5` up to `10 ^ 16` and always shows a fraction;
outside that range it has one digit before the point and a signed exponent.
-/

namespace ChainProjection.Binary64

/-- The multiple of `10 ^ power` beside the magnitude that reads back as it, if there is one.  All
lengths are taken in quarters of the last place, so the ends of the interval are integers. -/
def multipleAt? (magnitude : Nat) (power : Int) : Option Nat :=
  let m := significand magnitude
  let e := scale magnitude - 2
  let below := if m = hiddenBit ∧ 2 * hiddenBit ≤ magnitude then 1 else 2
  let unit := Nat.pow 10 power.toNat * Nat.pow 2 (-e).toNat
  let quarter := Nat.pow 2 e.toNat * Nat.pow 10 (-power).toNat
  let value := 4 * m * quarter
  let low := (4 * m - below) * quarter
  let high := (4 * m + 2) * quarter
  let fits (c : Nat) : Bool :=
    if m % 2 = 0 then low ≤ c * unit && c * unit ≤ high else low < c * unit && c * unit < high
  let c := value / unit
  let downGap := value - c * unit
  let upGap := (c + 1) * unit - value
  match fits c && c != 0, fits (c + 1) with
  | false, false => none
  | true, false => some c
  | false, true => some (c + 1)
  | true, true =>
    some (if downGap < upGap then c else if upGap < downGap then c + 1 else c + c % 2)

/-- Searches downward from `10 ^ (steps - 343)` for the coarsest power that works. -/
def shortestFrom (magnitude : Nat) : Nat → Nat × Int
  | 0 => (0, 0)
  | steps + 1 =>
    let power : Int := (steps : Int) - 343
    match multipleAt? magnitude power with
    | some c => (c, power)
    | none => shortestFrom magnitude steps

/-- The shortest digits of a magnitude other than zero, and the power of ten of the last one. -/
def shortest (magnitude : Nat) : Nat × Int := shortestFrom magnitude 653

/-- The text of digits whose decimal point stands after `point` of them. -/
def placePoint (digits : List Char) (point : Int) : List Char :=
  let count := (digits.length : Int)
  if count ≤ point ∧ point ≤ 16 then
    digits ++ List.replicate (point - count).toNat '0' ++ ['.', '0']
  else if 0 < point ∧ point ≤ 16 then
    digits.take point.toNat ++ '.' :: digits.drop point.toNat
  else if -5 < point ∧ point ≤ 0 then
    ['0', '.'] ++ List.replicate (-point).toNat '0' ++ digits
  else
    let exponent := point - 1
    let sign := if exponent < 0 then '-' else '+'
    let fraction := match digits.drop 1 with
      | [] => []
      | rest => '.' :: rest
    digits.take 1 ++ fraction ++ 'e' :: sign :: (toString exponent.natAbs).toList

/-- The text of a finite number. -/
def render (x : Binary64) : String :=
  let sign := if x.isNegative then ['-'] else []
  let text :=
    if x.magnitude = 0 then ['0', '.', '0']
    else
      let (c, power) := shortest x.magnitude
      let digits := (toString c).toList
      placePoint digits (digits.length + power)
  String.ofList (sign ++ text)

end ChainProjection.Binary64
