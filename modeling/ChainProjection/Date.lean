import ChainProjection.Text.Characters

/-!
# Dates

The proleptic Gregorian calendar, and the two ways in which a payload may write a date: a full time
stamp with an offset (RFC 3339), or a day alone, which stands for its first instant in universal
time.  Either gives unix milliseconds, rounded down.
-/

namespace ChainProjection.Date

/-! ### The calendar -/

/-- Whether a year has 366 days. -/
def isLeap (year : Int) : Bool :=
  year % 4 == 0 && (year % 100 != 0 || year % 400 == 0)

/-- The number of days of a month. -/
def daysInMonth (year : Int) (month : Nat) : Nat :=
  match month with
  | 2 => if isLeap year then 29 else 28
  | 4 | 6 | 9 | 11 => 30
  | _ => 31

/-- How many leap years there are from year 1 through `year`; negative before. -/
def leapYearsThrough (year : Int) : Int := year / 4 - year / 100 + year / 400

/-- The days of a year before a month. -/
def daysBeforeMonth (year : Int) : Nat → Nat
  | 0 | 1 => 0
  | month + 2 => daysBeforeMonth year (month + 1) + daysInMonth year (month + 1)

/-- A day as the number of days since the first of January 1970. -/
def dayNumber (year : Int) (month day : Nat) : Int :=
  365 * (year - 1970) + (leapYearsThrough (year - 1) - leapYearsThrough 1969) +
    daysBeforeMonth year month + day - 1

/-- Whether there is such a day. -/
def isDay (year : Int) (month day : Nat) : Bool :=
  1 ≤ month && month ≤ 12 && 1 ≤ day && day ≤ daysInMonth year month

/-! ### Reading -/

/-- The digits in front, `limit` of them at most, and what follows. -/
def takeDigits : Nat → List Char → List Nat × List Char
  | 0, chars => ([], chars)
  | _ + 1, [] => ([], [])
  | limit + 1, c :: rest =>
    if '0' ≤ c ∧ c ≤ '9' then
      let (ds, after) := takeDigits limit rest
      ((c.toNat - 48) :: ds, after)
    else ([], c :: rest)

/-- The number digits spell. -/
def ofDigits (digits : List Nat) : Nat := digits.foldl (fun n d => n * 10 + d) 0

/-- A number of `least` to `most` digits. -/
def readNumber (least most : Nat) (chars : List Char) : Option (Nat × List Char) :=
  let (digits, rest) := takeDigits most chars
  if digits.length < least then none else some (ofDigits digits, rest)

/-- A number of two digits that is at most `most`. -/
def readPair (most : Nat) (chars : List Char) : Option (Nat × List Char) :=
  (readNumber 2 2 chars).bind fun (n, rest) => if n ≤ most then some (n, rest) else none

/-- Drops a character that must be there. -/
def dropChar (c : Char) : List Char → Option (List Char)
  | d :: rest => if d = c then some rest else none
  | [] => none

/-- The fraction of a second, if one is written, in milliseconds rounded down. -/
def readFraction : List Char → Option (Nat × List Char)
  | '.' :: rest =>
    match takeDigits rest.length rest with
    | ([], _) => none
    | (digits, after) =>
      some (ofDigits (digits.take 3) * Nat.pow 10 (3 - (digits.take 3).length), after)
  | rest => some (0, rest)

/-- An offset from universal time in minutes; the minus sign may also be U+2212. -/
def readOffset : List Char → Option (Int × List Char)
  | [] => none
  | c :: rest =>
    if c = 'Z' ∨ c = 'z' then some (0, rest)
    else if c = '+' ∨ c = '-' ∨ c = '\u2212' then do
      let (hours, rest) ← readPair 23 rest
      let rest ← dropChar ':' rest
      let (minutes, rest) ← readPair 59 rest
      let offset : Int := hours * 60 + minutes
      return (if c = '+' then offset else -offset, rest)
    else none

/-- A full time stamp in unix milliseconds.  Second 60 is the first of the next minute. -/
def readInstant (chars : List Char) : Option Int := do
  let (year, rest) ← readNumber 4 4 chars
  let rest ← dropChar '-' rest
  let (month, rest) ← readPair 12 rest
  let rest ← dropChar '-' rest
  let (day, rest) ← readPair 31 rest
  let rest ← match rest with
    | c :: rest => if c = 'T' ∨ c = 't' ∨ c = ' ' then some rest else none
    | [] => none
  let (hour, rest) ← readPair 23 rest
  let rest ← dropChar ':' rest
  let (minute, rest) ← readPair 59 rest
  let rest ← dropChar ':' rest
  let (second, rest) ← readPair 60 rest
  let (millis, rest) ← readFraction rest
  let (offset, rest) ← readOffset rest
  if isDay year month day ∧ rest = [] then
    let minutes : Int := dayNumber year month day * 1440 + hour * 60 + minute - offset
    return (minutes * 60 + second) * 1000 + millis
  else none

/-- The first year that has a day number. -/
def firstYear : Int := -262143

/-- The last year that has a day number. -/
def lastYear : Int := 262142

/-- A year: four digits at most, or any number of digits behind a sign. -/
def readYear (chars : List Char) : Option (Int × List Char) :=
  match chars with
  | '-' :: rest => (readNumber 1 rest.length rest).map fun (n, after) => (-(n : Int), after)
  | '+' :: rest => (readNumber 1 rest.length rest).map fun (n, after) => ((n : Int), after)
  | _ => (readNumber 1 4 chars).map fun (n, after) => ((n : Int), after)

/-- Drops white space. -/
def skipBlank (chars : List Char) : List Char := chars.dropWhile Text.isBlank

/-- A day alone, in unix milliseconds of its first instant.  White space may stand before each of
its numbers. -/
def readDay (chars : List Char) : Option Int := do
  let (year, rest) ← readYear (skipBlank chars)
  let rest ← dropChar '-' rest
  let (month, rest) ← readNumber 1 2 (skipBlank rest)
  let rest ← dropChar '-' rest
  let (day, rest) ← readNumber 1 2 (skipBlank rest)
  if firstYear ≤ year ∧ year ≤ lastYear ∧ isDay year month day ∧ rest = [] then
    return dayNumber year month day * 86400000
  else none

/-- The unix milliseconds a text stands for: a time stamp, or else a day. -/
def parse (text : String) : Option Int :=
  match readInstant text.toList with
  | some millis => some millis
  | none => readDay text.toList

end ChainProjection.Date
