import ChainProjection.Text.Characters

/-!
# Hexadecimal text

Bytes as pairs of hexadecimal digits.  `encode` writes lower-case digits; `decode` reads digits of
either case and works on the bytes of the text, so that a position in an error counts bytes and
a stray byte is shown as the character of its number.
-/

namespace ChainProjection.Hex

/-- Why a text is no sequence of hexadecimal digit pairs. -/
inductive Error where
  | oddLength
  | invalidDigit (byte : UInt8) (position : Nat)
  deriving DecidableEq, Repr

/-- The words of an error. -/
def Error.message : Error → String
  | .oddLength => "Odd number of digits"
  | .invalidDigit byte position =>
    "Invalid character " ++ Text.quotedLetter (Char.ofNat byte.toNat) ++ " at position " ++
      toString position

/-- The words of an error with what it is about. -/
def Error.report (error : Error) : String := "Invalid hex encoding: " ++ error.message

/-- The lower-case digit of a number below sixteen. -/
def digit (n : Nat) : Char :=
  if n < 10 then Char.ofNat (n + 48) else Char.ofNat (n + 87)

/-- The number a digit stands for. -/
def digitValue? (byte : Nat) : Option Nat :=
  if 48 ≤ byte ∧ byte ≤ 57 then some (byte - 48)
  else if 65 ≤ byte ∧ byte ≤ 70 then some (byte - 55)
  else if 97 ≤ byte ∧ byte ≤ 102 then some (byte - 87)
  else none

/-- Two digits for each byte. -/
def encode (bytes : List UInt8) : List Char :=
  bytes.flatMap fun b => [digit (b.toNat / 16), digit (b.toNat % 16)]

/-- Reads digit pairs; `position` is the place of the first digit. -/
def decodePairs (position : Nat) : List UInt8 → Except Error (List UInt8)
  | [] => .ok []
  | [_] => .error .oddLength
  | high :: low :: rest =>
    match digitValue? high.toNat with
    | none => .error (.invalidDigit high position)
    | some h =>
      match digitValue? low.toNat with
      | none => .error (.invalidDigit low (position + 1))
      | some l => (decodePairs (position + 2) rest).map (UInt8.ofNat (h * 16 + l) :: ·)

/-- Reads a sequence of digit pairs; an odd number of digits is reported before any bad digit. -/
def decode (digits : List UInt8) : Except Error (List UInt8) :=
  if digits.length % 2 = 1 then .error .oddLength else decodePairs 0 digits

end ChainProjection.Hex
