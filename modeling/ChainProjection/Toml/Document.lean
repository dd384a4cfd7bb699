import ChainProjection.Toml.Basic
import ChainProjection.Toml.Number
import ChainProjection.Toml.Quoted

/-!
# The text of TOML documents

A document is read line by line: a header opens a table, a key with a value adds to the table that
is open, and either may be followed by a comment.  Values that span lines are arrays and blocks of
text; inside braces everything stands on one line.  A document that defines a key twice, or
reaches into a table that is complete, has no value.
-/

namespace ChainProjection.Toml

/-! ### Filler -/

/-- Drops a comment, if one is in front; it ends before the first character that cannot be in it. -/
def skipComment : List Char → List Char
  | '#' :: rest => rest.dropWhile isPrintable
  | chars => chars

/-- What follows the end of a line, before which there may be blanks and a comment. -/
def scanLineEnd (chars : List Char) : Option (List Char) :=
  match skipComment (skipSpaces chars) with
  | [] => some []
  | rest => dropLineEnd? rest

/-- Drops blanks, line ends and comments between the items of an array; a comment must end with its
line. -/
def skipFiller : Bool → List Char → Option (List Char)
  | false, [] => some []
  | true, [] => none
  | _, '\n' :: rest => skipFiller false rest
  | _, '\r' :: '\n' :: rest => skipFiller false rest
  | true, c :: rest => if isPrintable c then skipFiller true rest else none
  | false, '#' :: rest => skipFiller true rest
  | false, c :: rest => if c = ' ' ∨ c = '\t' then skipFiller false rest else some (c :: rest)

/-! ### Keys -/

/-- Whether a character may stand in a name without quotes. -/
def isBare (c : Char) : Bool := c.isAlphanum || c = '-' || c = '_'

/-- One name of a key. -/
def scanName : List Char → Option (String × List Char)
  | '"' :: rest => (scanBasic rest).map fun (text, after) => (String.ofList text, after)
  | '\x27' :: rest => (scanLiteral rest).map fun (text, after) => (String.ofList text, after)
  | chars =>
    match chars.takeWhile isBare with
    | [] => none
    | name => some (String.ofList name, chars.dropWhile isBare)

/-- Names with dots between them and blanks around them; `fuel` bounds their number. -/
def scanNames (fuel : Nat) (chars : List Char) : Option (List String × List Char) :=
  match fuel with
  | 0 => none
  | fuel + 1 =>
    (scanName (skipSpaces chars)).bind fun (name, rest) =>
      match skipSpaces rest with
      | '.' :: rest => (scanNames fuel rest).map fun (names, after) => (name :: names, after)
      | rest => some ([name], rest)

/-- How many names a key may have, and how many brackets and braces may be open at a time, plus
one. -/
def nestingLimit : Nat := 80

/-- A key with the blanks around it. -/
def scanKey (chars : List Char) : Option (Key × List Char) :=
  (scanNames chars.length chars).bind fun (names, rest) =>
    match names.getLast? with
    | none => none
    | some name =>
      if names.length < nestingLimit then some (⟨names.dropLast, name⟩, rest) else none

/-! ### Values -/

/-- A number or a moment.  What reads as a moment is one, else what reads as a floating point
number. -/
def scanNumber (chars : List Char) : Option (Value × List Char) :=
  match scanMoment chars with
  | some (text, rest) => some (.moment text, rest)
  | none =>
    match scanFloat chars <|> scanNamedFloat chars with
    | some (text, rest) => some (.float text, rest)
    | none => (scanInteger chars).map fun (n, rest) => (.integer n, rest)

mutual

/-- A value; `levels` more brackets and braces may be opened, and `fuel` bounds the calls below this
one. -/
def scanValue (fuel levels : Nat) (chars : List Char) : Option (Value × List Char) :=
  match fuel with
  | 0 => none
  | fuel + 1 =>
    match chars with
    | 't' :: 'r' :: 'u' :: 'e' :: rest => some (.boolean true, rest)
    | 'f' :: 'a' :: 'l' :: 's' :: 'e' :: rest => some (.boolean false, rest)
    | '[' :: rest =>
      if levels = 0 then none
      else (scanItems fuel (levels - 1) rest).map fun (items, after) => (.array items, after)
    | '\x7b' :: rest =>
      if levels = 0 then none
      else
        match skipSpaces rest with
        | '\x7d' :: after => some (.table .inline [], after)
        | inner =>
          (scanMembers fuel (levels - 1) [] inner).map fun (members, after) =>
            (.table .inline members, after)
    | '"' :: _ | '\x27' :: _ =>
      (scanString chars).map fun (text, after) => (.string (String.ofList text), after)
    | _ => scanNumber chars

/-- The items of an array up to its closing bracket; a comma may follow the last. -/
def scanItems (fuel levels : Nat) (chars : List Char) : Option (List Value × List Char) :=
  match fuel with
  | 0 => none
  | fuel + 1 =>
    match skipFiller false chars with
    | none => none
    | some (']' :: after) => some ([], after)
    | some inner =>
      match scanValue fuel levels inner with
      | none => none
      | some (item, rest) =>
        match skipFiller false rest with
        | some (']' :: after) => some ([item], after)
        | some (',' :: rest) =>
          (scanItems fuel levels rest).map fun (items, after) => (item :: items, after)
        | _ => none

/-- The members of a table between braces, added to those so far, up to the closing brace. -/
def scanMembers (fuel levels : Nat) (members : Members) (chars : List Char) :
    Option (Members × List Char) :=
  match fuel with
  | 0 => none
  | fuel + 1 =>
    match scanKey chars with
    | some (key, '=' :: rest) =>
      match scanValue fuel levels (skipSpaces rest) with
      | none => none
      | some (value, rest) =>
        match members.assign key value .inline with
        | none => none
        | some members =>
          match skipSpaces rest with
          | '\x7d' :: after => some (members, after)
          | ',' :: rest => scanMembers fuel levels members rest
          | _ => none
    | _ => none

end

/-! ### Documents -/

/-- What a line with something on it does. -/
inductive Line where
  /-- Opens the table of a header. -/
  | table (key : Key)
  /-- Opens a row of an array of tables. -/
  | row (key : Key)
  /-- Adds a value to the table that is open. -/
  | entry (key : Key) (value : Value)

/-- A header or an entry without the end of its line.  A value takes at most two calls for each of
its characters. -/
def scanLine (chars : List Char) : Option (Line × List Char) :=
  match chars with
  | '[' :: '[' :: rest =>
    match scanKey rest with
    | some (key, ']' :: ']' :: after) => some (.row key, after)
    | _ => none
  | '[' :: rest =>
    match scanKey rest with
    | some (key, ']' :: after) => some (.table key, after)
    | _ => none
  | _ =>
    match scanKey chars with
    | some (key, '=' :: rest) =>
      (scanValue (2 * chars.length + 2) (nestingLimit - 1) (skipSpaces rest)).map
        fun (value, after) => (.entry key value, after)
    | _ => none

/-- All names of a key. -/
def Key.names (key : Key) : List String := key.path ++ [key.name]

/-- Adds what a line does to the document; the header that is open then comes with it. -/
def Line.addTo (header : List String) (document : Members) :
    Line → Option (List String × Members)
  | .table key => (document.openTable key).map (key.names, ·)
  | .row key => (document.openRow key).map (key.names, ·)
  | .entry key value => (document.assignUnder header key value).map (header, ·)

/-- Adds the lines of a text to a document; `fuel` bounds their number. -/
def scanLines (fuel : Nat) (header : List String) (document : Members) (chars : List Char) :
    Option Members :=
  match fuel with
  | 0 => none
  | fuel + 1 =>
    match skipSpaces chars with
    | [] => some document
    | c :: rest =>
      if c = '#' ∨ c = '\n' ∨ c = '\r' then
        (scanLineEnd (c :: rest)).bind (scanLines fuel header document)
      else
        (scanLine (c :: rest)).bind fun (line, rest) =>
          (line.addTo header document).bind fun (header, document) =>
            (scanLineEnd rest).bind (scanLines fuel header document)

/-- The document a text spells; a byte order mark in front does not count. -/
def parse (text : String) : Option Members :=
  let chars := match text.toList with
    | '\uFEFF' :: rest => rest
    | chars => chars
  scanLines (chars.length + 1) [] [] chars

end ChainProjection.Toml
