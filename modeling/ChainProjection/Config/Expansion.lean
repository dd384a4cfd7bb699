/-!
# Placeholders in configuration texts

A configuration text may name variables of the environment as a dollar sign with the name in braces.
They are replaced by their values before the text is read as a document, and what a value brings in
is not looked at again.  A comment keeps its placeholders.

Comments are told from code line by line: a number sign outside quotes starts one.  The quotes of a
line are those of strings on one line, so inside a block of text each line is judged by its own
quotes.
-/

namespace ChainProjection.Config

/-! ### Code and comments -/

/-- Where in a line a character stands. -/
inductive Place where
  /-- Outside strings. -/
  | code
  /-- In a string with escapes; `escaped` says that a backslash is in front. -/
  | basic (escaped : Bool)
  /-- In a string without escapes. -/
  | literal
  deriving DecidableEq, Repr

/-- The place behind a character. -/
def Place.next : Place → Char → Place
  | .code, c => if c = '"' then .basic false else if c = '\x27' then .literal else .code
  | .basic true, _ => .basic false
  | .basic false, c => if c = '\\' then .basic true else if c = '"' then .code else .basic false
  | .literal, c => if c = '\x27' then .code else .literal

/-- Splits what is left of a line, from a place on, into code and comment. -/
def splitFrom (place : Place) : List Char → List Char × List Char
  | [] => ([], [])
  | c :: rest =>
    if place = .code ∧ c = '#' then ([], c :: rest)
    else
      let (code, comment) := splitFrom (place.next c) rest
      (c :: code, comment)

/-- Splits a line into code and comment. -/
def splitComment (line : List Char) : List Char × List Char := splitFrom .code line

/-! ### Expansion -/

/-- The values of the variables that are set. -/
abbrev Environment := String → Option String

/-- Why a text cannot be expanded. -/
inductive ExpansionError where
  /-- A placeholder does not end within its code. -/
  | unclosed (line : Nat)
  /-- A placeholder names nothing. -/
  | unnamed (line : Nat)
  /-- A variable is not set. -/
  | unset (name : String) (line : Nat)
  deriving DecidableEq, Repr

/-- The words of an expansion error. -/
def ExpansionError.message : ExpansionError → String
  | .unclosed line =>
    "Unclosed environment variable placeholder on line " ++ toString line
  | .unnamed line => "Empty environment variable name on line " ++ toString line
  | .unset name line =>
    "Environment variable '" ++ name ++ "' is not set (referenced on line " ++ toString line ++ ")"

/-- A part of code. -/
inductive Piece where
  /-- A character that stands for itself. -/
  | character (c : Char)
  /-- A placeholder with the name between its braces. -/
  | placeholder (name : List Char)
  /-- A placeholder that does not end. -/
  | unclosed
  deriving DecidableEq, Repr

/-- The pieces of code.  Inside a placeholder `name` is what of its name was read, last character
first; the first closing brace ends it. -/
def piecesFrom (name : Option (List Char)) : List Char → List Piece
  | [] => if name.isSome then [.unclosed] else []
  | '$' :: '\x7b' :: rest =>
    match name with
    | none => piecesFrom (some []) rest
    | some read => piecesFrom (some ('\x7b' :: '$' :: read)) rest
  | c :: rest =>
    match name with
    | none => .character c :: piecesFrom none rest
    | some read =>
      if c = '\x7d' then .placeholder read.reverse :: piecesFrom none rest
      else piecesFrom (some (c :: read)) rest

/-- The pieces of code. -/
def pieces (code : List Char) : List Piece := piecesFrom none code

/-- What a piece becomes. -/
def Piece.expand (environment : Environment) (line : Nat) :
    Piece → Except ExpansionError (List Char)
  | .character c => .ok [c]
  | .unclosed => .error (.unclosed line)
  | .placeholder name =>
    if name.isEmpty then .error (.unnamed line)
    else
      match environment (String.ofList name) with
      | some value => .ok value.toList
      | none => .error (.unset (String.ofList name) line)

/-- Expands pieces; the first that cannot be expanded is reported. -/
def expandPieces (environment : Environment) (line : Nat) :
    List Piece → Except ExpansionError (List Char)
  | [] => .ok []
  | piece :: rest => do
    let text ← piece.expand environment line
    return text ++ (← expandPieces environment line rest)

/-- Lines with their line feeds. -/
def splitLines : List Char → List (List Char)
  | [] => []
  | c :: rest =>
    if c = '\n' then [c] :: splitLines rest
    else
      match splitLines rest with
      | [] => [[c]]
      | line :: lines => (c :: line) :: lines

/-- Expands a line: its code, and then its comment as it is. -/
def expandLine (environment : Environment) (number : Nat) (line : List Char) :
    Except ExpansionError (List Char) :=
  (expandPieces environment number (pieces (splitComment line).1)).map (· ++ (splitComment line).2)

/-- Expands lines, the first of which has the number given. -/
def expandLines (environment : Environment) (number : Nat) :
    List (List Char) → Except ExpansionError (List Char)
  | [] => .ok []
  | line :: rest => do
    let first ← expandLine environment number line
    return first ++ (← expandLines environment (number + 1) rest)

/-- Expands a text. -/
def expand (environment : Environment) (text : String) : Except ExpansionError String :=
  (expandLines environment 1 (splitLines text.toList)).map String.ofList

/-- The name in a piece that is a placeholder. -/
def Piece.name? : Piece → Option String
  | .placeholder name => some (String.ofList name)
  | _ => none

/-- The variables a text names outside its comments. -/
def namedVariables (text : String) : List String :=
  (splitLines text.toList).flatMap fun line => (pieces (splitComment line).1).filterMap Piece.name?

end ChainProjection.Config
