/-!
# TOML documents

A document is a table.  How a table came about decides what may still be added to it: one between
braces is complete, one with a header of its own is open to its header alone, one that only a longer
header or a dotted key implies is open to more of them.  So a table keeps its origin.  An array of
tables grows by a header for each row, and keys below its name belong to the last row.

Adding what is not allowed gives no document: a key is never defined twice.
-/

namespace ChainProjection.Toml

/-- How a table came about. -/
inductive Origin where
  /-- By braces around it. -/
  | inline
  /-- By its own header, or as the document itself. -/
  | header
  /-- By a longer header. -/
  | implied
  /-- By a dotted key. -/
  | dotted
  deriving DecidableEq, Repr

/-- A value.  Floating point numbers and points in time are kept as they are written. -/
inductive Value where
  | string (text : String)
  | integer (value : Int)
  | float (written : String)
  | boolean (value : Bool)
  | moment (written : String)
  | array (items : List Value)
  | table (origin : Origin) (members : List (String × Value))
  /-- An array of tables with headers of their own. -/
  | tables (rows : List (List (String × Value)))
  deriving Repr, Inhabited

/-- The members of a table in the order they were added. -/
abbrev Members := List (String × Value)

/-- A key: names with dots between them. -/
structure Key where
  /-- The names before the last. -/
  path : List String
  /-- The last name. -/
  name : String
  deriving DecidableEq, Repr

namespace Members

/-- Puts a value under a name; one that is there is replaced. -/
def put (name : String) (value : Value) : Members → Members
  | [] => [(name, value)]
  | (n, v) :: rest => if n = name then (name, value) :: rest else (n, v) :: put name value rest

/-- Whether tables of one origin may be gone through on the way to a table that is made with
another: complete ones never, ones with a header not by dotted keys. -/
def mayPass (made : Origin) : Origin → Bool
  | .inline => false
  | .header => made ≠ .dotted
  | _ => true

/-- Changes the table at the end of a path that starts in a table of the origin given.  Tables that
are missing on the way are made. -/
def changeAt (made : Origin) (change : Origin → Members → Option Members) :
    Origin → List String → Members → Option Members
  | origin, [], members => change origin members
  | _, name :: path, members =>
    match members.lookup name with
    | none =>
      (changeAt made change made path []).map fun inner => members.put name (.table made inner)
    | some (.table origin inner) =>
      if mayPass made origin then
        (changeAt made change origin path inner).map fun inner =>
          members.put name (.table origin inner)
      else none
    | some (.tables rows) =>
      (changeAt made change .header path (rows.getLast?.getD [])).map fun row =>
        members.put name (.tables (rows.dropLast ++ [row]))
    | some _ => none

/-- Adds a value under a key to a table.  A dotted key ends in a table made by dotted keys, and the
last name must be free. -/
def assign (key : Key) (value : Value) (origin : Origin) (members : Members) : Option Members :=
  let add (origin : Origin) (members : Members) : Option Members :=
    if (key.path ≠ [] ∧ origin ≠ .dotted) ∨ (members.lookup key.name).isSome then none
    else some (members ++ [(key.name, value)])
  changeAt .dotted add origin key.path members

/-- Opens the table of a header: a new one, or one that longer headers implied. -/
def openTable (key : Key) (document : Members) : Option Members :=
  let add (_ : Origin) (members : Members) : Option Members :=
    match members.lookup key.name with
    | none => some (members.put key.name (.table .header []))
    | some (.table .implied inner) => some (members.put key.name (.table .header inner))
    | some _ => none
  changeAt .implied add .header key.path document

/-- Opens a new row of an array of tables. -/
def openRow (key : Key) (document : Members) : Option Members :=
  let add (_ : Origin) (members : Members) : Option Members :=
    match members.lookup key.name with
    | none => some (members.put key.name (.tables [[]]))
    | some (.tables rows) => some (members.put key.name (.tables (rows ++ [[]])))
    | some _ => none
  changeAt .implied add .header key.path document

/-- Adds a value under a key to the table that the last header opened. -/
def assignUnder (header : List String) (key : Key) (value : Value) (document : Members) :
    Option Members :=
  changeAt .implied (assign key value) .header header document

end Members

end ChainProjection.Toml
