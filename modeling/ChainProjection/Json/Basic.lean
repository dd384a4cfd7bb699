import ChainProjection.Number.Shortest

/-!
# JSON values

A value of the event feed.  An integer is one between the least signed and the greatest unsigned
64-bit integer; every other number is a binary floating point number.  The members of an object are
in ascending order of their names and no name occurs twice: `insertMember` keeps both, and
`Json.ofMembers` builds an object through it.
-/

namespace ChainProjection

/-- A JSON value. -/
inductive Json where
  | null
  | bool (value : Bool)
  | int (value : Int)
  | float (value : Binary64)
  | string (text : String)
  | array (items : List Json)
  | object (members : List (String × Json))
  deriving Repr, Inhabited

namespace Json

/-- Puts a member in its place; one of the same name is replaced. -/
def insertMember (name : String) (value : Json) :
    List (String × Json) → List (String × Json)
  | [] => [(name, value)]
  | (n, v) :: rest =>
    if name = n then (name, value) :: rest
    else if name < n then (name, value) :: (n, v) :: rest
    else (n, v) :: insertMember name value rest

/-- The object with these members; of two with one name the later counts. -/
def ofMembers (members : List (String × Json)) : Json :=
  .object (members.foldl (fun done (name, value) => insertMember name value done) [])

/-- The value of a member, if the list has it. -/
def member? (name : String) : List (String × Json) → Option Json
  | [] => none
  | (n, v) :: rest => if n = name then some v else member? name rest

/-- The value of a member of an object; `null` where there is none. -/
def get (value : Json) (name : String) : Json :=
  match value with
  | .object members => (member? name members).getD .null
  | _ => .null

/-- The items of an array; none for any other value. -/
def items : Json → List Json
  | .array items => items
  | _ => []

/-- `null` for nothing, else the value's form. -/
def ofOption {α : Type} (form : α → Json) : Option α → Json
  | none => .null
  | some x => form x

/-- An integer from a natural number. -/
def nat (n : Nat) : Json := .int n

mutual

/-- Whether two values are the same, member by member. -/
def same : Json → Json → Bool
  | .null, .null => true
  | .bool a, .bool b => a == b
  | .int a, .int b => a == b
  | .float a, .float b => a == b
  | .string a, .string b => a == b
  | .array a, .array b => sameItems a b
  | .object a, .object b => sameMembers a b
  | _, _ => false

/-- Whether two lists of values are the same. -/
def sameItems : List Json → List Json → Bool
  | [], [] => true
  | a :: as, b :: bs => same a b && sameItems as bs
  | _, _ => false

/-- Whether two lists of members are the same. -/
def sameMembers : List (String × Json) → List (String × Json) → Bool
  | [], [] => true
  | (m, a) :: as, (n, b) :: bs => m == n && same a b && sameMembers as bs
  | _, _ => false

end

end Json

end ChainProjection
