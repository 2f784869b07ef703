import SchemaForge.Decimal.Binary64

/-!
# JSON values

A number is an integer or a binary64 number; an object is the list of its members in order, so
that what is written can be chosen freely.  `Json.sorted` puts the members of every object into
the order of their keys, the last of several members with one key standing for all of them.
-/

namespace SchemaForge

/-- A number of a JSON value. -/
inductive JsonNumber
  | integer (n : Int)
  | real (x : Binary64)
  deriving DecidableEq, Repr

/-- A JSON value. -/
inductive Json
  | null
  | boolean (b : Bool)
  | number (n : JsonNumber)
  | string (s : String)
  | array (items : List Json)
  | object (members : List (String × Json))
  deriving Repr, Inhabited

namespace Json

/-! ## Making values -/

/-- A natural number. -/
def nat (n : Nat) : Json := .number (.integer n)

/-- An array of strings. -/
def strings (items : List String) : Json := .array (items.map .string)

/-- The value, or null for none. -/
def optional (v : Option Json) : Json := v.getD .null

/-- A member for a value that is there, and no member otherwise. -/
def optionalMember (key : String) (v : Option Json) : List (String × Json) :=
  match v with
  | some v => [(key, v)]
  | none => []

/-! ## Looking into values -/

/-- A member of an object by its key; null when there is none or the value is no object. -/
def member (v : Json) (key : String) : Json :=
  match v with
  | .object members => (members.lookup key).getD .null
  | _ => .null

/-- The value is null. -/
def isNull : Json → Bool
  | .null => true
  | _ => false

/-- Neither an array nor an object. -/
def isPrimitive : Json → Bool
  | .array _ | .object _ => false
  | _ => true

/-! ## Objects in the order of their keys -/

/-- Adds a member to a list sorted by key; a member with the same key is replaced. -/
def insertMember (key : String) (v : Json) : List (String × Json) → List (String × Json)
  | [] => [(key, v)]
  | (k, w) :: rest =>
    if key < k then (key, v) :: (k, w) :: rest
    else if key = k then (key, v) :: rest
    else (k, w) :: insertMember key v rest

mutual

/-- The value with the members of every object in the order of their keys. -/
def sorted : Json → Json
  | .array items => .array (sortedItems items)
  | .object members => .object (sortedMembers members [])
  | v => v

/-- The items, each sorted. -/
def sortedItems : List Json → List Json
  | [] => []
  | v :: rest => v.sorted :: sortedItems rest

/-- The members, each sorted, inserted into those already there. -/
def sortedMembers : List (String × Json) → List (String × Json) → List (String × Json)
  | [], done => done
  | (k, v) :: rest, done => sortedMembers rest (insertMember k v.sorted done)

end

end Json

end SchemaForge
