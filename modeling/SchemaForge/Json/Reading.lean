import SchemaForge.Json.Fault
import SchemaForge.Json.Value

/-!
# What a JSON text reads as

A `Reading` is a JSON value as far as the text gives one: where the text breaks off, the reading
holds a `Break` in place of what is missing, and nothing after it.  Reading a text therefore never
fails, and whoever takes the reading apart from left to right meets the first fault of the text in
its place among the faults of the content.

A value can be *read* or be *skipped*, as the members are that nobody asked for.  Skipping looks
less closely: an unpaired surrogate, a number beyond all binary64 numbers and any depth of nesting
pass.  A `Break` has the fault for both; `skipFault?` and `contentFault?` are the first fault of a
whole value that is skipped and of one that is read.
-/

namespace SchemaForge

/-- How what breaks off starts. -/
inductive Opening
  /-- The start is the first letter of `null`. -/
  | null
  /-- The start is that of another keyword or of a number, or of no value at all. -/
  | bare
  /-- The start is that of a string, or a value has not been started. -/
  | other
  deriving DecidableEq, Repr

/-- Where a text breaks off: the fault for reading, the fault for skipping, and how the value
starts in which it does. -/
structure Break where
  reading : TextFault
  skipping : TextFault
  opening : Opening
  deriving DecidableEq, Repr

/-- A break between values, with the same fault for reading and for skipping. -/
def Break.between (fault : TextFault) : Break := ⟨fault, fault, .other⟩

/-- What stands where the key of a member should. -/
inductive ReadKey
  /-- A string. -/
  | text (s : String)
  /-- A string literal whose surrogates do not pair. -/
  | misencoded (fault : TextFault)
  /-- No string; the break is kept beside the key. -/
  | missing
  deriving DecidableEq, Repr

/-- A JSON value as far as a text gives it. -/
inductive Reading
  | null
  | boolean (b : Bool)
  | number (n : JsonNumber)
  | outOfRange
  | string (s : String)
  | misencoded (fault : TextFault)
  | array (items : List Reading)
  | object (members : List (ReadKey × Reading))
  | broken (at' : Break)
  deriving Repr, Inhabited

namespace Reading

/-! ## Values are readings -/

mutual

/-- A value as a reading without a break. -/
def ofJson : Json → Reading
  | .null => .null
  | .boolean b => .boolean b
  | .number n => .number n
  | .string s => .string s
  | .array items => .array (ofItems items)
  | .object members => .object (ofMembers members)

/-- The items of a value. -/
def ofItems : List Json → List Reading
  | [] => []
  | v :: rest => ofJson v :: ofItems rest

/-- The members of a value. -/
def ofMembers : List (String × Json) → List (ReadKey × Reading)
  | [] => []
  | (key, v) :: rest => (.text key, ofJson v) :: ofMembers rest

end

mutual

/-- The value that a reading without a break shows. -/
def toJson? : Reading → Option Json
  | .null => some .null
  | .boolean b => some (.boolean b)
  | .number n => some (.number n)
  | .string s => some (.string s)
  | .array items => (toItems? items).map .array
  | .object members => (toMembers? members).map .object
  | .outOfRange | .misencoded _ | .broken _ => none

/-- The items as values. -/
def toItems? : List Reading → Option (List Json)
  | [] => some []
  | r :: rest => do return (← toJson? r) :: (← toItems? rest)

/-- The members as values. -/
def toMembers? : List (ReadKey × Reading) → Option (List (String × Json))
  | [] => some []
  | (.text key, r) :: rest => do return (key, ← toJson? r) :: (← toMembers? rest)
  | _ :: _ => none

end

/-! ## The first fault of a whole value -/

mutual

/-- The first fault that skipping the value meets. -/
def skipFault? : Reading → Option TextFault
  | .broken b => some b.skipping
  | .array items => itemsSkipFault? items
  | .object members => membersSkipFault? members
  | _ => none

/-- The first fault that skipping the items meets. -/
def itemsSkipFault? : List Reading → Option TextFault
  | [] => none
  | r :: rest => (skipFault? r).or (itemsSkipFault? rest)

/-- The first fault that skipping the members meets. -/
def membersSkipFault? : List (ReadKey × Reading) → Option TextFault
  | [] => none
  | (_, r) :: rest => (skipFault? r).or (membersSkipFault? rest)

end

mutual

/-- The first fault that reading the value meets, with so many levels of nesting left. -/
def contentFault? (depth : Nat) : Reading → Option TextFault
  | .broken b => some b.reading
  | .outOfRange => some .numberOutOfRange
  | .misencoded fault => some fault
  | .array items => if depth = 0 then some .tooDeep else itemsFault? (depth - 1) items
  | .object members => if depth = 0 then some .tooDeep else membersFault? (depth - 1) members
  | _ => none

/-- The first fault that reading the items meets. -/
def itemsFault? (depth : Nat) : List Reading → Option TextFault
  | [] => none
  | r :: rest => (contentFault? depth r).or (itemsFault? depth rest)

/-- The first fault that reading the members meets. -/
def membersFault? (depth : Nat) : List (ReadKey × Reading) → Option TextFault
  | [] => none
  | (.misencoded fault, _) :: _ => some fault
  | (_, r) :: rest => (contentFault? depth r).or (membersFault? depth rest)

end

end Reading

end SchemaForge
