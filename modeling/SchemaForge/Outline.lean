import SchemaForge.Json.Value
import SchemaForge.Text.Blank
import SchemaForge.Text.CharProperty
import SchemaForge.Decimal.Layout

/-!
# The outline layout

A compact layout of JSON values by indentation.  Members stand in the order of their keys, one to
a line; an array says its length, an array of primitives stands on one line, and an array of
objects with the same primitive members becomes a table with a heading:

    artifacts[1]{content,path}:
      "export {};\n",src/db/schema.ts
    backend: drizzle
    tables[2]: users,posts

A string stands bare unless it could be taken for something else (`needsQuotes`).  Every function
below gives lines without their indentation, so nesting is `indent` applied to what is nested.
-/

namespace SchemaForge

namespace Outline

/-! ## Strings -/

/-- One or more decimal digits, and nothing else. -/
def isDigits (s : List Char) : Bool := !s.isEmpty && s.all Text.isDecimalDigit

/-- An exponent after its `e`: digits, with or without a sign. -/
def isSignedDigits : List Char → Bool
  | '+' :: rest => isDigits rest
  | '-' :: rest => isDigits rest
  | s => isDigits s

/-- Digits with an optional exponent. -/
def isScaledDigits (s : List Char) : Bool :=
  match s.span (· != 'e') with
  | (digits, []) => isDigits digits
  | (digits, _ :: exponent) => isDigits digits && isSignedDigits exponent

/-- Digits, then optionally a point and more digits, then optionally an exponent. -/
def isUnsignedNumber (s : List Char) : Bool :=
  match s.span (· != '.') with
  | (_, []) => isScaledDigits s
  | (whole, _ :: fraction) => isDigits whole && isScaledDigits fraction

/-- The text could be read as a number, in the digits of any script. -/
def looksNumeric : List Char → Bool
  | '-' :: rest => isUnsignedNumber rest
  | s => isUnsignedNumber s

/-- A character that has a meaning in the layout. -/
def isStructural (c : Char) : Bool :=
  c ∈ [':', '"', '\\', '[', ']', '\x7b', '\x7d', ',', '\n', '\r', '\t']

/-- A string that must be quoted to be read as the string that it is. -/
def needsQuotes (s : String) : Bool :=
  s.isEmpty || Text.hasOuterBlank s || s == "true" || s == "false" || s == "null"
    || looksNumeric s.toList || s.toList.any isStructural || s.startsWith "- "

/-- A character between quotes. -/
def escapeChar (c : Char) : List Char :=
  if c = '\\' then ['\\', '\\']
  else if c = '"' then ['\\', '"']
  else if c = '\n' then ['\\', 'n']
  else if c = '\r' then ['\\', 'r']
  else if c = '\t' then ['\\', 't']
  else [c]

/-- A string, quoted if it has to be. -/
def stringText (s : String) : String :=
  if needsQuotes s then String.ofList ('"' :: s.toList.flatMap escapeChar ++ ['"']) else s

/-! ## Values -/

/-- The text of a value that is neither an array nor an object. -/
def primitiveText : Json → String
  | .null => "null"
  | .boolean b => if b then "true" else "false"
  | .number (.integer n) => toString n
  | .number (.real x) => x.plainText
  | .string s => stringText s
  | .array _ | .object _ => ""

/-- Values on one line, separated by commas. -/
def row (items : List Json) : String := String.intercalate "," (items.map primitiveText)

/-- Lines one level further in. -/
def indent (lines : List String) : List String := lines.map ("  " ++ ·)

/-- The lines of an item of a list: a dash before the first, the others below its text. -/
def bullet : List String → List String
  | [] => ["-"]
  | first :: rest => ("- " ++ first) :: indent rest

/-- The members of an object, when the value is one and all its members are primitive. -/
def flatMembers? : Json → Option (List (String × Json))
  | .object members => if members.all fun m => m.2.isPrimitive then some members else none
  | _ => none

/-- The heading and the rows of a table, when the items are objects with the same primitive
members. -/
def table? (items : List Json) : Option (List String × List (List Json)) := do
  let rows ← items.mapM flatMembers?
  let heading := (← rows.head?).map Prod.fst
  if rows.all fun r => r.map Prod.fst == heading then
    some (heading, rows.map fun r => r.map Prod.snd)
  else none

/-- The key of an array with its length. -/
def arrayKey (key : String) (items : List Json) : String :=
  key ++ "[" ++ toString items.length ++ "]"

mutual

/-- The lines of a member. -/
def memberLines (key : String) : Json → List String
  | .object members => (key ++ ":") :: indent (objectLines members)
  | .array [] => [arrayKey key [] ++ ":"]
  | .array (v :: rest) =>
    let items := v :: rest
    if items.all Json.isPrimitive then [arrayKey key items ++ ": " ++ row items]
    else match table? items with
      | some (heading, rows) =>
        (arrayKey key items ++ "\x7b" ++ String.intercalate "," heading ++ "\x7d:")
          :: indent (rows.map row)
      | none => (arrayKey key items ++ ":") :: indent (itemLines (v :: rest))
  | v => [key ++ ": " ++ primitiveText v]

/-- The lines of the members of an object, one after the other. -/
def objectLines : List (String × Json) → List String
  | [] => []
  | (key, v) :: rest => memberLines key v ++ objectLines rest

/-- The lines of the items of a list. -/
def itemLines : List Json → List String
  | [] => []
  | .object members :: rest => bullet (objectLines members) ++ itemLines rest
  | .array items :: rest => bullet (memberLines "" (.array items)) ++ itemLines rest
  | v :: rest => bullet [primitiveText v] ++ itemLines rest

end

/-- The lines of a whole value. -/
def valueLines : Json → List String
  | .object members => objectLines members
  | .array items => memberLines "" (.array items)
  | v => [primitiveText v]

/-- The layout of a value, the members of its objects in the order of their keys. -/
def render (v : Json) : String := String.intercalate "\n" (valueLines v.sorted)

end Outline

end SchemaForge
