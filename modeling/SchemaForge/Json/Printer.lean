import SchemaForge.Json.Value
import SchemaForge.Decimal.Layout

/-!
# Printing JSON

`Json.quoted` is the JSON literal of a string: a quote, a backslash and the control characters
below U+0020 are escaped, with the short escapes where there are any, and nothing else.
`Json.pretty` lays a value out over lines with an indentation of two spaces, `Json.compact` on one
line without spaces.
-/

namespace SchemaForge

namespace Json

/-! ## String literals -/

/-- A digit of a lowercase hexadecimal number. -/
def hexDigit (n : Nat) : Char :=
  if n < 10 then Char.ofNat ('0'.toNat + n) else Char.ofNat ('a'.toNat + (n - 10))

/-- A character inside a string literal. -/
def escapeChar (c : Char) : List Char :=
  if c = '"' then ['\\', '"']
  else if c = '\\' then ['\\', '\\']
  else if c = '\n' then ['\\', 'n']
  else if c = '\r' then ['\\', 'r']
  else if c = '\t' then ['\\', 't']
  else if c = '\x08' then ['\\', 'b']
  else if c = '\x0c' then ['\\', 'f']
  else if c.toNat < 0x20 then
    ['\\', 'u', '0', '0', hexDigit (c.toNat / 16), hexDigit (c.toNat % 16)]
  else [c]

/-- A string literal. -/
def quoted (s : String) : String :=
  String.ofList ('"' :: s.toList.flatMap escapeChar ++ ['"'])

/-- The text of a number; that of a binary64 number shows that it is not an integer. -/
def numberText : JsonNumber → String
  | .integer n => toString n
  | .real x => x.markedText

/-! ## Layouts -/

/-- The indentation of so many levels. -/
def indentation (depth : Nat) : String := String.ofList (List.replicate (2 * depth) ' ')

mutual

/-- The value over several lines, its inner lines indented by one level more than `depth`. -/
def prettyAt (depth : Nat) : Json → String
  | .null => "null"
  | .boolean b => if b then "true" else "false"
  | .number n => numberText n
  | .string s => quoted s
  | .array [] => "[]"
  | .array (v :: rest) =>
    "[\n" ++ String.intercalate ",\n" (prettyItems (depth + 1) (v :: rest))
      ++ "\n" ++ indentation depth ++ "]"
  | .object [] => "\x7b\x7d"
  | .object (m :: rest) =>
    "\x7b\n" ++ String.intercalate ",\n" (prettyMembers (depth + 1) (m :: rest))
      ++ "\n" ++ indentation depth ++ "\x7d"

/-- Each item on a line of its own. -/
def prettyItems (depth : Nat) : List Json → List String
  | [] => []
  | v :: rest => (indentation depth ++ prettyAt depth v) :: prettyItems depth rest

/-- Each member on a line of its own. -/
def prettyMembers (depth : Nat) : List (String × Json) → List String
  | [] => []
  | (k, v) :: rest =>
    (indentation depth ++ quoted k ++ ": " ++ prettyAt depth v) :: prettyMembers depth rest

end

/-- The value over several lines. -/
def pretty (v : Json) : String := prettyAt 0 v

mutual

/-- The value on one line. -/
def compact : Json → String
  | .null => "null"
  | .boolean b => if b then "true" else "false"
  | .number n => numberText n
  | .string s => quoted s
  | .array items => "[" ++ String.intercalate "," (compactItems items) ++ "]"
  | .object members => "\x7b" ++ String.intercalate "," (compactMembers members) ++ "\x7d"

/-- The texts of the items. -/
def compactItems : List Json → List String
  | [] => []
  | v :: rest => v.compact :: compactItems rest

/-- The texts of the members. -/
def compactMembers : List (String × Json) → List String
  | [] => []
  | (k, v) :: rest => (quoted k ++ ":" ++ v.compact) :: compactMembers rest

end

end Json

end SchemaForge
