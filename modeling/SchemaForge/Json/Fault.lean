import SchemaForge.Decimal.Layout
import SchemaForge.Text.Visible

/-!
# What can be wrong with a JSON text or value

`TextFault` names the ways in which a text fails to be JSON, `DecodeFault` the ways in which JSON
fails to be the value that is wanted.  Each has one wording, given by `message`; the wording of a
mismatch says what was found and what was expected.
-/

namespace SchemaForge

/-! ## Faults of a text -/

/-- Why a text is not JSON. -/
inductive TextFault
  | endInValue
  | endInList
  | endInObject
  | endInString
  | expectedValue
  | expectedKeyword
  | expectedColon
  | expectedListEnd
  | expectedObjectEnd
  | trailingComma
  | trailingCharacters
  | keyNotString
  | invalidNumber
  | numberOutOfRange
  | invalidEscape
  | unpairedSurrogate
  | loneSurrogate
  | controlCharacter
  | tooDeep
  deriving DecidableEq, Repr

/-- The wording of a fault of a text. -/
def TextFault.message : TextFault → String
  | .endInValue => "EOF while parsing a value"
  | .endInList => "EOF while parsing a list"
  | .endInObject => "EOF while parsing an object"
  | .endInString => "EOF while parsing a string"
  | .expectedValue => "expected value"
  | .expectedKeyword => "expected ident"
  | .expectedColon => "expected `:`"
  | .expectedListEnd => "expected `,` or `]`"
  | .expectedObjectEnd => "expected `,` or `\x7d`"
  | .trailingComma => "trailing comma"
  | .trailingCharacters => "trailing characters"
  | .keyNotString => "key must be a string"
  | .invalidNumber => "invalid number"
  | .numberOutOfRange => "number out of range"
  | .invalidEscape => "invalid escape"
  | .unpairedSurrogate => "unexpected end of hex escape"
  | .loneSurrogate => "lone leading surrogate in hex escape"
  | .controlCharacter => "control character (\\u0000-\\u001F) found while parsing a string"
  | .tooDeep => "recursion limit exceeded"

/-! ## Mismatches -/

/-- What stood where something else was wanted. -/
inductive Found
  | null
  | boolean (b : Bool)
  | integer (n : Int)
  | real (x : Binary64)
  | string (s : String)
  | sequence
  | map
  deriving DecidableEq, Repr

/-- The wording of what was found. -/
def Found.message : Found → String
  | .null => "null"
  | .boolean b => "boolean `" ++ (if b then "true" else "false") ++ "`"
  | .integer n => "integer `" ++ toString n ++ "`"
  | .real x => "floating point `" ++ x.markedText ++ "`"
  | .string s => "string " ++ Text.visiblyQuoted s
  | .sequence => "sequence"
  | .map => "map"

/-- What was wanted. -/
inductive Expectation
  | text
  | boolean
  | sequence
  | word32
  | unit
  | choice
  | singleMember
  | record (name : String)
  deriving DecidableEq, Repr

/-- The wording of what was wanted. -/
def Expectation.message : Expectation → String
  | .text => "a string"
  | .boolean => "a boolean"
  | .sequence => "a sequence"
  | .word32 => "u32"
  | .unit => "unit"
  | .choice => "string or map"
  | .singleMember => "map with a single key"
  | .record name => "struct " ++ name

/-- Why a text or a value is not what was wanted. -/
inductive DecodeFault
  | malformed (fault : TextFault)
  | invalidType (found : Found) (expected : Expectation)
  | invalidValue (found : Found) (expected : Expectation)
  | tooFew (length : Nat) (record : String) (size : Nat)
  | tooMany (length : Nat)
  | missingField (name : String)
  | duplicateField (name : String)
  | unknownField (name : String) (known : List String)
  | unknownVariant (name : String) (known : List String)
  | noAlternative (choice : String)
  deriving DecidableEq, Repr

namespace DecodeFault

/-- A name between backticks. -/
def ticked (name : String) : String := "`" ++ name ++ "`"

/-- The names that would have been accepted. -/
def oneOf (known : List String) : String :=
  match known with
  | [a] => ticked a
  | [a, b] => ticked a ++ " or " ++ ticked b
  | _ => "one of " ++ String.intercalate ", " (known.map ticked)

/-- The wording of a fault. -/
def message : DecodeFault → String
  | malformed fault => fault.message
  | invalidType found expected =>
    "invalid type: " ++ found.message ++ ", expected " ++ expected.message
  | invalidValue found expected =>
    "invalid value: " ++ found.message ++ ", expected " ++ expected.message
  | tooFew length record size =>
    "invalid length " ++ toString length ++ ", expected struct " ++ record ++ " with "
      ++ toString size ++ " elements"
  | tooMany length =>
    "invalid length " ++ toString length ++ ", expected fewer elements in array"
  | missingField name => "missing field " ++ ticked name
  | duplicateField name => "duplicate field " ++ ticked name
  | unknownField name known =>
    "unknown field " ++ ticked name ++ ", expected " ++ oneOf known
  | unknownVariant name known =>
    "unknown variant " ++ ticked name ++ ", expected " ++ oneOf known
  | noAlternative choice => "data did not match any variant of untagged enum " ++ choice

end DecodeFault

end SchemaForge
