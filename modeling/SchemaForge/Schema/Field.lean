import SchemaForge.Decimal.Binary64

/-!
# Fields

A field is a column of a table as it is declared: its name, an abstract type that every backend
maps to one of its own, constraints, a default value and a foreign key.
-/

namespace SchemaForge

/-! ## Types -/

/-- The abstract type of a field. -/
inductive FieldType
  /-- A primary or foreign key. -/
  | identifier
  /-- Bounded text. -/
  | string
  /-- Unbounded text. -/
  | text
  | integer
  | boolean
  /-- A point in time. -/
  | timestamp
  /-- A structured document. -/
  | json
  deriving DecidableEq, Repr

/-- The name of a type in definitions and diagnostics. -/
def FieldType.name : FieldType → String
  | .identifier => "identifier"
  | .string => "string"
  | .text => "text"
  | .integer => "integer"
  | .boolean => "boolean"
  | .timestamp => "timestamp"
  | .json => "json"

/-- Every type. -/
def FieldType.all : List FieldType :=
  [.identifier, .string, .text, .integer, .boolean, .timestamp, .json]

/-! ## Default values -/

/-- The value of a field that an insert leaves out. -/
inductive DefaultValue
  /-- The time of the insert. -/
  | now
  | text (s : String)
  | integer (n : Int64)
  | real (x : Binary64)
  | boolean (b : Bool)
  deriving DecidableEq, Repr

/-! ## Foreign keys -/

/-- What happens to a row whose referenced row is deleted. -/
inductive DeleteAction
  | cascade
  | setNull
  | restrict
  deriving DecidableEq, Repr

/-- The name of an action in definitions. -/
def DeleteAction.name : DeleteAction → String
  | .cascade => "cascade"
  | .setNull => "set-null"
  | .restrict => "restrict"

/-- A reference to a field of another table or of the same one. -/
structure ForeignKey where
  targetTable : String
  targetField : String := "id"
  onDelete : Option DeleteAction := none
  deriving DecidableEq, Repr

/-! ## Fields -/

/-- A column of a table as it is declared. -/
structure Field where
  name : String
  type : FieldType
  required : Bool := false
  unique : Bool := false
  isPrimaryKey : Bool := false
  isAutoIncrement : Bool := false
  /-- The largest length of the text; only a `string` field may have one. -/
  length : Option UInt32 := none
  defaultValue : Option DefaultValue := none
  foreignKey : Option ForeignKey := none
  deriving DecidableEq, Repr

namespace Field

/-- A field that must hold a value: a required one or the primary key. -/
def isMandatory (f : Field) : Bool := f.required || f.isPrimaryKey

/-- A field that may be null. -/
def isNullable (f : Field) : Bool := !f.isMandatory

/-! ### Declaring fields -/

/-- An optional field without further properties. -/
def plain (name : String) (type : FieldType) : Field := { name, type }

/-- The primary key `id`, an identifier. -/
def id : Field := { name := "id", type := .identifier, isPrimaryKey := true }

/-- The field, required. -/
def mandatory (f : Field) : Field := { f with required := true }

/-- The field, with values that do not repeat. -/
def distinct (f : Field) : Field := { f with unique := true }

/-- The field with a largest length. -/
def upTo (f : Field) (length : UInt32) : Field := { f with length := some length }

/-- The field with a default value. -/
def defaulting (f : Field) (value : DefaultValue) : Field := { f with defaultValue := some value }

/-- The field as a reference to the `id` of a table. -/
def referencing (f : Field) (table : String) (onDelete : DeleteAction) : Field :=
  { f with foreignKey := some { targetTable := table, onDelete := some onDelete } }

end Field

end SchemaForge
