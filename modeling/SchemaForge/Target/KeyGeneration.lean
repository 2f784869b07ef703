import SchemaForge.Schema.Field
import SchemaForge.Target.Dialect

/-!
# Key generation

Where the value of a key comes from: from the caller, from a counter of the database, or from a
random UUID made by the application.
-/

namespace SchemaForge

/-- Where the value of a field comes from when a row is inserted. -/
inductive KeyGeneration
  | supplied
  | autoIncrement
  | randomUuid
  deriving DecidableEq, Repr

/-- How an identifier that is the primary key gets its values. -/
def Dialect.identifierGeneration : Dialect → KeyGeneration
  | .postgresql | .mysql => .randomUuid
  | .sqlite => .autoIncrement

/-- How a field gets its values: an automatic increment by its flag, an identifier that is the
primary key by the dialect, every other field from the caller. -/
def Field.keyGeneration (f : Field) (dialect : Dialect) : KeyGeneration :=
  if f.isAutoIncrement then .autoIncrement
  else if f.isPrimaryKey ∧ f.type = .identifier then dialect.identifierGeneration
  else .supplied

end SchemaForge
