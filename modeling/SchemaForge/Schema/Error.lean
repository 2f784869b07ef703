import SchemaForge.Schema.Table
import SchemaForge.Target.Dialect

/-!
# Errors of a generation

Everything that can stop the way from a request to generated sources, as causes.  The wording of
each is in `SchemaError.message` and nowhere else.
-/

namespace SchemaForge

/-- The field that holds a foreign key, by the names of its table and of itself. -/
structure Referrer where
  table : String
  field : String
  deriving DecidableEq, Repr

/-- Why no sources are generated. -/
inductive SchemaError
  /-- A requested or referenced table is not in the catalog. -/
  | unknownTable (name : String) (referrer : Option Referrer)
  /-- A foreign key leads out of the tables that are generated. -/
  | unresolvableKey (table field target : String)
  /-- The backend has no primitive for a type on the dialect. -/
  | unsupportedType (type : FieldType) (backend : Backend) (dialect : Dialect)
  /-- Two tables of one name were put together. -/
  | duplicateTable (name : String)
  /-- No preset has this identifier. -/
  | unknownPreset (id : String)
  /-- A table breaks a rule by itself. -/
  | invalidTable (table : String) (fault : TableFault)
  deriving DecidableEq, Repr

/-- The wording of an error. -/
def SchemaError.message : SchemaError → String
  | .unknownTable name none => "Unknown table reference: " ++ name
  | .unknownTable name (some by') =>
    "Unknown table reference: " ++ name ++ " (referenced by " ++ by'.table ++ "." ++ by'.field
      ++ ")"
  | .unresolvableKey table field target =>
    "Foreign key " ++ table ++ "." ++ field ++ " targets " ++ target
      ++ ", which is not in the resolved set"
  | .unsupportedType type backend dialect =>
    "Field type `" ++ type.name ++ "` is not supported by " ++ backend.name ++ " on "
      ++ dialect.name
  | .duplicateTable name => "Duplicate table name: " ++ name
  | .unknownPreset id => "Unknown preset: " ++ id
  | .invalidTable table fault => "Invalid table " ++ table ++ ": " ++ fault.message

end SchemaForge
