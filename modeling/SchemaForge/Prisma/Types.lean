import SchemaForge.Schema.Field
import SchemaForge.Target.Dialect

/-!
# Scalar types of Prisma

Each type becomes a scalar of Prisma, with an attribute for the native type where the scalar alone
would choose another one.  There is no document scalar on SQLite.
-/

namespace SchemaForge.Prisma

/-- The scalar of a type. -/
def primitive? : Dialect → FieldType → Option String
  | .sqlite, .identifier => some "Int"
  | _, .identifier => some "String"
  | _, .string => some "String"
  | _, .text => some "String"
  | _, .integer => some "Int"
  | _, .boolean => some "Boolean"
  | _, .timestamp => some "DateTime"
  | .sqlite, .json => none
  | _, .json => some "Json"

/-- The attribute for the native type of a column. -/
def nativeType? (dialect : Dialect) (type : FieldType) (length : Option UInt32) : Option String :=
  match dialect, type with
  | .sqlite, _ => none
  | .postgresql, .identifier => some "@db.Uuid"
  | .mysql, .identifier => some "@db.Char(36)"
  | _, .string => length.map fun n => "@db.VarChar(" ++ toString n.toNat ++ ")"
  | _, .text => some "@db.Text"
  | _, _ => none

/-- The provider of the data source. -/
def provider : Dialect → String
  | .postgresql => "postgresql"
  | .mysql => "mysql"
  | .sqlite => "sqlite"

end SchemaForge.Prisma
