import SchemaForge.Schema.Field
import SchemaForge.Target.Dialect

/-!
# Column builders of Drizzle

Each type becomes a call of a column builder of the dialect's module.  SQLite has few column types,
so there a `mode` says how a value is mapped back; MySQL wants a length on every `varchar`.
-/

namespace SchemaForge.Drizzle

/-- The column builder of a type. -/
def primitive : Dialect → FieldType → String
  | .postgresql, .identifier => "uuid"
  | .postgresql, .string => "varchar"
  | .postgresql, .text => "text"
  | .postgresql, .integer => "integer"
  | .postgresql, .boolean => "boolean"
  | .postgresql, .timestamp => "timestamp"
  | .postgresql, .json => "jsonb"
  | .mysql, .identifier => "varchar"
  | .mysql, .string => "varchar"
  | .mysql, .text => "text"
  | .mysql, .integer => "int"
  | .mysql, .boolean => "boolean"
  | .mysql, .timestamp => "timestamp"
  | .mysql, .json => "json"
  | .sqlite, .identifier => "integer"
  | .sqlite, .string => "text"
  | .sqlite, .text => "text"
  | .sqlite, .integer => "integer"
  | .sqlite, .boolean => "integer"
  | .sqlite, .timestamp => "integer"
  | .sqlite, .json => "text"

/-- How SQLite maps the values of a column back. -/
def columnMode? : Dialect → FieldType → Option String
  | .sqlite, .boolean => some "boolean"
  | .sqlite, .timestamp => some "timestamp"
  | .sqlite, .json => some "json"
  | _, _ => none

/-- The length of a column whose field has none. -/
def impliedLength? : Dialect → FieldType → Option UInt32
  | .mysql, .identifier => some 36
  | .mysql, .string => some 255
  | _, _ => none

/-- The constructor of tables. -/
def tableFunction : Dialect → String
  | .postgresql => "pgTable"
  | .mysql => "mysqlTable"
  | .sqlite => "sqliteTable"

/-- The module of the constructor and the builders. -/
def coreModule : Dialect → String
  | .postgresql => "drizzle-orm/pg-core"
  | .mysql => "drizzle-orm/mysql-core"
  | .sqlite => "drizzle-orm/sqlite-core"

/-- The type of any column, with which references of a table to itself are annotated. -/
def anyColumnType : Dialect → String
  | .postgresql => "AnyPgColumn"
  | .mysql => "AnyMySqlColumn"
  | .sqlite => "AnySQLiteColumn"

/-- The name of the dialect in the configuration of the migration tool. -/
def kitDialect : Dialect → String
  | .postgresql => "postgresql"
  | .mysql => "mysql"
  | .sqlite => "sqlite"

end SchemaForge.Drizzle
