import SchemaForge.Schema.Field
import SchemaForge.Target.Dialect

/-!
# TypeScript types for Kysely

Each type becomes the TypeScript type that the driver of the dialect gives back.  The driver of
SQLite gives integers for identifiers and booleans, and text for timestamps.
-/

namespace SchemaForge.Kysely

/-- The alias for documents, declared in the generated file. -/
def jsonType : String := "JsonValue"

/-- The wrapper of columns that an insert may leave out although reads always give them. -/
def generatedType : String := "Generated"

/-- The TypeScript type of a type. -/
def primitive : Dialect → FieldType → String
  | .sqlite, .identifier => "number"
  | _, .identifier => "string"
  | _, .string => "string"
  | _, .text => "string"
  | _, .integer => "number"
  | .sqlite, .boolean => "number"
  | _, .boolean => "boolean"
  | .sqlite, .timestamp => "string"
  | _, .timestamp => "Date"
  | _, .json => jsonType

/-- The type is part of TypeScript and needs no declaration. -/
def isBuiltin (primitive : String) : Bool :=
  primitive == "string" || primitive == "number" || primitive == "boolean" || primitive == "Date"

/-- How a connection is made: the dialect class, the import of its driver and its options. -/
structure DriverSetup where
  dialectClass : String
  driverImport : String
  dialectOptions : String
  deriving DecidableEq, Repr

/-- The connection of a dialect. -/
def driverSetup : Dialect → DriverSetup
  | .postgresql =>
    ⟨"PostgresDialect", "import \x7b Pool \x7d from 'pg';",
      "pool: new Pool(\x7b connectionString: process.env.DATABASE_URL \x7d)"⟩
  | .mysql =>
    ⟨"MysqlDialect", "import \x7b createPool \x7d from 'mysql2';",
      "pool: createPool(process.env.DATABASE_URL ?? '')"⟩
  | .sqlite =>
    ⟨"SqliteDialect", "import SQLite from 'better-sqlite3';",
      "database: new SQLite(process.env.DATABASE_URL ?? 'dev.db')"⟩

end SchemaForge.Kysely
