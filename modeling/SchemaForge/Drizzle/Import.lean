import SchemaForge.Drizzle.Column

/-!
# Imports of a Drizzle schema

What a schema file has to import follows from its tables alone and is known before anything is
rendered: the table constructor and the builders that open the columns, the column type when a
table references itself, the `sql` template when SQLite fills in a time, and `relations` when the
file declares associations.
-/

namespace SchemaForge.Drizzle

/-- The names of each import statement, in ascending order. -/
structure Imports where
  /-- The constructor and the builders, from the module of the dialect. -/
  core : List String
  /-- Types, from the same module. -/
  coreTypes : List String
  /-- Helpers from the main module. -/
  orm : List String
  deriving DecidableEq, Repr

namespace Imports

/-- Nothing is imported. -/
def none : Imports := ⟨[], [], []⟩

/-- What a file with these tables imports. -/
def ofTables (tables : List TableDecl) (dialect : Dialect) (hasRelations : Bool) : Imports :=
  if tables.isEmpty then none
  else
    let columns := allColumns tables
    { core := insertName (tableFunction dialect) (usedPrimitives tables)
      coreTypes := if columns.any (·.refersToItself) then [anyColumnType dialect] else []
      orm :=
        (if hasRelations then ["relations"] else [])
          ++ (if dialect = .sqlite ∧ columns.any (·.default? == some .now) then ["sql"] else []) }

/-- An import statement. -/
def statement (names : List String) (moduleName : String) : String :=
  "import " ++ Source.braced (String.intercalate ", " names) ++ " from '" ++ moduleName ++ "';\n"

/-- The import statements of a file. -/
def render (imports : Imports) (dialect : Dialect) : String :=
  (if imports.orm.isEmpty then "" else statement imports.orm "drizzle-orm")
    ++ (if imports.core.isEmpty then ""
      else
        statement (imports.core ++ imports.coreTypes.map ("type " ++ ·)) (coreModule dialect))

end Imports

end SchemaForge.Drizzle
