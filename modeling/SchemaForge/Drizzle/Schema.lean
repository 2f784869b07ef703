import SchemaForge.Declaration.Lowering
import SchemaForge.Drizzle.Import
import SchemaForge.Drizzle.Relation

/-!
# Drizzle schemas

Two files: the schema with its tables and associations, and the configuration of the migration
tool.
-/

namespace SchemaForge.Drizzle

/-- The path of the schema. -/
def schemaPath : String := "src/db/schema.ts"

/-- The path of the configuration. -/
def configPath : String := "drizzle.config.ts"

/-! ## Tables -/

/-- The line of a column: its property and its chain. -/
def columnLine (dialect : Dialect) (c : Column) : String :=
  "  " ++ c.propertyName ++ ": " ++ renderColumn c dialect ++ ","

/-- The declaration of a table, its columns on lines of their own. -/
def renderTable (dialect : Dialect) (t : TableDecl) : String :=
  "export const " ++ t.symbol ++ " = " ++ tableFunction dialect ++ "("
    ++ Text.singleQuoted t.name ++ ", \x7b\n"
    ++ String.intercalate "\n" (t.columns.map (columnLine dialect)) ++ "\n\x7d);\n"

/-! ## Files -/

/-- The content of the schema. -/
def renderSchema (dialect : Dialect) (tables : List TableDecl) : String :=
  let associations := blocks tables
  let imports := Imports.ofTables tables dialect (!associations.isEmpty)
  Source.banner ++ "\n\n" ++ imports.render dialect
    ++ (if tables.isEmpty then "export \x7b\x7d;\n"
      else String.join ((tables.map (renderTable dialect) ++ associations).map ("\n" ++ ·)))

/-- The content of the configuration. -/
def renderConfig (dialect : Dialect) : String :=
  String.join [
    "import \x7b defineConfig \x7d from 'drizzle-kit';\n",
    "\n",
    "export default defineConfig(\x7b\n",
    "  dialect: ", Text.singleQuoted (kitDialect dialect), ",\n",
    "  schema: ", Text.singleQuoted ("./" ++ schemaPath), ",\n",
    "  out: './drizzle',\n",
    "  dbCredentials: \x7b\n",
    "    url: process.env.DATABASE_URL!,\n",
    "  \x7d,\n",
    "\x7d);\n"]

/-- The files for tables made ready for Drizzle on a dialect. -/
def artifacts (dialect : Dialect) (tables : List TableDecl) : List Artifact :=
  [⟨schemaPath, renderSchema dialect tables⟩, ⟨configPath, renderConfig dialect⟩]

end SchemaForge.Drizzle
