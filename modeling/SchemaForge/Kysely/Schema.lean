import SchemaForge.Declaration.Lowering
import SchemaForge.Kysely.Interface
import SchemaForge.Source.Artifact

/-!
# Kysely sources

Two files: the interfaces of the tables, and the connection to the database.  The file of the
interfaces imports `Generated` and declares the alias for documents only when a column needs them.
-/

namespace SchemaForge.Kysely

/-- The path of the interfaces. -/
def typesPath : String := "src/db/types.ts"

/-- The path of the connection. -/
def databasePath : String := "src/db/database.ts"

/-! ## What the file needs -/

/-- Some column is wrapped in `Generated`. -/
def usesGenerated (tables : List TableDecl) : Bool := (allColumns tables).any isGenerated

/-- The types of columns that are no part of TypeScript, in ascending order. -/
def declaredPrimitives (tables : List TableDecl) : List String :=
  (usedPrimitives tables).filter fun p => !isBuiltin p

/-- The import of the wrapper. -/
def generatedImport : String :=
  "import type " ++ Source.braced generatedType ++ " from 'kysely';\n"

/-- The alias for documents. -/
def jsonAlias : String :=
  "export type JsonValue = string | number | boolean | null | JsonValue[] | "
    ++ Source.braced "[key: string]: JsonValue" ++ ";\n"

/-- The declarations of types that are no part of TypeScript. -/
def aliases (tables : List TableDecl) : List String :=
  (declaredPrimitives tables).filterMap fun p => if p = jsonType then some jsonAlias else none

/-! ## Files -/

/-- The parts of the file of the interfaces, behind its banner. -/
def typesParts (tables : List TableDecl) : List String :=
  (if usesGenerated tables then [generatedImport] else [])
    ++ aliases tables
    ++ (tables.flatMap tableInterfaces).map Interface.render
    ++ [(databaseInterface tables).render]

/-- The content of the file of the interfaces. -/
def renderTypes (tables : List TableDecl) : String :=
  Source.banner ++ "\n" ++ String.join ((typesParts tables).map ("\n" ++ ·))

/-- The content of the file of the connection. -/
def renderDatabase (dialect : Dialect) : String :=
  let setup := driverSetup dialect
  String.join [
    Source.banner, "\n",
    "\n",
    "import ", Source.braced ("Kysely, " ++ setup.dialectClass), " from 'kysely';\n",
    setup.driverImport, "\n",
    "import type ", Source.braced "Database", " from './types';\n",
    "\n",
    "export const db = new Kysely<Database>(\x7b\n",
    "  dialect: new ", setup.dialectClass, "(\x7b\n",
    "    ", setup.dialectOptions, ",\n",
    "  \x7d),\n",
    "\x7d);\n"]

/-- The files for tables made ready for Kysely on a dialect. -/
def artifacts (dialect : Dialect) (tables : List TableDecl) : List Artifact :=
  [⟨typesPath, renderTypes tables⟩, ⟨databasePath, renderDatabase dialect⟩]

end SchemaForge.Kysely
