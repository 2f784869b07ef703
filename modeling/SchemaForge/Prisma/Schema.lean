import SchemaForge.Declaration.Lowering
import SchemaForge.Prisma.Member
import SchemaForge.Text.Blank
import SchemaForge.Text.Padding

/-!
# Prisma schemas

One file: a heading with the generator and the data source, then a model for each table, its
members in three columns.
-/

namespace SchemaForge.Prisma

/-- The path of the schema. -/
def schemaPath : String := "prisma/schema.prisma"

/-! ## Models -/

/-- The line of a member in columns of the given widths. -/
def memberLine (nameWidth typeWidth : Nat) (m : Member) : String :=
  Text.trimEnd ("  " ++ Text.padEnd nameWidth m.name ++ " " ++ Text.padEnd typeWidth m.typeText
    ++ " " ++ String.intercalate " " (m.attributes.map Attribute.render))

/-- The lines of members, in columns that are as wide as they have to be. -/
def memberLines (ms : List Member) : List String :=
  let nameWidth := Text.columnWidth (ms.map (·.name))
  let typeWidth := Text.columnWidth (ms.map (·.typeText))
  ms.map (memberLine nameWidth typeWidth)

/-- The block of a model with the given members. -/
def renderModel (table : TableDecl) (ms : List Member) : String :=
  "model " ++ table.typeName ++ " \x7b\n"
    ++ String.join ((memberLines ms).map (· ++ "\n"))
    ++ "\n  @@map(\"" ++ table.name ++ "\")\n\x7d\n"

/-! ## The file -/

/-- The heading. -/
def renderHeading (dialect : Dialect) : String :=
  String.join [
    Source.banner, "\n",
    "\n",
    "generator client \x7b\n",
    "  provider = \"prisma-client-js\"\n",
    "\x7d\n",
    "\n",
    "datasource db \x7b\n",
    "  provider = \"", provider dialect, "\"\n",
    "  url      = env(\"DATABASE_URL\")\n",
    "\x7d\n"]

/-- The content of the schema. -/
def renderSchema (dialect : Dialect) (tables : List TableDecl) : String :=
  renderHeading dialect
    ++ String.join (tables.map fun t => "\n" ++ renderModel t (members tables dialect t))

/-- The files for tables made ready for Prisma on a dialect. -/
def artifacts (dialect : Dialect) (tables : List TableDecl) : List Artifact :=
  [⟨schemaPath, renderSchema dialect tables⟩]

end SchemaForge.Prisma
