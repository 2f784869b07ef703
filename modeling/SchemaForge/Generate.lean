import SchemaForge.Drizzle.Schema
import SchemaForge.Kysely.Schema
import SchemaForge.Prisma.Schema
import SchemaForge.Schema.Preset
import SchemaForge.Schema.Resolve

/-!
# Generating sources

From a request to files: the tables of the request are added to the catalog, its selection is
resolved, and the tables found are made ready for the target and rendered.  The first step that
fails decides the error, and nothing is generated then.
-/

namespace SchemaForge

/-! ## Rendering tables -/

/-- The files for tables made ready for a target. -/
def Target.artifacts (target : Target) (tables : List TableDecl) : List Artifact :=
  match target.backend with
  | .drizzle => Drizzle.artifacts target.dialect tables
  | .prisma => Prisma.artifacts target.dialect tables
  | .kysely => Kysely.artifacts target.dialect tables

/-- The files for tables, whose foreign keys have to lead to one another. -/
def emit (target : Target) (tables : List Table) : Except SchemaError (List Artifact) :=
  (lowerTables target tables).map target.artifacts

/-! ## Requests -/

/-- What is generated, and for which target. -/
structure Request where
  target : Target
  selection : Selection
  /-- Tables that are added to the catalog for this request. -/
  customTables : List Table
  deriving DecidableEq, Repr

/-- Generated files with the tables that they were made from. -/
structure Generation where
  target : Target
  tables : List String
  artifacts : List Artifact
  deriving DecidableEq, Repr

/-- Generates the files of a request from a catalog. -/
def generate (request : Request) (catalog : Catalog) : Except SchemaError Generation := do
  let merged ← catalog.extend request.customTables
  let requested ← request.selection.tableNames
  let tables ← merged.resolve requested
  let artifacts ← emit request.target tables
  return ⟨request.target, tables.map (·.name), artifacts⟩

end SchemaForge
