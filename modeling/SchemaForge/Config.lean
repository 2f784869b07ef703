import SchemaForge.Schema.Codec
import SchemaForge.Schema.Preset
import SchemaForge.Target.Dialect

/-!
# Configuration

A configuration gives what a command line leaves open: backend, dialect and selection, and tables
that are added to the built-in ones.  Every part is optional.  What is given on the command line
comes first, then the configuration, then a default; the dialect is guessed from the URL of the
database before its default is taken.
-/

namespace SchemaForge

open Decoder

/-- A configuration. -/
structure Config where
  backend : Option Backend := none
  dialect : Option Dialect := none
  preset : Option String := none
  tables : Option (List String) := none
  customTables : List Table := []
  deriving DecidableEq, Repr

namespace Config

/-! ## As JSON -/

/-- A configuration as JSON, without what it leaves open. -/
def toJson (c : Config) : Json :=
  .object (
    Json.optionalMember "backend" (c.backend.map fun b => .string b.name)
    ++ Json.optionalMember "dialect" (c.dialect.map fun d => .string d.name)
    ++ Json.optionalMember "preset" (c.preset.map .string)
    ++ Json.optionalMember "tables" (c.tables.map Json.strings)
    ++ if c.customTables.isEmpty then []
      else [("custom_tables", .array (c.customTables.map Table.toJson))])

/-- A configuration of which some parts have been read. -/
structure Draft where
  backend : Option (Option Backend) := none
  dialect : Option (Option Dialect) := none
  preset : Option (Option String) := none
  tables : Option (Option (List String)) := none
  customTables : Option (List Table) := none

/-- The members of a configuration, which may have no others. -/
def shape : Record Draft where
  name := "ConfigFile"
  closed := true
  slots := [
    ⟨"backend", false, (·.backend.isSome),
      (optional (choice Backend.readable)).map fun v d => { d with backend := some v }⟩,
    ⟨"dialect", false, (·.dialect.isSome),
      (optional (choice Dialect.readable)).map fun v d => { d with dialect := some v }⟩,
    ⟨"preset", false, (·.preset.isSome),
      (optional string).map fun v d => { d with preset := some v }⟩,
    ⟨"tables", false, (·.tables.isSome),
      (optional (list string)).map fun v d => { d with tables := some v }⟩,
    ⟨"custom_tables", false, (·.customTables.isSome),
      (list Table.decoder).map fun v d => { d with customTables := some v }⟩]

/-- A configuration; what it leaves open stays open. -/
def decoder : Decoder Config := record shape {} fun d =>
  .ok ⟨d.backend.getD none, d.dialect.getD none, d.preset.getD none, d.tables.getD none,
    d.customTables.getD []⟩

/-! ## What holds in the end -/

/-- The backend of the command line, else that of the configuration. -/
def chooseBackend (c : Config) (flag : Option Backend) : Option Backend := flag.or c.backend

/-- The dialect of the command line, else that of the configuration, else that of the database,
else PostgreSQL. -/
def chooseDialect (c : Config) (flag : Option Dialect) (databaseUrl : Option String) : Dialect :=
  ((flag.or c.dialect).or (databaseUrl.bind Dialect.ofDatabaseUrl?)).getD .postgresql

/-- The selection of the command line, else that of the configuration, else the preset that
stands in for one.  On either level names of tables come before a preset. -/
def chooseSelection (c : Config) (preset : Option String) (tables : List String) : Selection :=
  if !tables.isEmpty then .custom tables
  else match preset, c.tables with
    | some id, _ => .preset id
    | none, some names => .custom names
    | none, none => .preset (c.preset.getD Preset.fallback)

end Config

end SchemaForge
