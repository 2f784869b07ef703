import SchemaForge.CommandLine.Report
import SchemaForge.Files

/-!
# Running a command

`Invocation.run` takes a command line that has been read, the files it may look at and the URL of
the database, and gives the text to print or the first error.  The configuration is read before
anything else and its tables are added to the built-in catalog; then the command runs in the
`Context` made of these.
-/

namespace SchemaForge

/-! ## What a command works with -/

/-- Why a command prints nothing. -/
inductive CommandError
  /-- A file does not give what was asked of it. -/
  | file (error : FileError)
  /-- Tables cannot be put together or generated from. -/
  | schema (error : SchemaError)
  /-- Neither the arguments nor the configuration name a backend. -/
  | noBackend
  deriving DecidableEq, Repr

/-- The wording of an error. -/
def CommandError.message : CommandError → String
  | .file error => error.message
  | .schema error => error.message
  | .noBackend =>
    "No backend selected: pass --backend or set \"backend\" in the config file"

/-- What every command works with besides its own arguments. -/
structure Context where
  /-- The built-in tables and those of the configuration. -/
  catalog : Catalog
  config : Config
  databaseUrl : Option String
  files : Files

namespace Context

/-- The context of a configuration. -/
def ofConfig (config : Config) (databaseUrl : Option String) (files : Files) :
    Except SchemaError Context :=
  (Catalog.builtin.extend config.customTables).map fun catalog =>
    ⟨catalog, config, databaseUrl, files⟩

/-- The tables in the file that the arguments name. -/
def customTables (c : Context) (path : Option String) : Except CommandError (List Table) :=
  (c.files.readTables path).mapError .file

/-- The catalog with the tables in the file that the arguments name. -/
def extendedCatalog (c : Context) (path : Option String) : Except CommandError Catalog := do
  let tables ← c.customTables path
  (c.catalog.extend tables).mapError .schema

/-- The selection of the arguments or of the configuration. -/
def selection (c : Context) (s : SelectionArguments) : Selection :=
  c.config.chooseSelection s.preset s.tables

/-- The backend and the dialect that hold in the end; there has to be a backend. -/
def target (c : Context) (backend : Option Backend) (dialect : Option Dialect) :
    Except CommandError Target :=
  match c.config.chooseBackend backend with
  | some backend => .ok ⟨backend, c.config.chooseDialect dialect c.databaseUrl⟩
  | none => .error .noBackend

/-! ## The commands -/

/-- Generates the files of a selection. -/
def generate (c : Context) (backend : Option Backend) (dialect : Option Dialect)
    (s : SelectionArguments) : Except CommandError Generation := do
  let target ← c.target backend dialect
  let tables ← c.customTables s.custom
  (SchemaForge.generate ⟨target, c.selection s, tables⟩ c.catalog).mapError .schema

/-- The names that a selection asks for, and the tables that they lead to. -/
def resolve (c : Context) (s : SelectionArguments) :
    Except CommandError (List String × List Table) := do
  let catalog ← c.extendedCatalog s.custom
  let requested ← (c.selection s).tableNames.mapError .schema
  let tables ← (catalog.resolve requested).mapError .schema
  return (requested, tables)

/-- What a command finds out. -/
def report (c : Context) : Command → Except CommandError Report
  | .generate backend dialect s => (c.generate backend dialect s).map .generation
  | .resolve s =>
    (c.resolve s).map fun (requested, tables) =>
      .resolution (c.selection s).label requested tables
  | .presets => .ok (.presets Preset.all)
  | .tables custom => (c.extendedCatalog custom).map fun catalog => .tables catalog.tables
  | .packages backend dialect =>
    (c.target backend dialect).map fun target =>
      .packages target (target.backend.packages target.dialect)

end Context

/-! ## A whole run -/

/-- The file with tables that a command names. -/
def Command.customPath? : Command → Option String
  | .generate _ _ s | .resolve s => s.custom
  | .tables custom => custom
  | .presets | .packages .. => none

/-- The paths that a run may look at. -/
def Invocation.paths (i : Invocation) : List String :=
  i.config.getD Files.defaultConfigPath :: i.command.customPath?.toList

/-- The text that a command line prints. -/
def Invocation.run (i : Invocation) (files : Files) (databaseUrl : Option String) :
    Except CommandError String := do
  let config ← (files.readConfig i.config).mapError .file
  let context ← (Context.ofConfig config databaseUrl files).mapError .schema
  let report ← context.report i.command
  return report.render i.format

end SchemaForge
