import SchemaForge.Generate
import SchemaForge.CommandLine.Arguments
import SchemaForge.Json.Printer
import SchemaForge.Outline
import SchemaForge.Target.Package
import SchemaForge.Text.Blank
import SchemaForge.Text.Padding

/-!
# Reports

A `Report` is what a command has found out.  It is shown in one of three layouts: `Report.text`
lays it out in lines and padded columns, and `Report.toJson` gives the value that the JSON layout
prints in the order of its members and the outline layout in the order of their keys.
-/

namespace SchemaForge

/-- What a command has found out. -/
inductive Report
  /-- The files that were generated. -/
  | generation (generated : Generation)
  /-- The tables that a request leads to, and the name of its selection. -/
  | resolution (label : String) (requested : List String) (tables : List Table)
  /-- The presets that can be chosen. -/
  | presets (presets : List Preset)
  /-- The tables that can be asked for. -/
  | tables (tables : List Table)
  /-- The packages that a project needs. -/
  | packages (target : Target) (packages : Packages)
  deriving DecidableEq, Repr

namespace Report

/-! ## As JSON -/

/-- The members that name a target. -/
def targetMembers (target : Target) : List (String × Json) :=
  [("backend", .string target.backend.name), ("dialect", .string target.dialect.name)]

/-- A generated file as JSON. -/
def artifactJson (a : Artifact) : Json :=
  .object [("path", .string a.path), ("content", .string a.content)]

/-- A preset as JSON. -/
def presetJson (p : Preset) : Json :=
  .object [("id", .string p.id), ("description", .string p.description),
    ("tables", Json.strings p.tables)]

/-- A table of a resolution as JSON. -/
def resolvedJson (t : Table) : Json :=
  .object [("name", .string t.name), ("display_name", .string t.displayName),
    ("depends_on", Json.strings t.dependencies)]

/-- A table of a listing as JSON. -/
def listedJson (t : Table) : Json :=
  .object [("name", .string t.name), ("display_name", .string t.displayName),
    ("fields", .nat t.fields.length), ("references", Json.strings t.dependencies)]

/-- A report as JSON. -/
def toJson : Report → Json
  | generation g =>
    .object (targetMembers g.target ++ [("tables", Json.strings g.tables),
      ("artifacts", .array (g.artifacts.map artifactJson))])
  | resolution label requested ts =>
    .object [("selection", .string label), ("requested", Json.strings requested),
      ("tables", .array (ts.map resolvedJson))]
  | presets ps => .object [("presets", .array (ps.map presetJson))]
  | tables ts => .object [("tables", .array (ts.map listedJson))]
  | packages target p =>
    .object (targetMembers target ++ [("dependencies", Json.strings p.dependencies),
      ("dev_dependencies", Json.strings p.devDependencies)])

/-! ## As text -/

open Text

/-- A generated file under its path, without blanks at its end. -/
def artifactLines (a : Artifact) : List String :=
  ["", "==> " ++ a.path ++ " <==", trimEnd a.content]

/-- What was generated, and the files one after the other. -/
def generationLines (g : Generation) : List String :=
  ("Generated " ++ g.target.backend.name ++ " schema for " ++ g.target.dialect.name ++ " ("
      ++ toString g.tables.length ++ " tables: " ++ commaJoinOrDash g.tables ++ ")")
    :: g.artifacts.flatMap artifactLines

/-- The width of a column of table names. -/
def nameWidth (tables : List Table) : Nat := columnWidth (tables.map (·.name))

/-- A table with its number and what it depends on. -/
def resolvedLine (width number : Nat) (t : Table) : String :=
  let numbered := "  " ++ padStart 2 (toString number) ++ ". "
  if t.dependencies.isEmpty then numbered ++ t.name
  else numbered ++ padEnd width t.name ++ "  -> " ++ commaJoin t.dependencies

/-- Numbered tables, from the given number on. -/
def resolvedLines (width : Nat) : Nat → List Table → List String
  | _, [] => []
  | number, t :: rest => resolvedLine width number t :: resolvedLines width (number + 1) rest

/-- What was asked for, and the tables that it leads to. -/
def resolutionLines (label : String) (requested : List String) (tables : List Table) :
    List String :=
  ["Resolve: " ++ commaJoinOrDash requested ++ " (" ++ label ++ ")", ""]
    ++ if tables.isEmpty then ["No tables selected."]
      else ("Tables (" ++ toString tables.length ++ "):")
        :: resolvedLines (nameWidth tables) 1 tables

/-- A preset with its description, and its tables below. -/
def presetLines (width : Nat) (p : Preset) : List String :=
  ["  " ++ padEnd width p.id ++ "  " ++ p.description,
    "  " ++ padEnd width "" ++ "  tables: " ++ commaJoinOrDash p.tables]

/-- All presets. -/
def presetsLines (ps : List Preset) : List String :=
  ("Presets (" ++ toString ps.length ++ "):")
    :: ps.flatMap (presetLines (columnWidth (ps.map (·.id))))

/-- A table with the number of its fields and what they reference. -/
def listedLine (width : Nat) (t : Table) : String :=
  "  " ++ padEnd width t.name ++ "  " ++ toString t.fields.length ++ " fields  references: "
    ++ commaJoinOrDash t.dependencies

/-- All tables. -/
def tablesLines (ts : List Table) : List String :=
  ("Tables (" ++ toString ts.length ++ "):") :: ts.map (listedLine (nameWidth ts))

/-- The packages of either kind. -/
def packagesLines (target : Target) (p : Packages) : List String :=
  ["Packages for " ++ target.backend.name ++ " on " ++ target.dialect.name ++ ":",
    "  dependencies:     " ++ commaJoinOrDash p.dependencies,
    "  dev dependencies: " ++ commaJoinOrDash p.devDependencies]

/-- The lines of a report. -/
def lines : Report → List String
  | generation g => generationLines g
  | resolution label requested ts => resolutionLines label requested ts
  | presets ps => presetsLines ps
  | tables ts => tablesLines ts
  | packages target p => packagesLines target p

/-- A report in lines and padded columns. -/
def text (r : Report) : String := joinLines r.lines

/-! ## In any layout -/

/-- A report in the layout that was asked for. -/
def render (r : Report) : OutputFormat → String
  | .table => r.text
  | .json => r.toJson.pretty
  | .outline => Outline.render r.toJson

end Report

end SchemaForge
