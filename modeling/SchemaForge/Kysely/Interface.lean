import SchemaForge.Declaration.Column
import SchemaForge.Kysely.Types

/-!
# Interfaces for Kysely

Every table becomes four interfaces: one that Kysely itself reads, in which the columns that an
insert may leave to the database are wrapped in `Generated`, and one each for a row that is read,
inserted and updated.  `tableInterfaces` gives them as data, a property for each column.
-/

namespace SchemaForge.Kysely

/-! ## Properties -/

/-- The type of a property. -/
structure PropertyType where
  primitive : String
  nullable : Bool
  generated : Bool
  deriving DecidableEq, Repr

/-- The text of a type. -/
def PropertyType.render (t : PropertyType) : String :=
  let plain := t.primitive ++ (if t.nullable then " | null" else "")
  if t.generated then generatedType ++ "<" ++ plain ++ ">" else plain

/-- A property of an interface. -/
structure Property where
  name : String
  isOptional : Bool
  type : PropertyType
  deriving DecidableEq, Repr

/-- The line of a property. -/
def Property.line (p : Property) : String :=
  "  " ++ p.name ++ (if p.isOptional then "?" else "") ++ ": " ++ p.type.render ++ ";\n"

/-- The database fills the column in when an insert leaves it out. -/
def isGenerated (c : Column) : Bool := c.isServerGenerated || c.default?.isSome

/-- The property of a column in the interface that Kysely reads. -/
def tableProperty (c : Column) : Property :=
  ⟨c.name, false, ⟨c.primitive, c.nullable, isGenerated c⟩⟩

/-- The property of a column in the type of a row. -/
def rowProperty (p : Projected) : Property :=
  ⟨p.column.name, p.isOptional, ⟨p.column.primitive, p.column.nullable, false⟩⟩

/-! ## Interfaces -/

/-- An interface. -/
structure Interface where
  name : String
  properties : List Property
  deriving DecidableEq, Repr

/-- The text of an interface. -/
def Interface.render (i : Interface) : String :=
  if i.properties.isEmpty then "export interface " ++ i.name ++ " \x7b\x7d\n"
  else
    "export interface " ++ i.name ++ " \x7b\n" ++ String.join (i.properties.map Property.line)
      ++ "\x7d\n"

/-- The name of the interface that Kysely reads. -/
def tableInterfaceName (t : TableDecl) : String := t.typeName ++ "Table"

/-- The interface that Kysely reads. -/
def tableInterface (t : TableDecl) : Interface :=
  ⟨tableInterfaceName t, t.columns.map tableProperty⟩

/-- A row that is read. -/
def recordInterface (t : TableDecl) : Interface :=
  ⟨t.typeName, (recordProjection t.columns).map rowProperty⟩

/-- A row that is inserted. -/
def insertInterface (t : TableDecl) : Interface :=
  ⟨"New" ++ t.typeName, (insertProjection t.columns).map rowProperty⟩

/-- The changes to a row. -/
def updateInterface (t : TableDecl) : Interface :=
  ⟨t.typeName ++ "Update", (updateProjection t.columns).map rowProperty⟩

/-- The interfaces of a table. -/
def tableInterfaces (t : TableDecl) : List Interface :=
  [tableInterface t, recordInterface t, insertInterface t, updateInterface t]

/-- The interface that binds the names of tables to their interfaces. -/
def databaseInterface (tables : List TableDecl) : Interface :=
  ⟨"Database", tables.map fun t => ⟨t.name, false, ⟨tableInterfaceName t, false, false⟩⟩⟩

end SchemaForge.Kysely
