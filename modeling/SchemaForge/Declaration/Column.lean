import SchemaForge.Declaration.Token
import SchemaForge.Schema.Table
import SchemaForge.Text.WordCase

/-!
# Columns and table declarations

A `Column` is a field made ready for one target: its tokens in order, and what the backends ask
about it, all answered from the tokens.  A `TableDecl` is a table with its columns.  The three
projections give the columns of a row that is read, inserted and updated.
-/

namespace SchemaForge

/-! ## Columns -/

/-- A field made ready for a target. -/
structure Column where
  name : String
  type : FieldType
  keyGeneration : KeyGeneration
  nullable : Bool
  tokens : List Token
  deriving DecidableEq, Repr

namespace Column

/-- The backend's type; empty for a column without one. -/
def primitive (c : Column) : String :=
  (c.tokens.findSome? fun | .base p => some p | _ => none).getD ""

/-- The declared length. -/
def length? (c : Column) : Option UInt32 :=
  c.tokens.findSome? fun | .length n => some n | _ => none

/-- The default. -/
def default? (c : Column) : Option DefaultToken :=
  c.tokens.findSome? fun | .default d => some d | _ => none

/-- What the column refers to. -/
def reference? (c : Column) : Option Reference :=
  c.tokens.findSome? fun | .references r => some r | _ => none

/-- The column is the primary key. -/
def isPrimaryKey (c : Column) : Bool := c.tokens.contains .primaryKey

/-- The values of the column do not repeat, by a constraint of its own. -/
def isUnique (c : Column) : Bool := c.tokens.contains .unique

/-- The database makes the values itself, and an insert must not give one. -/
def isServerGenerated (c : Column) : Bool := c.keyGeneration == .autoIncrement

/-- An insert may leave the column out. -/
def isInsertOptional (c : Column) : Bool := c.nullable || c.default?.isSome

/-- The name of the column in generated code: `authorId` for `author_id`. -/
def propertyName (c : Column) : String := Text.lowerCamel c.name

/-- The column refers to the table of the given name. -/
def refersTo (c : Column) (table : String) : Bool := c.reference?.any (·.table == table)

/-- The column refers to its own table. -/
def refersToItself (c : Column) : Bool := c.reference?.any (·.selfReferencing)

end Column

/-! ## Tables -/

/-- The name of the rows of a table in generated code: `PostTag`. -/
def typeNameOf (displayName : String) : String := Text.upperCamel displayName

/-- The name that a table is bound to in generated code: `postTags` for `post_tags`. -/
def symbolOf (tableName : String) : String := Text.lowerCamel tableName

/-- A table with its columns for a target. -/
structure TableDecl where
  source : Table
  columns : List Column
  deriving DecidableEq, Repr

namespace TableDecl

/-- The storage name. -/
def name (t : TableDecl) : String := t.source.name

/-- The name of the rows in generated code. -/
def typeName (t : TableDecl) : String := typeNameOf t.source.displayName

/-- The name in generated code. -/
def symbol (t : TableDecl) : String := symbolOf t.source.name

/-- The primary key. -/
def primaryKey? (t : TableDecl) : Option Column := t.columns.find? (·.isPrimaryKey)

/-- The columns that refer to the table of the given name, in order. -/
def keysTo (t : TableDecl) (target : String) : List Column :=
  t.columns.filter (·.refersTo target)

end TableDecl

/-- The columns of all tables, one table after the other. -/
def allColumns (tables : List TableDecl) : List Column := tables.flatMap (·.columns)

/-! ## Sets of names -/

/-- Adds a name to a list in ascending order without repetition. -/
def insertName (name : String) : List String → List String
  | [] => [name]
  | other :: rest =>
    if name < other then name :: other :: rest
    else if name = other then other :: rest
    else other :: insertName name rest

/-- Names in ascending order, each once. -/
def nameSet (names : List String) : List String := names.foldr insertName []

theorem mem_insertName {a name : String} {names : List String} :
    a ∈ insertName name names ↔ a = name ∨ a ∈ names := by
  induction names with
  | nil => simp [insertName]
  | cons other rest ih =>
    simp only [insertName]
    split
    · simp
    · split
      · rename_i h
        subst h
        simp
      · simp only [List.mem_cons, ih]
        constructor <;> rintro (h | h | h) <;> simp [h]

/-- A set of names has the names that it was made from. -/
theorem mem_nameSet {a : String} {names : List String} : a ∈ nameSet names ↔ a ∈ names := by
  induction names with
  | nil => simp [nameSet]
  | cons name rest ih =>
    rw [show nameSet (name :: rest) = insertName name (nameSet rest) from rfl, mem_insertName, ih,
      List.mem_cons]

/-- The backend types of all columns. -/
def usedPrimitives (tables : List TableDecl) : List String :=
  nameSet ((allColumns tables).map (·.primitive))

/-! ## Projections -/

/-- A column as one of the row types has it. -/
structure Projected where
  column : Column
  /-- The property may be left out. -/
  isOptional : Bool
  deriving DecidableEq, Repr

/-- A row that is read: every column. -/
def recordProjection (columns : List Column) : List Projected :=
  columns.map fun c => ⟨c, false⟩

/-- A row that is inserted: without the columns that the database fills, optional where an insert
may leave a column out. -/
def insertProjection (columns : List Column) : List Projected :=
  (columns.filter fun c => !c.isServerGenerated).map fun c => ⟨c, c.isInsertOptional⟩

/-- The changes to a row: every column, all optional. -/
def updateProjection (columns : List Column) : List Projected :=
  columns.map fun c => ⟨c, true⟩

end SchemaForge
