import SchemaForge.Declaration.Column
import SchemaForge.Text.Affix

/-!
# Edges between models

An edge is a foreign key seen from both of its models: a relation on the side of the key and
another, back to it, on the side of the table that it refers to.  Two models that are linked by
more than one edge, in whatever direction, or a model that is linked to itself, need names to tell
the edges apart; `Edge.name?` is the name that an edge has among all edges.
-/

namespace SchemaForge.Prisma

/-- A column of a table that refers to a table. -/
structure Edge where
  source : TableDecl
  column : Column
  reference : Reference
  deriving DecidableEq, Repr

/-- The edges of the columns of a table. -/
def edgesOf (t : TableDecl) : List Edge :=
  t.columns.filterMap fun c => c.reference?.map fun r => ⟨t, c, r⟩

/-- The edges of all tables, one table after the other. -/
def allEdges (tables : List TableDecl) : List Edge := tables.flatMap edgesOf

namespace Edge

/-- The edge links the same two tables as another one, in either direction. -/
def linksAs (e other : Edge) : Bool :=
  (e.source.name == other.source.name && e.reference.table == other.reference.table)
    || (e.source.name == other.reference.table && e.reference.table == other.source.name)

/-- The property of the relation beside a key column: `author` for `author_id`. -/
def forwardName (column : String) : String :=
  match Text.dropEnding? "_id" column with
  | some stem => if stem.isEmpty then Text.lowerCamel column ++ "Rel" else Text.lowerCamel stem
  | none => Text.lowerCamel column ++ "Rel"

/-- The name that an edge takes when it needs one: its model and the property of its key. -/
def fullName (e : Edge) : String :=
  e.source.typeName ++ Text.upperCamel (forwardName e.column.name)

/-- An edge needs a name when another one links the same tables or when it links a table to
itself. -/
def needsName (edges : List Edge) (e : Edge) : Bool :=
  1 < edges.countP e.linksAs || e.reference.selfReferencing

/-- The name of an edge among all edges, if it needs one. -/
def name? (edges : List Edge) (e : Edge) : Option String :=
  if e.needsName edges then some e.fullName else none

end Edge

end SchemaForge.Prisma
