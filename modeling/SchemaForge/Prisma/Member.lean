import SchemaForge.Json.Printer
import SchemaForge.Prisma.Edge
import SchemaForge.Prisma.Types
import SchemaForge.Source.Artifact
import SchemaForge.Text.FreeName

/-!
# Members of a model

A model has a member for each column, a forward relation beside each column that is a foreign key,
and a back relation for each foreign key that refers to it.  `members` gives them as data, in the
order of their lines: a forward relation stands directly behind its column, back relations stand
at the end.

The columns have their names first; a relation takes a free one, so that no relation has the name
of a column or of another relation.
-/

namespace SchemaForge.Prisma

/-! ## Attributes -/

/-- The columns that a forward relation joins, and what happens on deletion. -/
structure Link where
  field : String
  reference : String
  onDelete : Option DeleteAction
  deriving DecidableEq, Repr

/-- An attribute of a member. -/
inductive Attribute
  | native (text : String)
  | id
  | unique
  | default (value : DefaultToken)
  | map (column : String)
  | relation (name : Option String) (link : Option Link)
  deriving DecidableEq, Repr

/-- The name of a referential action. -/
def actionName : DeleteAction → String
  | .cascade => "Cascade"
  | .setNull => "SetNull"
  | .restrict => "Restrict"

/-- A default value that is written as it is. -/
def literalText : DefaultValue → String
  | .text s => Json.quoted s
  | .integer n => toString n.toInt
  | .real x => x.plainText
  | .boolean b => Source.booleanText b
  | .now => "now()"

/-- The expression of a default. -/
def defaultText : DefaultToken → String
  | .now => "now()"
  | .autoIncrement => "autoincrement()"
  | .randomUuid => "uuid()"
  | .literal value => literalText value

/-- The arguments of a link. -/
def Link.arguments (l : Link) : List String :=
  ["fields: [" ++ l.field ++ "]", "references: [" ++ l.reference ++ "]"]
    ++ (l.onDelete.map fun a => "onDelete: " ++ actionName a).toList

/-- The text of an attribute. -/
def Attribute.render : Attribute → String
  | native text => text
  | id => "@id"
  | unique => "@unique"
  | default value => "@default(" ++ defaultText value ++ ")"
  | map column => "@map(" ++ Json.quoted column ++ ")"
  | relation name link =>
    "@relation("
      ++ String.intercalate ", "
        ((name.map Json.quoted).toList ++ ((link.map Link.arguments).getD []))
      ++ ")"

/-! ## Members -/

/-- How many values a member has. -/
inductive Multiplicity
  | single
  | optional
  | list
  deriving DecidableEq, Repr

/-- The mark behind a type. -/
def Multiplicity.mark : Multiplicity → String
  | .single => ""
  | .optional => "?"
  | .list => "[]"

/-- What a member of a model is. -/
inductive Role
  | scalar (column : Column)
  | forward (edge : Edge)
  | back (edge : Edge)
  deriving DecidableEq, Repr

/-- A member of a model. -/
structure Member where
  role : Role
  name : String
  base : String
  multiplicity : Multiplicity
  attributes : List Attribute
  deriving DecidableEq, Repr

/-- The type of a member with its mark. -/
def Member.typeText (m : Member) : String := m.base ++ m.multiplicity.mark

/-! ### Columns -/

/-- The attributes that a token of a column asks for. -/
def tokenAttributes (c : Column) (dialect : Dialect) : Token → List Attribute
  | .base _ => ((nativeType? dialect c.type c.length?).map Attribute.native).toList
  | .length _ => []
  | .primaryKey => [.id]
  | .notNull => []
  | .unique => [.unique]
  | .default value => [.default value]
  | .references _ => []

/-- The attribute with the storage name of a column whose property has another name. -/
def mapAttributes (c : Column) : List Attribute :=
  if c.propertyName = c.name then [] else [.map c.name]

/-- The member of a column. -/
def scalarMember (dialect : Dialect) (c : Column) : Member where
  role := .scalar c
  name := c.propertyName
  base := c.primitive
  multiplicity := if c.nullable then .optional else .single
  attributes := c.tokens.flatMap (tokenAttributes c dialect) ++ mapAttributes c

/-! ### Relations -/

/-- The model of a table by its name. -/
def modelNameOf (tables : List TableDecl) (table : String) : String :=
  ((tables.find? (·.name == table)).map TableDecl.typeName).getD (typeNameOf table)

/-- The relation beside the column of an edge, under a given name. -/
def forwardMember (tables : List TableDecl) (edges : List Edge) (e : Edge) (name : String) :
    Member where
  role := .forward e
  name := name
  base := modelNameOf tables e.reference.table
  multiplicity := if e.column.nullable then .optional else .single
  attributes := [
    .relation (e.name? edges)
      (some ⟨e.column.propertyName, Text.lowerCamel e.reference.field, e.reference.onDelete⟩)]

/-- The property that a table declares for the rows of another one. -/
def declaredBackName? (table : TableDecl) (source : String) : Option String :=
  (table.source.relations.find? fun r => r.kind == .oneToMany && r.targetTable == source).map
    fun r => Text.lowerCamel r.fieldName

/-- The number of edges from one table to another. -/
def countEdges (edges : List Edge) (source target : String) : Nat :=
  edges.countP fun e => e.source.name == source && e.reference.table == target

/-- The name that the relation back along an edge would have if it were free: the model for a
single row; else the declared property, when there is but one edge; else the table of the rows,
with the name of the key when there are several. -/
def backName (table : TableDecl) (edges : List Edge) (e : Edge) : String :=
  let several := countEdges edges e.source.name table.name
  if e.column.isUnique then Text.lowerCamel e.source.typeName
  else match declaredBackName? table e.source.name with
    | some name => if several = 1 then name else plural several
    | none => plural several
where
  /-- The name after the table of the rows. -/
  plural (several : Nat) : String :=
    if 1 < several then
      e.source.symbol ++ "By" ++ Text.upperCamel (Edge.forwardName e.column.name)
    else e.source.symbol

/-- The relation back along an edge, under a given name. -/
def backMember (edges : List Edge) (e : Edge) (name : String) : Member where
  role := .back e
  name := name
  base := e.source.typeName
  multiplicity := if e.column.isUnique then .optional else .list
  attributes := ((e.name? edges).map fun n => Attribute.relation (some n) none).toList

/-! ### A model -/

/-- The members of columns with the relations beside them, and the names used after them. -/
def columnMembers (tables : List TableDecl) (edges : List Edge) (dialect : Dialect)
    (table : TableDecl) (used : List String) : List Column → List Member × List String
  | [] => ([], used)
  | c :: rest =>
    match c.reference? with
    | none =>
      let (members, used) := columnMembers tables edges dialect table used rest
      (scalarMember dialect c :: members, used)
    | some r =>
      let e : Edge := ⟨table, c, r⟩
      let name := Text.freeName (Edge.forwardName c.name) used
      let (members, used) := columnMembers tables edges dialect table (name :: used) rest
      (scalarMember dialect c :: forwardMember tables edges e name :: members, used)

/-- The relations back along edges. -/
def backMembers (edges : List Edge) (table : TableDecl) (used : List String) :
    List Edge → List Member
  | [] => []
  | e :: rest =>
    let name := Text.freeName (backName table edges e) used
    backMember edges e name :: backMembers edges table (name :: used) rest

/-- The edges that lead to a table. -/
def edgesTo (edges : List Edge) (table : TableDecl) : List Edge :=
  edges.filter (·.reference.table == table.name)

/-- The members of a model, in the order of their lines. -/
def members (tables : List TableDecl) (dialect : Dialect) (table : TableDecl) : List Member :=
  let edges := allEdges tables
  let (own, used) :=
    columnMembers tables edges dialect table (table.columns.map (·.propertyName)) table.columns
  own ++ backMembers edges table used (edgesTo edges table)

end SchemaForge.Prisma
