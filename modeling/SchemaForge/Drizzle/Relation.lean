import SchemaForge.Drizzle.Column
import SchemaForge.Text.Affix

/-!
# Associations of a Drizzle schema

Behind the tables a schema declares their associations, in a block for each table that has any:

    export const postsRelations = relations(posts, ({ many, one }) => ({
      author: one(users, { fields: [posts.authorId], references: [users.id] }),
      comments: many(comments),
    }));

`entries` gives the entries of a block as data, each with the foreign key that it is bound to.  An
association to a table that is not generated has no entry.  An entry has a `relationName` when the
tables are linked more than once or are the same; the name is that of the table and the column of
the key (`relationNameOf`).
-/

namespace SchemaForge.Drizzle

/-! ## Choosing keys -/

/-- The ending of the names of key columns. -/
def keyEnding : String := "_id"

/-- The part of the name of a key column that says what it refers to: `sender` for `sender_id`. -/
def keyStem (column : String) : String := (Text.dropEnding? keyEnding column).getD column

/-- The key of a many-to-one association: the one whose stem is the name of the association, else
the first. -/
def forwardKey? (keys : List Column) (fieldName : String) : Option Column :=
  (keys.find? fun k => keyStem k.name == fieldName).or keys.head?

/-- The key of a one-to-many association to a table with several keys: the one whose stem occurs
in the name of the association, else the one at the position of the association among those to
the same table. -/
def backKey? (keys : List Column) (fieldName : String) (position : Nat) : Option Column :=
  (keys.find? fun k => Text.containsText fieldName (keyStem k.name)).or keys[position]?

/-- The first table other than the two that references both. -/
def junction? (tables : List TableDecl) (left right : String) : Option TableDecl :=
  tables.find? fun t =>
    t.name != left && t.name != right && t.source.dependencies.contains left
      && t.source.dependencies.contains right

/-- The name that both sides of an association give to the key between them. -/
def relationNameOf (table column : String) : String := table ++ "_" ++ column

/-! ## Entries -/

/-- An entry of a block, by the property that it declares. -/
inductive Entry
  /-- The row that a key of this table refers to. -/
  | one (property : String) (target : TableDecl) (key : Column) (reference : Reference)
      (isNamed : Bool)
  /-- The rows of a table that refer to this one, by a key if there are several. -/
  | many (property : String) (target : TableDecl) (key : Option Column)
  /-- The rows of a junction. -/
  | through (property : String) (junction : TableDecl)
  deriving DecidableEq, Repr

namespace Entry

/-- The property that an entry declares. -/
def property : Entry → String
  | one property .. => property
  | many property .. => property
  | through property _ => property

/-- The helper that an entry calls. -/
def helper : Entry → String
  | one .. => "one"
  | many .. => "many"
  | through .. => "many"

/-- The relation name of an entry in the block of a table. -/
def relationName? (table : TableDecl) : Entry → Option String
  | one _ _ key _ isNamed => if isNamed then some (relationNameOf table.name key.name) else none
  | many _ target key => key.map fun k => relationNameOf target.name k.name
  | through .. => none

end Entry

/-- The entry of a many-to-one association. -/
def oneEntry? (table target : TableDecl) (r : Relation) : Option Entry := do
  let keys := table.keysTo target.name
  let key ← forwardKey? keys r.fieldName
  let reference ← key.reference?
  return .one (Text.lowerCamel r.fieldName) target key reference
    (reference.selfReferencing || 1 < keys.length)

/-- The keys of a one-to-many association: those of the other table, or the keys of a table to
itself. -/
def backKeys (table target : TableDecl) : List Column :=
  if target.name = table.name then table.columns.filter (·.refersToItself)
  else target.keysTo table.name

/-- The entry of a one-to-many association at its position among those to the same table. -/
def manyEntry? (table target : TableDecl) (r : Relation) (position : Nat) : Option Entry :=
  let keys := backKeys table target
  let property := Text.lowerCamel r.fieldName
  if target.name = table.name ∨ 1 < keys.length then
    (backKey? keys r.fieldName position).map fun key => .many property target (some key)
  else some (.many property target none)

/-- The entry of a many-to-many association. -/
def throughEntry? (tables : List TableDecl) (table target : TableDecl) (r : Relation) :
    Option Entry :=
  (junction? tables table.name target.name).map fun j => .through (Text.lowerCamel r.fieldName) j

/-- The number of one-to-many associations to a table. -/
def countBack (relations : List Relation) (target : String) : Nat :=
  relations.countP fun r => r.kind == .oneToMany && r.targetTable == target

/-- The entry of an association of a table, given the associations declared before it. -/
def bound? (tables : List TableDecl) (table : TableDecl) (earlier : List Relation)
    (r : Relation) : Option Entry := do
  let target ← tables.find? (·.name == r.targetTable)
  match r.kind with
  | .manyToOne => oneEntry? table target r
  | .oneToMany => manyEntry? table target r (countBack earlier r.targetTable)
  | .manyToMany => throughEntry? tables table target r

/-- The entries of associations of a table, given those declared before them. -/
def entriesFrom (tables : List TableDecl) (table : TableDecl) (earlier : List Relation) :
    List Relation → List Entry
  | [] => []
  | r :: rest =>
    (bound? tables table earlier r).toList ++ entriesFrom tables table (earlier ++ [r]) rest

/-- The entries of the block of a table. -/
def entries (tables : List TableDecl) (table : TableDecl) : List Entry :=
  entriesFrom tables table [] table.source.relations

/-! ## Their text -/

/-- The options of a to-one entry. -/
def oneOptions (table target : TableDecl) (key : Column) (reference : Reference) : String :=
  "fields: [" ++ table.symbol ++ "." ++ key.propertyName ++ "], references: [" ++ target.symbol
    ++ "." ++ Text.lowerCamel reference.field ++ "]"

/-- The option that names an association. -/
def nameOption (name : String) : String := "relationName: " ++ Text.singleQuoted name

/-- The call of an entry in the block of a table. -/
def Entry.call (table : TableDecl) (e : Entry) : String :=
  match e with
  | .one _ target key reference _ =>
    "one(" ++ target.symbol ++ ", "
      ++ Source.braced (oneOptions table target key reference
        ++ (match e.relationName? table with
          | some name => ", " ++ nameOption name
          | none => ""))
      ++ ")"
  | .many _ target _ =>
    "many(" ++ target.symbol
      ++ (match e.relationName? table with
        | some name => ", " ++ Source.braced (nameOption name)
        | none => "")
      ++ ")"
  | .through _ junction => "many(" ++ junction.symbol ++ ")"

/-- The line of an entry in the block of a table. -/
def Entry.line (table : TableDecl) (e : Entry) : String :=
  "  " ++ e.property ++ ": " ++ e.call table ++ ","

/-- The helpers that entries call, in ascending order. -/
def helpers (es : List Entry) : List String := nameSet (es.map Entry.helper)

/-- The constant that a block is bound to. -/
def blockSymbol (table : TableDecl) : String := table.symbol ++ "Relations"

/-- The block of a table with the given entries. -/
def renderBlock (table : TableDecl) (es : List Entry) : String :=
  "export const " ++ blockSymbol table ++ " = relations(" ++ table.symbol ++ ", ("
    ++ Source.braced (String.intercalate ", " (helpers es)) ++ ") => (\x7b\n"
    ++ String.intercalate "\n" (es.map (Entry.line table)) ++ "\n\x7d));\n"

/-- The blocks of tables that have entries. -/
def blocks (tables : List TableDecl) : List String :=
  tables.filterMap fun t =>
    let es := entries tables t
    if es.isEmpty then none else some (renderBlock t es)

end SchemaForge.Drizzle
