import SchemaForge.Schema.Field

/-!
# Tables

A table is an ordered list of fields with the associations declared on it.  `Table.validate` checks
what a catalog asks of each table by itself: one primary key, field names that differ, automatic
increments on the key only and lengths on `string` fields only.
-/

namespace SchemaForge

/-! ## Associations -/

/-- How many rows stand on either side of an association. -/
inductive RelationKind
  | oneToMany
  | manyToOne
  | manyToMany
  deriving DecidableEq, Repr

/-- The name of a kind in definitions. -/
def RelationKind.name : RelationKind → String
  | .oneToMany => "one-to-many"
  | .manyToOne => "many-to-one"
  | .manyToMany => "many-to-many"

/-- An association declared on a table, and the property it is reached by. -/
structure Relation where
  kind : RelationKind
  targetTable : String
  fieldName : String
  deriving DecidableEq, Repr

/-! ## Tables -/

/-- A table: its storage name, the name of its rows in models, its fields and associations. -/
structure Table where
  name : String
  displayName : String
  fields : List Field
  relations : List Relation := []
  deriving DecidableEq, Repr

/-- Why a table is not accepted. -/
inductive TableFault
  | keyCount (count : Nat)
  | duplicateField (name : String)
  | strayAutoIncrement (name : String)
  | strayLength (name : String) (type : FieldType)
  deriving DecidableEq, Repr

/-- The wording of a fault. -/
def TableFault.message : TableFault → String
  | .keyCount count => "expected exactly one primary key, found " ++ toString count
  | .duplicateField name => "duplicate field name `" ++ name ++ "`"
  | .strayAutoIncrement name =>
    "field `" ++ name ++ "` is auto-increment but not the primary key"
  | .strayLength name type =>
    "field `" ++ name ++ "` has a length but is of type " ++ type.name

namespace Table

/-! ### Looking into a table -/

/-- The first primary key. -/
def primaryKey? (t : Table) : Option Field := t.fields.find? (·.isPrimaryKey)

/-- The first field of a name. -/
def field? (t : Table) (name : String) : Option Field := t.fields.find? (·.name == name)

/-- The fields with a foreign key, in order, each with its key. -/
def foreignKeys (t : Table) : List (Field × ForeignKey) :=
  t.fields.filterMap fun f => f.foreignKey.map fun key => (f, key)

/-- The names of the referenced tables, each once, in the order of the first references. -/
def dependencies (t : Table) : List String :=
  t.foreignKeys.foldl
    (fun found k => if k.2.targetTable ∈ found then found else found ++ [k.2.targetTable]) []

/-- The tables that foreign keys lead to, and no others. -/
theorem mem_dependencies_iff {t : Table} {name : String} :
    name ∈ t.dependencies ↔ ∃ k ∈ t.foreignKeys, k.2.targetTable = name := by
  have collected : ∀ (keys : List (Field × ForeignKey)) (found : List String),
      name ∈ keys.foldl (fun found k =>
          if k.2.targetTable ∈ found then found else found ++ [k.2.targetTable]) found ↔
        name ∈ found ∨ ∃ k ∈ keys, k.2.targetTable = name := by
    intro keys
    induction keys with
    | nil => simp
    | cons k rest ih =>
      intro found
      simp only [List.foldl_cons, ih, List.mem_cons, exists_eq_or_imp, ← or_assoc]
      refine or_congr ?_ Iff.rfl
      split
      · rename_i known
        exact ⟨.inl, fun h => h.elim id fun same => same ▸ known⟩
      · simp [eq_comm]
  rw [dependencies, collected]
  simp

/-! ### Validity -/

/-- What is wrong with a field, given the fields before it. -/
def fieldFault? (earlier : List Field) (f : Field) : Option TableFault :=
  if earlier.any (·.name == f.name) then some (.duplicateField f.name)
  else if f.isAutoIncrement && !f.isPrimaryKey then some (.strayAutoIncrement f.name)
  else if f.length.isSome && f.type != .string then some (.strayLength f.name f.type)
  else none

/-- What is wrong with the first faulty one of some fields, given those before them. -/
def fieldsFault? (earlier : List Field) : List Field → Option TableFault
  | [] => none
  | f :: rest => (fieldFault? earlier f).or (fieldsFault? (earlier ++ [f]) rest)

/-- What is wrong with a table: the number of its keys, else its first faulty field. -/
def fault? (t : Table) : Option TableFault :=
  let count := t.fields.countP (·.isPrimaryKey)
  if count ≠ 1 then some (.keyCount count) else fieldsFault? [] t.fields

/-- Accepts the table or says what is wrong with it. -/
def validate (t : Table) : Except TableFault Unit :=
  match t.fault? with
  | some fault => .error fault
  | none => .ok ()

/-! ### Declaring tables -/

/-- A table without fields. -/
def blank (name displayName : String) : Table := { name, displayName, fields := [] }

end Table

end SchemaForge
