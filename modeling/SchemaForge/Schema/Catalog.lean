import SchemaForge.Schema.Builtin
import SchemaForge.Schema.Error

/-!
# Catalogs

A catalog holds tables by name, in the order in which they came.  Tables are only ever added, by
`Catalog.extend`, which checks each table by itself and its name against all others, and gives a
new catalog or the error of the first table that cannot be added.
-/

namespace SchemaForge

/-- Tables, to be looked up by name.  There are no keys beside the tables: the built-in tables and
those that are added later are both put in under their own name, so a table has its key in it. -/
structure Catalog where
  tables : List Table
  deriving DecidableEq, Repr

namespace Catalog

/-! ## Looking up -/

/-- The table of a name. -/
def get? (c : Catalog) (name : String) : Option Table := c.tables.find? (·.name == name)

/-- There is a table of this name. -/
def contains (c : Catalog) (name : String) : Bool := (c.get? name).isSome

/-- The names of the tables, in order. -/
def names (c : Catalog) : List String := c.tables.map (·.name)

/-- The number of tables. -/
def size (c : Catalog) : Nat := c.tables.length

/-! ## Building -/

/-- The catalog without tables. -/
def empty : Catalog := ⟨[]⟩

/-- The catalog of the built-in tables. -/
def builtin : Catalog := ⟨Builtin.tables⟩

/-- The catalog with one more table, which must be valid and have a new name. -/
def insert (c : Catalog) (t : Table) : Except SchemaError Catalog :=
  match t.validate with
  | .error fault => .error (.invalidTable t.name fault)
  | .ok () => if c.contains t.name then .error (.duplicateTable t.name) else .ok ⟨c.tables ++ [t]⟩

/-- The catalog with more tables, added one after the other. -/
def extend (c : Catalog) : List Table → Except SchemaError Catalog
  | [] => .ok c
  | t :: rest =>
    match c.insert t with
    | .error e => .error e
    | .ok c' => c'.extend rest

/-- A catalog of the given tables alone. -/
def ofTables (tables : List Table) : Except SchemaError Catalog := empty.extend tables

/-! ## Small facts -/

@[simp] theorem extend_nil (c : Catalog) : c.extend [] = .ok c := rfl

theorem extend_cons (c : Catalog) (t : Table) (rest : List Table) :
    c.extend (t :: rest) = (c.insert t >>= fun c' => c'.extend rest) := by
  simp only [extend, bind, Except.bind]
  cases c.insert t <;> rfl

/-- A table is found under its own name. -/
theorem name_of_get? {c : Catalog} {name : String} {t : Table} (h : c.get? name = some t) :
    t.name = name := by
  simpa using List.find?_some h

/-- Whatever is found is in the catalog. -/
theorem mem_of_get? {c : Catalog} {name : String} {t : Table} (h : c.get? name = some t) :
    t ∈ c.tables := List.mem_of_find?_eq_some h

/-- A name is taken when a table of the catalog has it. -/
theorem contains_iff {c : Catalog} {name : String} :
    c.contains name = true ↔ ∃ t ∈ c.tables, t.name = name := by
  simp [contains, get?, List.find?_isSome]

end Catalog

end SchemaForge
