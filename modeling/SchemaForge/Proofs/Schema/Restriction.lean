import Mathlib.Data.List.Forall2
import SchemaForge.Proofs.Schema.Traversal

/-!
# Tables without their associations to other tables

`Table.restrict` keeps the associations of a table that lead to tables of given names and takes the
others away.  Definitions are `AlikeFor` these names when restricting them leaves no difference.

The order in which tables are resolved comes from their foreign keys, so associations have no part
in it: a catalog of restricted tables resolves to the restricted tables
(`Catalog.resolve_restrict`), and catalogs with definitions that are alike resolve to definitions
that are alike (`Catalog.exists_resolve_of_alikeFor`).
-/

namespace SchemaForge

variable {names : List String} {t t' : Table} {tables tables' : List Table}

/-! ## Tables -/

/-- The association is with a table of one of the names. -/
def Relation.leadsInto (names : List String) (r : Relation) : Bool := names.contains r.targetTable

namespace Table

/-- The table with no other associations than those with tables of the names. -/
def restrict (names : List String) (t : Table) : Table :=
  { t with relations := t.relations.filter (·.leadsInto names) }

@[simp] theorem restrict_name : (t.restrict names).name = t.name := rfl

@[simp] theorem restrict_foreignKeys : (t.restrict names).foreignKeys = t.foreignKeys := rfl

/-- Two definitions of a table that differ in associations with tables of other names, if at
all. -/
structure AlikeFor (names : List String) (t t' : Table) : Prop where
  name : t'.name = t.name
  displayName : t'.displayName = t.displayName
  fields : t'.fields = t.fields
  relations : t'.relations.filter (·.leadsInto names) = t.relations.filter (·.leadsInto names)

theorem alikeFor_iff : t.AlikeFor names t' ↔ t.restrict names = t'.restrict names := by
  constructor
  · intro alike
    rw [restrict, restrict, alike.name, alike.displayName, alike.fields, alike.relations]
  · intro same
    obtain ⟨hname, hdisplay, hfields, hrelations⟩ := Table.mk.inj same
    exact ⟨hname.symm, hdisplay.symm, hfields.symm, hrelations.symm⟩

/-- Lists of tables are alike when restricting them leaves no difference. -/
theorem forall₂_alikeFor_iff :
    List.Forall₂ (AlikeFor names) tables tables' ↔
      tables.map (restrict names) = tables'.map (restrict names) := by
  have each : AlikeFor names = fun t t' => t.restrict names = t'.restrict names := by
    funext t t'
    rw [alikeFor_iff]
  rw [each, ← List.forall₂_eq_eq_eq, List.forall₂_map_left_iff, List.forall₂_map_right_iff]

theorem map_name_of_alikeFor (alike : List.Forall₂ (AlikeFor names) tables tables') :
    tables'.map (·.name) = tables.map (·.name) := by
  have restricted := congrArg (List.map (·.name)) (forall₂_alikeFor_iff.1 alike)
  rw [List.map_map, List.map_map] at restricted
  exact restricted.symm

end Table

/-! ## Catalogs -/

namespace Traversal

/-- The state with restricted tables in its answer. -/
def restrict (names : List String) (s : Traversal) : Traversal :=
  { s with ordered := s.ordered.map (·.restrict names) }

@[simp] theorem restrict_enter (s : Traversal) (name : String) :
    (s.restrict names).enter name = (s.enter name).restrict names := rfl

@[simp] theorem restrict_leave (s : Traversal) (t : Table) :
    (s.restrict names).leave (t.restrict names) = (s.leave t).restrict names := by
  simp [leave, restrict]

end Traversal

namespace Catalog

variable {c c' : Catalog} {requested : List String} {s : Traversal}

/-- The catalog of the restricted tables. -/
def restrict (names : List String) (c : Catalog) : Catalog := ⟨c.tables.map (·.restrict names)⟩

theorem restrict_get? (name : String) :
    (c.restrict names).get? name = (c.get? name).map (·.restrict names) :=
  List.find?_map

/-- Calls on the catalog of the restricted tables go as those on the catalog. -/
theorem calls_restrict (names : List String) (c : Catalog) :
    (∀ name referrer s, (c.restrict names).visitEnd name referrer (s.restrict names)
      = (c.visitEnd name referrer s).map (·.restrict names)) ∧
    ∀ t keys s, (c.restrict names).followEnd (t.restrict names) keys (s.restrict names)
      = (c.followEnd t keys s).map (·.restrict names) := by
  refine traversal_induction
    (P := fun name referrer s r =>
      (c.restrict names).visitEnd name referrer (s.restrict names) = r.map (·.restrict names))
    (Q := fun t keys s r =>
      (c.restrict names).followEnd (t.restrict names) keys (s.restrict names)
        = r.map (·.restrict names))
    ?missing ?marked ?unmarked ?nil ?stop ?cons
  case missing =>
    intro name referrer s missing
    exact visitEnd_missing (by rw [restrict_get?, missing, Option.map_none])
  case marked =>
    intro name referrer s t found marked
    have found' : (c.restrict names).get? name = some (t.restrict names) := by
      rw [restrict_get?, found, Option.map_some]
    exact visitEnd_marked found' marked
  case unmarked =>
    intro name referrer s t r found unmarked _ ih
    have found' : (c.restrict names).get? name = some (t.restrict names) := by
      rw [restrict_get?, found, Option.map_some]
    have unmarked' : (s.restrict names).isMarked (t.restrict names).name = false := unmarked
    rw [visitEnd_unmarked found' unmarked', Table.restrict_foreignKeys, Table.restrict_name,
      Traversal.restrict_enter, ih]
    cases r with
    | error e => rfl
    | ok s' => simp only [Except.ok_map, Traversal.restrict_leave]
  case nil =>
    intro t s
    exact followEnd_nil
  case stop =>
    intro t f key rest s e _ ih
    rw [followEnd_cons, Table.restrict_name, ih, Except.error_map, Except.error_bind]
  case cons =>
    intro t f key rest s s' r _ _ ihVisit ihRest
    rw [followEnd_cons, Table.restrict_name, ihVisit, Except.ok_map, Except.ok_bind]
    exact ihRest

theorem visitAll_restrict (s : Traversal) :
    (c.restrict names).visitAll requested (s.restrict names)
      = (c.visitAll requested s).map (·.restrict names) := by
  induction requested generalizing s with
  | nil => rfl
  | cons name rest ih =>
    rw [visitAll_cons, visitAll_cons, (calls_restrict names c).1]
    cases c.visitEnd name none s with
    | error e => rfl
    | ok s' => exact ih s'

/-- Restricted tables are resolved as the tables are. -/
theorem resolve_restrict (names : List String) (c : Catalog) (requested : List String) :
    (c.restrict names).resolve requested
      = (c.resolve requested).map fun tables => tables.map (·.restrict names) := by
  have visited : (c.restrict names).visitAll requested .start
      = (c.visitAll requested .start).map (·.restrict names) := visitAll_restrict .start
  rw [resolve, resolve, visited]
  cases c.visitAll requested .start <;> rfl

/-- Definitions that are alike are resolved to definitions that are. -/
theorem exists_resolve_of_alikeFor
    (alike : List.Forall₂ (Table.AlikeFor names) c.tables c'.tables)
    (resolves : c.resolve requested = .ok tables) :
    ∃ tables', c'.resolve requested = .ok tables' ∧
      List.Forall₂ (Table.AlikeFor names) tables tables' := by
  have same : c'.restrict names = c.restrict names :=
    congrArg Catalog.mk (Table.forall₂_alikeFor_iff.1 alike).symm
  have both := resolve_restrict names c' requested
  rw [same, resolve_restrict, resolves, Except.ok_map, eq_comm, Except.map_eq_ok_iff] at both
  obtain ⟨tables', resolves', restricted⟩ := both
  exact ⟨tables', resolves', Table.forall₂_alikeFor_iff.2 restricted.symm⟩

end Catalog

end SchemaForge
