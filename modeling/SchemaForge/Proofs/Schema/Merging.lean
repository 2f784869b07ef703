import SchemaForge.Proofs.Schema.Validity

/-!
# Merging tables into a catalog

What comes of adding a list of tables to a catalog.  All are added, behind those that are there, or
none is and the error is that of the first table that offends.  `Catalog.Addable` says which lists
are added, `Catalog.Refuses` what the error says of a table.

Main results:

* two lists added one after the other are their concatenation added at once
  (`Catalog.extend_append`);
* a merge fails at the first table that offends, with the error of that table
  (`Catalog.extend_eq_error_iff`);
* a catalog that can be built is consistent, and each merge into it is exact
  (`Catalog.merge_exact`).
-/

namespace SchemaForge

theorem Table.validate_eq_ok_iff {t : Table} : t.validate = .ok () ↔ t.WellFormed := by
  rw [← Table.fault?_eq_none_iff, Table.validate]
  cases t.fault? <;> simp

theorem Table.validate_eq_error_iff {t : Table} {fault : TableFault} :
    t.validate = .error fault ↔ t.fault? = some fault := by
  rw [Table.validate]
  cases t.fault? <;> simp

namespace Catalog

variable {c c' : Catalog} {t : Table} {tables front back : List Table} {e : SchemaError}

/-! ## Consistent catalogs -/

/-- Each name stands for one table, which has that name and passes its check. -/
structure Consistent (c : Catalog) : Prop where
  /-- What is found under a name is a table of the catalog with that name. -/
  found : ∀ name t, c.get? name = some t → t.name = name ∧ t ∈ c.tables
  /-- Every table is found under its name. -/
  held : ∀ t ∈ c.tables, c.get? t.name = some t
  /-- No name comes twice. -/
  names_nodup : c.names.Nodup
  /-- Every table passes the check. -/
  validated : ∀ t ∈ c.tables, t.validate = .ok ()

/-- Where no name comes twice, a table is what its name is looked up as. -/
theorem get?_name_of_mem (nodup : c.names.Nodup) (ht : t ∈ c.tables) :
    c.get? t.name = some t :=
  (find?_key_eq_some_iff nodup).2 ⟨ht, rfl⟩

theorem Valid.consistent (valid : c.Valid) : c.Consistent where
  found _ _ h := ⟨name_of_get? h, mem_of_get? h⟩
  held _ ht := get?_name_of_mem valid.names_nodup ht
  names_nodup := valid.names_nodup
  validated t ht := Table.validate_eq_ok_iff.2 (valid.wellFormed t ht)

/-! ## What is added, and what is refused -/

/-- Tables that pass their checks, with names that are new and differ from each other. -/
structure Addable (c : Catalog) (tables : List Table) : Prop where
  validated : ∀ t ∈ tables, t.validate = .ok ()
  names_nodup : (tables.map (·.name)).Nodup
  names_new : ∀ t ∈ tables, c.contains t.name = false

/-- The error of a table where some names are taken.  Whether its name is taken is only asked once
its check is passed. -/
inductive Refuses (taken : List String) (t : Table) : SchemaError → Prop
  | invalid {fault : TableFault} :
    t.validate = .error fault → Refuses taken t (.invalidTable t.name fault)
  | duplicate : t.validate = .ok () → t.name ∈ taken → Refuses taken t (.duplicateTable t.name)

theorem contains_eq_false_iff {name : String} : c.contains name = false ↔ name ∉ c.names := by
  rw [← contains_iff_mem_names, Bool.not_eq_true]

/-- Lists are added just when they are addable, and come behind what is there. -/
theorem extend_eq_ok_iff_addable :
    c.extend tables = .ok c' ↔ c.Addable tables ∧ c' = ⟨c.tables ++ tables⟩ := by
  rw [extend_eq_ok_iff]
  simp only [← Table.validate_eq_ok_iff, ← contains_eq_false_iff]
  constructor
  · rintro ⟨validated, nodup, new, rfl⟩
    exact ⟨⟨validated, nodup, new⟩, rfl⟩
  · rintro ⟨⟨validated, nodup, new⟩, rfl⟩
    exact ⟨validated, nodup, new, rfl⟩

theorem Addable.extend (addable : c.Addable tables) :
    c.extend tables = .ok ⟨c.tables ++ tables⟩ :=
  extend_eq_ok_iff_addable.2 ⟨addable, rfl⟩

theorem Addable.nil : c.Addable [] := ⟨by simp, List.nodup_nil, by simp⟩

/-- One table is refused for what its check finds, else for its name. -/
theorem insert_eq_error_iff_refuses : c.insert t = .error e ↔ Refuses c.names t e := by
  rw [insert_eq_error_iff]
  constructor
  · rintro (⟨fault, faulty, rfl⟩ | ⟨wellFormed, taken, rfl⟩)
    · exact .invalid (Table.validate_eq_error_iff.2 faulty)
    · exact .duplicate (Table.validate_eq_ok_iff.2 wellFormed) taken
  · rintro (⟨faulty⟩ | ⟨validated, taken⟩)
    · exact .inl ⟨_, Table.validate_eq_error_iff.1 faulty, rfl⟩
    · exact .inr ⟨Table.validate_eq_ok_iff.1 validated, taken, rfl⟩

/-! ## Merging step by step -/

/-- Two lists added one after the other. -/
theorem extend_append (c : Catalog) (front back : List Table) :
    c.extend (front ++ back) = (c.extend front).bind fun c' => c'.extend back := by
  induction front generalizing c with
  | nil => rfl
  | cons t rest ih =>
    rw [List.cons_append, extend_cons, extend_cons]
    cases c.insert t with
    | error e => rfl
    | ok c₁ => exact ih c₁

/-- Of a list that is not added, a part in front is, and the next table is refused. -/
theorem exists_refused (h : c.extend tables = .error e) :
    ∃ front t back, tables = front ++ t :: back ∧ c.Addable front ∧
      Catalog.insert ⟨c.tables ++ front⟩ t = .error e := by
  induction tables generalizing c with
  | nil => exact absurd h (by simp)
  | cons t rest ih =>
    rw [extend_cons] at h
    rcases Except.bind_eq_error_iff.1 h with refused | ⟨c₁, added, h⟩
    · exact ⟨[], t, rest, rfl, .nil, by rwa [List.append_nil]⟩
    · obtain ⟨front, u, back, rfl, addable, refused⟩ := ih h
      have both : c.extend (t :: front) = .ok ⟨c₁.tables ++ front⟩ := by
        rw [extend_cons, added]
        exact addable.extend
      obtain ⟨addable', same⟩ := extend_eq_ok_iff_addable.1 both
      exact ⟨t :: front, u, back, rfl, addable', same ▸ refused⟩

/-- A merge fails at the first table that cannot follow those before it: the tables before it can be
added, and it is refused where their names are taken besides those of the catalog. -/
theorem extend_eq_error_iff :
    c.extend tables = .error e ↔ ∃ front t back, tables = front ++ t :: back ∧
      c.Addable front ∧ Refuses (c.names ++ front.map (·.name)) t e := by
  have names_append (front : List Table) :
      (⟨c.tables ++ front⟩ : Catalog).names = c.names ++ front.map (·.name) := List.map_append
  constructor
  · intro h
    obtain ⟨front, t, back, split, addable, refused⟩ := exists_refused h
    rw [insert_eq_error_iff_refuses, names_append] at refused
    exact ⟨front, t, back, split, addable, refused⟩
  · rintro ⟨front, t, back, rfl, addable, refuses⟩
    rw [← names_append, ← insert_eq_error_iff_refuses] at refuses
    rw [extend_append, addable.extend, Except.ok_bind, extend_cons, refuses]
    rfl

/-! ## Exact merging -/

/-- How a list of tables is merged into a catalog. -/
structure MergesExactly (c : Catalog) (tables : List Table) : Prop where
  /-- The list is added just when it is addable, behind the tables that are there. -/
  added : ∀ c', c.extend tables = .ok c' ↔ c.Addable tables ∧ c' = ⟨c.tables ++ tables⟩
  /-- Names keep their tables in the catalog with more of them. -/
  kept : ∀ c' name t, c.extend tables = .ok c' → c.get? name = some t → c'.get? name = some t
  /-- An error is that of the first table that is refused. -/
  refused : ∀ e, c.extend tables = .error e ↔ ∃ front t back, tables = front ++ t :: back ∧
    c.Addable front ∧ Refuses (c.names ++ front.map (·.name)) t e
  /-- More tables may as well be added afterwards. -/
  composed : ∀ more, c.extend (tables ++ more) = (c.extend tables).bind fun c' => c'.extend more

/-- A catalog that can be built, from the built-in tables or from given ones and by merging any
number of times, is consistent, and whatever is merged into it is merged exactly. -/
theorem merge_exact (built : c.Built) : c.Consistent ∧ ∀ tables, c.MergesExactly tables := by
  refine ⟨built.valid.consistent, fun tables => ⟨?added, ?kept, ?refused, ?composed⟩⟩
  case added => exact fun c' => extend_eq_ok_iff_addable
  case kept => exact fun c' name t h => get?_of_extend h
  case refused => exact fun e => extend_eq_error_iff
  case composed => exact extend_append c tables

/-- A table without a key that is also called `users` is refused for the missing key. -/
theorem merge_exact_builtin :
    Built builtin ∧ builtin.extend [.blank "users" "User", .blank "notes" "Note"] =
      .error (.invalidTable "users" (.keyCount 0)) :=
  ⟨.builtin, ((merge_exact .builtin).2 _).refused _ |>.2
    ⟨[], .blank "users" "User", [.blank "notes" "Note"], rfl, .nil, .invalid rfl⟩⟩

end Catalog

end SchemaForge
