import SchemaForge.Proofs.Lists
import SchemaForge.Proofs.Results
import SchemaForge.Schema.Catalog

/-!
# Valid tables and valid catalogs

`Table.WellFormed` says what a table has to be without saying how it is checked;
`Table.fault?_eq_none_iff` says that the check accepts just these tables.  A catalog is `Valid` when
its tables are well formed and have different names.  Adding tables keeps it so
(`Catalog.Valid.extend`), hence every catalog that can be built at all is valid
(`Catalog.Built.valid`).
-/

namespace SchemaForge

/-! ## Tables -/

/-- What a field may not declare, whatever the other fields are. -/
structure Field.Lawful (f : Field) : Prop where
  /-- Only a primary key is counted up. -/
  autoIncrement_key : f.isAutoIncrement = true → f.isPrimaryKey = true
  /-- Only a `string` has a length. -/
  length_string : f.length.isSome = true → f.type = .string

/-- A table with one primary key, whose fields are lawful and have different names. -/
structure Table.WellFormed (t : Table) : Prop where
  one_key : t.fields.countP (·.isPrimaryKey) = 1
  names_nodup : (t.fields.map (·.name)).Nodup
  lawful : ∀ f ∈ t.fields, f.Lawful

namespace Table

theorem fieldFault?_eq_none_iff {earlier : List Field} {f : Field} :
    fieldFault? earlier f = none ↔ (∀ g ∈ earlier, g.name ≠ f.name) ∧ f.Lawful := by
  rw [fieldFault?]
  constructor
  · intro h
    split_ifs at h with taken stray bounded
    exact ⟨by simpa using taken, by simpa using stray, by simpa using bounded⟩
  · rintro ⟨fresh, counted, bounded⟩
    rw [if_neg (by simpa using fresh), if_neg (by simpa using counted),
      if_neg (by simpa using bounded)]

theorem fieldsFault?_eq_none_iff {earlier fields : List Field} :
    fieldsFault? earlier fields = none ↔
      (∀ g ∈ earlier, ∀ f ∈ fields, g.name ≠ f.name) ∧ (fields.map (·.name)).Nodup ∧
        ∀ f ∈ fields, f.Lawful := by
  induction fields generalizing earlier with
  | nil => simp [fieldsFault?]
  | cons f rest ih =>
    rw [fieldsFault?, Option.or_eq_none_iff, fieldFault?_eq_none_iff, ih]
    simp only [List.mem_append, List.mem_cons, List.not_mem_nil, or_false, List.map_cons,
      List.nodup_cons, List.mem_map]
    constructor
    · rintro ⟨⟨hearlier, hf⟩, hrest, nodup, lawful⟩
      refine ⟨?_, ⟨?_, nodup⟩, ?_⟩
      · rintro g hg _ (rfl | hu)
        · exact hearlier g hg
        · exact hrest g (.inl hg) _ hu
      · rintro ⟨u, hu, name_eq⟩
        exact hrest f (.inr rfl) u hu name_eq.symm
      · rintro _ (rfl | hu)
        · exact hf
        · exact lawful _ hu
    · rintro ⟨hearlier, ⟨hf, nodup⟩, lawful⟩
      refine ⟨⟨fun g hg => hearlier g hg f (.inl rfl), lawful f (.inl rfl)⟩, ?_, nodup,
        fun u hu => lawful u (.inr hu)⟩
      rintro g (hg | rfl) u hu
      · exact hearlier g hg u (.inr hu)
      · exact fun name_eq => hf ⟨u, hu, name_eq.symm⟩

/-- The check accepts the well-formed tables and no others. -/
theorem fault?_eq_none_iff {t : Table} : t.fault? = none ↔ t.WellFormed := by
  rw [fault?]
  constructor
  · intro h
    split at h
    · exact absurd h (by simp)
    · rename_i one
      obtain ⟨-, nodup, lawful⟩ := fieldsFault?_eq_none_iff.1 h
      exact ⟨not_not.1 one, nodup, lawful⟩
  · intro h
    rw [if_neg (not_not.2 h.one_key)]
    exact fieldsFault?_eq_none_iff.2 ⟨by simp, h.names_nodup, h.lawful⟩

end Table

/-! ## Catalogs -/

namespace Catalog

/-- The tables of a catalog are well formed and have different names. -/
structure Valid (c : Catalog) : Prop where
  names_nodup : c.names.Nodup
  wellFormed : ∀ t ∈ c.tables, t.WellFormed

/-- The catalogs that can be built: from the built-in tables or from given ones, and by adding
tables any number of times. -/
inductive Built : Catalog → Prop
  | builtin : Built builtin
  | ofTables {tables : List Table} {c : Catalog} : Catalog.ofTables tables = .ok c → Built c
  | extend {c c' : Catalog} {tables : List Table} : Built c → c.extend tables = .ok c' → Built c'

variable {c c' : Catalog} {t : Table} {tables : List Table} {e : SchemaError}

theorem contains_iff_mem_names {name : String} : c.contains name = true ↔ name ∈ c.names := by
  rw [contains_iff, names, List.mem_map]

/-- A table is added if it is well formed and its name is new. -/
theorem insert_eq_ok_iff :
    c.insert t = .ok c' ↔ t.WellFormed ∧ t.name ∉ c.names ∧ c' = ⟨c.tables ++ [t]⟩ := by
  rw [insert, Table.validate, ← Table.fault?_eq_none_iff, ← contains_iff_mem_names]
  cases t.fault? with
  | some fault => simp
  | none => cases c.contains t.name <;> simp [@eq_comm _ c']

/-- A table that is not added has a fault, which is reported first, or the name of a table that is
there. -/
theorem insert_eq_error_iff :
    c.insert t = .error e ↔ (∃ fault, t.fault? = some fault ∧ e = .invalidTable t.name fault) ∨
      t.WellFormed ∧ t.name ∈ c.names ∧ e = .duplicateTable t.name := by
  rw [insert, Table.validate, ← Table.fault?_eq_none_iff, ← contains_iff_mem_names]
  cases t.fault? with
  | some fault => simp [@eq_comm _ e]
  | none => cases c.contains t.name <;> simp [@eq_comm _ e]

theorem Valid.empty : empty.Valid := ⟨List.nodup_nil, by simp [Catalog.empty]⟩

theorem Valid.of_accepted (nodup : c.names.Nodup) (accepted : ∀ t ∈ c.tables, t.fault? = none) :
    c.Valid :=
  ⟨nodup, fun t ht => Table.fault?_eq_none_iff.1 (accepted t ht)⟩

theorem Valid.builtin : builtin.Valid :=
  .of_accepted Builtin.nodup_names Builtin.fault_of_mem_tables

theorem Valid.insert (valid : c.Valid) (h : c.insert t = .ok c') : c'.Valid := by
  obtain ⟨wellFormed, fresh, rfl⟩ := insert_eq_ok_iff.1 h
  refine ⟨?_, ?_⟩
  · rw [names, List.map_append, List.map_singleton, ← List.concat_eq_append]
    exact List.Nodup.concat fresh valid.names_nodup
  · intro u hu
    rcases List.mem_append.1 hu with hu | hu
    · exact valid.wellFormed u hu
    · exact List.mem_singleton.1 hu ▸ wellFormed

theorem Valid.extend (valid : c.Valid) (h : c.extend tables = .ok c') : c'.Valid := by
  induction tables generalizing c with
  | nil =>
    cases h
    exact valid
  | cons t rest ih =>
    rw [extend_cons] at h
    obtain ⟨c₁, hinsert, hrest⟩ := Except.bind_eq_ok_iff.1 h
    exact ih (valid.insert hinsert) hrest

/-- Whatever way a catalog is built, it is valid. -/
theorem Built.valid (built : c.Built) : c.Valid := by
  induction built with
  | builtin => exact .builtin
  | ofTables h => exact Valid.empty.extend h
  | extend _ h ih => exact ih.extend h

/-- Tables are added if they are well formed and have new names that differ from each other. -/
theorem extend_eq_ok_iff :
    c.extend tables = .ok c' ↔ (∀ t ∈ tables, t.WellFormed) ∧ (tables.map (·.name)).Nodup ∧
      (∀ t ∈ tables, t.name ∉ c.names) ∧ c' = ⟨c.tables ++ tables⟩ := by
  induction tables generalizing c with
  | nil => simp [@eq_comm _ c']
  | cons t rest ih =>
    have step : c.extend (t :: rest) = .ok c' ↔
        ∃ c₁, c.insert t = .ok c₁ ∧ c₁.extend rest = .ok c' := by
      rw [extend_cons]
      exact Except.bind_eq_ok_iff
    have names_snoc : (⟨c.tables ++ [t]⟩ : Catalog).names = c.names ++ [t.name] := by simp [names]
    rw [step, List.map_cons, List.nodup_cons, List.mem_map]
    constructor
    · rintro ⟨c₁, hinsert, hrest⟩
      obtain ⟨wellFormed, fresh, rfl⟩ := insert_eq_ok_iff.1 hinsert
      obtain ⟨wellFormed', nodup, fresh', rfl⟩ := ih.1 hrest
      rw [names_snoc] at fresh'
      refine ⟨List.forall_mem_cons.2 ⟨wellFormed, wellFormed'⟩, ⟨?_, nodup⟩,
        List.forall_mem_cons.2 ⟨fresh, fun u hu => ?_⟩, by simp⟩
      · rintro ⟨u, hu, name_eq⟩
        exact fresh' u hu (by simp [name_eq])
      · exact fun taken => fresh' u hu (List.mem_append_left _ taken)
    · rintro ⟨wellFormed, ⟨notThere, nodup⟩, fresh, rfl⟩
      obtain ⟨wellFormed, wellFormed'⟩ := List.forall_mem_cons.1 wellFormed
      obtain ⟨fresh, fresh'⟩ := List.forall_mem_cons.1 fresh
      refine ⟨_, insert_eq_ok_iff.2 ⟨wellFormed, fresh, rfl⟩,
        ih.2 ⟨wellFormed', nodup, ?_, by simp⟩⟩
      intro u hu taken
      rw [names_snoc, List.mem_append, List.mem_singleton] at taken
      rcases taken with taken | name_eq
      · exact fresh' u hu taken
      · exact notThere ⟨u, hu, name_eq⟩

/-- A table is still there when others have been added. -/
theorem get?_of_extend (h : c.extend tables = .ok c') {name : String}
    (found : c.get? name = some t) : c'.get? name = some t := by
  obtain ⟨-, -, -, rfl⟩ := extend_eq_ok_iff.1 h
  rw [get?, List.find?_append, ← get?, found, Option.some_or]

/-- Adding tables fails at one of them: it is invalid, or there is a table of its name. -/
theorem error_of_extend (h : c.extend tables = .error e) :
    ∃ t ∈ tables, (∃ fault, t.fault? = some fault ∧ e = .invalidTable t.name fault) ∨
      e = .duplicateTable t.name := by
  induction tables generalizing c with
  | nil => exact absurd h (by simp)
  | cons t rest ih =>
    rw [extend_cons] at h
    rcases Except.bind_eq_error_iff.1 h with h | ⟨c₁, -, h⟩
    · refine ⟨t, List.mem_cons_self, ?_⟩
      rcases insert_eq_error_iff.1 h with invalid | ⟨-, -, duplicate⟩
      · exact .inl invalid
      · exact .inr duplicate
    · obtain ⟨u, hu, he⟩ := ih h
      exact ⟨u, List.mem_cons_of_mem _ hu, he⟩

end Catalog

end SchemaForge
