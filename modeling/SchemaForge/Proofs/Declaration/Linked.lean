import SchemaForge.Proofs.Outcome

/-!
# The tables of a request, lowered

What a request resolves to is whole: the names are unambiguous and foreign keys lead to one another.
`Linked` keeps this for the tables made ready for a target, where the backends look things up by
name; `Linked.of_resolve` says that every request leads to it.
-/

namespace SchemaForge

/-- Tables made ready for a target whose names tell them apart, as the names of its columns do in
each of them, and that refer to one another. -/
structure Linked (models : List TableDecl) : Prop where
  names_nodup : (models.map (·.name)).Nodup
  columns_nodup : ∀ t ∈ models, (t.columns.map (·.name)).Nodup
  /-- A reference leads to one of the tables. -/
  target_mem : ∀ t ∈ models, ∀ c ∈ t.columns, ∀ r, c.reference? = some r →
    r.table ∈ models.map (·.name)
  /-- A reference is marked when it leads to the table of the column. -/
  selfReferencing_iff : ∀ t ∈ models, ∀ c ∈ t.columns, ∀ r, c.reference? = some r →
    (r.selfReferencing = true ↔ r.table = t.name)

namespace Linked

variable {catalog : Catalog} {requested : List String} {tables : List Table} {target : Target}
  {models : List TableDecl} {t u : TableDecl} {c c' : Column}

/-- Whatever is requested of a valid catalog, the tables found are linked. -/
theorem of_resolve (valid : catalog.Valid) (resolves : catalog.resolve requested = .ok tables)
    (lowered : lowerTables target tables = .ok models) : Linked models where
  names_nodup := by
    have nodup := catalog.nodup_of_resolve resolves
    rw [← map_source_of_lowerTables lowered, List.map_map] at nodup
    exact nodup
  columns_nodup t ht := by
    have hsource : t.source ∈ tables := map_source_of_lowerTables lowered ▸ List.mem_map_of_mem ht
    rw [map_name_columns lowered ht]
    exact (wellFormed_of_resolve valid resolves t.source hsource).names_nodup
  target_mem _ ht _ hc _ hr := target_mem_of_reference? lowered ht hc hr
  selfReferencing_iff _ ht _ hc _ hr := selfReferencing_iff_of_reference? lowered ht hc hr

/-- The tables that a request leads to are linked. -/
theorem of_lowers {request : Request} (valid : catalog.Valid)
    (lowers : Lowers catalog request models) : Linked models := by
  obtain ⟨merges, -, resolves, lowered⟩ := lowers
  exact .of_resolve (valid.extend merges) resolves lowered

variable (linked : Linked models)
include linked

theorem eq_of_name (ht : t ∈ models) (hu : u ∈ models) (h : t.name = u.name) : t = u :=
  List.inj_on_of_nodup_map linked.names_nodup ht hu h

theorem column_eq_of_name (ht : t ∈ models) (hc : c ∈ t.columns) (hc' : c' ∈ t.columns)
    (h : c.name = c'.name) : c = c' :=
  List.inj_on_of_nodup_map (linked.columns_nodup t ht) hc hc' h

/-- The columns that refer to their own table are those that refer to the table of its name. -/
theorem refersToItself_eq (ht : t ∈ models) (hc : c ∈ t.columns) :
    c.refersToItself = c.refersTo t.name := by
  rw [Column.refersToItself, Column.refersTo]
  cases hr : c.reference? with
  | none => rfl
  | some r =>
    rw [Option.any_some, Option.any_some, Bool.eq_iff_iff, beq_iff_eq]
    exact linked.selfReferencing_iff t ht c hc r hr

end Linked

end SchemaForge
