import Mathlib.Data.List.Permutation
import SchemaForge.Generate
import SchemaForge.Proofs.Declaration.Lowering
import SchemaForge.Proofs.Schema.Resolution

/-!
# How generating ends

Four steps can fail on the way from a request to its files.  `Decided` lists the tests that decide
how it ends, each behind the ones that come before it, and `generate_decided` says that nothing else
does: what a catalog checks and what resolving finds leave lowering no reason to fail but a type
that the backend lacks.
-/

namespace SchemaForge

variable {c : Catalog} {requested : List String} {tables : List Table}

/-! ## The steps before lowering -/

theorem Selection.tableNames_eq_error_iff {selection : Selection} {e : SchemaError} :
    selection.tableNames = .error e ↔
      ∃ id, selection = .preset id ∧ id ∉ Preset.all.map (·.id) ∧ e = .unknownPreset id := by
  cases selection with
  | custom names => simp [tableNames]
  | preset id =>
    have unknown : Preset.all.find? (·.id == id) = none ↔ id ∉ Preset.all.map (·.id) := by
      rw [List.find?_eq_none, List.mem_map]
      simp
    have here : (∃ id', Selection.preset id = .preset id' ∧ id' ∉ Preset.all.map (·.id) ∧
        e = .unknownPreset id') ↔ id ∉ Preset.all.map (·.id) ∧ e = .unknownPreset id := by
      simp only [Selection.preset.injEq, exists_eq_left']
    rw [tableNames, Except.map_eq_error_iff, Preset.find, here, ← unknown]
    cases Preset.all.find? (·.id == id) with
    | none => simpa using eq_comm
    | some p => simp

/-- The foreign keys of resolved tables lead to resolved tables. -/
theorem keysInside_of_resolve (h : c.resolve requested = .ok tables) : KeysInside tables := by
  intro t ht k hk
  have reachable := (c.mem_resolve_iff h).1 (List.mem_map_of_mem ht)
  exact (c.mem_resolve_iff h).2 (reachable.step (c.refers_of_mem (c.get?_of_mem_resolve h ht) hk))

theorem wellFormed_of_resolve (valid : c.Valid) (h : c.resolve requested = .ok tables) :
    ∀ t ∈ tables, t.WellFormed :=
  fun _ ht => valid.wellFormed _ (Catalog.mem_of_get? (c.get?_of_mem_resolve h ht))

/-! ## What decides -/

/-- Prisma has no type for documents on SQLite, and some table has a field for them. -/
def LacksDocuments (target : Target) (tables : List Table) : Prop :=
  target = ⟨.prisma, .sqlite⟩ ∧ ∃ t ∈ tables, ∃ f ∈ t.fields, f.type = .json

/-- The only type that a backend may lack is that of documents for Prisma on SQLite. -/
theorem lacksDocuments_iff {target : Target} :
    LacksDocuments target tables ↔
      ∃ t ∈ tables, ∃ f ∈ t.fields, target.primitive? f.type = none := by
  obtain ⟨backend, dialect⟩ := target
  simp only [LacksDocuments, Target.primitive?_eq_none_iff, Target.mk.injEq]
  constructor
  · rintro ⟨⟨hbackend, hdialect⟩, t, ht, f, hf, htype⟩
    exact ⟨t, ht, f, hf, hbackend, hdialect, htype⟩
  · rintro ⟨t, ht, f, hf, hbackend, hdialect, htype⟩
    exact ⟨⟨hbackend, hdialect⟩, t, ht, f, hf, htype⟩

/-- Resolved tables are rendered unless the backend lacks a type that they need. -/
theorem emit_of_resolve (valid : c.Valid) (h : c.resolve requested = .ok tables)
    (target : Target) :
    LacksDocuments target tables ∧
        emit target tables = .error (.unsupportedType .json .prisma .sqlite) ∨
      ¬ LacksDocuments target tables ∧ ∃ artifacts, emit target tables = .ok artifacts := by
  have inside := keysInside_of_resolve h
  have wellFormed := wellFormed_of_resolve valid h
  rw [emit]
  by_cases lacks : LacksDocuments target tables
  · obtain ⟨t, ht, f, hf, unsupported⟩ := lacksDocuments_iff.1 lacks
    rw [lowerTables_of_unsupported inside wellFormed ht hf unsupported]
    exact .inl ⟨lacks, rfl⟩
  · have supported : ∀ t ∈ tables, ∀ f ∈ t.fields, target.primitive? f.type ≠ none :=
      fun t ht f hf unsupported => lacks (lacksDocuments_iff.2 ⟨t, ht, f, hf, unsupported⟩)
    obtain ⟨decls, lowered⟩ := lowerTables_of_supported inside wellFormed supported
    rw [lowered]
    exact .inr ⟨lacks, _, rfl⟩

/-- How a request ends on a catalog: by the first of these tests that applies. -/
inductive Decided (c : Catalog) (request : Request) : Except SchemaError Generation → Prop
  /-- The tables of the request cannot be added: one is invalid, or its name is taken. -/
  | merging {e : SchemaError} (fails : c.extend request.customTables = .error e)
      (cause : ∃ t ∈ request.customTables,
        (∃ fault, t.fault? = some fault ∧ e = .invalidTable t.name fault) ∨
          e = .duplicateTable t.name) :
      Decided c request (.error e)
  /-- The request is for a preset that there is not. -/
  | preset {merged : Catalog} {id : String} (merges : c.extend request.customTables = .ok merged)
      (selected : request.selection = .preset id) (unknown : id ∉ Preset.all.map (·.id)) :
      Decided c request (.error (.unknownPreset id))
  /-- The request leads to a name without a table. -/
  | missing {merged : Catalog} {requested : List String} {n : String} {referrer : Option Referrer}
      (merges : c.extend request.customTables = .ok merged)
      (selects : request.selection.tableNames = .ok requested)
      (reachable : merged.Reachable requested n) (missing : merged.get? n = none) :
      Decided c request (.error (.unknownTable n referrer))
  /-- The backend lacks a type for documents, which the tables found need. -/
  | unsupported {merged : Catalog} {requested : List String} {tables : List Table}
      (merges : c.extend request.customTables = .ok merged)
      (selects : request.selection.tableNames = .ok requested)
      (present : ∀ n, merged.Reachable requested n → merged.get? n ≠ none)
      (resolves : merged.resolve requested = .ok tables)
      (lacks : LacksDocuments request.target tables) :
      Decided c request (.error (.unsupportedType .json .prisma .sqlite))
  /-- None of these applies. -/
  | success {merged : Catalog} {requested : List String} {tables : List Table}
      {generation : Generation} (merges : c.extend request.customTables = .ok merged)
      (selects : request.selection.tableNames = .ok requested)
      (present : ∀ n, merged.Reachable requested n → merged.get? n ≠ none)
      (resolves : merged.resolve requested = .ok tables)
      (supports : ¬ LacksDocuments request.target tables) :
      Decided c request (.ok generation)

theorem generate_eq (request : Request) (c : Catalog) :
    generate request c = (c.extend request.customTables).bind fun merged =>
      request.selection.tableNames.bind fun requested =>
        (merged.resolve requested).bind fun tables =>
          (emit request.target tables).bind fun artifacts =>
            .ok ⟨request.target, tables.map (·.name), artifacts⟩ :=
  rfl

theorem decided_of_valid (valid : c.Valid) (request : Request) :
    Decided c request (generate request c) := by
  rw [generate_eq]
  cases merges : c.extend request.customTables with
  | error e => exact .merging merges (c.error_of_extend merges)
  | ok merged =>
    rw [Except.ok_bind]
    cases selects : request.selection.tableNames with
    | error e =>
      obtain ⟨id, selected, unknown, rfl⟩ := Selection.tableNames_eq_error_iff.1 selects
      exact .preset merges selected unknown
    | ok requested =>
      rw [Except.ok_bind]
      cases resolves : merged.resolve requested with
      | error e =>
        obtain ⟨n, referrer, rfl, missing, reachable⟩ := merged.error_of_resolve resolves
        exact .missing merges selects reachable missing
      | ok tables =>
        have present := merged.exists_resolve_iff.1 ⟨tables, resolves⟩
        rw [Except.ok_bind]
        rcases emit_of_resolve (valid.extend merges) resolves request.target with
          ⟨lacks, fails⟩ | ⟨supports, artifacts, succeeds⟩
        · rw [fails]
          exact .unsupported merges selects present resolves lacks
        · rw [succeeds]
          exact .success merges selects present resolves supports

/-- The tests decide how a request ends on whatever catalog is built.  In particular no foreign key
leads out of the tables found, and a table that is invalid is noticed when it is added or never. -/
theorem generate_decided (built : c.Built) (request : Request) :
    Decided c request (generate request c) ∧
      (∀ table field target, generate request c ≠ .error (.unresolvableKey table field target)) ∧
      ∀ table fault, generate request c = .error (.invalidTable table fault) →
        c.extend request.customTables = .error (.invalidTable table fault) := by
  have decided := decided_of_valid built.valid request
  refine ⟨decided, ?_, ?_⟩
  · intro table field target h
    rw [h] at decided
    cases decided with
    | merging _ cause =>
      obtain ⟨t, -, ⟨fault, -, he⟩ | he⟩ := cause <;> exact absurd he (by simp)
  · intro table fault h
    rw [h] at decided
    cases decided with
    | merging fails _ => exact fails

/-- Profiles keep preferences as a document, so no preset with them is for Prisma on SQLite. -/
theorem generate_decided_auth :
    Catalog.builtin.Built ∧
      Decided .builtin ⟨⟨.prisma, .sqlite⟩, .preset "auth", []⟩
        (.error (.unsupportedType .json .prisma .sqlite)) := by
  have h : generate ⟨⟨.prisma, .sqlite⟩, .preset "auth", []⟩ .builtin
      = .error (.unsupportedType .json .prisma .sqlite) := by cbv
  exact ⟨.builtin, h ▸ (generate_decided .builtin _).1⟩

/-! ## What is generated -/

/-- The tables that a request leads to on a catalog, made ready for its target. -/
inductive Lowers (c : Catalog) (request : Request) (models : List TableDecl) : Prop
  | intro {merged : Catalog} {requested : List String} {tables : List Table}
    (merges : c.extend request.customTables = .ok merged)
    (selects : request.selection.tableNames = .ok requested)
    (resolves : merged.resolve requested = .ok tables)
    (lowered : lowerTables request.target tables = .ok models) : Lowers c request models

/-- What is generated for a request is rendered from the tables that it leads to. -/
theorem generate_eq_ok_iff {request : Request} {generation : Generation} :
    generate request c = .ok generation ↔ ∃ models, Lowers c request models ∧
      generation = ⟨request.target, models.map (·.name), request.target.artifacts models⟩ := by
  have names {tables : List Table} {models : List TableDecl}
      (lowered : lowerTables request.target tables = .ok models) :
      tables.map (·.name) = models.map (·.name) := by
    rw [← map_source_of_lowerTables lowered, List.map_map]
    rfl
  rw [generate_eq]
  constructor
  · intro h
    obtain ⟨merged, merges, h⟩ := Except.bind_eq_ok_iff.1 h
    obtain ⟨requested, selects, h⟩ := Except.bind_eq_ok_iff.1 h
    obtain ⟨tables, resolves, h⟩ := Except.bind_eq_ok_iff.1 h
    obtain ⟨artifacts, emitted, h⟩ := Except.bind_eq_ok_iff.1 h
    obtain ⟨models, lowered, rfl⟩ := Except.map_eq_ok_iff.1 emitted
    cases h
    exact ⟨models, .intro merges selects resolves lowered, by rw [names lowered]⟩
  · rintro ⟨models, ⟨merges, selects, resolves, lowered⟩, rfl⟩
    rw [merges, Except.ok_bind, selects, Except.ok_bind, resolves, Except.ok_bind, emit, lowered,
      Except.ok_map, Except.ok_bind, names lowered]

end SchemaForge
