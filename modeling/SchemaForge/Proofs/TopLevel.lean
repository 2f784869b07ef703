import SchemaForge.Proofs.Drizzle.SchemaNames
import SchemaForge.Proofs.Kysely.InterfaceNames
import SchemaForge.Proofs.Outcome

/-!
# Names at the top level

A generated schema is a heading and a sequence of statements, each of which declares or imports
names (`Target.statements`).  Declared names are made from those of tables, in camel case and for
some with a part before or behind them, so that tables of different names may be declared alike.

Main results:

* the statements make up the file, and each is written with its names (`TopLevel.written`,
  `TopLevel.declares`);
* no name stands for two things just when the tables keep apart in a few ways, different for each
  backend (`TopLevel.nodup_iff`): imports never clash with each other, nor do the names made from
  one table;
* this holds for whatever is generated (`names_at_top_level`), and the built-in tables keep apart
  (`nodup_topLevelNames_of_builtin`), but other tables need not (`declared_alike`).
-/

namespace SchemaForge

variable {models : List TableDecl} {tables : List Table} {dialect : Dialect}

namespace Prisma

open Text (Opens opens_append)

/-! ## Models -/

/-- The models of a schema. -/
def statements (dialect : Dialect) (models : List TableDecl) : List Statement :=
  models.map fun t => ⟨[t.typeName], "\n" ++ renderModel t (members models dialect t)⟩

/-- The tables of a schema keep apart: no two have the same model. -/
def NamesApart (models : List TableDecl) : Prop := (models.map TableDecl.typeName).Nodup

/-- The schema is its models behind the heading. -/
theorem renderSchema_eq_join :
    renderSchema dialect models =
      renderHeading dialect ++ String.join ((statements dialect models).map (·.text)) := by
  rw [renderSchema, statements, List.map_map]
  rfl

theorem declares_renderModel (t : TableDecl) (ms : List Member) :
    Declares [t.typeName] (renderModel t ms) :=
  have brace : Opens " \x7b" " \x7b\n" := opens_append " \x7b" "\n"
  .model (brace.after _ |>.append _ |>.append _ |>.append _ |>.append _)

theorem declares_of_mem_statements {s : Statement} (hs : s ∈ statements dialect models) :
    Declares s.names s.text := by
  obtain ⟨t, -, rfl⟩ := List.mem_map.1 hs
  exact .spaced (declares_renderModel t _)

theorem flatMap_names_statements :
    (statements dialect models).flatMap (·.names) = models.map TableDecl.typeName := by
  rw [statements, List.flatMap_map, List.map_eq_flatMap]

/-- The names of a schema are different if its tables keep apart, and only then. -/
theorem nodup_names_iff :
    ((statements dialect models).flatMap (·.names)).Nodup ↔ NamesApart models := by
  rw [flatMap_names_statements, NamesApart]

end Prisma

/-! ## The top level -/

namespace Target

/-- What stands before the statements. -/
def heading (target : Target) : String :=
  match target.backend with
  | .drizzle => Source.banner ++ "\n\n"
  | .prisma => Prisma.renderHeading target.dialect
  | .kysely => Source.banner ++ "\n"

/-- The statements of the file in which tables are declared. -/
def statements (target : Target) (models : List TableDecl) : List Statement :=
  match target.backend with
  | .drizzle => Drizzle.statements target.dialect models
  | .prisma => Prisma.statements target.dialect models
  | .kysely => Kysely.statements models

/-- The names at the top level of that file. -/
def topLevelNames (target : Target) (models : List TableDecl) : List String :=
  (target.statements models).flatMap (·.names)

/-- The tables keep apart in the ways that the backend needs. -/
def NamesApart (target : Target) (models : List TableDecl) : Prop :=
  match target.backend with
  | .drizzle => Drizzle.NamesApart target.dialect models
  | .prisma => Prisma.NamesApart models
  | .kysely => Kysely.NamesApart models

end Target

/-- The top level of the file in which tables are declared, which is the first one. -/
structure TopLevel (target : Target) (models : List TableDecl) : Prop where
  /-- The file is its statements behind a heading. -/
  written : ((target.artifacts models).head?.map (·.content)) =
    some (target.heading ++ String.join ((target.statements models).map (·.text)))
  /-- Each is written with its names. -/
  declares : ∀ s ∈ target.statements models, Declares s.names s.text
  /-- All names are different if the tables keep apart, and only then. -/
  nodup_iff : (target.topLevelNames models).Nodup ↔ target.NamesApart models

/-! ## What is generated -/

/-- The top level of whatever a request leads to. -/
theorem TopLevel.of_lowers {catalog : Catalog} {request : Request}
    (lowers : Lowers catalog request models) : TopLevel request.target models := by
  obtain ⟨-, -, -, lowered⟩ := lowers
  obtain ⟨⟨backend, dialect⟩, selection, customTables⟩ := request
  cases backend with
  | drizzle =>
    exact ⟨congrArg some Drizzle.renderSchema_eq_join,
      fun _ => Drizzle.declares_of_mem_statements, Drizzle.nodup_names_iff lowered⟩
  | prisma =>
    exact ⟨congrArg some Prisma.renderSchema_eq_join,
      fun _ => Prisma.declares_of_mem_statements, Prisma.nodup_names_iff⟩
  | kysely =>
    exact ⟨congrArg some Kysely.renderTypes_eq_join,
      fun _ => Kysely.declares_of_mem_statements, Kysely.nodup_names_iff⟩

/-! ### The built-in tables -/

namespace Builtin

/-- The symbols of the built-in tables. -/
def symbols : List String :=
  ["users", "profiles", "sessions", "accounts", "categories", "posts", "comments", "tags",
    "postTags", "products", "orders", "orderItems", "organizations", "memberships", "auditLogs"]

/-- The names of their rows. -/
def rows : List String :=
  ["User", "Profile", "Session", "Account", "Category", "Post", "Comment", "Tag", "PostTag",
    "Product", "Order", "OrderItem", "Organization", "Membership", "AuditLog"]

theorem map_symbolOf_tables : Builtin.tables.map (symbolOf ·.name) = symbols := by decide

theorem map_typeNameOf_tables : Builtin.tables.map (typeNameOf ·.displayName) = rows := by decide

theorem nodup_symbols : symbols.Nodup := by decide

theorem nodup_rows : rows.Nodup := by decide

end Builtin

section Builtin

variable (names : (models.map (·.source.name)).Nodup)
  (builtin : ∀ t ∈ models, t.source ∈ Builtin.tables)
include names builtin

/-- What tells the built-in tables apart tells lowered ones apart. -/
theorem nodup_map_of_builtin {f : Table → String} (nodup : (Builtin.tables.map f).Nodup) :
    (models.map fun t => f t.source).Nodup := by
  have sources : (models.map (·.source)).Nodup := by
    refine List.Nodup.of_map (·.name) ?_
    rw [List.map_map]
    exact names
  have apart : ((models.map (·.source)).map f).Nodup := by
    refine List.Nodup.map_on ?_ sources
    intro a ha b hb same
    obtain ⟨t, ht, rfl⟩ := List.mem_map.1 ha
    obtain ⟨u, hu, rfl⟩ := List.mem_map.1 hb
    exact List.inj_on_of_nodup_map nodup (builtin t ht) (builtin u hu) same
  rw [List.map_map] at apart
  exact apart

/-- Built-in tables keep apart in every way. -/
theorem Target.namesApart_of_builtin {target : Target}
    (lowered : lowerTables target tables = .ok models) : target.NamesApart models := by
  have symbols : (models.map TableDecl.symbol).Nodup :=
    nodup_map_of_builtin names builtin (Builtin.map_symbolOf_tables ▸ Builtin.nodup_symbols)
  have rows : (models.map TableDecl.typeName).Nodup :=
    nodup_map_of_builtin names builtin (Builtin.map_typeNameOf_tables ▸ Builtin.nodup_rows)
  have symbol_mem : ∀ t ∈ models, t.symbol ∈ Builtin.symbols := fun t ht =>
    Builtin.map_symbolOf_tables ▸ List.mem_map_of_mem (builtin t ht)
  have row_mem : ∀ t ∈ models, t.typeName ∈ Builtin.rows := fun t ht =>
    Builtin.map_typeNameOf_tables ▸ List.mem_map_of_mem (builtin t ht)
  obtain ⟨backend, dialect⟩ := target
  cases backend with
  | drizzle =>
    have foreign : ∀ n ∈ Builtin.symbols, n ∉ Drizzle.importable := by decide
    have plain : ∀ n ∈ Builtin.symbols, Text.dropEnding? "Relations" n = none := by decide
    refine ⟨symbols, ?_, ?_⟩
    · exact fun t ht imported =>
        foreign _ (symbol_mem t ht) (Drizzle.names_importsOf_subset lowered imported)
    · exact fun t ht u _ => Text.ne_append_of_dropEnding? (plain _ (symbol_mem t ht)) u.symbol
  | prisma => exact rows
  | kysely =>
    have foreign : ∀ n ∈ Builtin.rows, n ∉ [Kysely.generatedType, Kysely.jsonType, "Database"] := by
      decide
    have apart : ∀ row ∈ Builtin.rows, ∀ other ∈ Builtin.rows,
        row ≠ other ++ "Table" ∧ row ≠ "New" ++ other ∧ row ≠ other ++ "Update" ∧
          "New" ++ row ≠ other ++ "Table" ∧ "New" ++ row ≠ other ++ "Update" := by decide
    refine ⟨rows, ?_, ?_⟩
    · exact fun t ht own => foreign _ (row_mem t ht) (Kysely.ownNames_sublist.subset own)
    · intro t ht u hu
      obtain ⟨table, insert, update, insertTable, insertUpdate⟩ :=
        apart _ (row_mem t ht) _ (row_mem u hu)
      exact ⟨table, insert, update, insertTable, insertUpdate⟩

end Builtin

/-- Without tables of its own, no request leads to the same name twice. -/
theorem nodup_topLevelNames_of_builtin {request : Request} (plain : request.customTables = [])
    (lowers : Lowers .builtin request models) : (request.target.topLevelNames models).Nodup := by
  refine (TopLevel.of_lowers lowers).nodup_iff.2 ?_
  obtain ⟨merges, -, resolves, lowered⟩ := lowers
  rw [plain] at merges
  cases merges
  have sources : models.map (·.source) = _ := map_source_of_lowerTables lowered
  refine Target.namesApart_of_builtin ?_ ?_ lowered
  · have names := Catalog.nodup_of_resolve resolves
    rw [← sources, List.map_map] at names
    exact names
  · intro t ht
    have found : t.source ∈ _ := sources ▸ List.mem_map_of_mem ht
    exact Catalog.mem_of_get? (Catalog.get?_of_mem_resolve resolves found)

/-- Whatever is generated, the names at its top level are different if the tables keep apart, and
only then. -/
theorem names_at_top_level {catalog : Catalog} {request : Request} {generation : Generation}
    (accepted : generate request catalog = .ok generation) :
    ∃ models, Lowers catalog request models ∧
      generation.artifacts = request.target.artifacts models ∧ TopLevel request.target models := by
  obtain ⟨models, lowers, rfl⟩ := generate_eq_ok_iff.1 accepted
  exact ⟨models, lowers, rfl, .of_lowers lowers⟩

/-- Users and posts on PostgreSQL. -/
theorem names_at_top_level_posts :
    ∃ generation models,
      generate ⟨⟨.drizzle, .postgresql⟩, .custom ["posts"], []⟩ .builtin = .ok generation ∧
      generation.artifacts = Drizzle.artifacts .postgresql models ∧
      Target.topLevelNames ⟨.drizzle, .postgresql⟩ models
        = ["relations", "boolean", "integer", "pgTable", "text", "timestamp", "uuid", "varchar",
          "users", "posts", "usersRelations", "postsRelations"] ∧
      (Target.topLevelNames ⟨.drizzle, .postgresql⟩ models).Nodup := by
  have resolves : Catalog.builtin.resolve ["posts"] = .ok [Builtin.users, Builtin.posts] := by cbv
  obtain ⟨models, lowered, names, apart⟩ : ∃ models,
      lowerTables ⟨.drizzle, .postgresql⟩ [Builtin.users, Builtin.posts] = .ok models ∧
        Target.topLevelNames ⟨.drizzle, .postgresql⟩ models
          = ["relations", "boolean", "integer", "pgTable", "text", "timestamp", "uuid", "varchar",
            "users", "posts", "usersRelations", "postsRelations"] ∧
        Drizzle.NamesApart .postgresql models :=
    ⟨_, rfl, by decide, by decide, by decide, by decide⟩
  have lowers : Lowers .builtin ⟨⟨.drizzle, .postgresql⟩, .custom ["posts"], []⟩ models :=
    .intro rfl rfl resolves lowered
  have accepted := generate_eq_ok_iff.2 ⟨models, lowers, rfl⟩
  obtain ⟨models', ⟨merges, selects, resolves', lowered'⟩, rendered, top⟩ :=
    names_at_top_level accepted
  cases merges
  cases selects
  cases resolves.symm.trans resolves'
  cases lowered.symm.trans lowered'
  exact ⟨_, models, accepted, rendered, names, top.nodup_iff.2 apart⟩

/-- Two tables whose names differ in their spelling alone. -/
def spellings : Catalog := ⟨[⟨"user_roles", "UserRole", [Field.id], []⟩,
  ⟨"userRoles", "UserRole", [Field.id], []⟩]⟩

/-- Two tables whose names differ in their spelling alone are declared alike for every backend and
dialect. -/
theorem declared_alike :
    spellings.Built ∧ ∀ target : Target, ∃ generation models,
      generate ⟨target, .custom ["user_roles", "userRoles"], []⟩ spellings = .ok generation ∧
      generation.artifacts = target.artifacts models ∧ TopLevel target models ∧
      ¬ (target.topLevelNames models).Nodup := by
  have built : spellings.Built :=
    .ofTables (show Catalog.ofTables spellings.tables = .ok spellings by cbv)
  have resolves : spellings.resolve ["user_roles", "userRoles"] = .ok spellings.tables := by cbv
  refine ⟨built, fun target => ?_⟩
  obtain ⟨backend, dialect⟩ := target
  obtain ⟨models, lowered, repeated⟩ : ∃ models,
      lowerTables ⟨backend, dialect⟩ spellings.tables = .ok models ∧
        ¬ (Target.topLevelNames ⟨backend, dialect⟩ models).Nodup := by
    cases backend <;> cases dialect <;> exact ⟨_, rfl, by decide⟩
  have lowers : Lowers spellings
      ⟨⟨backend, dialect⟩, .custom ["user_roles", "userRoles"], []⟩ models :=
    .intro rfl rfl resolves lowered
  exact ⟨_, models, generate_eq_ok_iff.2 ⟨models, lowers, rfl⟩, rfl, .of_lowers lowers, repeated⟩

end SchemaForge
