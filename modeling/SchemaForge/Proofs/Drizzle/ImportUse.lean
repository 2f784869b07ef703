import SchemaForge.Drizzle.Schema
import SchemaForge.Proofs.Declaration.Lowering
import SchemaForge.Proofs.Declaration.NameSet
import SchemaForge.Proofs.Text.Literals
import SchemaForge.Proofs.Text.Parts

/-!
# What a schema uses of its imports

The imports of a schema are computed from the tokens of its columns, before any text is.
`Imports.Exact` compares them with the text: a name is imported if some call in the schema is
written with it, and only then.  `imports_exact` says that this is so for all tables that can be
lowered, on every dialect.

Calls are recognised by how they are written: the name of a call stands before its first
parenthesis (`callee`), and a call in a chain starts with a point, so no builder is mistaken for
one (`opens_annotated_iff`, `opens_template_iff`).
-/

namespace SchemaForge

namespace Drizzle

open Text (Opens opens_append)

variable {models : List TableDecl} {tables : List Table} {dialect : Dialect} {c : Column}
  {call : Clause}

/-! ## How calls are written -/

/-- What stands before the first parenthesis. -/
def callee (text : String) : String := String.ofList (text.toList.takeWhile (· != '('))

theorem callee_append {name : String} (plain : '(' ∉ name.toList) (rest : String) :
    callee (name ++ "(" ++ rest) = name := by
  have all : ∀ ch ∈ name.toList, (ch != '(') = true := by
    intro ch hch
    rw [bne_iff_ne]
    rintro rfl
    exact plain hch
  rw [callee, String.append_assoc, String.toList_append, List.takeWhile_append_of_pos all,
    String.toList_append]
  simp

/-! ## Calls and their tokens -/

/-- The token that a call is for. -/
def Clause.token : Clause → Token
  | .builder name _ _ _ => .base name
  | .primaryKey _ => .primaryKey
  | .notNull => .notNull
  | .unique => .unique
  | .default value => .default value
  | .references target => .references target

theorem token_of_clause? {t : Token} (h : clause? c dialect t = some call) : call.token = t := by
  cases t with
  | length n => simp [clause?] at h
  | default d =>
    rw [clause?, Option.ite_none_left_eq_some] at h
    cases h.2
    rfl
  | _ =>
    cases h
    rfl

/-- A call stands in the chain of a column that has its token, if it is the one for it. -/
theorem mem_clauses_iff :
    call ∈ clauses c dialect ↔
      call.token ∈ c.tokens ∧ clause? c dialect call.token = some call := by
  rw [clauses, List.mem_filterMap]
  constructor
  · rintro ⟨t, ht, h⟩
    obtain rfl := token_of_clause? h
    exact ⟨ht, h⟩
  · rintro ⟨ht, h⟩
    exact ⟨_, ht, h⟩

/-! ## The columns of a schema -/

/-- The column of a field for Drizzle. -/
def builderColumn (table : Table) (f : Field) (dialect : Dialect) : Column :=
  columnOf table f dialect (primitive dialect f.type)

/-- The columns of tables lowered for Drizzle are those of fields. -/
theorem exists_builderColumn (lowered : lowerTables ⟨.drizzle, dialect⟩ tables = .ok models)
    (hc : c ∈ allColumns models) : ∃ table f, c = builderColumn table f dialect := by
  obtain ⟨decl, hd, hc⟩ := List.mem_flatMap.1 hc
  obtain ⟨f, -, p, hp, rfl⟩ := exists_columnOf lowered hd hc
  cases hp
  exact ⟨decl.source, f, rfl⟩

section Column

variable (table : Table) (f : Field)

theorem callee_renderColumn :
    callee (renderColumn (builderColumn table f dialect) dialect) = primitive dialect f.type := by
  have plain : '(' ∉ (primitive dialect f.type).toList := by
    cases dialect <;> cases f.type <;> decide
  rw [renderColumn, clauses, builderColumn]
  simp only [columnOf, tokensOf_eq, List.filterMap_cons, clause?, List.map_cons,
    String.join_cons, Clause.render, String.append_assoc]
  rw [← String.append_assoc]
  exact callee_append plain _

variable {table f}

theorem exists_type_of_builder {name column : String} {length : Option UInt32}
    {mode : Option String}
    (h : .builder name column length mode ∈ clauses (builderColumn table f dialect) dialect) :
    ∃ type, name = primitive dialect type :=
  ⟨f.type, base_mem_columnOf_iff.1 (mem_clauses_iff.1 h).1⟩

theorem references_mem_clauses_iff {r : Reference} :
    .references r ∈ clauses (builderColumn table f dialect) dialect ↔
      (builderColumn table f dialect).reference? = some r := by
  rw [builderColumn, ← references_mem_columnOf_iff, mem_clauses_iff]
  exact and_iff_left rfl

theorem now_mem_clauses_iff :
    .default .now ∈ clauses (builderColumn table f dialect) dialect ↔
      (builderColumn table f dialect).default? = some .now := by
  rw [builderColumn, ← default_mem_columnOf_iff, mem_clauses_iff]
  exact and_iff_left (by simp [Clause.token, clause?])

end Column

/-! ## Calls that use an import -/

theorem not_opens_builder {start column : String} {length : Option UInt32} {mode : Option String}
    (pointed : start.toList.head? = some '.') (type : FieldType) :
    ¬ Opens start
      ((Clause.builder (primitive dialect type) column length mode).render dialect) := by
  rintro ⟨rest, text⟩
  have head := congrArg List.head? text
  rw [List.head?_append, pointed] at head
  cases dialect <;> cases type <;> simp [Clause.render, primitive] at head

section Call

variable {table : Table} {f : Field}
  (hcall : call ∈ clauses (builderColumn table f dialect) dialect)
include hcall

/-- Only a reference starts like one. -/
theorem exists_reference_of_opens
    (opens : Opens ".references(" (call.render dialect)) : ∃ r, call = .references r := by
  cases call with
  | builder name column length mode =>
    obtain ⟨type, rfl⟩ := exists_type_of_builder hcall
    exact absurd opens (not_opens_builder (by simp) type)
  | primaryKey autoIncrement =>
    cases autoIncrement <;> simp [Opens, Clause.render] at opens
  | notNull => simp [Opens, Clause.render] at opens
  | unique => simp [Opens, Clause.render] at opens
  | default value =>
    cases value <;> cases dialect <;> simp [Opens, Clause.render, defaultCall] at opens
  | references r => exact ⟨r, rfl⟩

/-- The callback of a reference is annotated when it leads to its own table, and no other call looks
like that. -/
theorem opens_annotated_iff :
    Opens (".references((): " ++ anyColumnType dialect ++ " => ") (call.render dialect) ↔
      ∃ r, call = .references r ∧ r.selfReferencing = true := by
  constructor
  · intro opens
    have annotated : Opens ".references((): " (call.render dialect) := opens.of_append.of_append
    obtain ⟨r, rfl⟩ :=
      exists_reference_of_opens hcall (annotated.of_append (a := ".references(") (b := "(): "))
    refine ⟨r, rfl, ?_⟩
    cases self : r.selfReferencing with
    | true => rfl
    | false => simp [Opens, Clause.render, referenceCallback, self] at annotated
  · rintro ⟨r, rfl, self⟩
    simp [Opens, Clause.render, referenceCallback, self]

/-- A default is written with the template when SQLite fills in the time, and no other call looks
like that. -/
theorem opens_template_iff :
    Opens ".default(sql`" (call.render dialect) ↔ call = .default .now ∧ dialect = .sqlite := by
  cases call with
  | builder name column length mode =>
    obtain ⟨type, rfl⟩ := exists_type_of_builder hcall
    exact iff_of_false (not_opens_builder (by simp) type) (by simp)
  | primaryKey autoIncrement => cases autoIncrement <;> simp [Opens, Clause.render]
  | notNull => simp [Opens, Clause.render]
  | unique => simp [Opens, Clause.render]
  | default value =>
    cases value with
    | literal value =>
      cases text : (Source.literal value).toList with
      | nil => simp [Opens, Clause.render, defaultCall, text]
      | cons ch rest =>
        have first : 's' ≠ ch := by
          rintro rfl
          exact Source.head?_literal_ne value (by rw [text, List.head?_cons])
        simp [Opens, Clause.render, defaultCall, text, first]
    | now => cases dialect <;> simp [Opens, Clause.render, defaultCall]
    | autoIncrement => cases dialect <;> simp [Opens, Clause.render, defaultCall]
    | randomUuid => cases dialect <;> simp [Opens, Clause.render, defaultCall]
  | references target => simp [Opens, Clause.render]

end Call

/-! ## Blocks -/

theorem callee_call (t : TableDecl) (e : Entry) : callee (e.call t) = e.helper := by
  have one : "one(" = "one" ++ "(" := rfl
  have many : "many(" = "many" ++ "(" := rfl
  cases e with
  | one property target key reference named =>
    simp only [Entry.call, String.append_assoc]
    rw [one]
    exact callee_append (by decide) _
  | many property target key =>
    simp only [Entry.call, String.append_assoc]
    rw [many]
    exact callee_append (by decide) _
  | through property junction =>
    simp only [Entry.call, String.append_assoc]
    rw [many]
    exact callee_append (by decide) _

theorem mem_blocks_iff {block : String} :
    block ∈ blocks models ↔
      ∃ t ∈ models, entries models t ≠ [] ∧ block = renderBlock t (entries models t) := by
  simp only [blocks, List.mem_filterMap, Option.ite_none_left_eq_some, Option.some.injEq,
    List.isEmpty_iff, @eq_comm _ block, ne_eq]

/-- The helpers that a block destructures are those that its entries call. -/
theorem mem_helpers_iff {t : TableDecl} {es : List Entry} {n : String} :
    n ∈ helpers es ↔ ∃ e ∈ es, callee (e.call t) = n := by
  simp only [helpers, mem_nameSet, List.mem_map, callee_call]

/-! ## What is imported -/

namespace Imports

variable {n : String} {hasRelations : Bool}

theorem ofTables_of_ne_nil (nonempty : models ≠ []) (hasRelations : Bool) :
    ofTables models dialect hasRelations =
      { core := insertName (tableFunction dialect) (usedPrimitives models)
        coreTypes :=
          if (allColumns models).any (·.refersToItself) then [anyColumnType dialect] else []
        orm :=
          (if hasRelations then ["relations"] else [])
            ++ (if dialect = .sqlite ∧ (allColumns models).any (·.default? == some .now) then
              ["sql"] else []) } := by
  rw [ofTables, if_neg (by simpa using nonempty)]

/-- The names of each statement are in ascending order. -/
theorem ascending_ofTables (hasRelations : Bool) :
    (ofTables models dialect hasRelations).core.Pairwise (· < ·) ∧
      (ofTables models dialect hasRelations).coreTypes.Pairwise (· < ·) ∧
      (ofTables models dialect hasRelations).orm.Pairwise (· < ·) := by
  by_cases nothing : models = []
  · subst nothing
    exact ⟨.nil, .nil, .nil⟩
  · rw [ofTables_of_ne_nil nothing]
    refine ⟨pairwise_insertName (pairwise_nameSet _), ?_, ?_⟩
    · dsimp only
      split_ifs
      exacts [List.pairwise_singleton _ _, .nil]
    · have both : ["relations", "sql"].Pairwise (· < ·) := by decide
      dsimp only
      split_ifs
      exacts [both, List.pairwise_singleton _ _, List.pairwise_singleton _ _, .nil]

/-- The constructor of the tables is imported, and the types of the columns. -/
theorem mem_core_ofTables_iff (nonempty : models ≠ []) :
    n ∈ (ofTables models dialect hasRelations).core ↔
      n = tableFunction dialect ∨ ∃ c ∈ allColumns models, c.primitive = n := by
  rw [ofTables_of_ne_nil nonempty, mem_insertName, usedPrimitives, mem_nameSet, List.mem_map]

/-- The type of any column is imported when a column refers to its own table. -/
theorem mem_coreTypes_ofTables_iff :
    n ∈ (ofTables models dialect hasRelations).coreTypes ↔
      n = anyColumnType dialect ∧ ∃ c ∈ allColumns models, c.refersToItself = true := by
  by_cases nothing : models = []
  · subst nothing
    simp [ofTables, none, allColumns]
  · simp only [ofTables_of_ne_nil nothing, List.mem_ite_nil_right, List.mem_singleton,
      List.any_eq_true]
    exact and_comm

/-- The template is imported when SQLite fills in the time of a column, and `relations` when there
are blocks. -/
theorem mem_orm_ofTables_iff :
    n ∈ (ofTables models dialect (!(blocks models).isEmpty)).orm ↔
      n = "sql" ∧ (dialect = .sqlite ∧ ∃ c ∈ allColumns models, c.default? = some .now) ∨
        n = "relations" ∧ blocks models ≠ [] := by
  by_cases nothing : models = []
  · subst nothing
    simp [ofTables, none, allColumns, blocks]
  · simp only [ofTables_of_ne_nil nothing, List.mem_append, List.mem_ite_nil_right,
      List.mem_singleton, Bool.not_eq_true', List.isEmpty_eq_false_iff, List.any_eq_true,
      beq_iff_eq]
    rw [or_comm, and_comm, and_comm (a := blocks models ≠ [])]

end Imports

/-! ## The imports of a schema -/

/-- Some column has a call in its chain that is written with the given beginning. -/
def SomeCall (models : List TableDecl) (dialect : Dialect) (start : String) : Prop :=
  ∃ c ∈ allColumns models, ∃ call ∈ clauses c dialect, Opens start (call.render dialect)

/-- The imports of a schema are what its text uses. -/
structure Imports.Exact (imports : Imports) (models : List TableDecl) (dialect : Dialect) :
    Prop where
  /-- The schema starts with its import statements, behind the banner. -/
  written : renderSchema dialect models = Source.banner ++ "\n\n" ++ imports.render dialect
    ++ (if models.isEmpty then "export \x7b\x7d;\n"
      else String.join ((models.map (renderTable dialect) ++ blocks models).map ("\n" ++ ·)))
  /-- Nothing is imported for no table. -/
  empty : models = [] → imports = .none
  /-- Each name is imported once. -/
  ascending : imports.core.Pairwise (· < ·) ∧ imports.coreTypes.Pairwise (· < ·) ∧
    imports.orm.Pairwise (· < ·)
  /-- The constructor of the tables and the names that the columns open with. -/
  core : models ≠ [] → ∀ n, n ∈ imports.core ↔
    n = tableFunction dialect ∨ ∃ c ∈ allColumns models, callee (renderColumn c dialect) = n
  /-- The type of any column, if the callback of some reference is annotated with it. -/
  coreTypes : ∀ n, n ∈ imports.coreTypes ↔
    n = anyColumnType dialect ∧ SomeCall models dialect (".references((): " ++ n ++ " => ")
  /-- The template, if some default is written with it, and `relations`, if there are blocks. -/
  orm : ∀ n, n ∈ imports.orm ↔
    n = "sql" ∧ SomeCall models dialect ".default(sql`" ∨ n = "relations" ∧ blocks models ≠ []
  /-- Blocks destructure what their entries call. -/
  helpers : ∀ block ∈ blocks models, ∃ t ∈ models, entries models t ≠ [] ∧
    block = renderBlock t (entries models t) ∧
    (helpers (entries models t)).Pairwise (· < ·) ∧
    ∀ n, n ∈ helpers (entries models t) ↔ ∃ e ∈ entries models t, callee (e.call t) = n

section Lowered

variable (lowered : lowerTables ⟨.drizzle, dialect⟩ tables = .ok models)
include lowered

/-- Some callback is annotated when some column refers to its own table. -/
theorem someCall_annotated_iff :
    SomeCall models dialect (".references((): " ++ anyColumnType dialect ++ " => ") ↔
      ∃ c ∈ allColumns models, c.refersToItself = true := by
  refine exists_congr fun c => and_congr_right fun hc => ?_
  obtain ⟨table, f, rfl⟩ := exists_builderColumn lowered hc
  rw [Column.refersToItself, Option.any_eq_true]
  constructor
  · rintro ⟨call, hcall, opens⟩
    obtain ⟨r, rfl, self⟩ := (opens_annotated_iff hcall).1 opens
    exact ⟨r, references_mem_clauses_iff.1 hcall, self⟩
  · rintro ⟨r, hr, self⟩
    have hcall := references_mem_clauses_iff.2 hr
    exact ⟨.references r, hcall, (opens_annotated_iff hcall).2 ⟨r, rfl, self⟩⟩

/-- Some default is written with the template when SQLite fills in the time of some column. -/
theorem someCall_template_iff :
    SomeCall models dialect ".default(sql`" ↔
      dialect = .sqlite ∧ ∃ c ∈ allColumns models, c.default? = some .now := by
  constructor
  · rintro ⟨c, hc, call, hcall, opens⟩
    obtain ⟨table, f, rfl⟩ := exists_builderColumn lowered hc
    obtain ⟨rfl, sqlite⟩ := (opens_template_iff hcall).1 opens
    exact ⟨sqlite, _, hc, now_mem_clauses_iff.1 hcall⟩
  · rintro ⟨sqlite, c, hc, now⟩
    obtain ⟨table, f, rfl⟩ := exists_builderColumn lowered hc
    have hcall := now_mem_clauses_iff.2 now
    exact ⟨_, hc, .default .now, hcall, (opens_template_iff hcall).2 ⟨rfl, sqlite⟩⟩

theorem callee_renderColumn_of_mem (hc : c ∈ allColumns models) :
    callee (renderColumn c dialect) = c.primitive := by
  obtain ⟨table, f, rfl⟩ := exists_builderColumn lowered hc
  rw [callee_renderColumn, builderColumn, primitive_columnOf]

end Lowered

/-- The imports computed for tables are what their schema uses. -/
theorem imports_exact (lowered : lowerTables ⟨.drizzle, dialect⟩ tables = .ok models) :
    (Imports.ofTables models dialect (!(blocks models).isEmpty)).Exact models dialect where
  written := rfl
  empty := by
    rintro rfl
    rfl
  ascending := Imports.ascending_ofTables _
  core := by
    intro nonempty n
    rw [Imports.mem_core_ofTables_iff nonempty]
    refine or_congr Iff.rfl (exists_congr fun c => and_congr_right fun hc => ?_)
    rw [callee_renderColumn_of_mem lowered hc]
  coreTypes := by
    intro n
    rw [Imports.mem_coreTypes_ofTables_iff]
    refine and_congr_right ?_
    rintro rfl
    exact (someCall_annotated_iff lowered).symm
  orm := by
    intro n
    rw [Imports.mem_orm_ofTables_iff, someCall_template_iff lowered]
  helpers := by
    intro block hblock
    obtain ⟨t, ht, nonempty, same⟩ := mem_blocks_iff.1 hblock
    exact ⟨t, ht, nonempty, same, pairwise_nameSet _, fun n => mem_helpers_iff⟩

/-- Users and categories with a parent, on SQLite, take everything that there is. -/
theorem imports_exact_builtin :
    ∃ models, lowerTables ⟨.drizzle, .sqlite⟩ [Builtin.users, Builtin.categories] = .ok models ∧
      Imports.ofTables models .sqlite (!(blocks models).isEmpty)
        = ⟨["integer", "sqliteTable", "text"], ["AnySQLiteColumn"], ["relations", "sql"]⟩ ∧
      (Imports.ofTables models .sqlite (!(blocks models).isEmpty)).Exact models .sqlite := by
  obtain ⟨models, lowered, imported⟩ :
      ∃ models, lowerTables ⟨.drizzle, .sqlite⟩ [Builtin.users, Builtin.categories] = .ok models ∧
        Imports.ofTables models .sqlite (!(blocks models).isEmpty)
          = ⟨["integer", "sqliteTable", "text"], ["AnySQLiteColumn"], ["relations", "sql"]⟩ :=
    ⟨_, rfl, by decide⟩
  exact ⟨models, lowered, imported, imports_exact lowered⟩

end Drizzle

end SchemaForge
