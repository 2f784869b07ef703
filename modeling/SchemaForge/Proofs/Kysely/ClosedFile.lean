import SchemaForge.Proofs.Kysely.InterfaceNames
import SchemaForge.Proofs.Kysely.RowTypes

/-!
# The file of the interfaces names only what it has

A type in the file is part of TypeScript, the alias for documents, or one of them in the wrapper.
The alias is declared and the wrapper imported by looking at the columns, not at what is printed of
them; `ClosedFile` compares the header with the print.

Main results:

* the name in the text of a type is that of its column (`names_jsonType_iff`);
* the alias and the import are needed just when the file has them (`usesAlias_iff`,
  `usesWrapper_iff`), and no interface is written like either (`notMem_of_not_opens`);
* the file is closed for all tables that can be lowered, on every dialect (`renderTypes_closed`).
-/

namespace SchemaForge.Kysely

open Text (Opens opens_append)

variable {t : PropertyType} {i : Interface} {decl : TableDecl} {models : List TableDecl}
  {tables : List Table} {dialect : Dialect} {c : Column}

/-! ## Names in types -/

/-- The text of a type is written with the name: alone or with `null` beside it, in the wrapper or
not. -/
def Names (text name : String) : Prop :=
  ∃ plain ∈ [name, name ++ " | null"], text = plain ∨ Wraps text plain

theorem names_render (t : PropertyType) : Names t.render t.primitive := by
  have plain : t.plain ∈ [t.primitive, t.primitive ++ " | null"] := by
    cases nullable : t.nullable <;> simp [PropertyType.plain, PropertyType.render, nullable]
  refine ⟨t.plain, plain, ?_⟩
  cases generated : t.generated with
  | false => exact .inl (render_of_not_generated generated)
  | true => exact .inr (render_of_generated generated)

/-- Of the types of columns, only the alias is written with its name. -/
theorem names_jsonType_iff (known : t.primitive ∈ columnTypes) :
    Names t.render jsonType ↔ t.primitive = jsonType := by
  constructor
  · intro names
    obtain ⟨primitive, nullable, generated⟩ := t
    simp only [columnTypes, List.mem_cons, List.not_mem_nil, or_false] at known
    rcases known with rfl | rfl | rfl | rfl | rfl <;> cases nullable <;> cases generated <;>
      simp [Names, Wraps, PropertyType.render, generatedType, jsonType] at names ⊢
  · intro same
    exact same ▸ names_render t

/-- The types of columns are part of TypeScript, but for the alias. -/
theorem isBuiltin_or_eq_jsonType {primitive : String} (known : primitive ∈ columnTypes) :
    isBuiltin primitive = true ∨ primitive = jsonType := by
  revert primitive
  decide

/-! ## Columns and what is printed of them -/

/-- A property of an interface has the type of a column. -/
theorem exists_column_of_property (hi : i ∈ tableInterfaces decl) {p : Property}
    (hp : p ∈ i.properties) : ∃ c ∈ decl.columns, p.type.primitive = c.primitive := by
  obtain ⟨pick, inside, properties⟩ := exists_filterMap_of_mem_tableInterfaces hi
  rw [properties, List.mem_filterMap] at hp
  obtain ⟨e, he, picked⟩ := hp
  obtain ⟨c, hc, rfl⟩ := List.mem_map.1 he
  exact ⟨c, hc, (Entry.mem_properties_ofColumn (inside _ p picked)).2.1⟩

/-- The types of lowered columns are known. -/
theorem primitive_mem_of_lowered (lowered : lowerTables ⟨.kysely, dialect⟩ tables = .ok models)
    (hc : c ∈ allColumns models) : c.primitive ∈ columnTypes := by
  obtain ⟨decl, hd, hc⟩ := List.mem_flatMap.1 hc
  obtain ⟨f, -, p, hp, rfl⟩ := exists_columnOf lowered hd hc
  rw [primitive_columnOf, ← Option.some.inj hp]
  exact primitive_mem_columnTypes dialect f.type

/-- Some interface has a column whose type is written with the alias. -/
def UsesAlias (models : List TableDecl) : Prop :=
  ∃ i ∈ models.flatMap tableInterfaces, ∃ p ∈ i.properties, Names p.type.render jsonType

/-- Some interface that Kysely reads has a column in the wrapper. -/
def UsesWrapper (models : List TableDecl) : Prop :=
  ∃ decl ∈ models, ∃ p ∈ (tableInterface decl).properties, Wrapped p.type.render

section known

variable (known : ∀ c ∈ allColumns models, c.primitive ∈ columnTypes)
include known

theorem usesAlias_iff :
    UsesAlias models ↔ ∃ c ∈ allColumns models, c.primitive = jsonType := by
  constructor
  · rintro ⟨i, hi, p, hp, names⟩
    obtain ⟨decl, hd, hi⟩ := List.mem_flatMap.1 hi
    obtain ⟨c, hc, same⟩ := exists_column_of_property hi hp
    have listed : c ∈ allColumns models := List.mem_flatMap.2 ⟨decl, hd, hc⟩
    refine ⟨c, listed, ?_⟩
    rw [← same]
    exact (names_jsonType_iff (same ▸ known c listed)).1 names
  · rintro ⟨c, hc, document⟩
    obtain ⟨decl, hd, hc⟩ := List.mem_flatMap.1 hc
    refine ⟨tableInterface decl, List.mem_flatMap.2 ⟨decl, hd, List.mem_cons_self⟩,
      tableProperty c, List.mem_map_of_mem hc, ?_⟩
    exact document ▸ names_render (tableProperty c).type

theorem usesWrapper_iff : UsesWrapper models ↔ usesGenerated models = true := by
  rw [usesGenerated, List.any_eq_true]
  constructor
  · rintro ⟨decl, hd, p, hp, wrapped⟩
    obtain ⟨c, hc, rfl⟩ := List.mem_map.1 hp
    have listed : c ∈ allColumns models := List.mem_flatMap.2 ⟨decl, hd, hc⟩
    exact ⟨c, listed, (wrapped_render_iff (t := (tableProperty c).type) (known c listed)).1 wrapped⟩
  · rintro ⟨c, listed, generated⟩
    obtain ⟨decl, hd, hc⟩ := List.mem_flatMap.1 listed
    exact ⟨decl, hd, tableProperty c, List.mem_map_of_mem hc,
      (wrapped_render_iff (t := (tableProperty c).type) (known c listed)).2 generated⟩

end known

/-! ## Parts of the file -/

theorem opens_render (i : Interface) : Opens "export interface " i.render := by
  rw [Interface.render]
  split_ifs
  · exact (opens_append "export interface " i.name).append _
  · exact ((opens_append "export interface " i.name).append _).append _ |>.append _

/-- What starts in another way is no interface. -/
theorem notMem_of_not_opens {text : String} (other : ¬ Opens "export interface " text)
    (interfaces : List Interface) : text ∉ interfaces.map Interface.render := by
  intro h
  obtain ⟨i, -, rfl⟩ := List.mem_map.1 h
  exact other (opens_render i)

/-- A part that is no interface stands in the header of the file, if anywhere. -/
theorem count_typesParts {text : String} (other : ¬ Opens "export interface " text) :
    (typesParts models).count text
      = (if usesGenerated models then [generatedImport] else []).count text
        + (aliases models).count text := by
  have interfaces := List.count_eq_zero.2
    (notMem_of_not_opens other (models.flatMap tableInterfaces))
  have database := List.count_eq_zero.2 (notMem_of_not_opens other [databaseInterface models])
  rw [List.map_singleton] at database
  simp only [typesParts, List.count_append, interfaces, database, Nat.add_zero]

theorem count_jsonAlias : (typesParts models).count jsonAlias
    = if ∃ c ∈ allColumns models, c.primitive = jsonType then 1 else 0 := by
  have other : ¬ Opens "export interface " jsonAlias := by
    -- neither of two ways to start is the beginning of the other
    have start : Opens "export type " jsonAlias := opens_jsonAlias.of_append.of_append
    intro opens
    rcases List.prefix_or_prefix_of_prefix start opens with h | h <;> revert h <;> decide
  have differ : generatedImport ≠ jsonAlias := by decide
  rw [count_typesParts other, aliases_eq]
  split_ifs <;> simp [differ]

theorem count_generatedImport : (typesParts models).count generatedImport
    = if usesGenerated models then 1 else 0 := by
  have other : ¬ Opens "export interface " generatedImport := by
    unfold Opens
    decide
  have differ : jsonAlias ≠ generatedImport := by decide
  rw [count_typesParts other, aliases_eq]
  split_ifs <;> simp [differ]

/-- An interface of a table is printed. -/
theorem render_mem_typesParts (hd : decl ∈ models) (hi : i ∈ tableInterfaces decl) :
    i.render ∈ typesParts models := by
  have listed : i.render ∈ (models.flatMap tableInterfaces).map Interface.render :=
    List.mem_map_of_mem (List.mem_flatMap.2 ⟨decl, hd, hi⟩)
  simp only [typesParts, List.mem_append]
  exact .inl (.inr listed)

/-! ## The file -/

/-- The file has what its types name, and nothing else besides interfaces. -/
structure ClosedFile (models : List TableDecl) : Prop where
  written : renderTypes models
    = Source.banner ++ "\n" ++ String.join ((typesParts models).map ("\n" ++ ·))
  parts : ∀ part ∈ typesParts models, part = generatedImport ∨ part = jsonAlias ∨
    ∃ i ∈ models.flatMap tableInterfaces ++ [databaseInterface models], part = i.render
  /-- The interfaces of all tables are in the file. -/
  printed : ∀ i ∈ models.flatMap tableInterfaces, i.render ∈ typesParts models
  /-- The type of a column is written with a name of TypeScript or with the alias. -/
  types : ∀ i ∈ models.flatMap tableInterfaces, ∀ p ∈ i.properties,
    ∃ name, Names p.type.render name ∧ (isBuiltin name = true ∨ name = jsonType)
  /-- The alias is declared once if it is used, and the wrapper imported. -/
  alias_once : UsesAlias models → (typesParts models).count jsonAlias = 1
  alias_never : ¬ UsesAlias models → (typesParts models).count jsonAlias = 0
  import_once : UsesWrapper models → (typesParts models).count generatedImport = 1
  import_never : ¬ UsesWrapper models → (typesParts models).count generatedImport = 0
  /-- An entry of the database leads to the interface for Kysely of its table. -/
  database : ∀ p ∈ (databaseInterface models).properties, ∃ decl ∈ models, p.name = decl.name ∧
    p.type.render = (tableInterface decl).name ∧
    (tableInterface decl).render ∈ typesParts models ∧
    Declares [p.type.render] (tableInterface decl).render

/-- The file for lowered tables is closed. -/
theorem renderTypes_closed (lowered : lowerTables ⟨.kysely, dialect⟩ tables = .ok models) :
    ClosedFile models := by
  have known : ∀ c ∈ allColumns models, c.primitive ∈ columnTypes :=
    fun c hc => primitive_mem_of_lowered lowered hc
  exact
    { written := rfl
      parts := by
        intro part hpart
        simp only [typesParts, List.mem_append, List.mem_ite_nil_right, List.mem_singleton] at hpart
        rcases hpart with ((⟨-, rfl⟩ | listed) | listed) | rfl
        · exact .inl rfl
        · exact .inr (.inl (eq_jsonAlias_of_mem listed))
        · obtain ⟨i, hi, rfl⟩ := List.mem_map.1 listed
          exact .inr (.inr ⟨i, List.mem_append_left _ hi, rfl⟩)
        · exact .inr (.inr ⟨_, List.mem_append_right _ (List.mem_singleton_self _), rfl⟩)
      printed := by
        intro i hi
        obtain ⟨decl, hd, hi⟩ := List.mem_flatMap.1 hi
        exact render_mem_typesParts hd hi
      types := by
        intro i hi p hp
        obtain ⟨decl, hd, hi⟩ := List.mem_flatMap.1 hi
        obtain ⟨c, hc, same⟩ := exists_column_of_property hi hp
        refine ⟨p.type.primitive, names_render p.type, isBuiltin_or_eq_jsonType ?_⟩
        rw [same]
        exact known c (List.mem_flatMap.2 ⟨decl, hd, hc⟩)
      alias_once := fun used => by rw [count_jsonAlias, if_pos ((usesAlias_iff known).1 used)]
      alias_never := fun unused => by
        rw [count_jsonAlias, if_neg (unused ∘ (usesAlias_iff known).2)]
      import_once := fun used => by
        rw [count_generatedImport, if_pos ((usesWrapper_iff known).1 used)]
      import_never := fun unused => by
        rw [count_generatedImport, if_neg (unused ∘ (usesWrapper_iff known).2)]
      database := by
        intro p hp
        obtain ⟨decl, hd, rfl⟩ := List.mem_map.1 hp
        have text : PropertyType.render ⟨tableInterfaceName decl, false, false⟩
            = (tableInterface decl).name := by
          simp [PropertyType.render, tableInterface]
        refine ⟨decl, hd, rfl, text, render_mem_typesParts hd List.mem_cons_self, ?_⟩
        rw [text]
        exact declares_render (tableInterface decl) }

/-- Profiles have documents, and a key that PostgreSQL fills in: both parts of the header are
needed. -/
theorem renderTypes_closed_profiles :
    ∃ users profiles, lowerTables ⟨.kysely, .postgresql⟩ [Builtin.users, Builtin.profiles]
        = .ok [users, profiles] ∧
      (tableInterface profiles).properties.map (fun p => (p.name, p.type.render))
        = [("id", "Generated<string>"), ("user_id", "string"), ("bio", "string | null"),
          ("avatar_url", "string | null"), ("website", "string | null"),
          ("preferences", "JsonValue | null"), ("updated_at", "Generated<Date>")] ∧
      ClosedFile [users, profiles] := by
  have lowered : lowerTables ⟨.kysely, .postgresql⟩ [Builtin.users, Builtin.profiles]
      = .ok ([Builtin.users, Builtin.profiles].map fun t => ⟨t, t.fields.map fun f =>
        columnOf t f .postgresql (primitive .postgresql f.type)⟩) := rfl
  refine ⟨_, _, lowered, ?_, ?_⟩
  · decide
  · exact renderTypes_closed lowered

end SchemaForge.Kysely
