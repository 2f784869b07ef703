import Mathlib.Data.List.Nodup
import SchemaForge.Proofs.Drizzle.ImportUse
import SchemaForge.Proofs.Source.Statement
import SchemaForge.Proofs.Text.Parts

/-!
# Names of a Drizzle schema

A schema imports names, binds a constant for each table and one for each block.

Main results:

* the schema is made of `statements` (`renderSchema_eq_join`), each of which is written with its
  names (`declares_of_mem_statements`);
* no name is imported twice (`nodup_names_importsOf`), and none is that of a block
  (`ne_blockSymbol_of_mem_importsOf`);
* so all names are different if the symbols of tables differ from each other, from those of blocks
  and from what is imported, and only then (`nodup_names_iff`).
-/

namespace SchemaForge.Drizzle

open Text (Opens opens_append)

variable {models : List TableDecl} {tables : List Table} {dialect : Dialect} {n : String}

/-! ## Statements -/

/-- What the schema of some tables imports. -/
def importsOf (dialect : Dialect) (models : List TableDecl) : Imports :=
  .ofTables models dialect (!(blocks models).isEmpty)

/-- The names of all import statements. -/
def Imports.names (imports : Imports) : List String :=
  imports.orm ++ (imports.core ++ imports.coreTypes)

/-- The import statements of a schema. -/
def Imports.statements (imports : Imports) (dialect : Dialect) : List Statement :=
  (if imports.orm.isEmpty then [] else [⟨imports.orm, statement imports.orm "drizzle-orm"⟩])
    ++ (if imports.core.isEmpty then []
      else
        [⟨imports.core ++ imports.coreTypes,
          statement (imports.core ++ imports.coreTypes.map ("type " ++ ·)) (coreModule dialect)⟩])

/-- The tables that have a block. -/
def withBlock (models : List TableDecl) : List TableDecl :=
  models.filter fun t => !(entries models t).isEmpty

/-- The statements of a schema. -/
def statements (dialect : Dialect) (models : List TableDecl) : List Statement :=
  if models.isEmpty then [⟨[], "export \x7b\x7d;\n"⟩]
  else
    (importsOf dialect models).statements dialect
      ++ models.map (fun t => ⟨[t.symbol], "\n" ++ renderTable dialect t⟩)
      ++ (withBlock models).map (fun t =>
        ⟨[blockSymbol t], "\n" ++ renderBlock t (entries models t)⟩)

/-- The tables of a schema keep apart: no two have the same symbol, no symbol is imported, and none
is that of a block. -/
structure NamesApart (dialect : Dialect) (models : List TableDecl) : Prop where
  symbols : (models.map TableDecl.symbol).Nodup
  imports : ∀ t ∈ models, t.symbol ∉ (importsOf dialect models).names
  blocks : ∀ t ∈ models, ∀ u ∈ withBlock models, t.symbol ≠ blockSymbol u

/-! ## The text -/

theorem blocks_eq_map :
    blocks models = (withBlock models).map fun t => renderBlock t (entries models t) := by
  simp only [blocks, withBlock]
  generalize entries models = entriesOf
  induction models with
  | nil => rfl
  | cons t rest ih =>
    rw [List.filterMap_cons, List.filter_cons]
    cases h : (entriesOf t).isEmpty
    · exact congrArg _ ih
    · exact ih

/-- The import statements are what is written for the imports. -/
theorem join_statements (imports : Imports) :
    String.join ((imports.statements dialect).map (·.text)) = imports.render dialect := by
  rw [Imports.statements, Imports.render]
  split_ifs <;> simp

theorem core_importsOf_ne_nil (nonempty : models ≠ []) :
    (importsOf dialect models).core ≠ [] :=
  List.ne_nil_of_mem ((Imports.mem_core_ofTables_iff nonempty).2 (.inl rfl))

theorem flatMap_names_imports (nonempty : models ≠ []) :
    ((importsOf dialect models).statements dialect).flatMap (·.names)
      = (importsOf dialect models).names := by
  rw [Imports.statements, Imports.names,
    if_neg (mt List.isEmpty_iff.1 (core_importsOf_ne_nil nonempty))]
  split_ifs with none
  · simp [List.isEmpty_iff.1 none]
  · simp

/-- The names of a schema: those that it imports, then the symbols of its tables and blocks. -/
theorem flatMap_names_statements :
    (statements dialect models).flatMap (·.names) = (importsOf dialect models).names
      ++ models.map TableDecl.symbol ++ (withBlock models).map blockSymbol := by
  by_cases nothing : models = []
  · subst nothing
    rfl
  · rw [statements, if_neg (mt List.isEmpty_iff.1 nothing)]
    simp only [List.flatMap_append, flatMap_names_imports nothing, List.flatMap_map,
      ← List.map_eq_flatMap]

/-- The schema is its statements. -/
theorem renderSchema_eq_join :
    renderSchema dialect models =
      Source.banner ++ "\n\n" ++ String.join ((statements dialect models).map (·.text)) := by
  have front : renderSchema dialect models = Source.banner ++ "\n\n"
      ++ (importsOf dialect models).render dialect
      ++ (if models.isEmpty then "export \x7b\x7d;\n"
        else String.join ((models.map (renderTable dialect) ++ blocks models).map ("\n" ++ ·))) :=
    rfl
  rw [front, statements]
  by_cases nothing : models.isEmpty = true
  · rw [if_pos nothing, if_pos nothing, List.isEmpty_iff.1 nothing]
    rfl
  · rw [if_neg nothing, if_neg nothing]
    simp only [List.map_append, String.join_append, join_statements, blocks_eq_map, List.map_map,
      Function.comp_def, String.append_assoc]

theorem declares_statement (values types : List String) (module : String) :
    Declares (values ++ types)
      (Imports.statement (values ++ types.map ("type " ++ ·)) module) :=
  .imports (opens_append _ _ |>.append _ |>.append _)

theorem declares_renderTable (t : TableDecl) : Declares [t.symbol] (renderTable dialect t) :=
  .constant (opens_append _ _ |>.append _ |>.append _ |>.append _ |>.append _ |>.append _)

theorem declares_renderBlock (t : TableDecl) (es : List Entry) :
    Declares [blockSymbol t] (renderBlock t es) :=
  have bound : Opens " = " " = relations(" := opens_append " = " "relations("
  .constant (bound.after _ |>.append _ |>.append _ |>.append _ |>.append _ |>.append _ |>.append _)

/-- Each statement is written with its names. -/
theorem declares_of_mem_statements {s : Statement} (hs : s ∈ statements dialect models) :
    Declares s.names s.text := by
  rw [statements] at hs
  split_ifs at hs
  · obtain rfl := List.mem_singleton.1 hs
    exact .nothing
  · simp only [List.mem_append, List.mem_map, Imports.statements, List.mem_ite_nil_left,
      List.mem_singleton] at hs
    rcases hs with ((⟨-, rfl⟩ | ⟨-, rfl⟩) | ⟨t, -, rfl⟩) | ⟨t, -, rfl⟩
    · have orm := declares_statement (importsOf dialect models).orm [] "drizzle-orm"
      rw [List.map_nil, List.append_nil] at orm
      exact orm
    · exact declares_statement _ _ _
    · exact .spaced (declares_renderTable t)
    · exact .spaced (declares_renderBlock t _)

/-! ## Names -/

/-- The helpers that schemas import from the main module. -/
def ormNames : List String := ["relations", "sql"]

/-- The constructors and builders that they import. -/
def coreNames : List String :=
  ["pgTable", "mysqlTable", "sqliteTable", "uuid", "varchar", "text", "integer", "boolean",
    "timestamp", "jsonb", "int", "json"]

/-- The types that they import. -/
def coreTypeNames : List String := ["AnyPgColumn", "AnyMySqlColumn", "AnySQLiteColumn"]

/-- All names that schemas import. -/
def importable : List String := ormNames ++ (coreNames ++ coreTypeNames)

theorem orm_importsOf_subset : (importsOf dialect models).orm ⊆ ormNames := by
  intro n hn
  rcases Imports.mem_orm_ofTables_iff.1 hn with ⟨rfl, -⟩ | ⟨rfl, -⟩ <;> decide

theorem coreTypes_importsOf_subset : (importsOf dialect models).coreTypes ⊆ coreTypeNames := by
  intro n hn
  obtain ⟨rfl, -⟩ := Imports.mem_coreTypes_ofTables_iff.1 hn
  cases dialect <;> decide

section Lowered

variable (lowered : lowerTables ⟨.drizzle, dialect⟩ tables = .ok models)
include lowered

theorem core_importsOf_subset : (importsOf dialect models).core ⊆ coreNames := by
  intro n hn
  have nonempty : models ≠ [] := by
    rintro rfl
    cases hn
  rcases (Imports.mem_core_ofTables_iff nonempty).1 hn with rfl | ⟨c, hc, rfl⟩
  · cases dialect <;> decide
  · obtain ⟨table, f, rfl⟩ := exists_builderColumn lowered hc
    rw [builderColumn, primitive_columnOf]
    cases dialect <;> cases f.type <;> decide

theorem names_importsOf_subset : (importsOf dialect models).names ⊆ importable := by
  intro n hn
  simp only [Imports.names, importable, List.mem_append] at hn ⊢
  exact hn.imp (orm_importsOf_subset ·)
    (Or.imp (core_importsOf_subset lowered ·) (coreTypes_importsOf_subset ·))

/-- No name is imported twice. -/
theorem nodup_names_importsOf : (importsOf dialect models).names.Nodup := by
  have core : (importsOf dialect models).core.Nodup :=
    (Imports.ascending_ofTables _).1.imp ne_of_lt
  have coreTypes : (importsOf dialect models).coreTypes.Nodup :=
    (Imports.ascending_ofTables _).2.1.imp ne_of_lt
  have orm : (importsOf dialect models).orm.Nodup :=
    (Imports.ascending_ofTables _).2.2.imp ne_of_lt
  have types_apart : ∀ a ∈ coreNames, ∀ b ∈ coreTypeNames, a ≠ b := by decide
  have orm_apart : ∀ a ∈ ormNames, ∀ b ∈ coreNames ++ coreTypeNames, a ≠ b := by decide
  refine List.nodup_append.2 ⟨orm, List.nodup_append.2 ⟨core, coreTypes, ?_⟩, ?_⟩
  · intro a ha b hb
    exact types_apart a (core_importsOf_subset lowered ha) b (coreTypes_importsOf_subset hb)
  · intro a ha b hb
    exact orm_apart a (orm_importsOf_subset ha) b (List.mem_append.2 ((List.mem_append.1 hb).imp
      (core_importsOf_subset lowered ·) (coreTypes_importsOf_subset ·)))

/-- No block has the name of an import. -/
theorem ne_blockSymbol_of_mem_importsOf (hn : n ∈ (importsOf dialect models).names)
    (t : TableDecl) : n ≠ blockSymbol t := by
  have plain : ∀ n ∈ importable, Text.dropEnding? "Relations" n = none := by decide
  exact Text.ne_append_of_dropEnding? (plain n (names_importsOf_subset lowered hn)) t.symbol

/-- The names of a schema are different if its tables keep apart, and only then. -/
theorem nodup_names_iff :
    ((statements dialect models).flatMap (·.names)).Nodup ↔ NamesApart dialect models := by
  rw [flatMap_names_statements]
  constructor
  · intro nodup
    obtain ⟨ahead, -, blocks⟩ := List.nodup_append.1 nodup
    obtain ⟨-, symbols, imports⟩ := List.nodup_append.1 ahead
    refine ⟨symbols, ?_, ?_⟩
    · intro t ht imported
      exact imports _ imported _ (List.mem_map_of_mem ht) rfl
    · intro t ht u hu
      exact blocks _ (List.mem_append_right _ (List.mem_map_of_mem ht)) _ (List.mem_map_of_mem hu)
  · intro apart
    have blockSymbols : ((withBlock models).map blockSymbol).Nodup := by
      have symbols : ((withBlock models).map TableDecl.symbol).Nodup :=
        apart.symbols.sublist (List.filter_sublist.map _)
      have made : (withBlock models).map blockSymbol
          = ((withBlock models).map TableDecl.symbol).map (· ++ "Relations") := by
        rw [List.map_map]
        rfl
      rw [made]
      exact symbols.map fun a b => (String.append_left_inj _).1
    refine List.nodup_append.2 ⟨List.nodup_append.2
      ⟨nodup_names_importsOf lowered, apart.symbols, ?_⟩, blockSymbols, ?_⟩
    · rintro n imported _ hsymbol rfl
      obtain ⟨t, ht, rfl⟩ := List.mem_map.1 hsymbol
      exact apart.imports t ht imported
    · intro n hn _ hblock
      obtain ⟨u, hu, rfl⟩ := List.mem_map.1 hblock
      rcases List.mem_append.1 hn with imported | hsymbol
      · exact ne_blockSymbol_of_mem_importsOf lowered imported u
      · obtain ⟨t, ht, rfl⟩ := List.mem_map.1 hsymbol
        exact apart.blocks t ht u hu

end Lowered

end SchemaForge.Drizzle
