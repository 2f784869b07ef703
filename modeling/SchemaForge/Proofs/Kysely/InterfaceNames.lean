import Mathlib.Data.List.Pairwise
import SchemaForge.Kysely.Schema
import SchemaForge.Proofs.Declaration.NameSet
import SchemaForge.Proofs.Lists
import SchemaForge.Proofs.Source.Statement
import SchemaForge.Proofs.Text.Parts

/-!
# Names of the file of the interfaces

The four interfaces of a table are named after its rows, three of them with something before or
behind the name (`interfaceNames`).  What is added for one table may make up the name of another:
an interface of `User` is that of the rows called `NewUser`.

Main results:

* the interfaces of one table are named differently (`nodup_interfaceNames`);
* those of all tables are if the names of rows differ and keep apart, and only then
  (`nodup_flatMap_interfaceNames_iff`);
* the file of the interfaces is made of `statements` (`renderTypes_eq_join`), each of which is
  written with its names (`declares_of_mem_statements`);
* all of its names are different if the tables keep apart, and only then (`nodup_names_iff`).
-/

namespace SchemaForge.Kysely

open Text (Opens opens_append)
open Text (ne_append_of_dropEnding? ne_of_length_ne)

variable {row other : String}

/-! ## One table -/

/-- The names of the interfaces of a table, by that of its rows. -/
def interfaceNames (row : String) : List String :=
  [row ++ "Table", row, "New" ++ row, row ++ "Update"]

theorem mem_interfaceNames_self (row : String) : row ∈ interfaceNames row := by
  simp [interfaceNames]

/-- Two names of rows whose interfaces are named differently, whatever they are for: none of the
parts that are added makes up the difference. -/
structure Apart (row other : String) : Prop where
  table : row ≠ other ++ "Table"
  insert : row ≠ "New" ++ other
  update : row ≠ other ++ "Update"
  insert_table : "New" ++ row ≠ other ++ "Table"
  insert_update : "New" ++ row ≠ other ++ "Update"

/-- A part before a name is told from a longer one behind it. -/
theorem new_append_ne {ending : String} (longer : "New".length < ending.length) (row : String) :
    "New" ++ row ≠ row ++ ending := by
  refine ne_of_length_ne ?_
  rw [String.length_append, String.length_append]
  omega

/-- A name keeps apart from itself: what is added to it has different lengths. -/
theorem apart_self (row : String) : Apart row row where
  table := ne_of_length_ne (by simp)
  insert := ne_of_length_ne (by simp)
  update := ne_of_length_ne (by simp)
  insert_table := new_append_ne (by decide) row
  insert_update := new_append_ne (by decide) row

/-- No name ends in two ways. -/
theorem table_ne_update (row other : String) : row ++ "Table" ≠ other ++ "Update" := by
  intro same
  have reversed := congrArg (·.toList.reverse) same
  simp at reversed

theorem nodup_interfaceNames (row : String) : (interfaceNames row).Nodup := by
  obtain ⟨table, insert, update, insert_table, insert_update⟩ := apart_self row
  simp only [interfaceNames, List.nodup_cons, List.mem_cons, List.not_mem_nil, or_false, not_or,
    not_false_eq_true, List.nodup_nil, and_true]
  exact ⟨⟨table.symm, insert_table.symm, table_ne_update row row⟩, ⟨insert, update⟩, insert_update⟩

theorem Apart.of_disjoint (disjoint : (interfaceNames row).Disjoint (interfaceNames other)) :
    Apart row other := by
  have ne {a b : String} (ha : a ∈ interfaceNames row) (hb : b ∈ interfaceNames other) : a ≠ b :=
    fun same => disjoint ha (same ▸ hb)
  constructor <;> exact ne (by simp [interfaceNames]) (by simp [interfaceNames])

/-- Two tables have no name of an interface in common when the names of their rows differ and keep
apart. -/
theorem disjoint_interfaceNames_iff :
    (interfaceNames row).Disjoint (interfaceNames other) ↔
      row ≠ other ∧ Apart row other ∧ Apart other row := by
  constructor
  · intro disjoint
    have differ : row ≠ other := by
      rintro rfl
      exact disjoint (mem_interfaceNames_self row) (mem_interfaceNames_self row)
    exact ⟨differ, .of_disjoint disjoint, .of_disjoint (List.disjoint_symm disjoint)⟩
  · rintro ⟨differ, apart, apart'⟩ n hn hn'
    simp only [interfaceNames, List.mem_cons, List.not_mem_nil, or_false] at hn hn'
    rcases hn with rfl | rfl | rfl | rfl
    · rcases hn' with same | same | same | same
      · exact differ ((String.append_left_inj _).1 same)
      · exact apart'.table same.symm
      · exact apart'.insert_table same.symm
      · exact table_ne_update row other same
    · rcases hn' with same | same | same | same
      · exact apart.table same
      · exact differ same
      · exact apart.insert same
      · exact apart.update same
    · rcases hn' with same | same | same | same
      · exact apart.insert_table same
      · exact apart'.insert same.symm
      · exact differ ((String.append_right_inj _).1 same)
      · exact apart.insert_update same
    · rcases hn' with same | same | same | same
      · exact table_ne_update other row same.symm
      · exact apart'.update same.symm
      · exact apart'.insert_update same.symm
      · exact differ ((String.append_left_inj _).1 same)

/-- The interfaces of all tables are named differently when the names of rows keep apart. -/
theorem nodup_flatMap_interfaceNames_iff {rows : List String} :
    (rows.flatMap interfaceNames).Nodup ↔
      rows.Nodup ∧ ∀ row ∈ rows, ∀ other ∈ rows, Apart row other := by
  rw [List.nodup_flatMap]
  constructor
  · rintro ⟨-, disjoint⟩
    have pairs := disjoint.imp disjoint_interfaceNames_iff.1
    have : Std.Symm fun row other => Apart row other ∧ Apart other row := ⟨fun _ _ => And.symm⟩
    have all := List.Pairwise.forall_of_forall
      (fun row _ => ⟨apart_self row, apart_self row⟩) (pairs.imp And.right)
    exact ⟨pairs.imp And.left, fun row hrow other hother => (all hrow hother).1⟩
  · rintro ⟨nodup, apart⟩
    refine ⟨fun row _ => nodup_interfaceNames row, List.Pairwise.imp_of_mem ?_ nodup⟩
    intro row other hrow hother differ
    exact disjoint_interfaceNames_iff.2
      ⟨differ, apart row hrow other hother, apart other hother row hrow⟩

/-! ## Names of the file -/

variable {models : List TableDecl} {n : String}

theorem jsonType_mem_declaredPrimitives_iff :
    jsonType ∈ declaredPrimitives models ↔ ∃ c ∈ allColumns models, c.primitive = jsonType := by
  have foreign : (!isBuiltin jsonType) = true := by decide
  rw [declaredPrimitives, List.mem_filter, usedPrimitives, mem_nameSet, List.mem_map]
  exact and_iff_left foreign

/-- The aliases are that for documents if a column is a document, and none otherwise. -/
theorem aliases_eq : aliases models =
    if ∃ c ∈ allColumns models, c.primitive = jsonType then [jsonAlias] else [] := by
  have nodup : (declaredPrimitives models).Nodup := (nodup_nameSet _).filter _
  rw [aliases, filterMap_of_nodup nodup]
  simp only [jsonType_mem_declaredPrimitives_iff]

/-- The names that are not made from tables: the wrapper if a column is wrapped, the alias if a
column is a document, and the interface of the database. -/
def ownNames (models : List TableDecl) : List String :=
  (if ∃ c ∈ allColumns models, isGenerated c = true then [generatedType] else [])
    ++ (if ∃ c ∈ allColumns models, c.primitive = jsonType then [jsonType] else [])
    ++ ["Database"]

theorem ownNames_sublist :
    (ownNames models).Sublist [generatedType, jsonType, "Database"] := by
  rw [ownNames]
  split_ifs <;> decide

/-- A name that is not made from tables is that of an interface only if it is that of the rows. -/
theorem eq_of_mem_interfaceNames (own : n ∈ ownNames models) (hn : n ∈ interfaceNames row) :
    n = row := by
  have plain : ∀ n ∈ [generatedType, jsonType, "Database"], n.toList.head? ≠ some 'N' ∧
      Text.dropEnding? "Table" n = none ∧ Text.dropEnding? "Update" n = none := by decide
  obtain ⟨first, table, update⟩ := plain n (ownNames_sublist.subset own)
  simp only [interfaceNames, List.mem_cons, List.not_mem_nil, or_false] at hn
  rcases hn with hn | hn | rfl | hn
  · exact absurd hn (ne_append_of_dropEnding? table row)
  · exact hn
  · exact absurd (by simp) first
  · exact absurd hn (ne_append_of_dropEnding? update row)

/-! ## Statements -/

/-- The statements of the file of the interfaces. -/
def statements (models : List TableDecl) : List Statement :=
  (if usesGenerated models then [⟨[generatedType], "\n" ++ generatedImport⟩] else [])
    ++ (aliases models).map (fun text => ⟨[jsonType], "\n" ++ text⟩)
    ++ (models.flatMap tableInterfaces).map (fun i => ⟨[i.name], "\n" ++ i.render⟩)
    ++ [⟨["Database"], "\n" ++ (databaseInterface models).render⟩]

/-- The tables of a schema keep apart: no two have rows of the same name, the names of rows differ
from those that are not made from tables, and their interfaces are named differently. -/
structure NamesApart (models : List TableDecl) : Prop where
  rows : (models.map TableDecl.typeName).Nodup
  own : ∀ t ∈ models, t.typeName ∉ ownNames models
  interfaces : ∀ t ∈ models, ∀ u ∈ models, Apart t.typeName u.typeName

/-- The file of the interfaces is its statements. -/
theorem renderTypes_eq_join :
    renderTypes models =
      Source.banner ++ "\n" ++ String.join ((statements models).map (·.text)) := by
  have parts : (typesParts models).map ("\n" ++ ·) = (statements models).map (·.text) := by
    rw [typesParts, statements]
    split_ifs <;> simp [Function.comp_def]
  rw [renderTypes, parts]

theorem declares_render (i : Interface) : Declares [i.name] i.render := by
  have brace (rest : String) : Opens " \x7b" (" \x7b" ++ rest) := opens_append " \x7b" rest
  rw [Interface.render]
  split_ifs
  · exact .interface ((brace "\x7d\n").after _)
  · exact .interface ((brace "\n").after _ |>.append _ |>.append _)

theorem opens_jsonAlias : Opens ("export type " ++ jsonType ++ " = ") jsonAlias := by
  have opens : Opens ("export type " ++ jsonType ++ " = ")
      "export type JsonValue = string | number | boolean | null | JsonValue[] | " :=
    opens_append "export type JsonValue = " "string | number | boolean | null | JsonValue[] | "
  exact (opens.append _).append _

theorem declares_jsonAlias : Declares [jsonType] jsonAlias := .alias opens_jsonAlias

theorem eq_jsonAlias_of_mem {text : String} (h : text ∈ aliases models) : text = jsonAlias := by
  obtain ⟨p, -, same⟩ := List.mem_filterMap.1 h
  exact (Option.some.inj (Option.ite_none_right_eq_some.1 same).2).symm

theorem declares_of_mem_statements {s : Statement} (hs : s ∈ statements models) :
    Declares s.names s.text := by
  simp only [statements, List.mem_append, List.mem_map, List.mem_ite_nil_right,
    List.mem_singleton] at hs
  rcases hs with ((⟨-, rfl⟩ | ⟨text, listed, rfl⟩) | ⟨i, -, rfl⟩) | rfl
  · exact .spaced (.typeImport (opens_append _ " from 'kysely';\n"))
  · obtain rfl := eq_jsonAlias_of_mem listed
    exact .spaced declares_jsonAlias
  · exact .spaced (declares_render i)
  · exact .spaced (declares_render (databaseInterface models))

/-- The names of the file: those of the interfaces of tables between the others. -/
theorem flatMap_names_statements_perm :
    ((statements models).flatMap (·.names)).Perm
      ((models.map TableDecl.typeName).flatMap interfaceNames ++ ownNames models) := by
  have interfaces : (models.flatMap tableInterfaces).map (·.name)
      = (models.map TableDecl.typeName).flatMap interfaceNames := by
    rw [List.map_flatMap, List.flatMap_map]
    rfl
  have wrapper : usesGenerated models = true ↔ ∃ c ∈ allColumns models, isGenerated c = true :=
    List.any_eq_true
  have ahead : (statements models).flatMap (·.names) =
      ((if ∃ c ∈ allColumns models, isGenerated c = true then [generatedType] else [])
        ++ (if ∃ c ∈ allColumns models, c.primitive = jsonType then [jsonType] else []))
        ++ ((models.map TableDecl.typeName).flatMap interfaceNames ++ ["Database"]) := by
    have singles : ((models.flatMap tableInterfaces).map fun i =>
        (⟨[i.name], "\n" ++ i.render⟩ : Statement)).flatMap (·.names)
          = (models.flatMap tableInterfaces).map (·.name) := by
      rw [List.flatMap_map, List.map_eq_flatMap]
    simp only [statements, aliases_eq, ← interfaces, wrapper, List.flatMap_append, singles]
    split_ifs <;> simp
  rw [ahead, ownNames]
  refine (List.Perm.trans ?_ List.perm_append_comm)
  simp only [List.append_assoc]
  exact .append_left _ (.append_left _ List.perm_append_comm)

/-- The names of the file are different if the tables keep apart, and only then. -/
theorem nodup_names_iff : ((statements models).flatMap (·.names)).Nodup ↔ NamesApart models := by
  rw [flatMap_names_statements_perm.nodup_iff, List.nodup_append, nodup_flatMap_interfaceNames_iff]
  constructor
  · rintro ⟨⟨rows, interfaces⟩, -, own⟩
    refine ⟨rows, ?_, ?_⟩
    · intro t ht hown
      have named : t.typeName ∈ (models.map TableDecl.typeName).flatMap interfaceNames :=
        List.mem_flatMap.2 ⟨_, List.mem_map_of_mem ht, mem_interfaceNames_self _⟩
      exact own _ named _ hown rfl
    · intro t ht u hu
      exact interfaces _ (List.mem_map_of_mem ht) _ (List.mem_map_of_mem hu)
  · intro apart
    refine ⟨⟨apart.rows, ?_⟩, .sublist ownNames_sublist (by decide), ?_⟩
    · intro row hrow other hother
      obtain ⟨t, ht, rfl⟩ := List.mem_map.1 hrow
      obtain ⟨u, hu, rfl⟩ := List.mem_map.1 hother
      exact apart.interfaces t ht u hu
    · rintro n named _ own rfl
      obtain ⟨row, hrow, hn⟩ := List.mem_flatMap.1 named
      obtain ⟨t, ht, rfl⟩ := List.mem_map.1 hrow
      obtain rfl := eq_of_mem_interfaceNames own hn
      exact apart.own t ht own

end SchemaForge.Kysely
