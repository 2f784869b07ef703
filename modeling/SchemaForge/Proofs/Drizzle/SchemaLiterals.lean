import SchemaForge.Proofs.Drizzle.CallChain
import SchemaForge.Proofs.Drizzle.Entries
import SchemaForge.Proofs.Drizzle.SchemaNames
import SchemaForge.Proofs.Text.CamelCase
import SchemaForge.Proofs.Text.CodeLiterals

/-!
# The literals of a Drizzle schema

Names of tables and columns, texts of defaults and names of associations stand in a schema as
single-quoted literals, between code that has no quote of its own.  Each part of a schema is spelled
with the literals that it is meant to have (`spells_render`, `spells_columnLine`,
`spells_renderTable`, `spells_call`, `spells_renderSchema`), so a reader that knows nothing of the
tables finds just these, whatever the names and the defaults are (`literals_exact`).

A column keeps to its line but for what its literals bring in: its code has no line break
(`isInline`).
-/

namespace SchemaForge

open Text

/-! ## Characters of code -/

/-- A character of code that stays on its line. -/
def isInline (c : Char) : Bool := c != '\'' && c != '\n' && c != '\r'

/-- A character of code. -/
def isUnquoted (c : Char) : Bool := c != '\''

theorem isUnquoted_of_isInline {c : Char} (h : isInline c = true) : isUnquoted c = true := by
  simp only [isInline, Bool.and_eq_true] at h
  exact h.1.1

/-- Camel case stays on its line. -/
theorem all_isInline_camel {s camel : String} (h : IsCamelOf s camel) :
    camel.toList.all isInline = true := by
  rw [List.all_eq_true]
  intro d hd
  simp only [isInline, Bool.and_eq_true, bne_iff_ne]
  refine ⟨⟨?_, ?_⟩, ?_⟩ <;>
    · rintro rfl
      exact h.notMem (by decide) (by decide) hd

theorem all_isInline_of_isNumeric {s : String} (numeric : ∀ c ∈ s.toList, IsNumeric c) :
    s.toList.all isInline = true := by
  rw [List.all_eq_true]
  intro c hc
  simp only [isInline, Bool.and_eq_true, bne_iff_ne]
  have other : ¬ IsNumeric '\'' ∧ ¬ IsNumeric '\n' ∧ ¬ IsNumeric '\r' := by
    unfold IsNumeric
    decide
  refine ⟨⟨?_, ?_⟩, ?_⟩
  · rintro rfl
    exact other.1 (numeric _ hc)
  · rintro rfl
    exact other.2.1 (numeric _ hc)
  · rintro rfl
    exact other.2.2 (numeric _ hc)

theorem all_isInline_append_iff {s t : String} :
    (s ++ t).toList.all isInline = true ↔
      s.toList.all isInline = true ∧ t.toList.all isInline = true := by
  rw [String.toList_append, List.all_append, Bool.and_eq_true]

theorem all_isInline_append {s t : String} (hs : s.toList.all isInline = true)
    (ht : t.toList.all isInline = true) : (s ++ t).toList.all isInline = true :=
  all_isInline_append_iff.2 ⟨hs, ht⟩

theorem all_isInline_intercalate {names : List String}
    (plain : ∀ n ∈ names, n.toList.all isInline = true) :
    (String.intercalate ", " names).toList.all isInline = true := by
  induction names with
  | nil => rfl
  | cons n rest ih =>
    have first := plain n List.mem_cons_self
    have others := ih fun m hm => plain m (List.mem_cons_of_mem n hm)
    cases rest with
    | nil => simpa [String.intercalate_singleton] using first
    | cons m rest =>
      rw [String.intercalate_cons_cons]
      exact all_isInline_append (all_isInline_append first rfl) others

theorem spells_braced {inner : String} {texts : List String}
    (spells : Spells isInline inner texts) : Spells isInline (Source.braced inner) texts :=
  (spells.code_append rfl).append_code rfl

namespace Drizzle

variable {models : List TableDecl} {tables : List Table} {dialect : Dialect} {c : Column}
  {call : Clause}

/-! ## Columns -/

/-- The text of a default that is a text. -/
def textOf? : DefaultToken → Option String
  | .literal (.text s) => some s
  | _ => none

/-- The texts of the literals in a call. -/
def Clause.literals : Clause → List String
  | .builder _ column _ mode => column :: mode.toList
  | .default value => (textOf? value).toList
  | .references target => (target.onDelete.map actionName).toList
  | _ => []

/-- The texts of the literals in the chain of a column. -/
def columnLiterals (dialect : Dialect) (c : Column) : List String :=
  (clauses c dialect).flatMap Clause.literals

theorem spells_builderText {name : String} (plain : name.toList.all isInline = true)
    (column : String) (length : Option UInt32) (mode : Option String) :
    Spells isInline (builderText name column length mode) (column :: mode.toList) := by
  have start : Spells isInline (name ++ "(" ++ singleQuoted column) [column] :=
    ((Spells.code plain).append_code rfl).append (.literal column)
  -- the options that there are, behind the name of the column
  have optional : ∀ {options texts}, Spells isInline options texts →
      Spells isInline (name ++ "(" ++ singleQuoted column ++ ", " ++ Source.braced options ++ ")")
        (column :: texts) :=
    fun spells => ((start.append_code rfl).append (spells_braced spells)).append_code rfl
  have sized : ∀ n : UInt32, ("length: " ++ toString n.toNat).toList.all isInline = true :=
    fun n => all_isInline_append rfl
      (all_isInline_of_isNumeric fun c hc => .inl (isDigit_of_mem_toString hc))
  have moded : ∀ m, Spells isInline (singleQuoted m) [m] := .literal
  cases length with
  | none =>
    cases mode with
    | none => exact start.append_code rfl
    | some m => exact optional ((moded m).code_append rfl)
  | some n =>
    cases mode with
    | none => exact optional (.code (sized n))
    | some m =>
      exact optional ((moded m).code_append
        (all_isInline_append (all_isInline_append (sized n) rfl) rfl))

theorem spells_literal (value : DefaultValue) :
    Spells isInline (Source.literal value) (textOf? (.literal value)).toList := by
  cases value with
  | now => exact .code (by decide)
  | text s => exact .literal s
  | integer n => exact .code (all_isInline_of_isNumeric fun c hc => isNumeric_of_mem_toString hc)
  | real x =>
    exact .code (all_isInline_of_isNumeric fun c hc => Binary64.isNumeric_of_mem_plainText hc)
  | boolean b => cases b <;> exact .code (by decide)

theorem all_isInline_referenceCallback (dialect : Dialect) (r : Reference) :
    (referenceCallback r dialect).toList.all isInline = true := by
  have target : (referenceTarget r).toList.all isInline = true :=
    all_isInline_append (all_isInline_append (all_isInline_camel (isCamelOf_lowerCamel _)) rfl)
      (all_isInline_camel (isCamelOf_lowerCamel _))
  rw [referenceCallback]
  split_ifs
  · have annotation : ("(): " ++ anyColumnType dialect ++ " => ").toList.all isInline = true := by
      cases dialect <;> decide
    exact all_isInline_append annotation target
  · exact all_isInline_append rfl target

/-- A call is spelled with its literals, if the name of a builder is code. -/
theorem spells_render (plain : ∀ p, call.token = .base p → p.toList.all isInline = true) :
    Spells isInline (call.render dialect) call.literals := by
  cases call with
  | builder name column length mode =>
    rw [render_builder]
    exact spells_builderText (plain name rfl) column length mode
  | primaryKey autoIncrement => cases autoIncrement <;> cases dialect <;> exact .code (by decide)
  | notNull => exact Spells.code (s := ".notNull()") rfl
  | unique => exact Spells.code (s := ".unique()") rfl
  | default value =>
    cases value with
    | literal value => exact ((spells_literal value).code_append rfl).append_code rfl
    | now => cases dialect <;> exact .code (by decide)
    | autoIncrement => cases dialect <;> exact .code (by decide)
    | randomUuid => cases dialect <;> exact .code (by decide)
  | references r =>
    have callback := all_isInline_append (s := ".references(") rfl
      (all_isInline_referenceCallback dialect r)
    rw [Clause.render, Clause.literals]
    cases r.onDelete with
    | none => exact .code (all_isInline_append (all_isInline_append callback rfl) rfl)
    | some action =>
      have option : Spells isInline ("onDelete: " ++ singleQuoted (actionName action))
          [actionName action] := .code_append rfl (.literal _)
      exact (((spells_braced option).code_append rfl).code_append callback).append_code rfl

/-- The type of a column is code. -/
def HasPlainType (c : Column) : Prop := ∀ p, .base p ∈ c.tokens → p.toList.all isInline = true

/-- A field that is lowered for Drizzle has a type that is code. -/
theorem hasPlainType_of_lowerField {table : Table} {f : Field}
    (lowered : lowerField table f ⟨.drizzle, dialect⟩ = .ok c) : HasPlainType c := by
  obtain ⟨-, p, mapped, rfl⟩ := lowerField_eq_ok_iff.1 lowered
  cases mapped
  intro p hp
  obtain rfl := base_mem_columnOf_iff.1 hp
  cases dialect <;> cases f.type <;> decide

/-- A column is spelled with its literals on one line, if its type is code. -/
theorem spells_columnLine (dialect : Dialect) (plain : HasPlainType c) :
    Spells isInline (columnLine dialect c) (columnLiterals dialect c) := by
  have chain : Spells isInline (renderColumn c dialect) (columnLiterals dialect c) := by
    refine Spells.join ?_
    intro call hcall
    apply spells_render
    intro p hp
    exact plain p (hp ▸ (mem_clauses_iff.1 hcall).1)
  have property := all_isInline_camel (isCamelOf_lowerCamel c.name)
  exact (chain.code_append (all_isInline_append (all_isInline_append rfl property) rfl)).append_code
    rfl

/-! ## Tables -/

/-- The texts of the literals in the declaration of a table. -/
def tableLiterals (dialect : Dialect) (t : TableDecl) : List String :=
  t.name :: t.columns.flatMap (columnLiterals dialect)

theorem all_isInline_symbol (t : TableDecl) : t.symbol.toList.all isInline = true :=
  all_isInline_camel (isCamelOf_lowerCamel _)

/-- What stands before the name of a table in its declaration is code. -/
theorem all_isInline_opening (dialect : Dialect) (t : TableDecl) :
    ("export const " ++ t.symbol ++ " = " ++ tableFunction dialect ++ "(").toList.all isInline
      = true := by
  simp only [all_isInline_append_iff, all_isInline_symbol, and_true]
  cases dialect <;> decide

theorem spells_renderTable (dialect : Dialect) {t : TableDecl}
    (plain : ∀ c ∈ t.columns, HasPlainType c) :
    Spells isUnquoted (renderTable dialect t) (tableLiterals dialect t) := by
  have lines : Spells isUnquoted
      (String.intercalate "\n" (t.columns.map (columnLine dialect)))
      (t.columns.flatMap (columnLiterals dialect)) :=
    .intercalate rfl fun c hc =>
      (spells_columnLine dialect (plain c hc)).mono fun _ => isUnquoted_of_isInline
  have opening := (Spells.code (all_isInline_opening dialect t)).mono
    fun _ => isUnquoted_of_isInline
  exact (((opening.append (.literal t.name)).append_code rfl).append lines).append_code rfl

/-! ## Associations -/

/-- An entry declares the property of an association. -/
theorem exists_property_of_mem_entries {t : TableDecl} {e : Entry} (he : e ∈ entries models t) :
    ∃ r ∈ t.source.relations, e.property = lowerCamel r.fieldName := by
  obtain ⟨earlier, r, later, split, binds⟩ := mem_entries_iff.1 he
  refine ⟨r, by simp [split], ?_⟩
  cases binds <;> rfl

theorem all_isInline_oneOptions (t target : TableDecl) (key : Column) (reference : Reference) :
    (oneOptions t target key reference).toList.all isInline = true := by
  have property := all_isInline_camel (isCamelOf_lowerCamel key.name)
  have field := all_isInline_camel (isCamelOf_lowerCamel reference.field)
  simp only [oneOptions, Column.propertyName, all_isInline_append_iff, all_isInline_symbol,
    property, field, and_true]
  decide

/-- An entry is spelled with its relation name, if it has one. -/
theorem spells_call (t : TableDecl) (e : Entry) :
    Spells isInline (e.call t) (e.relationName? t).toList := by
  have name : ∀ n, Spells isInline (nameOption n) [n] := fun n => .code_append rfl (.literal n)
  cases e with
  | one property target key reference isNamed =>
    have options : Spells isInline (oneOptions t target key reference) [] :=
      .code (all_isInline_oneOptions t target key reference)
    have start := all_isInline_append (all_isInline_append (s := "one(") rfl
      (all_isInline_symbol target)) (t := ", ") rfl
    rw [Entry.call]
    cases (Entry.one property target key reference isNamed).relationName? t with
    | none => exact ((spells_braced (options.append_code rfl)).code_append start).append_code rfl
    | some n =>
      exact ((spells_braced (options.append ((name n).code_append rfl))).code_append
        start).append_code rfl
  | many property target key =>
    have start := all_isInline_append (s := "many(") rfl (all_isInline_symbol target)
    rw [Entry.call]
    cases (Entry.many property target key).relationName? t with
    | none => exact .code (all_isInline_append (all_isInline_append start rfl) rfl)
    | some n =>
      exact (((spells_braced (name n)).code_append rfl).code_append start).append_code rfl
  | through property junction =>
    exact .code (all_isInline_append
      (all_isInline_append (s := "many(") rfl (all_isInline_symbol junction)) rfl)

/-- The texts of the literals in the block of a table. -/
def blockLiterals (models : List TableDecl) (t : TableDecl) : List String :=
  (entries models t).flatMap fun e => (e.relationName? t).toList

theorem spells_renderBlock (t : TableDecl) :
    Spells isUnquoted (renderBlock t (entries models t)) (blockLiterals models t) := by
  have lines : Spells isUnquoted
      (String.intercalate "\n" ((entries models t).map (Entry.line t)))
      (blockLiterals models t) := by
    refine .intercalate rfl fun e he => .mono (fun _ => isUnquoted_of_isInline) ?_
    obtain ⟨r, -, property⟩ := exists_property_of_mem_entries he
    have start : ("  " ++ e.property ++ ": ").toList.all isInline = true := by
      rw [property]
      exact all_isInline_append (all_isInline_append rfl
        (all_isInline_camel (isCamelOf_lowerCamel _))) rfl
    exact ((spells_call t e).code_append start).append_code rfl
  have helpers : (String.intercalate ", " (helpers (entries models t))).toList.all isInline
      = true := by
    refine all_isInline_intercalate fun n hn => ?_
    obtain ⟨e, -, rfl⟩ := List.mem_map.1 (mem_nameSet.1 hn)
    have helper : e.helper = "one" ∨ e.helper = "many" := by cases e <;> simp [Entry.helper]
    rcases helper with helper | helper <;> rw [helper] <;> rfl
  have start : ("export const " ++ blockSymbol t ++ " = relations(" ++ t.symbol ++ ", ("
      ++ Source.braced (String.intercalate ", " (Drizzle.helpers (entries models t)))).toList.all
        isInline = true := by
    simp only [blockSymbol, Source.braced, all_isInline_append_iff, all_isInline_symbol, helpers,
      and_true]
    decide
  exact ((((Spells.code start).mono fun _ => isUnquoted_of_isInline).append_code rfl).append
    lines).append_code rfl

/-! ## The schema -/

theorem spells_statement {names : List String} {moduleName : String}
    (plain : ∀ n ∈ names, n.toList.all isInline = true)
    (simple : "'" ++ moduleName ++ "'" = singleQuoted moduleName) :
    Spells isUnquoted (Imports.statement names moduleName) [moduleName] := by
  have written : Imports.statement names moduleName
      = "import " ++ Source.braced (String.intercalate ", " names) ++ " from "
        ++ singleQuoted moduleName ++ ";\n" := by
    have opening : " from '" = " from " ++ "'" := rfl
    have closing : "';\n" = "'" ++ ";\n" := rfl
    rw [← simple, Imports.statement, opening, closing]
    simp only [String.append_assoc]
  have start : ("import " ++ Source.braced (String.intercalate ", " names)
      ++ " from ").toList.all isInline = true := by
    simp only [Source.braced, all_isInline_append_iff, all_isInline_intercalate plain, and_true]
    decide
  rw [written]
  exact (((Spells.code start).mono fun _ => isUnquoted_of_isInline).append
    (.literal moduleName)).append_code rfl

/-- The modules that a schema imports from. -/
def importLiterals (dialect : Dialect) (models : List TableDecl) : List String :=
  (if (importsOf dialect models).orm.isEmpty then [] else ["drizzle-orm"])
    ++ (if (importsOf dialect models).core.isEmpty then [] else [coreModule dialect])

/-- The texts of the literals in a schema: modules, then names and defaults by table, and then the
names of associations. -/
def schemaLiterals (dialect : Dialect) (models : List TableDecl) : List String :=
  importLiterals dialect models ++ (models.flatMap (tableLiterals dialect)
    ++ (withBlock models).flatMap (blockLiterals models))

section lowered

variable (lowered : lowerTables ⟨.drizzle, dialect⟩ tables = .ok models)
include lowered

theorem hasPlainType_of_mem {t : TableDecl} (ht : t ∈ models) (hc : c ∈ t.columns) :
    HasPlainType c := by
  obtain ⟨t', -, ht'⟩ := exists_mem_of_forall₂ (lowerTables_eq_ok_iff.1 lowered).2.flip ht
  obtain ⟨f, -, hf⟩ := exists_mem_of_forall₂ (lowerTable_eq_ok_iff.1 ht').2.flip hc
  exact hasPlainType_of_lowerField hf

/-- The imports are spelled with the modules that they are from. -/
theorem spells_imports :
    Spells isUnquoted ((importsOf dialect models).render dialect)
      (importLiterals dialect models) := by
  have plain : ∀ n ∈ importable, n.toList.all isInline = true := by decide
  have marked : ∀ n ∈ coreTypeNames, ("type " ++ n).toList.all isInline = true := by decide
  have orm : Spells isUnquoted
      (if (importsOf dialect models).orm.isEmpty then ""
        else Imports.statement (importsOf dialect models).orm "drizzle-orm")
      (if (importsOf dialect models).orm.isEmpty then [] else ["drizzle-orm"]) := by
    split_ifs
    · exact .code rfl
    · exact spells_statement (fun n hn => plain n (List.mem_append_left _
        (orm_importsOf_subset hn))) (by decide)
  refine orm.append ?_
  split_ifs
  · exact .code rfl
  · refine spells_statement ?_ (by cases dialect <;> decide)
    intro n hn
    rcases List.mem_append.1 hn with hn | hn
    · exact plain n (List.mem_append_right _ (List.mem_append_left _
        (core_importsOf_subset lowered hn)))
    · obtain ⟨type, htype, rfl⟩ := List.mem_map.1 hn
      exact marked type (coreTypes_importsOf_subset htype)

/-- A schema is spelled with the literals that it is meant to have. -/
theorem spells_renderSchema :
    Spells isUnquoted (renderSchema dialect models) (schemaLiterals dialect models) := by
  have banner : (Source.banner ++ "\n\n").toList.all isUnquoted = true := by decide
  have spaced : ∀ {s texts}, Spells isUnquoted s texts → Spells isUnquoted ("\n" ++ s) texts :=
    fun spells => spells.code_append rfl
  have declarations : Spells isUnquoted
      (if models.isEmpty then "export \x7b\x7d;\n"
        else String.join ((models.map (renderTable dialect) ++ blocks models).map ("\n" ++ ·)))
      (models.flatMap (tableLiterals dialect)
        ++ (withBlock models).flatMap (blockLiterals models)) := by
    by_cases nothing : models.isEmpty = true
    · rw [if_pos nothing, List.isEmpty_iff.1 nothing]
      exact .code rfl
    · rw [if_neg nothing, blocks_eq_map, List.map_append, String.join_append, List.map_map,
        List.map_map]
      refine .append (.join fun t ht => ?_) (.join fun t _ => ?_)
      · exact spaced (spells_renderTable dialect fun c hc => hasPlainType_of_mem lowered ht hc)
      · exact spaced (spells_renderBlock t)
  have imports := (spells_imports lowered).code_append banner
  exact imports.append declarations

/-- No text ends its literal early.  The scan of a literal stops at its last character and gives the
text back, so different texts have different literals; and a reader of a whole schema finds one
literal for each of the texts that it was made with, however they are written. -/
theorem literals_exact :
    (∀ s, ∃ body, (singleQuoted s).toList = '\'' :: body ∧
      scanQuoted body = some (s.toList, [])) ∧
    Function.Injective singleQuoted ∧
    literalsIn (renderSchema dialect models).toList = some (schemaLiterals dialect models) :=
  ⟨exists_scanQuoted_singleQuoted, singleQuoted_injective,
    (spells_renderSchema lowered).literalsIn_eq rfl⟩

end lowered

/-- A table, a column and a default that are full of quotes and backslashes. -/
def quotations : List Table := [⟨"it's", "Quotation",
  [Field.id, (Field.plain "back\\slash'" .text).defaulting (.text "\\'); //")], []⟩]

/-- The schema of the quotations has their literals and that of the module. -/
theorem literals_exact_quotations :
    ∃ models, lowerTables ⟨.drizzle, .postgresql⟩ quotations = .ok models ∧
      singleQuoted "\\'); //" = "'\\\\\\'); //'" ∧
      literalsIn (renderSchema .postgresql models).toList
        = some ["drizzle-orm/pg-core", "it's", "id", "back\\slash'", "\\'); //"] := by
  obtain ⟨models, lowered, literals⟩ :
      ∃ models, lowerTables ⟨.drizzle, .postgresql⟩ quotations = .ok models ∧
        schemaLiterals .postgresql models
          = ["drizzle-orm/pg-core", "it's", "id", "back\\slash'", "\\'); //"] :=
    ⟨_, rfl, by decide⟩
  refine ⟨models, lowered, by decide, ?_⟩
  rw [(literals_exact lowered).2.2, literals]

end Drizzle

end SchemaForge
