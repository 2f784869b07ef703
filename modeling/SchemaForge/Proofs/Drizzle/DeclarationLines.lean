import SchemaForge.Proofs.Drizzle.SchemaLiterals
import SchemaForge.Proofs.Schema.Merging
import SchemaForge.Proofs.Text.Splitting

/-!
# The lines of a declaration

A table is declared on a line that opens the declaration, a line for each column and a line that
closes it (`declarationLines`).  Quoting leaves line breaks as they are, so this is so only as long
as none stands in a text of the table: its name, the name of a field, or a text that is a default.
Every line feed in one of them adds a line and cuts its literal (`lines_of_declaration`).

The literals of a column are its name, its mode, the text of its default and its action, and of
these only name and default come from the table (`columnLiterals_columnOf`).
-/

namespace SchemaForge

open Text

namespace Drizzle

variable {dialect : Dialect} {table t : Table} {f : Field} {c : Column} {d : TableDecl} {b : Char}

/-! ## What a column prints of its field -/

/-- The texts of the literals that a token brings in, in a column of the given name and type. -/
def tokenLiterals (dialect : Dialect) (name : String) (type : FieldType) : Token → List String
  | .base _ => name :: (columnMode? dialect type).toList
  | .default value => (textOf? value).toList
  | .references target => (target.onDelete.map actionName).toList
  | _ => []

theorem flatMap_literals_clause? (token : Token) :
    (clause? c dialect token).toList.flatMap Clause.literals
      = tokenLiterals dialect c.name c.type token := by
  cases token with
  | default value =>
    rw [clause?]
    split_ifs with folded
    · rw [folded.1]
      rfl
    · simp [Clause.literals, tokenLiterals]
  | _ => simp [clause?, Clause.literals, tokenLiterals]

theorem columnLiterals_eq (dialect : Dialect) (c : Column) :
    columnLiterals dialect c = c.tokens.flatMap (tokenLiterals dialect c.name c.type) := by
  rw [columnLiterals, clauses, List.filterMap_eq_flatMap_toList, List.flatMap_assoc]
  exact List.flatMap_congr fun token _ => flatMap_literals_clause? token

/-- The text of the default of a field, if that is a text which the caller may leave out. -/
def defaultText? (dialect : Dialect) (f : Field) : Option String :=
  (defaultTokenOf (f.keyGeneration dialect) f.defaultValue).bind textOf?

/-- The literals of a column are the name of its field and the text of the default, with words for
its type and its foreign key. -/
theorem columnLiterals_columnOf (p : String) :
    columnLiterals dialect (columnOf table f dialect p)
      = f.name :: ((columnMode? dialect f.type).toList ++ (defaultText? dialect f).toList
        ++ (f.foreignKey.bind fun key => key.onDelete.map actionName).toList) := by
  have constraints : (if f.isPrimaryKey then [Token.primaryKey]
      else (if f.required then [.notNull] else []) ++ (if f.unique then [.unique] else [])).flatMap
        (tokenLiterals dialect f.name f.type) = [] := by
    cases f.isPrimaryKey <;> cases f.required <;> cases f.unique <;> rfl
  have length : (lengthTokens f).flatMap (tokenLiterals dialect f.name f.type) = [] := by
    rw [lengthTokens_eq]
    cases (if f.type = .string then f.length else none) <;> rfl
  have default : (((defaultTokenOf (f.keyGeneration dialect) f.defaultValue).map
      Token.default).toList).flatMap (tokenLiterals dialect f.name f.type)
        = (defaultText? dialect f).toList := by
    rw [defaultText?]
    cases defaultTokenOf (f.keyGeneration dialect) f.defaultValue <;> simp [tokenLiterals]
  have reference : ((f.foreignKey.map fun key => Token.references (referenceOf table key)).toList
      ).flatMap (tokenLiterals dialect f.name f.type)
        = (f.foreignKey.bind fun key => key.onDelete.map actionName).toList := by
    cases f.foreignKey <;> simp [tokenLiterals, referenceOf]
  rw [columnLiterals_eq]
  change (tokensOf table f dialect p).flatMap (tokenLiterals dialect f.name f.type) = _
  rw [tokensOf_eq, List.flatMap_cons, List.flatMap_append, List.flatMap_append, List.flatMap_append,
    length, constraints, default, reference]
  simp [tokenLiterals]

/-- A line feed or a carriage return. -/
def IsBreak (b : Char) : Prop := b = '\n' ∨ b = '\r'

/-- The line breaks in what stays on its line come from the texts of its literals. -/
theorem count_eq_of_isBreak (isBreak : IsBreak b) {s : String} {texts : List String}
    (spells : Spells isInline s texts) : s.toList.count b = countIn b texts := by
  rcases isBreak with rfl | rfl
  · exact spells.count_eq rfl (by decide) (by decide)
  · exact spells.count_eq rfl (by decide) (by decide)

/-- The texts of a field that its column prints. -/
def Field.printedTexts (dialect : Dialect) (f : Field) : List String :=
  f.name :: (defaultText? dialect f).toList

/-- No word that a column adds has a line break. -/
theorem countIn_columnLiterals (isBreak : IsBreak b) (p : String) :
    countIn b (columnLiterals dialect (columnOf table f dialect p))
      = countIn b (Field.printedTexts dialect f) := by
  have mode : countIn b (columnMode? dialect f.type).toList = 0 := by
    rcases isBreak with rfl | rfl <;> cases dialect <;> cases f.type <;> rfl
  have action : countIn b
      (f.foreignKey.bind fun key => key.onDelete.map actionName).toList = 0 := by
    rcases f.foreignKey with _ | ⟨_, _, _ | action⟩
    · rfl
    · rfl
    · rcases isBreak with rfl | rfl <;> cases action <;> rfl
  rw [columnLiterals_columnOf, countIn_cons, countIn_append, countIn_append, mode, action,
    Nat.zero_add, Nat.add_zero, Field.printedTexts, countIn_cons]

/-- A line break in the line of a column comes from a text of the field. -/
theorem count_columnLine (isBreak : IsBreak b)
    (lowered : lowerField table f ⟨.drizzle, dialect⟩ = .ok c) :
    (columnLine dialect c).toList.count b = countIn b (Field.printedTexts dialect f) := by
  have spells := spells_columnLine dialect (hasPlainType_of_lowerField lowered)
  obtain ⟨-, p, -, rfl⟩ := lowerField_eq_ok_iff.1 lowered
  rw [← countIn_columnLiterals isBreak p]
  exact count_eq_of_isBreak isBreak spells

/-! ## The declaration -/

/-- The line that opens a declaration. -/
def openingLine (dialect : Dialect) (d : TableDecl) : String :=
  "export const " ++ d.symbol ++ " = " ++ tableFunction dialect ++ "(" ++ singleQuoted d.name
    ++ ", \x7b"

/-- The lines of a declaration: one for each column between two others. -/
def declarationLines (dialect : Dialect) (d : TableDecl) : List String :=
  openingLine dialect d :: (d.columns.map (columnLine dialect) ++ ["\x7d);"])

/-- The declaration of a table with columns is these lines, each with a line feed behind it. -/
theorem renderTable_eq_intercalate (columns : d.columns ≠ []) :
    renderTable dialect d = String.intercalate "\n" (declarationLines dialect d ++ [""]) := by
  have closed : String.intercalate "\n" ["\x7d);", ""] = "\x7d);\n" := by
    rw [String.intercalate_cons_cons, String.intercalate_singleton]
    rfl
  have joined : ∀ start lines : String, start ++ ", \x7b\n" ++ lines ++ "\n\x7d);\n"
      = start ++ ", \x7b" ++ "\n" ++ (lines ++ "\n" ++ "\x7d);\n") := by
    intro start lines
    have opening : ", \x7b\n" = ", \x7b" ++ "\n" := rfl
    have closing : "\n\x7d);\n" = "\n" ++ "\x7d);\n" := rfl
    rw [opening, closing]
    simp only [String.append_assoc]
  rw [declarationLines, List.cons_append, List.append_assoc, List.singleton_append,
    String.intercalate_cons_of_ne_nil (by simp),
    String.intercalate_append_of_ne_nil (mt List.map_eq_nil_iff.1 columns) (List.cons_ne_nil _ _),
    closed]
  unfold renderTable openingLine
  exact joined _ _

/-- The texts of a table that its declaration prints. -/
def Table.printedTexts (dialect : Dialect) (t : Table) : List String :=
  t.name :: t.fields.flatMap (Field.printedTexts dialect)

section Lines

variable (lowered : lowerTable ⟨.drizzle, dialect⟩ t = .ok d)
include lowered

theorem hasPlainType_of_lowerTable (hc : c ∈ d.columns) : HasPlainType c := by
  obtain ⟨f, -, hf⟩ := exists_mem_of_forall₂ (lowerTable_eq_ok_iff.1 lowered).2.flip hc
  exact hasPlainType_of_lowerField hf

/-- What is counted in each column as in its field is counted in all columns as in all fields. -/
theorem countIn_columns (textsOf : Column → List String)
    (each : ∀ f c, lowerField t f ⟨.drizzle, dialect⟩ = .ok c →
      countIn b (textsOf c) = countIn b (Field.printedTexts dialect f)) :
    countIn b (d.columns.flatMap textsOf)
      = countIn b (t.fields.flatMap (Field.printedTexts dialect)) := by
  obtain ⟨-, columns⟩ := lowerTable_eq_ok_iff.1 lowered
  generalize t.fields = fields, d.columns = made at columns
  induction columns with
  | nil => rfl
  | cons h _ ih =>
    rw [List.flatMap_cons, List.flatMap_cons, countIn_append, countIn_append, each _ _ h, ih]

theorem countIn_tableLiterals (isBreak : IsBreak b) :
    countIn b (tableLiterals dialect d) = countIn b (Table.printedTexts dialect t) := by
  have columns := countIn_columns lowered (columnLiterals dialect) (b := b) <| by
    intro f c hc
    obtain ⟨-, p, -, rfl⟩ := lowerField_eq_ok_iff.1 hc
    exact countIn_columnLiterals isBreak p
  obtain ⟨rfl, -⟩ := lowerTable_eq_ok_iff.1 lowered
  rw [tableLiterals, Table.printedTexts, countIn_cons, countIn_cons, columns]
  rfl

/-- The line breaks in the lines of a declaration are those of the texts of its table. -/
theorem countIn_declarationLines (isBreak : IsBreak b) :
    countIn b (declarationLines dialect d) = countIn b (Table.printedTexts dialect t) := by
  have columns := countIn_columns lowered (fun c => [columnLine dialect c]) (b := b) <| by
    intro f c hc
    rw [countIn_cons, count_columnLine isBreak hc, countIn_nil, Nat.add_zero]
  have opening : (openingLine dialect d).toList.count b = d.name.toList.count b := by
    have spells : Spells isInline (openingLine dialect d) [d.name] :=
      ((Spells.code (all_isInline_opening dialect d)).append (.literal d.name)).append_code rfl
    rw [count_eq_of_isBreak isBreak spells, countIn_cons, countIn_nil, Nat.add_zero]
  have closing : "\x7d);".toList.count b = 0 := by rcases isBreak with rfl | rfl <;> rfl
  obtain ⟨rfl, -⟩ := lowerTable_eq_ok_iff.1 lowered
  rw [declarationLines, Table.printedTexts, countIn_cons, countIn_append, countIn_cons, countIn_nil,
    countIn_cons, opening, closing, List.map_eq_flatMap, columns]
  rfl

end Lines

/-! ## One line for each column -/

/-- How the declaration of a table is cut into lines. -/
structure Lines (dialect : Dialect) (t : Table) (d : TableDecl) : Prop where
  /-- Each column is that of its field, and its line is cut at the line feeds of the field. -/
  columns : List.Forall₂ (fun f c => lowerField t f ⟨.drizzle, dialect⟩ = .ok c ∧
    (splitAt '\n' (columnLine dialect c)).length
      = countIn '\n' (Field.printedTexts dialect f) + 1) t.fields d.columns
  /-- A declaration has a line for each field, and two more. -/
  length : (declarationLines dialect d).length = t.fields.length + 2
  /-- Every line feed in a text of the table adds a line, and nothing stands behind the last one. -/
  count : (splitAt '\n' (renderTable dialect d)).length
    = t.fields.length + 2 + countIn '\n' (Table.printedTexts dialect t) + 1
  /-- The lines are the expected ones exactly if no text of the table has a line feed. -/
  lines_iff : splitAt '\n' (renderTable dialect d) = declarationLines dialect d ++ [""] ↔
    ∀ s ∈ Table.printedTexts dialect t, '\n' ∉ s.toList
  /-- A reader finds the literals that the declaration is meant to have. -/
  literals : literalsIn (renderTable dialect d).toList = some (tableLiterals dialect d)
  /-- No literal is written with a line break exactly if no text of the table has one. -/
  unbroken_iff : (∀ s ∈ tableLiterals dialect d, ∀ b, IsBreak b → b ∉ (singleQuoted s).toList) ↔
    ∀ s ∈ Table.printedTexts dialect t, ∀ b, IsBreak b → b ∉ s.toList

theorem notMem_singleQuoted_iff (isBreak : IsBreak b) {s : String} :
    b ∉ (singleQuoted s).toList ↔ b ∉ s.toList := by
  rw [← List.count_eq_zero, count_eq_of_isBreak isBreak (.literal s), countIn_cons, countIn_nil,
    Nat.add_zero, List.count_eq_zero]

/-- An accepted table is declared for every dialect.  Its declaration has a line for each column,
one before and one behind, exactly if no line feed stands in the name of the table or of a field or
in a text that is a default. -/
theorem lines_of_declaration (accepted : t.validate = .ok ()) (dialect : Dialect) :
    ∃ d, lowerTable ⟨.drizzle, dialect⟩ t = .ok d ∧ Lines dialect t d := by
  have wellFormed := Table.validate_eq_ok_iff.1 accepted
  have each : ∀ f ∈ t.fields, ∃ c, lowerField t f ⟨.drizzle, dialect⟩ = .ok c :=
    fun f hf => ⟨_, lowerField_eq_ok_iff.2
      ⟨(wellFormed.lawful f hf).autoIncrement_key, primitive dialect f.type, rfl, rfl⟩⟩
  obtain ⟨made, results⟩ := exists_allOrFirstError each
  obtain ⟨d, lowered⟩ : ∃ d, lowerTable ⟨.drizzle, dialect⟩ t = .ok d :=
    ⟨_, Except.map_eq_ok_iff.2 ⟨made, results, rfl⟩⟩
  obtain ⟨-, columns⟩ := lowerTable_eq_ok_iff.1 lowered
  have same : d.columns.length = t.fields.length := columns.length_eq.symm
  have length : (declarationLines dialect d).length = t.fields.length + 2 := by
    simp [declarationLines, same]
  -- a table has a key, so there is a line between the first and the last
  have nonempty : d.columns ≠ [] := by
    intro none
    have count := wellFormed.one_key
    rw [none, List.length_nil, eq_comm, List.length_eq_zero_iff] at same
    rw [same] at count
    cases count
  have split : splitAt '\n' (renderTable dialect d)
      = (declarationLines dialect d ++ [""]).flatMap (splitAt '\n') := by
    rw [renderTable_eq_intercalate nonempty, splitAt_intercalate (by simp)]
  have breaks : countIn '\n' (declarationLines dialect d ++ [""])
      = countIn '\n' (Table.printedTexts dialect t) := by
    rw [countIn_append, countIn_declarationLines lowered (.inl rfl)]
    rfl
  refine ⟨d, lowered, ?_, length, ?_, ?_, ?_, ?_⟩
  · refine columns.imp fun f c hc => ⟨hc, ?_⟩
    rw [length_splitAt, count_columnLine (.inl rfl) hc]
  · rw [split, length_flatMap_splitAt, breaks, List.length_append, length, List.length_singleton]
    omega
  · rw [split, flatMap_splitAt_eq_iff, breaks, countIn_eq_zero_iff]
  · have spells := spells_renderTable dialect fun c hc => hasPlainType_of_lowerTable lowered hc
    exact spells.literalsIn_eq rfl
  · have unbroken : ∀ texts : List String, (∀ s ∈ texts, ∀ b, IsBreak b → b ∉ s.toList) ↔
        countIn '\n' texts = 0 ∧ countIn '\r' texts = 0 := by
      intro texts
      simp only [countIn_eq_zero_iff, IsBreak, forall_eq_or_imp, forall_eq, forall_and]
    rw [unbroken, ← countIn_tableLiterals lowered (.inl rfl),
      ← countIn_tableLiterals lowered (.inr rfl), ← unbroken]
    exact forall₂_congr fun s _ => forall₂_congr fun b isBreak => notMem_singleQuoted_iff isBreak

/-- The built-in tags, whose texts have no line break. -/
theorem lines_of_declaration_tags :
    ∃ d, lowerTable ⟨.drizzle, .sqlite⟩ Builtin.tags = .ok d ∧ Lines .sqlite Builtin.tags d ∧
      splitAt '\n' (renderTable .sqlite d) = declarationLines .sqlite d ++ [""] := by
  obtain ⟨d, lowered, lines⟩ := lines_of_declaration (t := Builtin.tags) rfl .sqlite
  exact ⟨d, lowered, lines, lines.lines_iff.2 (by decide)⟩

/-- Notes whose body has two lines if it is left out. -/
def twoLines : Table := ⟨"notes", "Note",
  [Field.id, (Field.plain "body" .text).defaulting (.text "line one\nline two")], []⟩

/-- The default stands in the declaration on two lines, in one literal. -/
theorem notes_on_more_lines :
    twoLines.validate = .ok () ∧ ∃ d, lowerTable ⟨.drizzle, .postgresql⟩ twoLines = .ok d ∧
      splitAt '\n' (renderTable .postgresql d)
        = ["export const notes = pgTable('notes', \x7b",
          "  id: uuid('id').primaryKey().defaultRandom(),",
          "  body: text('body').default('line one",
          "line two'),",
          "\x7d);", ""] ∧
      literalsIn (renderTable .postgresql d).toList
        = some ["notes", "id", "body", "line one\nline two"] ∧
      '\n' ∈ (singleQuoted "line one\nline two").toList := by
  obtain ⟨d, lowered, lines, literals⟩ :
      ∃ d, lowerTable ⟨.drizzle, .postgresql⟩ twoLines = .ok d ∧
        splitAt '\n' (renderTable .postgresql d)
          = ["export const notes = pgTable('notes', \x7b",
            "  id: uuid('id').primaryKey().defaultRandom(),",
            "  body: text('body').default('line one",
            "line two'),",
            "\x7d);", ""] ∧
        tableLiterals .postgresql d = ["notes", "id", "body", "line one\nline two"] :=
    ⟨_, rfl, by decide +kernel, by decide⟩
  have spells := spells_renderTable .postgresql fun c hc => hasPlainType_of_lowerTable lowered hc
  exact ⟨rfl, d, lowered, lines, by rw [spells.literalsIn_eq rfl, literals], by decide⟩

end Drizzle

end SchemaForge
