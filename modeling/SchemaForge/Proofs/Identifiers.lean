import SchemaForge.Proofs.Drizzle.ManyEntries
import SchemaForge.Proofs.Prisma.RelationPairs
import SchemaForge.Proofs.Prisma.StorageNames
import SchemaForge.Proofs.References
import SchemaForge.Proofs.Text.Identifiers
import SchemaForge.Proofs.Text.PlainWords
import SchemaForge.Proofs.TopLevel

/-!
# Names without quotes

A name that a file prints without quotes has to be an identifier.  `Target.printedNames` lists those
of the file in which tables are declared, each with its place: constants and properties, models and
their members, interfaces.

Names come to these places through camel case or, in the interfaces for Kysely, as they are stored,
and nothing checks what comes out.  It is an identifier as far as the names of the tables are fit,
which each backend has its own conditions for (`Target.NamesFit`):

* camel case asks for a letter before the digits (`Text.Alphabet.CamelFits`);
* the relation beside a key asks that something is left of its stem
  (`Prisma.isIdentifier_forwardName_iff`), and numbers that make relations differ ask nothing;
* Kysely asks that names of tables and fields are identifiers themselves.

`names_are_identifiers` says so for whatever is generated, for every alphabet.  Tables with plain
names are fit for every backend, whatever they are generated with (`Target.namesFit_of_plain`), and
the built-in tables have such names (`isIdentifier_of_builtin`).  The catalog of `second_factors`
has a name that fits nowhere.
-/

namespace SchemaForge

open Text

/-! ## Places -/

/-- Where a name is printed without quotes. -/
inductive Place
  | constant
  | property
  | optionalProperty
  | model
  | member
  | interface
  deriving DecidableEq, Repr

/-- A name at its place, as the file has it. -/
def Place.written : Place → String → String
  | .constant, name => "export const " ++ name ++ " = "
  | .property, name => "  " ++ name ++ ": "
  | .optionalProperty, name => "  " ++ name ++ "?: "
  | .model, name => "model " ++ name ++ " \x7b"
  | .member, name => "  " ++ name ++ " "
  | .interface, name => "export interface " ++ name ++ " \x7b"

/-- A name that is printed without quotes. -/
structure PrintedName where
  place : Place
  name : String
  deriving DecidableEq, Repr

/-- How it is printed. -/
def PrintedName.text (p : PrintedName) : String := p.place.written p.name

variable {a : Alphabet} {models : List TableDecl} {tables : List Table} {dialect : Dialect}
  {p : PrintedName}

/-! ## Drizzle -/

namespace Drizzle

/-- The names of a schema: tables with their columns, then blocks with their entries. -/
def printedNames (models : List TableDecl) : List PrintedName :=
  (models.flatMap fun t =>
      ⟨.constant, t.symbol⟩ :: t.columns.map fun c => ⟨.property, c.propertyName⟩)
    ++ (withBlock models).flatMap fun t =>
      ⟨.constant, blockSymbol t⟩ :: (entries models t).map fun e => ⟨.property, e.property⟩

/-- The names of tables, columns and associations with an entry are fit for camel case. -/
structure NamesFit (a : Alphabet) (models : List TableDecl) : Prop where
  tables : ∀ t ∈ models, a.CamelFits t.name t.symbol
  columns : ∀ t ∈ models, ∀ c ∈ t.columns, a.CamelFits c.name c.propertyName
  associations : ∀ t ∈ models, ∀ r, (∃ e, EntryOf models t r e) →
    a.CamelFits r.fieldName (lowerCamel r.fieldName)

theorem property_of_entryOf {t : TableDecl} {r : Relation} {e : Entry}
    (h : EntryOf models t r e) : e.property = lowerCamel r.fieldName := by
  obtain ⟨_, _, -, bound⟩ := h
  cases bound?_eq_some_iff.1 bound <;> rfl

theorem mem_withBlock_iff {t : TableDecl} :
    t ∈ withBlock models ↔ t ∈ models ∧ ∃ e, e ∈ entries models t := by
  rw [withBlock, List.mem_filter, Bool.not_eq_true', List.isEmpty_eq_false_iff]
  exact and_congr_right fun _ =>
    ⟨List.exists_mem_of_ne_nil _, fun some => List.ne_nil_of_mem some.choose_spec⟩

/-- All names that Drizzle prints are identifiers exactly if the names they are made from fit. -/
theorem forall_isIdentifier_iff :
    (∀ p ∈ printedNames models, a.IsIdentifier p.name) ↔ NamesFit a models := by
  simp only [printedNames, List.forall_mem_append, List.forall_mem_flatMap, List.forall_mem_cons,
    List.forall_mem_map]
  constructor
  · rintro ⟨declared, associated⟩
    refine ⟨?_, ?_, ?_⟩
    · intro t ht
      exact (Alphabet.isIdentifier_lowerCamel_iff _).1 (declared t ht).1
    · intro t ht c hc
      exact (Alphabet.isIdentifier_lowerCamel_iff _).1 ((declared t ht).2 c hc)
    · rintro t ht r ⟨e, entry⟩
      have he := mem_entries_iff_entryOf.2 ⟨r, entry⟩
      have identifier := (associated t (mem_withBlock_iff.2 ⟨ht, e, he⟩)).2 e he
      rw [property_of_entryOf entry] at identifier
      exact (Alphabet.isIdentifier_lowerCamel_iff _).1 identifier
  · intro fit
    have symbols : ∀ t ∈ models, a.IsIdentifier t.symbol :=
      fun t ht => (Alphabet.isIdentifier_lowerCamel_iff _).2 (fit.tables t ht)
    refine ⟨fun t ht => ⟨symbols t ht, ?_⟩, fun t ht => ⟨?_, ?_⟩⟩
    · intro c hc
      exact (Alphabet.isIdentifier_lowerCamel_iff _).2 (fit.columns t ht c hc)
    · exact (symbols t (mem_withBlock_iff.1 ht).1).append
        (Alphabet.all_continues_of_isAlphanum (s := "Relations") rfl)
    · intro e he
      obtain ⟨r, entry⟩ := mem_entries_iff_entryOf.1 he
      rw [property_of_entryOf entry]
      exact (Alphabet.isIdentifier_lowerCamel_iff _).2
        (fit.associations t (mem_withBlock_iff.1 ht).1 r ⟨e, entry⟩)

/-- Each stands in the schema at its place. -/
theorem containsText_text (hp : p ∈ printedNames models) :
    containsText (renderSchema dialect models) p.text = true := by
  rw [printedNames, List.mem_append, List.mem_flatMap, List.mem_flatMap] at hp
  rcases hp with ⟨t, ht, hp⟩ | ⟨t, ht, hp⟩
  · refine containsText_renderSchema_of_mem (List.mem_append_left _ (List.mem_map_of_mem ht)) ?_
    rcases List.mem_cons.1 hp with rfl | hp
    · have opens : Opens ("export const " ++ t.symbol ++ " = ") (renderTable dialect t) :=
        (opens_append _ (tableFunction dialect)).append _ |>.append _ |>.append _ |>.append _
          |>.append _
      exact containsText_iff.2 opens.isInfix
    · obtain ⟨c, hc, rfl⟩ := List.mem_map.1 hp
      refine containsText_renderTable hc ?_
      exact containsText_append_left (containsText_append_left (containsText_refl _))
  · obtain ⟨ht, e, he⟩ := mem_withBlock_iff.1 ht
    have block : renderBlock t (entries models t) ∈ blocks models :=
      mem_blocks_iff.2 ⟨t, ht, List.ne_nil_of_mem he, rfl⟩
    refine containsText_renderSchema_of_mem (List.mem_append_right _ block) ?_
    rcases List.mem_cons.1 hp with rfl | hp
    · have bound : Opens " = " " = relations(" := opens_append " = " "relations("
      have opens : Opens ("export const " ++ blockSymbol t ++ " = ")
          (renderBlock t (entries models t)) :=
        bound.after _ |>.append _ |>.append _ |>.append _ |>.append _ |>.append _ |>.append _
      exact containsText_iff.2 opens.isInfix
    · obtain ⟨e, he, rfl⟩ := List.mem_map.1 hp
      refine containsText_renderBlock he ?_
      exact containsText_append_left (containsText_append_left (containsText_refl _))

end Drizzle

/-! ## Prisma -/

namespace Prisma

/-- The names of a schema: models, each with its members. -/
def printedNames (dialect : Dialect) (models : List TableDecl) : List PrintedName :=
  models.flatMap fun t =>
    ⟨.model, t.typeName⟩ :: (members models dialect t).map fun m => ⟨.member, m.name⟩

/-- The name of a key column has no stem, or one that does not vanish in camel case. -/
def KeyFits (column : String) : Prop :=
  ∀ stem, column = stem ++ "_id" → stem ≠ "" → lowerCamel stem ≠ ""

/-- The names of rows and columns are fit for camel case, and relations have names to start with. -/
structure NamesFit (a : Alphabet) (models : List TableDecl) : Prop where
  rows : ∀ t ∈ models, a.CamelFits t.source.displayName t.typeName
  columns : ∀ t ∈ models, ∀ c ∈ t.columns, a.CamelFits c.name c.propertyName
  keys : ∀ t ∈ models, ∀ c ∈ t.columns, c.reference?.isSome = true → KeyFits c.name
  backs : ∀ t ∈ models, ∀ e ∈ edgesTo (allEdges models) t,
    a.IsIdentifier (backName t (allEdges models) e)

/-! ### Relations beside columns -/

theorem forwardName_stem {stem : String} (some : stem ≠ "") :
    Edge.forwardName (stem ++ "_id") = lowerCamel stem := by
  rw [Edge.forwardName, dropEnding?_eq_some_iff.2 rfl]
  exact if_neg (by simpa using some)

theorem forwardName_of_stemless {column : String}
    (none : ∀ stem, column = stem ++ "_id" → stem = "") :
    Edge.forwardName column = lowerCamel column ++ "Rel" := by
  rw [Edge.forwardName]
  split
  · rename_i stem ending
    exact if_pos (by simp [none stem (dropEnding?_eq_some_iff.1 ending)])
  · rfl

/-- Beside a column that is an identifier the relation is one as well, unless nothing is left of the
stem. -/
theorem isIdentifier_forwardName_iff {column : String}
    (identifier : a.IsIdentifier (lowerCamel column)) :
    a.IsIdentifier (Edge.forwardName column) ↔ KeyFits column := by
  by_cases stemmed : ∃ stem, column = stem ++ "_id" ∧ stem ≠ ""
  · obtain ⟨stem, rfl, some⟩ := stemmed
    rw [forwardName_stem some]
    constructor
    · intro forward stem' same _ vanishes
      have ending := dropEnding?_eq_some_iff.2 same
      rw [dropEnding?_eq_some_iff.2 rfl] at ending
      obtain rfl := Option.some.inj ending
      rw [vanishes] at forward
      exact Alphabet.not_isIdentifier_empty forward
    · intro fits
      have left := fits stem rfl some
      have hwords : words stem ≠ [] := by
        intro nothing
        rw [lowerCamel, nothing] at left
        exact left rfl
      have column : lowerCamel (stem ++ "_id") = lowerCamel stem ++ "Id" :=
        lowerCamel_append_underscore hwords "id"
      rw [column, Alphabet.isIdentifier_append_iff (Alphabet.all_continues_of_isAlphanum rfl)]
        at identifier
      exact identifier.resolve_right fun h => left h.1
  · have stemless : ∀ stem, column = stem ++ "_id" → stem = "" := by
      intro stem same
      by_contra some
      exact stemmed ⟨stem, same, some⟩
    rw [forwardName_of_stemless stemless]
    constructor
    · exact fun _ stem same some => absurd (stemless stem same) some
    · exact fun _ => identifier.append (Alphabet.all_continues_of_isAlphanum rfl)

/-! ### Members -/

theorem forall_mem_forwardBases_iff {columns : List Column} {P : String → Prop} :
    (∀ n ∈ forwardBases columns, P n) ↔
      ∀ c ∈ columns, c.reference?.isSome = true → P (Edge.forwardName c.name) := by
  induction columns with
  | nil => simp [forwardBases]
  | cons c rest ih =>
    rw [List.forall_mem_cons, ← ih]
    cases h : c.reference? with
    | none => simp [forwardBases_cons_none h]
    | some r => rw [forwardBases_cons_some h, List.forall_mem_cons]; simp

/-- The names of members are those of columns, and those with which relations start. -/
theorem forall_isIdentifier_members_iff {t : TableDecl} :
    (∀ m ∈ members models dialect t, a.IsIdentifier m.name) ↔
      (∀ c ∈ t.columns, a.IsIdentifier c.propertyName) ∧
      (∀ c ∈ t.columns, c.reference?.isSome = true → a.IsIdentifier (Edge.forwardName c.name)) ∧
      ∀ e ∈ edgesTo (allEdges models) t, a.IsIdentifier (backName t (allEdges models) e) := by
  have parts : (∀ m ∈ members models dialect t, a.IsIdentifier m.name) ↔
      (∀ n ∈ ((members models dialect t).filter (!·.isRelation)).map (·.name), a.IsIdentifier n) ∧
      ∀ n ∈ ((members models dialect t).filter (·.isRelation)).map (·.name), a.IsIdentifier n := by
    simp only [List.forall_mem_map, List.mem_filter]
    constructor
    · exact fun all => ⟨fun m hm => all m hm.1, fun m hm => all m hm.1⟩
    · rintro ⟨scalars, relations⟩ m hm
      cases kind : m.isRelation with
      | false => exact scalars m ⟨hm, by rw [kind]; rfl⟩
      | true => exact relations m ⟨hm, kind⟩
  rw [parts, map_name_scalars, map_name_relations, Alphabet.forall_isIdentifier_freeNames_iff,
    List.forall_mem_append, List.forall_mem_map, List.forall_mem_map, forall_mem_forwardBases_iff]

/-- All names that Prisma prints are identifiers exactly if the names they are made from fit. -/
theorem forall_isIdentifier_iff :
    (∀ p ∈ printedNames dialect models, a.IsIdentifier p.name) ↔ NamesFit a models := by
  simp only [printedNames, List.forall_mem_flatMap, List.forall_mem_cons, List.forall_mem_map,
    forall_isIdentifier_members_iff]
  constructor
  · intro all
    refine ⟨?_, ?_, ?_, ?_⟩
    · exact fun t ht => (Alphabet.isIdentifier_upperCamel_iff _).1 (all t ht).1
    · exact fun t ht c hc => (Alphabet.isIdentifier_lowerCamel_iff _).1 ((all t ht).2.1 c hc)
    · intro t ht c hc key
      obtain ⟨-, columns, keys, -⟩ := all t ht
      exact (isIdentifier_forwardName_iff (columns c hc)).1 (keys c hc key)
    · exact fun t ht => (all t ht).2.2.2
  · intro fit t ht
    have columns : ∀ c ∈ t.columns, a.IsIdentifier c.propertyName :=
      fun c hc => (Alphabet.isIdentifier_lowerCamel_iff _).2 (fit.columns t ht c hc)
    refine ⟨(Alphabet.isIdentifier_upperCamel_iff _).2 (fit.rows t ht), columns, ?_, fit.backs t ht⟩
    exact fun c hc key => (isIdentifier_forwardName_iff (columns c hc)).2 (fit.keys t ht c hc key)

/-! ### Their lines -/

/-- Something can be seen behind the name of each member: its type, the attribute of a relation
beside a key, or the mark of a relation back. -/
theorem exists_visible_behindName (lowered : lowerTables ⟨.prisma, dialect⟩ tables = .ok models)
    {t : TableDecl} (ht : t ∈ models) {m : Member} (hm : m ∈ members models dialect t) :
    ∃ ch ∈ (behindName m).toList, isBlank ch = false := by
  cases kind : m.isRelation with
  | false =>
    have scalar : m ∈ (members models dialect t).filter (!·.isRelation) :=
      List.mem_filter.2 ⟨hm, by rw [kind]; rfl⟩
    rw [filter_scalars_members, List.mem_map] at scalar
    obtain ⟨c, hc, rfl⟩ := scalar
    obtain ⟨f, -, p, hp, rfl⟩ := exists_columnOf lowered ht hc
    obtain ⟨ch, hch, seen⟩ := exists_visible_of_primitive? hp
    refine ⟨ch, ?_, seen⟩
    rw [behindName, Member.typeText, String.append_assoc, String.toList_append]
    refine List.mem_append_left _ ?_
    rw [scalarMember, primitive_columnOf]
    exact hch
  | true =>
    obtain ⟨name, written⟩ := exists_written hm
    cases role : m.role with
    | scalar c =>
      rw [Member.isRelation, role] at kind
      cases kind
    | forward e =>
      rw [role, Role.written] at written
      obtain ⟨arguments, relation⟩ : ∃ arguments,
          String.intercalate " " (m.attributes.map Attribute.render)
            = "@relation(" ++ arguments ++ ")" := by
        rw [written]
        exact ⟨_, String.intercalate_singleton⟩
      exact ⟨'@', by simp [behindName, relation], by decide⟩
    | back e =>
      rw [role, Role.written] at written
      have mark : m.multiplicity = .optional ∨ m.multiplicity = .list := by
        rw [written, backMember]
        exact ite_eq_or_eq _ _ _
      rcases mark with mark | mark
      · exact ⟨'?', by simp [behindName, Member.typeText, mark, Multiplicity.mark], by decide⟩
      · exact ⟨'[', by simp [behindName, Member.typeText, mark, Multiplicity.mark], by decide⟩

/-- Each stands in the schema at its place. -/
theorem containsText_text (lowered : lowerTables ⟨.prisma, dialect⟩ tables = .ok models)
    (hp : p ∈ printedNames dialect models) :
    containsText (renderSchema dialect models) p.text = true := by
  obtain ⟨t, ht, hp⟩ := List.mem_flatMap.1 hp
  refine containsText_renderSchema_of_mem ht ?_
  rcases List.mem_cons.1 hp with rfl | hp
  · have brace : Text.Opens " \x7b" " \x7b\n" := Text.opens_append " \x7b" "\n"
    have opens : Text.Opens ("model " ++ t.typeName ++ " \x7b")
        (renderModel t (members models dialect t)) :=
      brace.after _ |>.append _ |>.append _ |>.append _ |>.append _
    exact containsText_iff.2 opens.isInfix
  · obtain ⟨m, hm, rfl⟩ := List.mem_map.1 hp
    refine containsText_renderModel hm fun n k => ?_
    obtain ⟨rest, line⟩ :=
      exists_memberLine_eq_name_append m (exists_visible_behindName lowered ht hm) n k
    rw [line]
    exact containsText_append_left (containsText_refl _)

end Prisma

/-! ## Kysely -/

namespace Kysely

/-- The name of a property. -/
def Property.printedName (property : Property) : PrintedName :=
  ⟨if property.isOptional then .optionalProperty else .property, property.name⟩

/-- The names of an interface. -/
def Interface.printedNames (i : Interface) : List PrintedName :=
  ⟨.interface, i.name⟩ :: i.properties.map Property.printedName

/-- All interfaces of a schema. -/
def interfaces (models : List TableDecl) : List Interface :=
  models.flatMap tableInterfaces ++ [databaseInterface models]

/-- The names of its file: interfaces, each with its properties. -/
def printedNames (models : List TableDecl) : List PrintedName :=
  (interfaces models).flatMap Interface.printedNames

/-- The names of rows are fit for camel case, those of tables and columns are identifiers. -/
structure NamesFit (a : Alphabet) (models : List TableDecl) : Prop where
  rows : ∀ t ∈ models, a.CamelFits t.source.displayName t.typeName
  tables : ∀ t ∈ models, a.IsIdentifier t.name
  columns : ∀ t ∈ models, ∀ c ∈ t.columns, a.IsIdentifier c.name

theorem forall_isIdentifier_printedNames_iff {i : Interface} :
    (∀ p ∈ i.printedNames, a.IsIdentifier p.name) ↔
      a.IsIdentifier i.name ∧ ∀ property ∈ i.properties, a.IsIdentifier property.name := by
  rw [Interface.printedNames, List.forall_mem_cons, List.forall_mem_map]
  rfl

/-- The interfaces of rows have columns of the table only. -/
theorem column_mem_of_mem_projections {columns : List Column} {c : Projected}
    (hc : c ∈ recordProjection columns ∨ c ∈ insertProjection columns ∨
      c ∈ updateProjection columns) : c.column ∈ columns := by
  rcases hc with hc | hc | hc
  · obtain ⟨d, hd, rfl⟩ := List.mem_map.1 hc
    exact hd
  · obtain ⟨d, hd, rfl⟩ := List.mem_map.1 hc
    exact List.mem_of_mem_filter hd
  · obtain ⟨d, hd, rfl⟩ := List.mem_map.1 hc
    exact hd

/-- The four interfaces of a table ask for no more than that of the rows that are read. -/
theorem forall_isIdentifier_tableInterfaces_iff {t : TableDecl} :
    (∀ i ∈ tableInterfaces t, ∀ p ∈ i.printedNames, a.IsIdentifier p.name) ↔
      a.IsIdentifier t.typeName ∧ ∀ c ∈ t.columns, a.IsIdentifier c.name := by
  simp only [tableInterfaces, List.forall_mem_cons, forall_isIdentifier_printedNames_iff,
    tableInterface, recordInterface, insertInterface, updateInterface, List.forall_mem_map,
    tableInterfaceName]
  constructor
  · rintro ⟨⟨-, columns⟩, ⟨row, -⟩, -⟩
    exact ⟨row, columns⟩
  · rintro ⟨row, columns⟩
    have behind (word : String) (plain : word.toList.all Char.isAlphanum = true) :
        a.IsIdentifier (t.typeName ++ word) :=
      row.append (Alphabet.all_continues_of_isAlphanum plain)
    have new : a.IsIdentifier "New" := .of_ascii (by decide)
    have rowColumns (c : Projected) (hc : c ∈ recordProjection t.columns ∨
        c ∈ insertProjection t.columns ∨ c ∈ updateProjection t.columns) :
        a.IsIdentifier (rowProperty c).name :=
      columns c.column (column_mem_of_mem_projections hc)
    refine ⟨⟨behind "Table" rfl, columns⟩, ⟨row, ?_⟩, ⟨new.append row.all, ?_⟩,
      ⟨behind "Update" rfl, ?_⟩, by simp⟩
    · exact fun c hc => rowColumns c (.inl hc)
    · exact fun c hc => rowColumns c (.inr (.inl hc))
    · exact fun c hc => rowColumns c (.inr (.inr hc))

/-- All names that Kysely prints are identifiers exactly if the names they are made from fit. -/
theorem forall_isIdentifier_iff :
    (∀ p ∈ printedNames models, a.IsIdentifier p.name) ↔ NamesFit a models := by
  have database : a.IsIdentifier "Database" := .of_ascii (by decide)
  simp only [printedNames, interfaces, List.forall_mem_flatMap, List.forall_mem_append,
    List.forall_mem_singleton, forall_isIdentifier_tableInterfaces_iff]
  rw [forall_isIdentifier_printedNames_iff, databaseInterface, List.forall_mem_map]
  constructor
  · rintro ⟨all, -, tables⟩
    exact ⟨fun t ht => (Alphabet.isIdentifier_upperCamel_iff _).1 (all t ht).1, tables,
      fun t ht => (all t ht).2⟩
  · intro fit
    exact ⟨fun t ht => ⟨(Alphabet.isIdentifier_upperCamel_iff _).2 (fit.rows t ht),
      fit.columns t ht⟩, database, fit.tables⟩

/-- The line of a property starts with its name at its place. -/
theorem containsText_line (property : Property) :
    containsText property.line property.printedName.text = true := by
  cases property with
  | mk name isOptional type =>
    cases isOptional with
    | false =>
      have line : Property.line ⟨name, false, type⟩
          = "  " ++ name ++ "" ++ ": " ++ type.render ++ ";\n" := rfl
      rw [line, String.append_empty]
      exact containsText_append_left (containsText_append_left (containsText_refl _))
    | true =>
      have line : Property.line ⟨name, true, type⟩
          = "  " ++ name ++ "?" ++ ": " ++ type.render ++ ";\n" := rfl
      have mark : "  " ++ name ++ "?" ++ ": " = "  " ++ name ++ "?: " := by
        rw [String.append_assoc]
        rfl
      rw [line, mark]
      exact containsText_append_left (containsText_append_left (containsText_refl _))

theorem containsText_render {i : Interface} (hp : p ∈ i.printedNames) :
    containsText i.render p.text = true := by
  rw [Interface.render]
  rcases List.mem_cons.1 hp with rfl | hp
  · have opens (rest : String) :
        Text.Opens ("export interface " ++ i.name ++ " \x7b")
          ("export interface " ++ i.name ++ (" \x7b" ++ rest)) :=
      (Text.opens_append " \x7b" rest).after _
    split_ifs
    · exact containsText_iff.2 (opens "\x7d\n").isInfix
    · exact containsText_append_left (containsText_append_left
        (containsText_iff.2 (opens "\n").isInfix))
  · obtain ⟨property, hproperty, rfl⟩ := List.mem_map.1 hp
    rw [if_neg (by simpa using List.ne_nil_of_mem hproperty)]
    exact containsText_append_left (containsText_append_right
      (containsText_trans (containsText_line property)
        (containsText_join (List.mem_map_of_mem hproperty))))

/-- Each stands in the file at its place. -/
theorem containsText_text (hp : p ∈ printedNames models) :
    containsText (renderTypes models) p.text = true := by
  obtain ⟨i, hi, hp⟩ := List.mem_flatMap.1 hp
  have part : i.render ∈ typesParts models := by
    have rendered := List.mem_map_of_mem (f := Interface.render) hi
    rw [interfaces, List.map_append, List.map_singleton] at rendered
    rw [typesParts, List.append_assoc]
    exact List.mem_append_right _ rendered
  exact containsText_append_right (containsText_trans
    (containsText_append_right (containsText_render hp))
    (containsText_join (List.mem_map_of_mem part)))

end Kysely

/-! ## What is generated -/

namespace Target

/-- The names printed without quotes in the file in which tables are declared. -/
def printedNames (target : Target) (models : List TableDecl) : List PrintedName :=
  match target.backend with
  | .drizzle => Drizzle.printedNames models
  | .prisma => Prisma.printedNames target.dialect models
  | .kysely => Kysely.printedNames models

/-- The names of tables are fit for the places where the backend prints them. -/
def NamesFit (target : Target) (a : Alphabet) (models : List TableDecl) : Prop :=
  match target.backend with
  | .drizzle => Drizzle.NamesFit a models
  | .prisma => Prisma.NamesFit a models
  | .kysely => Kysely.NamesFit a models

end Target

/-- The names of a file in which tables are declared, which is the first one. -/
structure UnquotedNames (target : Target) (models : List TableDecl) : Prop where
  /-- The file has them at their places. -/
  text : ∀ p ∈ target.printedNames models, ∃ file ∈ (target.artifacts models).head?,
    containsText file.content p.text = true
  /-- In every alphabet they are identifiers if the names of the tables are fit, and only then. -/
  identifiers_iff : ∀ a : Alphabet,
    (∀ p ∈ target.printedNames models, a.IsIdentifier p.name) ↔ target.NamesFit a models

theorem UnquotedNames.of_lowers {catalog : Catalog} {request : Request}
    (lowers : Lowers catalog request models) : UnquotedNames request.target models := by
  obtain ⟨-, -, -, lowered⟩ := lowers
  obtain ⟨⟨backend, dialect⟩, selection, customTables⟩ := request
  cases backend with
  | drizzle =>
    exact ⟨fun p hp => ⟨_, rfl, Drizzle.containsText_text hp⟩,
      fun _ => Drizzle.forall_isIdentifier_iff⟩
  | prisma =>
    exact ⟨fun p hp => ⟨_, rfl, Prisma.containsText_text lowered hp⟩,
      fun _ => Prisma.forall_isIdentifier_iff⟩
  | kysely =>
    exact ⟨fun p hp => ⟨_, rfl, Kysely.containsText_text hp⟩,
      fun _ => Kysely.forall_isIdentifier_iff⟩

/-! ### Tables whose names are always fit -/

/-- The names of a table and what is made of them are identifiers with letters of ASCII alone. -/
structure Table.PlainlyNamed (t : Table) : Prop where
  name : Alphabet.ascii.IsIdentifier t.name
  symbol : Alphabet.ascii.IsIdentifier (symbolOf t.name)
  row : Alphabet.ascii.IsIdentifier (typeNameOf t.displayName)
  single : Alphabet.ascii.IsIdentifier (lowerCamel (typeNameOf t.displayName))
  fields : ∀ f ∈ t.fields, Alphabet.ascii.IsIdentifier f.name ∧
    Alphabet.ascii.IsIdentifier (lowerCamel f.name) ∧
    Alphabet.ascii.IsIdentifier (Prisma.Edge.forwardName f.name) ∧
    Alphabet.ascii.IsIdentifier (upperCamel (Prisma.Edge.forwardName f.name))
  associations : ∀ r ∈ t.relations, Alphabet.ascii.IsIdentifier (lowerCamel r.fieldName)

section Plain

variable {target : Target} (plain : ∀ t ∈ models, t.source.PlainlyNamed)
include plain

/-- Relations back start with identifiers, whatever the other tables are. -/
theorem Prisma.isIdentifier_backName_of_plain {t : TableDecl} (ht : t ∈ models) {e : Prisma.Edge}
    (source : e.source ∈ models)
    (column : ∃ f ∈ e.source.source.fields, f.name = e.column.name) (edges : List Prisma.Edge) :
    a.IsIdentifier (Prisma.backName t edges e) := by
  obtain ⟨f, hf, named⟩ := column
  have several : a.IsIdentifier
      (e.source.symbol ++ "By" ++ upperCamel (Prisma.Edge.forwardName e.column.name)) := by
    obtain ⟨-, -, -, key⟩ := (plain _ source).fields f hf
    rw [named] at key
    exact ((plain _ source).symbol.of_ascii.append
      (Alphabet.all_continues_of_isAlphanum rfl)).append key.of_ascii.all
  have plural (n : Nat) : a.IsIdentifier (Prisma.backName.plural e n) := by
    rw [Prisma.backName.plural]
    split_ifs
    · exact several
    · exact (plain _ source).symbol.of_ascii
  rw [Prisma.backName]
  split_ifs
  · exact (plain _ source).single.of_ascii
  · split
    · rename_i name declared
      obtain ⟨r, found, rfl⟩ := Option.map_eq_some_iff.1 declared
      exact ((plain t ht).associations r (List.mem_of_find?_eq_some found)).of_ascii
    · exact plural _
  · split <;> exact plural _

/-- Plain names fit every backend and every alphabet. -/
theorem Target.namesFit_of_plain (lowered : lowerTables target tables = .ok models)
    (a : Alphabet) : target.NamesFit a models := by
  have columns : ∀ t ∈ models, ∀ c ∈ t.columns, ∃ f ∈ t.source.fields, f.name = c.name := by
    intro t ht c hc
    have name : c.name ∈ t.columns.map (·.name) := List.mem_map_of_mem hc
    rw [map_name_columns lowered ht] at name
    exact List.mem_map.1 name
  have camel : ∀ t ∈ models, ∀ c ∈ t.columns, a.IsIdentifier (lowerCamel c.name) := by
    intro t ht c hc
    obtain ⟨f, hf, named⟩ := columns t ht c hc
    rw [← named]
    exact ((plain t ht).fields f hf).2.1.of_ascii
  have rows : ∀ t ∈ models, a.CamelFits t.source.displayName t.typeName :=
    fun t ht => (Alphabet.isIdentifier_upperCamel_iff _).1 (plain t ht).row.of_ascii
  have camelFits : ∀ t ∈ models, ∀ c ∈ t.columns, a.CamelFits c.name c.propertyName :=
    fun t ht c hc => (Alphabet.isIdentifier_lowerCamel_iff _).1 (camel t ht c hc)
  obtain ⟨backend, dialect⟩ := target
  cases backend with
  | drizzle =>
    refine ⟨fun t ht => ?_, camelFits, ?_⟩
    · exact (Alphabet.isIdentifier_lowerCamel_iff _).1 (plain t ht).symbol.of_ascii
    · rintro t ht r ⟨e, earlier, later, split, -⟩
      exact (Alphabet.isIdentifier_lowerCamel_iff _).1
        ((plain t ht).associations r (by simp [split])).of_ascii
  | prisma =>
    refine ⟨rows, camelFits, ?_, ?_⟩
    · intro t ht c hc key
      obtain ⟨f, hf, named⟩ := columns t ht c hc
      have forward := ((plain t ht).fields f hf).2.2.1
      rw [named] at forward
      exact (Prisma.isIdentifier_forwardName_iff (camel t ht c hc)).1 forward.of_ascii
    · intro t ht e he
      obtain ⟨source, column, -⟩ := Prisma.mem_allEdges_iff.1 (List.mem_of_mem_filter he)
      exact Prisma.isIdentifier_backName_of_plain plain ht source (columns _ source _ column) _
  | kysely =>
    refine ⟨rows, fun t ht => (plain t ht).name.of_ascii, ?_⟩
    intro t ht c hc
    obtain ⟨f, hf, named⟩ := columns t ht c hc
    rw [← named]
    exact ((plain t ht).fields f hf).1.of_ascii

end Plain

/-- The names of the built-in tables are plain. -/
theorem plainlyNamed_builtin : ∀ t ∈ Builtin.tables, t.PlainlyNamed := by
  have names : ∀ t ∈ Builtin.tables, Alphabet.ascii.IsIdentifier t.name ∧
      Alphabet.ascii.IsIdentifier (symbolOf t.name) ∧
      Alphabet.ascii.IsIdentifier (typeNameOf t.displayName) ∧
      Alphabet.ascii.IsIdentifier (lowerCamel (typeNameOf t.displayName)) := by decide
  have fields : ∀ t ∈ Builtin.tables, ∀ f ∈ t.fields, Alphabet.ascii.IsIdentifier f.name ∧
      Alphabet.ascii.IsIdentifier (lowerCamel f.name) ∧
      Alphabet.ascii.IsIdentifier (Prisma.Edge.forwardName f.name) ∧
      Alphabet.ascii.IsIdentifier (upperCamel (Prisma.Edge.forwardName f.name)) := by
    decide +kernel
  have associations : ∀ t ∈ Builtin.tables, ∀ r ∈ t.relations,
      Alphabet.ascii.IsIdentifier (lowerCamel r.fieldName) := by decide
  intro t ht
  obtain ⟨name, symbol, row, single⟩ := names t ht
  exact ⟨name, symbol, row, single, fields t ht, associations t ht⟩

/-- Without tables of its own, every request leads to identifiers. -/
theorem isIdentifier_of_builtin {request : Request} (none : request.customTables = [])
    (lowers : Lowers .builtin request models) (a : Alphabet) :
    ∀ p ∈ request.target.printedNames models, a.IsIdentifier p.name := by
  refine ((UnquotedNames.of_lowers lowers).identifiers_iff a).2 ?_
  obtain ⟨merges, -, resolves, lowered⟩ := lowers
  rw [none] at merges
  cases merges
  have sources : models.map (·.source) = _ := map_source_of_lowerTables lowered
  refine Target.namesFit_of_plain ?_ lowered a
  intro t ht
  have found : t.source ∈ _ := sources ▸ List.mem_map_of_mem ht
  exact plainlyNamed_builtin _ (Catalog.mem_of_get? (Catalog.get?_of_mem_resolve resolves found))

/-- Whatever is generated, the names printed without quotes are identifiers if the names of the
tables are fit, and only then. -/
theorem names_are_identifiers {catalog : Catalog} {request : Request} {generation : Generation}
    (accepted : generate request catalog = .ok generation) :
    ∃ models, Lowers catalog request models ∧
      generation.artifacts = request.target.artifacts models ∧
      UnquotedNames request.target models := by
  obtain ⟨models, lowers, rfl⟩ := generate_eq_ok_iff.1 accepted
  exact ⟨models, lowers, rfl, .of_lowers lowers⟩

/-- The names of users and posts are fit for Prisma, whatever the alphabet. -/
theorem names_are_identifiers_posts :
    ∃ generation models,
      generate ⟨⟨.prisma, .mysql⟩, .custom ["posts"], []⟩ .builtin = .ok generation ∧
      generation.artifacts = Target.artifacts ⟨.prisma, .mysql⟩ models ∧
      (Target.printedNames ⟨.prisma, .mysql⟩ models).map (·.name)
        = ["User", "id", "email", "name", "passwordHash", "isActive", "createdAt", "updatedAt",
          "posts", "Post", "id", "authorId", "author", "title", "slug", "content", "published",
          "viewCount", "createdAt", "updatedAt"] ∧
      ∀ a, Target.NamesFit ⟨.prisma, .mysql⟩ a models := by
  have resolves : Catalog.builtin.resolve ["posts"] = .ok [Builtin.users, Builtin.posts] := by cbv
  obtain ⟨models, lowered, listed, plain⟩ : ∃ models,
      lowerTables ⟨.prisma, .mysql⟩ [Builtin.users, Builtin.posts] = .ok models ∧
        (Target.printedNames ⟨.prisma, .mysql⟩ models).map (·.name)
          = ["User", "id", "email", "name", "passwordHash", "isActive", "createdAt", "updatedAt",
            "posts", "Post", "id", "authorId", "author", "title", "slug", "content", "published",
            "viewCount", "createdAt", "updatedAt"] ∧
        ∀ p ∈ Target.printedNames ⟨.prisma, .mysql⟩ models, Alphabet.ascii.IsIdentifier p.name :=
    ⟨_, rfl, by decide, by decide⟩
  have lowers : Lowers .builtin ⟨⟨.prisma, .mysql⟩, .custom ["posts"], []⟩ models :=
    .intro rfl rfl resolves lowered
  have accepted := generate_eq_ok_iff.2 ⟨models, lowers, rfl⟩
  obtain ⟨models', ⟨merges, selects, resolves', lowered'⟩, rendered, unquoted⟩ :=
    names_are_identifiers accepted
  cases merges
  cases selects
  cases resolves.symm.trans resolves'
  cases lowered.symm.trans lowered'
  exact ⟨_, models, accepted, rendered, listed,
    fun a => (unquoted.identifiers_iff a).1 fun p hp => (plain p hp).of_ascii⟩

/-- A table with a column for the second of several factors. -/
def codes : Catalog := ⟨[⟨"codes", "Code", [Field.id, Field.plain "2nd-factor" .text], []⟩]⟩

/-- The name of the column is printed for every backend and dialect, and no alphabet makes an
identifier of it. -/
theorem second_factors :
    codes.Built ∧ ∀ target : Target, ∃ generation models,
      generate ⟨target, .custom ["codes"], []⟩ codes = .ok generation ∧
      generation.artifacts = target.artifacts models ∧
      ∃ p ∈ target.printedNames models,
        (∃ file ∈ generation.artifacts, containsText file.content p.text = true) ∧
        ∀ a : Alphabet, ¬ a.IsIdentifier p.name := by
  have built : codes.Built := .ofTables (show Catalog.ofTables codes.tables = .ok codes by cbv)
  have resolves : codes.resolve ["codes"] = .ok codes.tables := by cbv
  refine ⟨built, fun target => ?_⟩
  obtain ⟨backend, dialect⟩ := target
  obtain ⟨models, lowered, p, hp, digit⟩ : ∃ models,
      lowerTables ⟨backend, dialect⟩ codes.tables = .ok models ∧
        ∃ p ∈ Target.printedNames ⟨backend, dialect⟩ models,
          p.name.toList.head?.any (·.isDigit) = true := by
    cases backend <;> cases dialect <;> exact ⟨_, rfl, by decide⟩
  have lowers : Lowers codes ⟨⟨backend, dialect⟩, .custom ["codes"], []⟩ models :=
    .intro rfl rfl resolves lowered
  obtain ⟨file, first, contained⟩ := (UnquotedNames.of_lowers lowers).text p hp
  exact ⟨_, models, generate_eq_ok_iff.2 ⟨models, lowers, rfl⟩, rfl, p, hp,
    ⟨file, List.mem_of_mem_head? first, contained⟩,
    fun _ => Alphabet.not_isIdentifier_of_isDigit digit⟩

end SchemaForge
