import SchemaForge.Proofs.Declaration.Linked
import SchemaForge.Proofs.Drizzle.Entries
import SchemaForge.Proofs.Drizzle.ImportUse
import SchemaForge.Proofs.Prisma.RelationPairs
import SchemaForge.Proofs.Text.Parts

/-!
# Where printed references lead

A schema prints a foreign key as a reference to a column: in a Drizzle schema behind the column of
the key and in the entry of an association, in a Prisma schema in the relation beside the column.
`printedReferences` collects them from what the two backends render.

Main results:

* what is printed stands in the schema (`ReferencesLead.text`), comes from a foreign key
  (`ReferencesLead.key`) and names a table of the schema (`ReferencesLead.table`);
* the column is declared just when that table has a field of the property named
  (`ReferencesLead.declared_iff`), which nothing checks (`reference_to_nothing`);
* this holds for whatever is generated (`references_lead`).
-/

namespace SchemaForge

/-! ## Printed references -/

/-- A reference to a column as a schema prints it. -/
structure PrintedReference where
  /-- What the foreign key leads to. -/
  reference : Reference
  /-- The name that the schema has for the table. -/
  owner : String
  /-- The name that the schema has for the column. -/
  property : String
  /-- The two names as they are written, or only the property where the table stands elsewhere. -/
  text : String
  deriving DecidableEq, Repr

namespace Drizzle

/-- The column that the callback of a call gives. -/
def Clause.printed? : Clause → Option PrintedReference
  | .references r =>
    some ⟨r, symbolOf r.table, Text.lowerCamel r.field, referenceTarget r⟩
  | _ => none

/-- The column that an entry references. -/
def Entry.printed? : Entry → Option PrintedReference
  | .one _ target _ r _ =>
    some ⟨r, target.symbol, Text.lowerCamel r.field,
      "references: [" ++ target.symbol ++ "." ++ Text.lowerCamel r.field ++ "]"⟩
  | _ => none

/-- The references of a schema: those of the columns of a table, then those of its block. -/
def printedReferences (dialect : Dialect) (models : List TableDecl) : List PrintedReference :=
  models.flatMap fun t =>
    (t.columns.flatMap fun c => (clauses c dialect).filterMap Clause.printed?)
      ++ (entries models t).filterMap Entry.printed?

end Drizzle

namespace Prisma

/-- The column that a link of a relation references, as a column of the type of its member. -/
def Attribute.printed? (m : Member) (e : Edge) : Attribute → Option PrintedReference
  | .relation _ (some link) =>
    some ⟨e.reference, m.base, link.reference, "references: [" ++ link.reference ++ "]"⟩
  | _ => none

/-- The references of a member. -/
def Member.printed (m : Member) : List PrintedReference :=
  match m.role with
  | .forward e => m.attributes.filterMap (Attribute.printed? m e)
  | _ => []

/-- The references of a schema, model by model. -/
def printedReferences (dialect : Dialect) (models : List TableDecl) : List PrintedReference :=
  models.flatMap fun t => (members models dialect t).flatMap Member.printed

end Prisma

/-- The references to columns in what is generated; row types have none. -/
def Target.printedReferences (target : Target) (models : List TableDecl) : List PrintedReference :=
  match target.backend with
  | .drizzle => Drizzle.printedReferences target.dialect models
  | .prisma => Prisma.printedReferences target.dialect models
  | .kysely => []

/-- The name that a table is declared under. -/
def Target.nameOf (target : Target) (t : TableDecl) : String :=
  match target.backend with
  | .drizzle => t.symbol
  | .prisma | .kysely => t.typeName

/-- The column referred to is declared: the table has one with the property. -/
def PrintedReference.Declared (models : List TableDecl) (p : PrintedReference) : Prop :=
  ∃ u ∈ models, u.name = p.reference.table ∧ ∃ c ∈ u.columns, c.propertyName = p.property

instance (models : List TableDecl) (p : PrintedReference) : Decidable (p.Declared models) :=
  inferInstanceAs (Decidable (∃ u ∈ models, _ ∧ _))

/-! ## What is printed -/

/-- A reference printed for a column that is a key: it names a table of the schema, and a property
after the field that the key leads to. -/
structure PrintedReference.Of (p : PrintedReference) (target : Target) (models : List TableDecl)
    (r : Reference) : Prop where
  reference : p.reference = r
  property : p.property = Text.lowerCamel r.field
  owner : ∃ u ∈ models, u.name = r.table ∧ p.owner = target.nameOf u

variable {models : List TableDecl} {p : PrintedReference} {dialect : Dialect} {r : Reference}

namespace Drizzle

theorem mem_printedReferences_iff :
    p ∈ printedReferences dialect models ↔ ∃ t ∈ models,
      (∃ c ∈ t.columns, ∃ call ∈ clauses c dialect, call.printed? = some p) ∨
        ∃ e ∈ entries models t, e.printed? = some p := by
  simp only [printedReferences, List.mem_flatMap, List.mem_append, List.mem_filterMap]

section Lowered

variable {tables : List Table} (linked : Linked models)
  (lowered : lowerTables ⟨.drizzle, dialect⟩ tables = .ok models)
include linked lowered

theorem of_mem_printedReferences (hp : p ∈ printedReferences dialect models) :
    ∃ t ∈ models, ∃ c ∈ t.columns, ∃ r, c.reference? = some r ∧
      p.Of ⟨.drizzle, dialect⟩ models r := by
  obtain ⟨t, ht, ⟨c, hc, call, hcall, printed⟩ | ⟨e, he, printed⟩⟩ :=
    mem_printedReferences_iff.1 hp
  · cases call with
    | references r =>
      cases printed
      obtain ⟨table, f, rfl⟩ := exists_builderColumn lowered (List.mem_flatMap.2 ⟨t, ht, hc⟩)
      have refers := references_mem_clauses_iff.1 hcall
      obtain ⟨u, hu, leads⟩ := List.mem_map.1 (linked.target_mem t ht _ hc r refers)
      exact ⟨t, ht, _, hc, r, refers, rfl, rfl, u, hu, leads, leads ▸ rfl⟩
    | _ => cases printed
  · cases e with
    | one property target key r named =>
      cases printed
      obtain ⟨_, _, _, -, binds⟩ := mem_entries_iff.1 he
      cases binds with
      | one _ found chosen refers =>
        obtain ⟨hkey, r', hr', leads⟩ := mem_keysTo_iff.1 (mem_of_forwardKey? chosen)
        obtain rfl : r = r' := Option.some.inj (refers.symm.trans hr')
        exact ⟨t, ht, key, hkey, r, refers, rfl, rfl, target, List.mem_of_find?_eq_some found,
          leads.symm, rfl⟩
    | _ => cases printed

omit linked in
theorem exists_mem_printedReferences {t : TableDecl} (ht : t ∈ models) {c : Column}
    (hc : c ∈ t.columns) (refers : c.reference? = some r) :
    ∃ p ∈ printedReferences dialect models, p.reference = r := by
  obtain ⟨table, f, rfl⟩ := exists_builderColumn lowered (List.mem_flatMap.2 ⟨t, ht, hc⟩)
  exact ⟨_, mem_printedReferences_iff.2 ⟨t, ht, .inl ⟨_, hc, .references r,
    references_mem_clauses_iff.2 refers, rfl⟩⟩, rfl⟩

end Lowered

end Drizzle

namespace Prisma

/-- The reference of an edge, as the relation beside its column prints it. -/
def Edge.printed (models : List TableDecl) (e : Edge) : PrintedReference where
  reference := e.reference
  owner := modelNameOf models e.reference.table
  property := Text.lowerCamel e.reference.field
  text := "references: [" ++ Text.lowerCamel e.reference.field ++ "]"

/-- The relations beside columns print the references of their edges; other members print none. -/
theorem mem_printed_iff {t : TableDecl} {m : Member} (hm : m ∈ members models dialect t) :
    p ∈ m.printed ↔ ∃ e ∈ edgesOf t, ∃ name,
      m = forwardMember models (allEdges models) e name ∧ p = e.printed models := by
  have printed_forward (e : Edge) (name : String) :
      (forwardMember models (allEdges models) e name).printed = [e.printed models] := rfl
  constructor
  · intro hp
    obtain ⟨name, written⟩ := exists_written hm
    cases hrole : m.role with
    | forward e =>
      have edge : e ∈ edgesOf t := by
        rw [← filterMap_forward?_members models dialect t, List.mem_filterMap]
        exact ⟨m, hm, by rw [hrole]; rfl⟩
      rw [hrole, Role.written] at written
      rw [written, printed_forward] at hp
      exact ⟨e, edge, name, written, List.mem_singleton.1 hp⟩
    | _ =>
      rw [Member.printed, hrole] at hp
      cases hp
  · rintro ⟨e, -, name, rfl, rfl⟩
    rw [printed_forward]
    exact List.mem_singleton_self _

/-- The references of a schema are those of its edges. -/
theorem mem_printedReferences_iff :
    p ∈ printedReferences dialect models ↔ ∃ e ∈ allEdges models, p = e.printed models := by
  simp only [printedReferences, List.mem_flatMap]
  constructor
  · rintro ⟨t, ht, m, hm, hp⟩
    obtain ⟨e, edge, -, -, rfl⟩ := (mem_printed_iff hm).1 hp
    exact ⟨e, List.mem_flatMap.2 ⟨t, ht, edge⟩, rfl⟩
  · rintro ⟨e, he, rfl⟩
    obtain ⟨t, ht, edge⟩ := List.mem_flatMap.1 he
    obtain ⟨m, hm, hrole⟩ :=
      List.mem_filterMap.1 (filterMap_forward?_members models dialect t ▸ edge)
    obtain ⟨name, written⟩ := exists_written hm
    have forward : m.role = .forward e := by
      cases h : m.role <;> rw [h] at hrole <;> cases hrole
      rfl
    rw [forward, Role.written] at written
    exact ⟨t, ht, m, hm, (mem_printed_iff hm).2 ⟨e, edge, name, written, rfl⟩⟩

theorem of_mem_printedReferences (linked : Linked models)
    (hp : p ∈ printedReferences dialect models) :
    ∃ t ∈ models, ∃ c ∈ t.columns, ∃ r, c.reference? = some r ∧
      p.Of ⟨.prisma, dialect⟩ models r := by
  obtain ⟨e, he, rfl⟩ := mem_printedReferences_iff.1 hp
  obtain ⟨hsource, hcolumn, refers⟩ := mem_allEdges_iff.1 he
  obtain ⟨u, hu, leads⟩ :=
    List.mem_map.1 (linked.target_mem e.source hsource e.column hcolumn e.reference refers)
  exact ⟨e.source, hsource, e.column, hcolumn, e.reference, refers, rfl, rfl, u, hu, leads,
    (congrArg (modelNameOf models) leads).symm.trans (modelNameOf_eq linked.names_nodup hu)⟩

theorem exists_mem_printedReferences {t : TableDecl} (ht : t ∈ models) {c : Column}
    (hc : c ∈ t.columns) (refers : c.reference? = some r) :
    ∃ p ∈ printedReferences dialect models, p.reference = r :=
  ⟨_, mem_printedReferences_iff.2 ⟨⟨t, c, r⟩, mem_allEdges_iff.2 ⟨ht, hc, refers⟩, rfl⟩, rfl⟩

end Prisma

/-! ## How it is written -/

namespace Drizzle

open Text

section Parts

variable {t : TableDecl} {part : String}

/-- What stands in the line of a column stands in the declaration of its table. -/
theorem containsText_renderTable {c : Column} (hc : c ∈ t.columns)
    (h : containsText (columnLine dialect c) part = true) :
    containsText (renderTable dialect t) part = true :=
  containsText_append_left (containsText_append_right
    (containsText_trans h (containsText_intercalate (List.mem_map_of_mem hc))))

theorem containsText_renderBlock {e : Entry} {es : List Entry} (he : e ∈ es)
    (h : containsText (e.line t) part = true) : containsText (renderBlock t es) part = true :=
  containsText_append_left (containsText_append_right
    (containsText_trans h (containsText_intercalate (List.mem_map_of_mem he))))

/-- What stands in a declaration or in a block stands in the schema. -/
theorem containsText_renderSchema_of_mem {b : String}
    (hb : b ∈ models.map (renderTable dialect) ++ blocks models)
    (h : containsText b part = true) : containsText (renderSchema dialect models) part = true := by
  have nonempty : models ≠ [] := by
    rintro rfl
    cases hb
  rw [renderSchema, if_neg (by simpa using nonempty)]
  exact containsText_append_right (containsText_trans (containsText_append_right h)
    (containsText_join (List.mem_map_of_mem hb)))

end Parts

/-- A call is written with the column that its callback gives. -/
theorem containsText_render {call : Clause} (h : call.printed? = some p) :
    containsText (call.render dialect) p.text = true := by
  cases call with
  | references r =>
    cases h
    have callback : containsText (referenceCallback r dialect) (referenceTarget r) = true := by
      rw [referenceCallback]
      split_ifs <;> exact containsText_append_right (containsText_refl _)
    exact containsText_append_left (containsText_append_left (containsText_append_right callback))
  | _ => cases h

/-- An entry is written with the column that it references. -/
theorem containsText_line {t : TableDecl} {e : Entry} (h : e.printed? = some p) :
    containsText (e.line t) p.text = true := by
  cases e with
  | one property target key r named =>
    cases h
    have options : containsText (oneOptions t target key r) ("references: [" ++ target.symbol ++ "."
        ++ lowerCamel r.field ++ "]") = true := by
      have written : oneOptions t target key r = "fields: [" ++ t.symbol ++ "." ++ key.propertyName
          ++ "], " ++ ("references: [" ++ target.symbol ++ "." ++ lowerCamel r.field ++ "]") := by
        have joined : oneOptions t target key r = "fields: [" ++ t.symbol ++ "."
            ++ key.propertyName ++ ("], " ++ "references: [") ++ target.symbol ++ "."
            ++ lowerCamel r.field ++ "]" := rfl
        rw [joined]
        simp only [String.append_assoc]
      rw [written]
      exact containsText_append_right (containsText_refl _)
    refine containsText_append_left (containsText_append_right ?_)
    refine containsText_append_left (containsText_append_right ?_)
    exact containsText_append_left (containsText_append_right (containsText_append_left options))
  | _ => cases h

/-- The schema is written with all of its references. -/
theorem containsText_renderSchema (hp : p ∈ printedReferences dialect models) :
    containsText (renderSchema dialect models) p.text = true := by
  obtain ⟨t, ht, ⟨c, hc, call, hcall, printed⟩ | ⟨e, he, printed⟩⟩ :=
    mem_printedReferences_iff.1 hp
  · have column : containsText (renderColumn c dialect) p.text = true :=
      containsText_trans (containsText_render printed)
        (containsText_join (List.mem_map_of_mem hcall))
    have line : containsText (columnLine dialect c) p.text = true :=
      containsText_append_left (containsText_append_right column)
    exact containsText_renderSchema_of_mem (List.mem_append_left _ (List.mem_map_of_mem ht))
      (containsText_renderTable hc line)
  · have block : renderBlock t (entries models t) ∈ blocks models :=
      mem_blocks_iff.2 ⟨t, ht, List.ne_nil_of_mem he, rfl⟩
    exact containsText_renderSchema_of_mem (List.mem_append_right _ block)
      (containsText_renderBlock he (containsText_line printed))

end Drizzle

namespace Prisma

open Text

section Parts

variable {t : TableDecl} {part : String}

theorem containsText_renderModel {m : Member} {ms : List Member} (hm : m ∈ ms)
    (h : ∀ n k, containsText (memberLine n k m) part = true) :
    containsText (renderModel t ms) part = true :=
  containsText_append_left (containsText_append_left (containsText_append_left
    (containsText_append_right (containsText_trans (containsText_append_left (h _ _))
      (containsText_join (List.mem_map_of_mem (List.mem_map_of_mem hm)))))))

/-- What stands in a model stands in the schema. -/
theorem containsText_renderSchema_of_mem (ht : t ∈ models)
    (h : containsText (renderModel t (members models dialect t)) part = true) :
    containsText (renderSchema dialect models) part = true :=
  containsText_append_right (containsText_trans (containsText_append_right h)
    (containsText_join (List.mem_map_of_mem ht)))

end Parts

/-- The line of a relation beside a column is written with the property that it references. -/
theorem containsText_memberLine (edges : List Edge) (e : Edge) (name : String) (n k : Nat) :
    containsText (memberLine n k (forwardMember models edges e name)) (e.printed models).text
      = true := by
  let link : Link :=
    ⟨e.column.propertyName, lowerCamel e.reference.field, e.reference.onDelete⟩
  let arguments := String.intercalate ", "
    (((e.name? edges).map Json.quoted).toList ++ link.arguments)
  have written : (forwardMember models edges e name).attributes.map Attribute.render
      = ["@relation(" ++ arguments ++ ")"] := rfl
  have second : (e.printed models).text ∈ link.arguments :=
    List.mem_append_left _ (List.mem_cons_of_mem _ (List.mem_singleton_self _))
  have listed : containsText arguments (e.printed models).text = true :=
    containsText_intercalate (List.mem_append_right _ second)
  rw [memberLine, written, String.intercalate_singleton, ← String.append_assoc,
    trimEnd_append_bracket]
  exact containsText_append_left (containsText_append_right (containsText_append_right listed))

/-- The schema is written with all of its references. -/
theorem containsText_renderSchema (hp : p ∈ printedReferences dialect models) :
    containsText (renderSchema dialect models) p.text = true := by
  simp only [printedReferences, List.mem_flatMap] at hp
  obtain ⟨t, ht, m, hm, hp⟩ := hp
  obtain ⟨e, -, name, same, rfl⟩ := (mem_printed_iff hm).1 hp
  refine containsText_renderSchema_of_mem ht (containsText_renderModel hm ?_)
  rw [same]
  exact containsText_memberLine _ e name

end Prisma

/-! ## Declared columns -/

/-- A table of the schema has a field with the property that the reference names. -/
def Reference.HasField (models : List TableDecl) (r : Reference) : Prop :=
  ∃ u ∈ models, u.name = r.table ∧
    ∃ f ∈ u.source.fields, Text.lowerCamel f.name = Text.lowerCamel r.field

instance (models : List TableDecl) (r : Reference) : Decidable (r.HasField models) :=
  inferInstanceAs (Decidable (∃ u ∈ models, _ ∧ _))

/-- How the references that are printed for a target lead to its tables and their columns. -/
structure ReferencesLead (target : Target) (models : List TableDecl) : Prop where
  /-- The files are written with them. -/
  text : ∀ p ∈ target.printedReferences models,
    ∃ file ∈ target.artifacts models, Text.containsText file.content p.text = true
  /-- Each is that of a foreign key of some table, by the property of the field that the key leads
  to. -/
  key : ∀ p ∈ target.printedReferences models, ∃ t ∈ models, ∃ k ∈ t.source.foreignKeys,
    p.reference = referenceOf t.source k.2 ∧ p.property = Text.lowerCamel k.2.targetField
  /-- Each foreign key has one. -/
  printed : ∀ t ∈ models, ∀ k ∈ t.source.foreignKeys,
    ∃ p ∈ target.printedReferences models, p.reference = referenceOf t.source k.2
  /-- The table that it names is declared. -/
  table : ∀ p ∈ target.printedReferences models,
    ∃ u ∈ models, u.name = p.reference.table ∧ p.owner = target.nameOf u
  /-- The column that it names is declared if the table has such a field, and only then. -/
  declared_iff : ∀ p ∈ target.printedReferences models,
    p.Declared models ↔ p.reference.HasField models
  /-- All columns are declared exactly if all foreign keys lead to fields. -/
  all_declared_iff : (∀ p ∈ target.printedReferences models, p.Declared models) ↔
    ∀ t ∈ models, ∀ k ∈ t.source.foreignKeys, (referenceOf t.source k.2).HasField models

section Lowered

variable {target : Target} {tables : List Table} (lowered : lowerTables target tables = .ok models)
include lowered

theorem exists_propertyName_iff {u : TableDecl} (hu : u ∈ models) {property : String} :
    (∃ c ∈ u.columns, c.propertyName = property) ↔
      ∃ f ∈ u.source.fields, Text.lowerCamel f.name = property := by
  have columns : (∃ c ∈ u.columns, c.propertyName = property) ↔
      ∃ n ∈ u.columns.map (·.name), Text.lowerCamel n = property := by
    simp only [List.mem_map, exists_exists_and_eq_and, Column.propertyName]
  rw [columns, map_name_columns lowered hu]
  simp only [List.mem_map, exists_exists_and_eq_and]

/-- It is enough that the references printed are those of the columns that are keys. -/
theorem referencesLead_of
    (of_mem : ∀ p ∈ target.printedReferences models, ∃ t ∈ models, ∃ c ∈ t.columns, ∃ r,
      c.reference? = some r ∧ p.Of target models r)
    (exists_mem : ∀ t ∈ models, ∀ c ∈ t.columns, ∀ r, c.reference? = some r →
      ∃ p ∈ target.printedReferences models, p.reference = r)
    (text : ∀ p ∈ target.printedReferences models,
      ∃ file ∈ target.artifacts models, Text.containsText file.content p.text = true) :
    ReferencesLead target models := by
  have key : ∀ p ∈ target.printedReferences models, ∃ t ∈ models, ∃ k ∈ t.source.foreignKeys,
      p.reference = referenceOf t.source k.2 ∧ p.property = Text.lowerCamel k.2.targetField := by
    intro p hp
    obtain ⟨t, ht, c, hc, r, refers, of⟩ := of_mem p hp
    obtain ⟨k, hk, rfl⟩ := exists_key_of_reference? lowered ht hc refers
    exact ⟨t, ht, k, hk, of.reference, of.property⟩
  have printed : ∀ t ∈ models, ∀ k ∈ t.source.foreignKeys,
      ∃ p ∈ target.printedReferences models, p.reference = referenceOf t.source k.2 := by
    intro t ht k hk
    obtain ⟨c, hc, refers⟩ := exists_column_of_key lowered ht hk
    exact exists_mem t ht c hc _ refers
  have declared_iff : ∀ p ∈ target.printedReferences models,
      p.Declared models ↔ p.reference.HasField models := by
    intro p hp
    obtain ⟨-, -, -, -, r, -, rfl, property, -⟩ := of_mem p hp
    refine exists_congr fun u => and_congr_right fun hu => and_congr_right fun _ => ?_
    rw [exists_propertyName_iff lowered hu, property]
  refine ⟨text, key, printed, ?table, declared_iff, ?all⟩
  case table =>
    intro p hp
    obtain ⟨-, -, -, -, r, -, rfl, -, owner⟩ := of_mem p hp
    exact owner
  case all =>
    constructor
    · intro all t ht k hk
      obtain ⟨p, hp, same⟩ := printed t ht k hk
      exact same ▸ (declared_iff p hp).1 (all p hp)
    · intro all p hp
      obtain ⟨t, ht, k, hk, same, -⟩ := key p hp
      exact (declared_iff p hp).2 (same ▸ all t ht k hk)

end Lowered

/-- For Drizzle and Prisma, the references printed are those of the columns that are keys. -/
theorem ReferencesLead.of_lowers {catalog : Catalog} {request : Request} (valid : catalog.Valid)
    (lowers : Lowers catalog request models) (refers : request.target.backend ≠ .kysely) :
    ReferencesLead request.target models := by
  have linked : Linked models := .of_lowers valid lowers
  obtain ⟨-, -, -, lowered⟩ := lowers
  obtain ⟨⟨backend, dialect⟩, selection, customTables⟩ := request
  cases backend with
  | drizzle =>
    exact referencesLead_of lowered (fun p => Drizzle.of_mem_printedReferences linked lowered)
      (fun t ht c hc r => Drizzle.exists_mem_printedReferences lowered ht hc)
      fun p hp => ⟨_, List.mem_cons_self, Drizzle.containsText_renderSchema hp⟩
  | prisma =>
    exact referencesLead_of lowered (fun p => Prisma.of_mem_printedReferences linked)
      (fun t ht c hc r => Prisma.exists_mem_printedReferences ht hc)
      fun p hp => ⟨_, List.mem_cons_self, Prisma.containsText_renderSchema hp⟩
  | kysely => exact absurd rfl refers

/-- Whatever is generated for Drizzle or Prisma, its references name tables that it declares.  They
name columns that it declares as far as foreign keys lead to fields that there are. -/
theorem references_lead {catalog : Catalog} {request : Request} {generation : Generation}
    (built : catalog.Built) (accepted : generate request catalog = .ok generation)
    (refers : request.target.backend ≠ .kysely) :
    ∃ models, Lowers catalog request models ∧
      generation.artifacts = request.target.artifacts models ∧
        ReferencesLead request.target models := by
  obtain ⟨models, lowers, rfl⟩ := generate_eq_ok_iff.1 accepted
  exact ⟨models, lowers, rfl, .of_lowers built.valid lowers refers⟩

/-- Posts refer to the `id` of users, which they have. -/
theorem references_lead_posts :
    Catalog.builtin.Built ∧ ∃ generation models,
      generate ⟨⟨.prisma, .mysql⟩, .custom ["posts"], []⟩ .builtin = .ok generation ∧
      generation.artifacts = Target.artifacts ⟨.prisma, .mysql⟩ models ∧
      ∀ p ∈ Target.printedReferences ⟨.prisma, .mysql⟩ models, p.Declared models := by
  have resolves : Catalog.builtin.resolve ["posts"] = .ok [Builtin.users, Builtin.posts] := by cbv
  obtain ⟨models, lowered, fields⟩ : ∃ models,
      lowerTables ⟨.prisma, .mysql⟩ [Builtin.users, Builtin.posts] = .ok models ∧
        ∀ t ∈ models, ∀ k ∈ t.source.foreignKeys, (referenceOf t.source k.2).HasField models :=
    ⟨_, rfl, by decide⟩
  have lowers : Lowers .builtin ⟨⟨.prisma, .mysql⟩, .custom ["posts"], []⟩ models :=
    .intro rfl rfl resolves lowered
  have accepted := generate_eq_ok_iff.2 ⟨models, lowers, rfl⟩
  obtain ⟨models', ⟨merges, selects, resolves', lowered'⟩, rendered, lead⟩ :=
    references_lead .builtin accepted (by decide)
  cases merges
  cases selects
  cases resolves.symm.trans resolves'
  cases lowered.symm.trans lowered'
  exact ⟨.builtin, _, models, accepted, rendered, lead.all_declared_iff.2 fields⟩

/-- Countries have a code for their key; cities refer to a country without saying by which field,
so by `id`. -/
def atlas : Catalog := ⟨[
  ⟨"countries", "Country", [{ name := "code", type := .string, isPrimaryKey := true }], []⟩,
  ⟨"cities", "City",
    [Field.id, (Field.plain "country_code" .string).referencing "countries" .restrict],
    [⟨.manyToOne, "countries", "country"⟩]⟩]⟩

/-- Cities refer to the `id` of countries, which countries do not have: twice for Drizzle, once for
Prisma, and no other reference is printed. -/
theorem reference_to_nothing :
    atlas.Built ∧
      (∃ generation models,
        generate ⟨⟨.drizzle, .postgresql⟩, .custom ["cities"], []⟩ atlas = .ok generation ∧
        generation.artifacts = Drizzle.artifacts .postgresql models ∧
        (Drizzle.printedReferences .postgresql models).map (·.text)
          = ["countries.id", "references: [countries.id]"] ∧
        ∀ p ∈ Drizzle.printedReferences .postgresql models, ¬ p.Declared models ∧
          Text.containsText (Drizzle.renderSchema .postgresql models) p.text = true) ∧
      ∃ generation models,
        generate ⟨⟨.prisma, .postgresql⟩, .custom ["cities"], []⟩ atlas = .ok generation ∧
        generation.artifacts = Prisma.artifacts .postgresql models ∧
        (Prisma.printedReferences .postgresql models).map (·.text) = ["references: [id]"] ∧
        ∀ p ∈ Prisma.printedReferences .postgresql models, ¬ p.Declared models ∧
          Text.containsText (Prisma.renderSchema .postgresql models) p.text = true := by
  have built : atlas.Built := .ofTables (show Catalog.ofTables atlas.tables = .ok atlas by cbv)
  have resolves : atlas.resolve ["cities"] = .ok atlas.tables := by cbv
  refine ⟨built, ⟨_, _, generate_eq_ok_iff.2 ⟨_, .intro rfl rfl resolves rfl, rfl⟩, rfl,
    by decide, fun p hp => ⟨?_, Drizzle.containsText_renderSchema hp⟩⟩,
    _, _, generate_eq_ok_iff.2 ⟨_, .intro rfl rfl resolves rfl, rfl⟩, rfl,
    by decide, fun p hp => ⟨?_, Prisma.containsText_renderSchema hp⟩⟩
  · revert p
    decide
  · revert p
    decide

end SchemaForge
