import SchemaForge.Kysely.Interface
import SchemaForge.Proofs.Declaration.Lowering
import SchemaForge.Schema.Builtin
import SchemaForge.Text.Affix

/-!
# The four interfaces of a table

Kysely makes row types of its own from the interface that it reads: it leaves an insert the choice
where a column is wrapped in `Generated` or allows `null`.  The interfaces of rows that are printed
beside it are made from the columns instead.  They agree with it: the entries of a table, one for
each field, make up its four interfaces, and the parts of an entry fit together (`Entry.Agrees`).

Main results:

* the text of a type says whether it is wrapped (`wrapped_render_iff`) and whether it allows `null`
  (`allowsNull_render_iff`);
* the entry of a lowered field agrees with the field (`Entry.agrees_ofColumn`);
* the interfaces of a lowered table are made of such entries (`interfaces_agree`).
-/

namespace SchemaForge.Kysely

/-! ## Texts of types -/

/-- The text is that of a type in the wrapper. -/
def Wraps (text plain : String) : Prop := text = generatedType ++ "<" ++ plain ++ ">"

/-- The text is that of a wrapped type. -/
def Wrapped (text : String) : Prop := ∃ plain, Wraps text plain

/-- The text is that of a type with `null` beside it.  The alias for documents does not count: its
`null` is a document. -/
def AllowsNull (text : String) : Prop := Text.containsText text " | null" = true

/-- The TypeScript types of columns. -/
def columnTypes : List String := ["number", "string", "boolean", "Date", jsonType]

theorem primitive_mem_columnTypes (dialect : Dialect) (type : FieldType) :
    primitive dialect type ∈ columnTypes := by
  cases dialect <;> cases type <;> decide

variable {t : PropertyType}

/-- The text of a type without the wrapper. -/
def PropertyType.plain (t : PropertyType) : String := { t with generated := false }.render

theorem render_of_generated (h : t.generated = true) : Wraps t.render t.plain := by
  simp [Wraps, PropertyType.plain, PropertyType.render, h]

theorem render_of_not_generated (h : t.generated = false) : t.render = t.plain := by
  simp [PropertyType.plain, PropertyType.render, h]

/-- No type of a column begins as the wrapper does. -/
theorem not_wrapped_plain (known : t.primitive ∈ columnTypes) : ¬ Wrapped t.plain := by
  rintro ⟨inner, h⟩
  have first := congrArg (·.toList.head?) h
  simp only [columnTypes, List.mem_cons, List.not_mem_nil, or_false] at known
  rcases known with known | known | known | known | known <;>
    simp [PropertyType.plain, PropertyType.render, known, generatedType, jsonType] at first

/-- What is wrapped is the type without the wrapper. -/
theorem wraps_render_iff (known : t.primitive ∈ columnTypes) {inner : String} :
    Wraps t.render inner ↔ t.generated = true ∧ inner = t.plain := by
  cases generated : t.generated with
  | false =>
    have bare : ¬ Wraps t.plain inner := fun h => not_wrapped_plain known ⟨inner, h⟩
    rw [render_of_not_generated generated]
    simp [bare]
  | true =>
    have wrapped : t.render = generatedType ++ "<" ++ t.plain ++ ">" :=
      render_of_generated generated
    rw [Wraps, wrapped]
    simp [eq_comm]

theorem wrapped_render_iff (known : t.primitive ∈ columnTypes) :
    Wrapped t.render ↔ t.generated = true := by
  simp [Wrapped, wraps_render_iff known]

/-- The text says whether the type allows `null`, in the wrapper or not. -/
theorem allowsNull_render_iff (known : t.primitive ∈ columnTypes) :
    AllowsNull t.render ↔ t.nullable = true := by
  obtain ⟨primitive, nullable, generated⟩ := t
  simp only [columnTypes, List.mem_cons, List.not_mem_nil, or_false] at known
  have same : Text.containsText (PropertyType.render ⟨primitive, nullable, generated⟩) " | null"
      = nullable := by
    rcases known with rfl | rfl | rfl | rfl | rfl <;> cases nullable <;> cases generated <;> decide
  rw [AllowsNull, same]

/-! ## Entries -/

/-- What the four interfaces of a table say about one column; a row that is inserted may not have
it. -/
structure Entry where
  table : Property
  record : Property
  insert? : Option Property
  update : Property

/-- The properties of an entry, one in each interface that has the column. -/
def Entry.properties (e : Entry) : List Property :=
  e.table :: e.record :: e.update :: e.insert?.toList

/-- An entry agrees with the field that it is made for. -/
structure Entry.Agrees (dialect : Dialect) (f : Field) (e : Entry) : Prop where
  names : ∀ p ∈ e.properties, p.name = f.name
  /-- An insert has the columns that are not filled by the database. -/
  listed : e.insert?.isSome = true ↔ f.keyGeneration dialect ≠ .autoIncrement
  /-- An insert may leave out just those that are wrapped or allow `null`. -/
  optional_insert : ∀ p ∈ e.insert?, p.isOptional = true ↔
    Wrapped e.table.type.render ∨ AllowsNull e.table.type.render
  wrapped_of_left_out : e.insert? = none → Wrapped e.table.type.render
  /-- The types in an update and in an insert are those of a row. -/
  row_types : ∀ p ∈ e.update :: e.insert?.toList, p.type.render = e.record.type.render
  /-- A row has what is left of the type for Kysely without its wrapper. -/
  wrapped_type : ∀ plain, Wraps e.table.type.render plain → e.record.type.render = plain
  bare_type : ¬ Wrapped e.table.type.render → e.record.type.render = e.table.type.render
  required_record : e.record.isOptional = false
  optional_update : e.update.isOptional = true

/-- The entry of a column. -/
def Entry.ofColumn (c : Column) : Entry where
  table := tableProperty c
  record := rowProperty ⟨c, false⟩
  insert? := if c.isServerGenerated then none else some (rowProperty ⟨c, c.isInsertOptional⟩)
  update := rowProperty ⟨c, true⟩

/-- The interfaces of a table list its entries in order. -/
theorem interfaces_eq_entries (decl : TableDecl) :
    (tableInterface decl).properties = (decl.columns.map Entry.ofColumn).map (·.table) ∧
      (recordInterface decl).properties = (decl.columns.map Entry.ofColumn).map (·.record) ∧
      (insertInterface decl).properties
        = (decl.columns.map Entry.ofColumn).filterMap (·.insert?) ∧
      (updateInterface decl).properties = (decl.columns.map Entry.ofColumn).map (·.update) := by
  refine ⟨?table, ?record, ?insert, ?update⟩
  case table => simp [tableInterface, Entry.ofColumn]
  case record => simp [recordInterface, recordProjection, Entry.ofColumn]
  case update => simp [updateInterface, updateProjection, Entry.ofColumn]
  case insert =>
    rw [insertInterface, insertProjection, List.filterMap_map]
    induction decl.columns with
    | nil => rfl
    | cons c rest ih =>
      cases generated : c.isServerGenerated <;>
        simpa [Entry.ofColumn, generated] using ih

/-- What an interface lists are properties of entries, at most one of each and in their order. -/
theorem exists_filterMap_of_mem_tableInterfaces {decl : TableDecl} {i : Interface}
    (hi : i ∈ tableInterfaces decl) : ∃ pick : Entry → Option Property,
      (∀ e, ∀ p ∈ pick e, p ∈ e.properties) ∧
        i.properties = (decl.columns.map Entry.ofColumn).filterMap pick := by
  obtain ⟨table, record, insert, update⟩ := interfaces_eq_entries decl
  simp only [tableInterfaces, List.mem_cons, List.not_mem_nil, or_false] at hi
  rcases hi with rfl | rfl | rfl | rfl
  · exact ⟨fun e => some e.table, by simp [Entry.properties], by simp [table]⟩
  · exact ⟨fun e => some e.record, by simp [Entry.properties], by simp [record]⟩
  · exact ⟨fun e => e.insert?, by simp +contextual [Entry.properties], insert⟩
  · exact ⟨fun e => some e.update, by simp [Entry.properties], by simp [update]⟩

variable {c : Column} {table : Table} {f : Field} {dialect : Dialect} {decl : TableDecl}

/-- The part of an entry for inserting is made of its column. -/
theorem Entry.insert?_ofColumn_eq_some_iff {p : Property} :
    (Entry.ofColumn c).insert? = some p ↔
      c.isServerGenerated = false ∧ rowProperty ⟨c, c.isInsertOptional⟩ = p := by
  cases generated : c.isServerGenerated <;> simp [Entry.ofColumn, generated]

/-- Each property of an entry has the name and the type of its column. -/
theorem Entry.mem_properties_ofColumn {p : Property} (hp : p ∈ (Entry.ofColumn c).properties) :
    p.name = c.name ∧ p.type.primitive = c.primitive ∧ p.type.nullable = c.nullable := by
  simp only [Entry.properties, List.mem_cons, Option.mem_toList,
    Entry.insert?_ofColumn_eq_some_iff] at hp
  rcases hp with rfl | rfl | rfl | ⟨-, rfl⟩ <;> exact ⟨rfl, rfl, rfl⟩

/-- The entry of a column agrees with the field of the column. -/
theorem Entry.agrees_ofColumn (known : c.primitive ∈ columnTypes) (named : c.name = f.name)
    (key : c.keyGeneration = f.keyGeneration dialect) : (Entry.ofColumn c).Agrees dialect f where
  names := by
    intro p hp
    exact (Entry.mem_properties_ofColumn hp).1.trans named
  listed := by
    have generated : c.isServerGenerated = true ↔ f.keyGeneration dialect = .autoIncrement := by
      rw [Column.isServerGenerated, key, beq_iff_eq]
    rw [ne_eq, ← generated]
    cases given : c.isServerGenerated <;> simp [Entry.ofColumn, given]
  optional_insert := by
    intro p hp
    obtain ⟨given, rfl⟩ := Entry.insert?_ofColumn_eq_some_iff.1 hp
    rw [Entry.ofColumn, wrapped_render_iff known, allowsNull_render_iff known]
    -- a column that is given in an insert is wrapped only if it has a default
    simp [tableProperty, rowProperty, isGenerated, Column.isInsertOptional, given, or_comm]
  wrapped_of_left_out := by
    intro leftOut
    have generated : c.isServerGenerated = true := by
      by_contra given
      simp [Entry.ofColumn, given] at leftOut
    exact (wrapped_render_iff known).2 (by
      simp [Entry.ofColumn, tableProperty, isGenerated, generated])
  row_types := by
    intro p hp
    simp only [List.mem_cons, Option.mem_toList, Entry.insert?_ofColumn_eq_some_iff] at hp
    rcases hp with rfl | ⟨-, rfl⟩ <;> rfl
  wrapped_type := by
    intro plain wraps
    exact ((wraps_render_iff known).1 wraps).2.symm
  bare_type := by
    intro bare
    rw [Entry.ofColumn, wrapped_render_iff known, Bool.not_eq_true] at bare
    exact (render_of_not_generated bare).symm
  required_record := rfl
  optional_update := rfl

/-- The interfaces of a table list entries in order, one for each field and agreeing with it. -/
def InterfacesAgree (dialect : Dialect) (fields : List Field) (decl : TableDecl) : Prop :=
  ∃ entries, List.Forall₂ (fun f e => Entry.Agrees dialect f e) fields entries ∧
    (tableInterface decl).properties = entries.map (·.table) ∧
    (recordInterface decl).properties = entries.map (·.record) ∧
    (insertInterface decl).properties = entries.filterMap (·.insert?) ∧
    (updateInterface decl).properties = entries.map (·.update)

/-- The interfaces of a lowered table agree. -/
theorem interfaces_agree (lowered : lowerTable ⟨.kysely, dialect⟩ table = .ok decl) :
    InterfacesAgree dialect table.fields decl := by
  refine ⟨decl.columns.map .ofColumn, ?_, interfaces_eq_entries decl⟩
  obtain ⟨-, columns⟩ := lowerTable_eq_ok_iff.1 lowered
  refine List.forall₂_map_right_iff.2 (columns.imp fun f c hc => ?_)
  obtain ⟨-, p, hp, rfl⟩ := lowerField_eq_ok_iff.1 hc
  obtain rfl : primitive dialect f.type = p := Option.some.inj hp
  refine Entry.agrees_ofColumn ?_ rfl rfl
  rw [primitive_columnOf]
  exact primitive_mem_columnTypes dialect f.type

/-- Articles on SQLite: an insert has no identifier, and it may leave out what is wrapped or may be
null. -/
theorem interfaces_agree_posts :
    ∃ decl, lowerTable ⟨.kysely, .sqlite⟩ Builtin.posts = .ok decl ∧
      (tableInterface decl).properties.map (fun p => (p.name, p.type.render))
        = [("id", "Generated<number>"), ("author_id", "number"), ("title", "string"),
          ("slug", "string"), ("content", "string | null"), ("published", "Generated<number>"),
          ("view_count", "Generated<number>"), ("created_at", "Generated<string>"),
          ("updated_at", "Generated<string>")] ∧
      (insertInterface decl).properties.map (fun p => (p.name, p.isOptional))
        = [("author_id", false), ("title", false), ("slug", false), ("content", true),
          ("published", true), ("view_count", true), ("created_at", true),
          ("updated_at", true)] ∧
      InterfacesAgree .sqlite Builtin.posts.fields decl := by
  have lowered : lowerTable ⟨.kysely, .sqlite⟩ Builtin.posts
      = .ok ⟨Builtin.posts, Builtin.posts.fields.map fun f =>
        columnOf Builtin.posts f .sqlite (primitive .sqlite f.type)⟩ := rfl
  exact ⟨_, lowered, by decide, by decide, interfaces_agree lowered⟩

end SchemaForge.Kysely
