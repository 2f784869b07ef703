import SchemaForge.Declaration.Lowering
import SchemaForge.Proofs.Lists
import SchemaForge.Proofs.Results
import SchemaForge.Proofs.Schema.Validity

/-!
# What lowering gives and when it fails

A field is lowered to the tokens that it declares, in the order of their slots (`tokensOf_eq`), and
its column says the same as the field (`Column.Represents`, `represents_of_lowerTables`).  Lowering
fails in three ways only: a foreign key leads out of the tables (`checkReferences_eq_ok_iff`), a
field is counted up without being the key, or the target has no type for it
(`lowerField_eq_error_iff`).  On well-formed tables whose foreign keys lead to one another just the
last is left, and that for documents alone (`lowerTables_of_supported`,
`lowerTables_of_unsupported`).
-/

namespace SchemaForge

/-! ## All results or the first error -/

section allOrFirstError

variable {α β ε : Type} {f : α → Except ε β} {l : List α}

theorem allOrFirstError_cons (a : α) :
    allOrFirstError f (a :: l)
      = (f a).bind fun b => (allOrFirstError f l).map fun bs => b :: bs := by
  rw [allOrFirstError]
  cases f a with
  | error e => rfl
  | ok b => cases allOrFirstError f l <;> rfl

theorem allOrFirstError_map {α α' β β' ε : Type} {f : α → Except ε β} {f' : α' → Except ε β'}
    {g : α → α'} {h : β → β'} (each : ∀ a, f' (g a) = (f a).map h) (l : List α) :
    allOrFirstError f' (l.map g) = (allOrFirstError f l).map (List.map h) := by
  induction l with
  | nil => rfl
  | cons a rest ih =>
    rw [List.map_cons, allOrFirstError_cons, allOrFirstError_cons, ih, each]
    cases f a with
    | error e => rfl
    | ok b => cases allOrFirstError f rest <;> rfl

theorem allOrFirstError_eq_ok_iff {bs : List β} :
    allOrFirstError f l = .ok bs ↔ List.Forall₂ (fun a b => f a = .ok b) l bs := by
  induction l generalizing bs with
  | nil => simp [allOrFirstError, eq_comm]
  | cons a rest ih =>
    rw [allOrFirstError_cons, Except.bind_eq_ok_iff, List.forall₂_cons_left_iff]
    constructor
    · rintro ⟨b, hb, h⟩
      obtain ⟨bs', hbs', rfl⟩ := Except.map_eq_ok_iff.1 h
      exact ⟨b, bs', hb, ih.1 hbs', rfl⟩
    · rintro ⟨b, bs', hb, hbs', rfl⟩
      exact ⟨b, hb, Except.map_eq_ok_iff.2 ⟨bs', ih.2 hbs', rfl⟩⟩

/-- The error is the first one of an element. -/
theorem error?_allOrFirstError (f : α → Except ε β) (l : List α) :
    Except.error? (allOrFirstError f l) = l.findSome? fun a => Except.error? (f a) := by
  induction l with
  | nil => rfl
  | cons a rest ih =>
    rw [allOrFirstError_cons, List.findSome?_cons, ← ih]
    cases f a with
    | error e => rfl
    | ok b => exact Except.error?_map

/-- The elements before the first one that fails all succeed. -/
theorem allOrFirstError_eq_error_iff {e : ε} :
    allOrFirstError f l = .error e ↔ ∃ front a back, l = front ++ a :: back ∧
      (∀ x ∈ front, ∃ b, f x = .ok b) ∧ f a = .error e := by
  rw [← Except.error?_eq_some_iff, error?_allOrFirstError, List.findSome?_eq_some_iff]
  simp only [Except.error?_eq_some_iff, Except.error?_eq_none_iff]
  exact exists₃_congr fun _ _ _ => and_congr_right fun _ => and_comm

/-- When all failures are the same error, one failure decides. -/
theorem allOrFirstError_eq_error_of_mem {e : ε} {a : α} (ha : a ∈ l) (fails : ∀ b, f a ≠ .ok b)
    (same : ∀ x ∈ l, ∀ e', f x = .error e' → e' = e) : allOrFirstError f l = .error e := by
  cases h : allOrFirstError f l with
  | error e' =>
    obtain ⟨front, x, back, rfl, -, hx⟩ := allOrFirstError_eq_error_iff.1 h
    rw [same x (by simp) e' hx]
  | ok bs =>
    obtain ⟨b, -, hb⟩ := exists_mem_of_forall₂ (allOrFirstError_eq_ok_iff.1 h) ha
    exact absurd hb (fails b)

/-- When nothing fails, there are results. -/
theorem exists_allOrFirstError (succeeds : ∀ a ∈ l, ∃ b, f a = .ok b) :
    ∃ bs, allOrFirstError f l = .ok bs := by
  rw [← Except.error?_eq_none_iff, error?_allOrFirstError, List.findSome?_eq_none_iff]
  intro a ha
  exact Except.error?_eq_none_iff.2 (succeeds a ha)

end allOrFirstError

/-! ## One field -/

/-- A token that may be missing is kept for its slot and dropped for the others. -/
theorem Token.filter_toList_map {α : Type} {g : α → Token} {n : Nat} (h : ∀ a, (g a).slot = n)
    (o : Option α) (i : Nat) :
    (o.map g).toList.filter (·.slot == i) = if n = i then (o.map g).toList else [] := by
  cases o with
  | none => simp
  | some a => by_cases hi : n = i <;> simp [h, hi]

theorem lengthTokens_eq (f : Field) :
    lengthTokens f = ((if f.type = .string then f.length else none).map Token.length).toList := by
  rw [lengthTokens]
  split <;> rfl

/-- The tokens of a field by slot: its type, then the length, the constraints, the default and the
reference that it has. -/
theorem tokensOf_eq (table : Table) (f : Field) (dialect : Dialect) (primitive : String) :
    tokensOf table f dialect primitive
      = .base primitive :: (lengthTokens f
        ++ (if f.isPrimaryKey then [.primaryKey]
          else (if f.required then [.notNull] else []) ++ (if f.unique then [.unique] else []))
        ++ ((defaultTokenOf (f.keyGeneration dialect) f.defaultValue).map Token.default).toList
        ++ (f.foreignKey.map fun key => Token.references (referenceOf table key)).toList) := by
  have range : List.range Token.slots = [0, 1, 2, 3, 4, 5, 6] := rfl
  simp only [tokensOf, Token.arrange, range, List.flatMap_cons, List.flatMap_nil,
    List.filter_cons, List.filter_append, lengthTokens_eq,
    Token.filter_toList_map (g := Token.length) (n := 1) (fun _ => rfl),
    Token.filter_toList_map (g := Token.default) (n := 5) (fun _ => rfl),
    Token.filter_toList_map (g := fun key => Token.references (referenceOf table key)) (n := 6)
      (fun _ => rfl), constraintTokens]
  cases f.isPrimaryKey <;> cases f.required <;> cases f.unique <;> simp [Token.slot]

/-- The column of a field of a table with the given type of the backend. -/
def columnOf (table : Table) (f : Field) (dialect : Dialect) (primitive : String) : Column where
  name := f.name
  type := f.type
  keyGeneration := f.keyGeneration dialect
  nullable := f.isNullable
  tokens := tokensOf table f dialect primitive

/-- Looking for a token that may be missing. -/
theorem findSome?_toList_map {α β : Type} (g : α → Token) (look : Token → Option β)
    (o : Option α) : (o.map g).toList.findSome? look = o.bind fun a => look (g a) := by
  cases o <;> simp

/-- A column refers to what the foreign key of its field leads to. -/
@[simp] theorem reference?_columnOf (table : Table) (f : Field) (dialect : Dialect)
    (primitive : String) :
    (columnOf table f dialect primitive).reference? = f.foreignKey.map (referenceOf table) := by
  rw [Column.reference?, columnOf, tokensOf_eq, lengthTokens_eq]
  simp only [List.findSome?_cons, List.findSome?_append, findSome?_toList_map]
  cases f.foreignKey <;> cases f.isPrimaryKey <;> cases f.required <;> cases f.unique <;> simp

/-- A column has the type that it was made with. -/
@[simp] theorem primitive_columnOf (table : Table) (f : Field) (dialect : Dialect)
    (primitive : String) : (columnOf table f dialect primitive).primitive = primitive := by
  rw [Column.primitive, columnOf, tokensOf_eq, List.findSome?_cons, Option.getD_some]

/-- A column has the length of its field, if that is a `string`. -/
@[simp] theorem length?_columnOf (table : Table) (f : Field) (dialect : Dialect)
    (primitive : String) : (columnOf table f dialect primitive).length?
      = if f.type = .string then f.length else none := by
  rw [Column.length?, columnOf, tokensOf_eq, lengthTokens_eq]
  simp only [List.findSome?_cons, List.findSome?_append, findSome?_toList_map]
  cases f.isPrimaryKey <;> cases f.required <;> cases f.unique <;> simp

@[simp] theorem default?_columnOf (table : Table) (f : Field) (dialect : Dialect)
    (primitive : String) : (columnOf table f dialect primitive).default?
      = defaultTokenOf (f.keyGeneration dialect) f.defaultValue := by
  rw [Column.default?, columnOf, tokensOf_eq, lengthTokens_eq]
  simp only [List.findSome?_cons, List.findSome?_append, findSome?_toList_map]
  cases f.isPrimaryKey <;> cases f.required <;> cases f.unique <;> simp

/-- What the flags of a field declare. -/
theorem mem_constraintTokens {f : Field} {t : Token} : t ∈ constraintTokens f ↔
    t = .primaryKey ∧ f.isPrimaryKey = true ∨
      t = .notNull ∧ f.required = true ∧ f.isPrimaryKey = false ∨
      t = .unique ∧ f.unique = true ∧ f.isPrimaryKey = false := by
  unfold constraintTokens
  cases f.isPrimaryKey <;> cases f.required <;> cases f.unique <;> simp [or_comm]

/-- Flags declare no other tokens than those of the constraints. -/
theorem notMem_constraintTokens {f : Field} {t : Token} (other : t.slot < 2 ∨ 4 < t.slot) :
    t ∉ constraintTokens f := by
  intro h
  rcases mem_constraintTokens.1 h with ⟨rfl, -⟩ | ⟨rfl, -⟩ | ⟨rfl, -⟩ <;>
    simp [Token.slot] at other

/-- A length declares no other token than its own. -/
theorem notMem_lengthTokens {f : Field} {t : Token} (other : t.slot < 1 ∨ 1 < t.slot) :
    t ∉ lengthTokens f := by
  intro h
  rw [lengthTokens_eq, Option.mem_toList, Option.map_eq_some_iff] at h
  obtain ⟨n, -, rfl⟩ := h
  simp [Token.slot] at other

section columnOf

variable {table : Table} {f : Field} {dialect : Dialect} {p : String} {t : Token}

/-- The tokens of a column, whatever their order. -/
theorem mem_tokens_columnOf : t ∈ (columnOf table f dialect p).tokens ↔
    t = .base p ∨
      (∃ r, (columnOf table f dialect p).reference? = some r ∧ t = .references r) ∨
      (∃ d, (columnOf table f dialect p).default? = some d ∧ t = .default d) ∨
      t ∈ constraintTokens f ∨ t ∈ lengthTokens f := by
  have reference : (∃ r, (columnOf table f dialect p).reference? = some r ∧ t = .references r) ↔
      ∃ key, f.foreignKey = some key ∧ Token.references (referenceOf table key) = t := by
    simp [@eq_comm _ t]
  have default : (∃ d, (columnOf table f dialect p).default? = some d ∧ t = .default d) ↔
      ∃ d, defaultTokenOf (f.keyGeneration dialect) f.defaultValue = some d ∧
        Token.default d = t := by
    simp [@eq_comm _ t]
  rw [reference, default]
  simp only [columnOf, tokensOf, Token.mem_arrange, List.mem_cons, List.mem_append,
    Option.mem_toList, Option.map_eq_some_iff, or_assoc]

theorem base_mem_columnOf_iff {q : String} :
    .base q ∈ (columnOf table f dialect p).tokens ↔ q = p := by
  simp [mem_tokens_columnOf, notMem_constraintTokens, notMem_lengthTokens, Token.slot]

theorem length_mem_columnOf_iff {n : UInt32} :
    .length n ∈ (columnOf table f dialect p).tokens ↔ f.type = .string ∧ f.length = some n := by
  simp [mem_tokens_columnOf, notMem_constraintTokens, lengthTokens, Token.slot]

theorem primaryKey_mem_columnOf_iff :
    .primaryKey ∈ (columnOf table f dialect p).tokens ↔ f.isPrimaryKey = true := by
  simp [mem_tokens_columnOf, notMem_lengthTokens, mem_constraintTokens, Token.slot]

theorem notNull_mem_columnOf_iff :
    .notNull ∈ (columnOf table f dialect p).tokens ↔
      f.required = true ∧ f.isPrimaryKey = false := by
  simp [mem_tokens_columnOf, notMem_lengthTokens, mem_constraintTokens, Token.slot]

theorem unique_mem_columnOf_iff :
    .unique ∈ (columnOf table f dialect p).tokens ↔
      f.unique = true ∧ f.isPrimaryKey = false := by
  simp [mem_tokens_columnOf, notMem_lengthTokens, mem_constraintTokens, Token.slot]

theorem references_mem_columnOf_iff {r : Reference} :
    .references r ∈ (columnOf table f dialect p).tokens ↔
      (columnOf table f dialect p).reference? = some r := by
  simp [mem_tokens_columnOf, notMem_constraintTokens, notMem_lengthTokens, Token.slot]

theorem default_mem_columnOf_iff {d : DefaultToken} :
    .default d ∈ (columnOf table f dialect p).tokens ↔
      (columnOf table f dialect p).default? = some d := by
  simp [mem_tokens_columnOf, notMem_constraintTokens, notMem_lengthTokens, Token.slot]

end columnOf

variable {table : Table} {f : Field} {target : Target} {column : Column} {e : SchemaError}

/-- A field is lowered when it is not counted up without being the key and its type has one of the
backend. -/
theorem lowerField_eq_ok_iff :
    lowerField table f target = .ok column ↔
      (f.isAutoIncrement = true → f.isPrimaryKey = true) ∧
        ∃ p, target.primitive? f.type = some p ∧ column = columnOf table f target.dialect p := by
  rw [lowerField, Target.primitive]
  split_ifs with stray
  · rw [Bool.and_eq_true, Bool.not_eq_true'] at stray
    simp [stray]
  · have counted : f.isAutoIncrement = true → f.isPrimaryKey = true := by simpa using stray
    cases target.primitive? f.type with
    | none => simp [Except.map]
    | some p =>
      simp only [Except.map, Except.ok.injEq, Option.some.injEq, exists_eq_left']
      exact ⟨fun h => ⟨counted, h.symm⟩, fun h => h.2.symm⟩

/-- A field is not lowered when it is counted up without being the key, which is reported first, or
when the backend lacks its type. -/
theorem lowerField_eq_error_iff :
    lowerField table f target = .error e ↔
      f.isAutoIncrement = true ∧ f.isPrimaryKey = false ∧
          e = .invalidTable table.name (.strayAutoIncrement f.name) ∨
        (f.isAutoIncrement = true → f.isPrimaryKey = true) ∧ target.primitive? f.type = none ∧
          e = .unsupportedType f.type target.backend target.dialect := by
  rw [lowerField, Target.primitive]
  split_ifs with stray
  · rw [Bool.and_eq_true, Bool.not_eq_true'] at stray
    simp [stray, @eq_comm _ e]
  · have counted : f.isAutoIncrement = true → f.isPrimaryKey = true := by simpa using stray
    have notStray : ¬ (f.isAutoIncrement = true ∧ f.isPrimaryKey = false) := by
      rintro ⟨hf, hkey⟩
      exact absurd (counted hf) (by simp [hkey])
    cases target.primitive? f.type with
    | none => simp_all [Except.map, @eq_comm _ e]
    | some p => simp_all [Except.map]

/-- A column says what a field of a table says. -/
structure Column.Represents (c : Column) (table : Table) (f : Field) : Prop where
  name : c.name = f.name
  type : c.type = f.type
  nullable : c.nullable = f.isNullable
  reference : c.reference? = f.foreignKey.map (referenceOf table)

theorem represents_of_lowerField (h : lowerField table f target = .ok column) :
    column.Represents table f := by
  obtain ⟨-, p, -, rfl⟩ := lowerField_eq_ok_iff.1 h
  exact ⟨rfl, rfl, rfl, reference?_columnOf table f target.dialect p⟩

/-! ## All tables -/

/-- Every foreign key of the tables leads to one of them. -/
def KeysInside (tables : List Table) : Prop :=
  ∀ t ∈ tables, ∀ k ∈ t.foreignKeys, k.2.targetTable ∈ tables.map (·.name)

theorem checkReferences_eq_ok_iff {tables : List Table} :
    checkReferences tables = .ok () ↔ KeysInside tables := by
  have inside : tables.findSome? (openKey? tables) = none ↔ KeysInside tables := by
    simp [List.findSome?_eq_none_iff, openKey?, KeysInside]
  rw [← inside, checkReferences]
  cases tables.findSome? (openKey? tables) <;> simp

variable {tables : List Table} {decls : List TableDecl}

/-- The columns of a lowered table are those of its fields. -/
theorem lowerTable_eq_ok_iff {decl : TableDecl} :
    lowerTable target table = .ok decl ↔ decl.source = table ∧
      List.Forall₂ (fun f c => lowerField table f target = .ok c) table.fields decl.columns := by
  rw [lowerTable, Except.map_eq_ok_iff]
  constructor
  · rintro ⟨columns, h, rfl⟩
    exact ⟨rfl, allOrFirstError_eq_ok_iff.1 h⟩
  · rintro ⟨rfl, h⟩
    exact ⟨decl.columns, allOrFirstError_eq_ok_iff.2 h, rfl⟩

/-- Tables are lowered when their foreign keys lead to one another and each of them is. -/
theorem lowerTables_eq_ok_iff :
    lowerTables target tables = .ok decls ↔ KeysInside tables ∧
      List.Forall₂ (fun t d => lowerTable target t = .ok d) tables decls := by
  rw [lowerTables, ← checkReferences_eq_ok_iff, ← allOrFirstError_eq_ok_iff]
  cases checkReferences tables <;> simp

/-- The tables lowered are the tables given. -/
theorem map_source_of_lowerTables (lowered : lowerTables target tables = .ok decls) :
    decls.map (·.source) = tables := by
  have sources : List.Forall₂ (fun t d => t = d.source) tables decls :=
    (lowerTables_eq_ok_iff.1 lowered).2.imp fun _ _ h => (lowerTable_eq_ok_iff.1 h).1.symm
  exact (List.forall₂_eq_eq_eq ▸ List.forall₂_map_right_iff.2 sources).symm

/-- The columns of each say what its fields say. -/
theorem represents_of_lowerTables (lowered : lowerTables target tables = .ok decls)
    {decl : TableDecl} (hd : decl ∈ decls) :
    List.Forall₂ (fun f c => c.Represents decl.source f) decl.source.fields decl.columns := by
  obtain ⟨t, -, ht⟩ := exists_mem_of_forall₂ (lowerTables_eq_ok_iff.1 lowered).2.flip hd
  obtain ⟨rfl, columns⟩ := lowerTable_eq_ok_iff.1 ht
  exact columns.imp fun _ _ h => represents_of_lowerField h

/-- Each column of each is that of one of its fields. -/
theorem exists_columnOf (lowered : lowerTables target tables = .ok decls)
    {decl : TableDecl} (hd : decl ∈ decls) (hc : column ∈ decl.columns) :
    ∃ f ∈ decl.source.fields, ∃ p, target.primitive? f.type = some p ∧
      column = columnOf decl.source f target.dialect p := by
  obtain ⟨t, -, ht⟩ := exists_mem_of_forall₂ (lowerTables_eq_ok_iff.1 lowered).2.flip hd
  obtain ⟨rfl, columns⟩ := lowerTable_eq_ok_iff.1 ht
  obtain ⟨f, hf, hcolumn⟩ := exists_mem_of_forall₂ columns.flip hc
  exact ⟨f, hf, (lowerField_eq_ok_iff.1 hcolumn).2⟩

/-- Each field of each has its column. -/
theorem exists_columnOf_of_field (lowered : lowerTables target tables = .ok decls)
    {decl : TableDecl} (hd : decl ∈ decls) (hf : f ∈ decl.source.fields) :
    ∃ p, columnOf decl.source f target.dialect p ∈ decl.columns := by
  obtain ⟨t, -, ht⟩ := exists_mem_of_forall₂ (lowerTables_eq_ok_iff.1 lowered).2.flip hd
  obtain ⟨rfl, columns⟩ := lowerTable_eq_ok_iff.1 ht
  obtain ⟨c, hc, hcolumn⟩ := exists_mem_of_forall₂ columns hf
  obtain ⟨-, p, -, rfl⟩ := lowerField_eq_ok_iff.1 hcolumn
  exact ⟨p, hc⟩

/-- The columns of each have the names of its fields. -/
theorem map_name_columns (lowered : lowerTables target tables = .ok decls) {decl : TableDecl}
    (hd : decl ∈ decls) : decl.columns.map (·.name) = decl.source.fields.map (·.name) := by
  have names : List.Forall₂ (fun f c => f.name = c.name) decl.source.fields decl.columns :=
    (represents_of_lowerTables lowered hd).imp fun _ _ represents => represents.name.symm
  exact (List.forall₂_eq_eq_eq ▸
    List.forall₂_map_left_iff.2 (List.forall₂_map_right_iff.2 names)).symm

/-- Each foreign key has a column that refers to what it leads to. -/
theorem exists_column_of_key (lowered : lowerTables target tables = .ok decls)
    {decl : TableDecl} (hd : decl ∈ decls) {k : Field × ForeignKey}
    (hk : k ∈ decl.source.foreignKeys) :
    ∃ c ∈ decl.columns, c.reference? = some (referenceOf decl.source k.2) := by
  obtain ⟨f, hf, hkey⟩ := List.mem_filterMap.1 hk
  obtain ⟨key, hheld, rfl⟩ := Option.map_eq_some_iff.1 hkey
  obtain ⟨c, hc, represents⟩ := exists_mem_of_forall₂ (represents_of_lowerTables lowered hd) hf
  exact ⟨c, hc, by rw [represents.reference, hheld, Option.map_some]⟩

/-- A column that refers to a table is that of a foreign key. -/
theorem exists_key_of_reference? (lowered : lowerTables target tables = .ok decls)
    {decl : TableDecl} (hd : decl ∈ decls) (hc : column ∈ decl.columns) {r : Reference}
    (hr : column.reference? = some r) :
    ∃ k ∈ decl.source.foreignKeys, r = referenceOf decl.source k.2 := by
  obtain ⟨f, hf, represents⟩ :=
    exists_mem_of_forall₂ (represents_of_lowerTables lowered hd).flip hc
  obtain ⟨key, hkey, href⟩ := Option.map_eq_some_iff.1 (represents.reference ▸ hr)
  refine ⟨(f, key), List.mem_filterMap.2 ⟨f, hf, ?_⟩, href.symm⟩
  rw [hkey]
  rfl

/-- The reference of a lowered column leads to one of the tables. -/
theorem target_mem_of_reference? (lowered : lowerTables target tables = .ok decls)
    {decl : TableDecl} (hd : decl ∈ decls) (hc : column ∈ decl.columns) {r : Reference}
    (hr : column.reference? = some r) : r.table ∈ decls.map (·.name) := by
  obtain ⟨k, hk, rfl⟩ := exists_key_of_reference? lowered hd hc hr
  have ht : decl.source ∈ tables := map_source_of_lowerTables lowered ▸ List.mem_map_of_mem hd
  have inside := (lowerTables_eq_ok_iff.1 lowered).1 _ ht k hk
  rw [← map_source_of_lowerTables lowered, List.map_map] at inside
  exact inside

/-- The reference of a lowered column is marked when it leads to its own table. -/
theorem selfReferencing_iff_of_reference? (lowered : lowerTables target tables = .ok decls)
    {decl : TableDecl} (hd : decl ∈ decls) (hc : column ∈ decl.columns) {r : Reference}
    (hr : column.reference? = some r) : r.selfReferencing = true ↔ r.table = decl.name := by
  obtain ⟨k, -, rfl⟩ := exists_key_of_reference? lowered hd hc hr
  rw [referenceOf, beq_iff_eq]
  rfl

/-- With names that differ, a table is found under its own. -/
theorem find?_name_of_nodup (nodup : (decls.map (·.name)).Nodup) {decl : TableDecl}
    (hd : decl ∈ decls) : decls.find? (·.name == decl.name) = some decl :=
  (find?_key_eq_some_iff nodup).2 ⟨hd, rfl⟩

/-- Lowering well-formed tables whose keys lead to one another succeeds if all types have one of
the backend. -/
theorem lowerTables_of_supported (inside : KeysInside tables)
    (wellFormed : ∀ t ∈ tables, t.WellFormed)
    (supported : ∀ t ∈ tables, ∀ f ∈ t.fields, target.primitive? f.type ≠ none) :
    ∃ decls, lowerTables target tables = .ok decls := by
  have each : ∀ t ∈ tables, ∃ d, lowerTable target t = .ok d := by
    intro t ht
    have fields : ∀ f ∈ t.fields, ∃ c, lowerField t f target = .ok c := by
      intro f hf
      obtain ⟨p, hp⟩ := Option.ne_none_iff_exists'.1 (supported t ht f hf)
      exact ⟨_, lowerField_eq_ok_iff.2
        ⟨((wellFormed t ht).lawful f hf).autoIncrement_key, p, hp, rfl⟩⟩
    obtain ⟨columns, h⟩ := exists_allOrFirstError fields
    exact ⟨_, Except.map_eq_ok_iff.2 ⟨columns, h, rfl⟩⟩
  obtain ⟨decls, h⟩ := exists_allOrFirstError each
  exact ⟨decls, lowerTables_eq_ok_iff.2 ⟨inside, allOrFirstError_eq_ok_iff.1 h⟩⟩

/-- A well-formed table is lowered, or the backend has no type for documents and the table has a
field for them. -/
theorem lowerTable_error (wellFormed : table.WellFormed) (h : lowerTable target table = .error e) :
    e = .unsupportedType .json .prisma .sqlite := by
  obtain ⟨front, f, back, split, -, hf⟩ :=
    allOrFirstError_eq_error_iff.1 (Except.map_eq_error_iff.1 h)
  have lawful := wellFormed.lawful f (by simp [split])
  rcases lowerField_eq_error_iff.1 hf with ⟨counted, noKey, -⟩ | ⟨-, unsupported, rfl⟩
  · exact absurd (lawful.autoIncrement_key counted) (by simp [noKey])
  · obtain ⟨hbackend, hdialect, htype⟩ := (target.primitive?_eq_none_iff f.type).1 unsupported
    rw [hbackend, hdialect, htype]

/-- Lowering well-formed tables whose keys lead to one another fails at any type that has none of
the backend, always with the same error. -/
theorem lowerTables_of_unsupported (inside : KeysInside tables)
    (wellFormed : ∀ t ∈ tables, t.WellFormed) (ht : table ∈ tables) (hf : f ∈ table.fields)
    (unsupported : target.primitive? f.type = none) :
    lowerTables target tables = .error (.unsupportedType .json .prisma .sqlite) := by
  have fails : ∀ d, lowerTable target table ≠ .ok d := by
    intro d h
    obtain ⟨-, columns⟩ := lowerTable_eq_ok_iff.1 h
    obtain ⟨c, -, hc⟩ := exists_mem_of_forall₂ columns hf
    obtain ⟨-, p, hp, -⟩ := lowerField_eq_ok_iff.1 hc
    exact absurd (unsupported.symm.trans hp) (by simp)
  rw [lowerTables, checkReferences_eq_ok_iff.2 inside]
  exact allOrFirstError_eq_error_of_mem ht fails
    fun t ht e h => lowerTable_error (wellFormed t ht) h

end SchemaForge
