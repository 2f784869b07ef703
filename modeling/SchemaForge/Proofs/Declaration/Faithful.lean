import SchemaForge.Proofs.Declaration.Lowering
import SchemaForge.Schema.Builtin

/-!
# Each token for what its field declares

`lowerField` collects the tokens of a field in the order in which it meets them and arranges them
by slot.  Here is what it must give, token by token and without its order of steps
(`Column.Faithful`), and that it gives this for every field that is lowered
(`lowerField_faithful`):

* the slots ascend strictly, so no slot is taken twice (`slots_tokensOf_sublist`);
* how the key is generated comes before the default that the field declares
  (`defaultTokenOf_eq_some_iff`);
* only a key is counted up (`primaryKey_mem_of_counted`).
-/

namespace SchemaForge

/-! ## The order of slots -/

theorem Token.slots_toList_map_sublist {α : Type} {g : α → Token} {n : Nat}
    (h : ∀ a, (g a).slot = n) (o : Option α) :
    ((o.map g).toList.map Token.slot).Sublist [n] := by
  cases o with
  | none => exact List.nil_sublist [n]
  | some a => simp [h]

section tokensOf

variable (table : Table) (f : Field) (dialect : Dialect) (primitive : String)

/-- The tokens of a field take each slot at most once, in the order of slots. -/
theorem slots_tokensOf_sublist :
    ((tokensOf table f dialect primitive).map Token.slot).Sublist (List.range Token.slots) := by
  -- each part keeps to slots of its own, and the parts stand in the order of these
  have length : ((lengthTokens f).map Token.slot).Sublist [1] := by
    rw [lengthTokens_eq]
    apply Token.slots_toList_map_sublist
    intro n
    rfl
  have constraints : ((if f.isPrimaryKey then [Token.primaryKey]
      else (if f.required then [.notNull] else []) ++ (if f.unique then [.unique] else [])).map
        Token.slot).Sublist [2, 3, 4] := by
    cases f.isPrimaryKey <;> cases f.required <;> cases f.unique <;> decide
  have default := Token.slots_toList_map_sublist (g := Token.default) (n := 5) (fun _ => rfl)
    (defaultTokenOf (f.keyGeneration dialect) f.defaultValue)
  have reference := Token.slots_toList_map_sublist (n := 6)
    (g := fun key => Token.references (referenceOf table key)) (fun _ => rfl) f.foreignKey
  rw [tokensOf_eq]
  simp only [List.map_cons, List.map_append]
  exact (((length.append constraints).append default).append reference).cons_cons 0

theorem pairwise_slot_tokensOf :
    (tokensOf table f dialect primitive).Pairwise fun a b => a.slot < b.slot :=
  List.pairwise_map.1
    (List.pairwise_lt_range.sublist (slots_tokensOf_sublist table f dialect primitive))

end tokensOf

/-- A column starts with its type, and all other tokens stand in later slots. -/
theorem exists_tokens_columnOf_eq_cons (table : Table) (f : Field) (dialect : Dialect)
    (primitive : String) : ∃ rest, (columnOf table f dialect primitive).tokens
      = .base primitive :: rest ∧ ∀ t ∈ rest, 0 < t.slot := by
  have ascending := pairwise_slot_tokensOf table f dialect primitive
  rw [tokensOf_eq] at ascending
  refine ⟨_, tokensOf_eq table f dialect primitive, ?_⟩
  intro t ht
  exact (List.pairwise_cons.1 ascending).1 t ht

/-! ## Where a default comes from -/

section defaultTokenOf

variable {generation : KeyGeneration} {declared : Option DefaultValue}

/-- A field has no default if it declares none and the caller gives its value. -/
theorem defaultTokenOf_eq_none_iff :
    defaultTokenOf generation declared = none ↔ generation = .supplied ∧ declared = none := by
  unfold defaultTokenOf
  cases generation <;> rcases declared with _ | _ | _ <;> simp

/-- A field with a default has that of its key, or the one that it declares, of which the time of
the insert has a token of its own. -/
theorem defaultTokenOf_eq_some_iff {d : DefaultToken} :
    defaultTokenOf generation declared = some d ↔
      generation = .autoIncrement ∧ d = .autoIncrement ∨
        generation = .randomUuid ∧ d = .randomUuid ∨
        generation = .supplied ∧ (declared = some .now ∧ d = .now ∨
          ∃ v, declared = some v ∧ v ≠ .now ∧ d = .literal v) := by
  unfold defaultTokenOf
  cases generation <;> rcases declared with _ | _ | _ <;> simp [@eq_comm _ d]

end defaultTokenOf

/-- A field that is lowered is counted up only as the key: by its flag, which is refused on others,
or as an identifier of a dialect that counts its keys. -/
theorem primaryKey_mem_of_counted {table : Table} {f : Field} {dialect : Dialect} {p : String}
    (flagged : f.isAutoIncrement = true → f.isPrimaryKey = true)
    (counted : .default .autoIncrement ∈ (columnOf table f dialect p).tokens) :
    .primaryKey ∈ (columnOf table f dialect p).tokens := by
  rw [default_mem_columnOf_iff, default?_columnOf, defaultTokenOf_eq_some_iff] at counted
  have generation : f.keyGeneration dialect = .autoIncrement := by simpa using counted
  rw [primaryKey_mem_columnOf_iff]
  unfold Field.keyGeneration at generation
  by_cases flag : f.isAutoIncrement = true
  · exact flagged flag
  · by_cases identifier : f.isPrimaryKey = true ∧ f.type = .identifier
    · exact identifier.1
    · rw [if_neg flag, if_neg identifier] at generation
      exact absurd generation (by decide)

/-! ## Faithful columns -/

/-- A column says of a field of a table what the field declares, and nothing else. -/
structure Column.Faithful (c : Column) (table : Table) (f : Field) (target : Target) : Prop where
  name : c.name = f.name
  type : c.type = f.type
  keyGeneration : c.keyGeneration = f.keyGeneration target.dialect
  /-- The tokens stand in the order of their slots, no two in one. -/
  ascending : c.tokens.Pairwise fun a b => a.slot < b.slot
  /-- The first is the type that the backend has for that of the field. -/
  base : ∃ p, target.primitive? f.type = some p ∧ c.tokens.head? = some (.base p)
  primaryKey : .primaryKey ∈ c.tokens ↔ f.isPrimaryKey = true
  notNull : .notNull ∈ c.tokens ↔ f.required = true ∧ f.isPrimaryKey = false
  unique : .unique ∈ c.tokens ↔ f.unique = true ∧ f.isPrimaryKey = false
  length : ∀ n, .length n ∈ c.tokens ↔ f.type = .string ∧ f.length = some n
  references : ∀ r, .references r ∈ c.tokens ↔ ∃ key, f.foreignKey = some key ∧
    r.table = key.targetTable ∧ r.field = key.targetField ∧ r.onDelete = key.onDelete ∧
    (r.selfReferencing = true ↔ key.targetTable = table.name)
  noDefault : (∀ d, .default d ∉ c.tokens) ↔
    f.keyGeneration target.dialect = .supplied ∧ f.defaultValue = none
  autoIncrement : .default .autoIncrement ∈ c.tokens ↔
    f.keyGeneration target.dialect = .autoIncrement
  randomUuid : .default .randomUuid ∈ c.tokens ↔ f.keyGeneration target.dialect = .randomUuid
  now : .default .now ∈ c.tokens ↔
    f.keyGeneration target.dialect = .supplied ∧ f.defaultValue = some .now
  literal : ∀ v, .default (.literal v) ∈ c.tokens ↔
    f.keyGeneration target.dialect = .supplied ∧ f.defaultValue = some v ∧ v ≠ .now
  /-- What is counted up is the key. -/
  counted : .default .autoIncrement ∈ c.tokens → .primaryKey ∈ c.tokens
  /-- Nothing but the two constraints forbids `null`. -/
  nullable : c.nullable = true ↔ .primaryKey ∉ c.tokens ∧ .notNull ∉ c.tokens

theorem eq_referenceOf_iff {r : Reference} {table : Table} {key : ForeignKey} :
    r = referenceOf table key ↔
      r.table = key.targetTable ∧ r.field = key.targetField ∧ r.onDelete = key.onDelete ∧
        (r.selfReferencing = true ↔ key.targetTable = table.name) := by
  obtain ⟨target, field, onDelete, selfReferencing⟩ := r
  rw [referenceOf, Reference.mk.injEq, Bool.eq_iff_iff, beq_iff_eq]

variable {table : Table} {f : Field} {target : Target} {c : Column}

/-- Lowering a field is faithful. -/
theorem lowerField_faithful (lowered : lowerField table f target = .ok c) :
    c.Faithful table f target := by
  obtain ⟨flagged, p, hp, rfl⟩ := lowerField_eq_ok_iff.1 lowered
  exact
    { name := rfl
      type := rfl
      keyGeneration := rfl
      ascending := pairwise_slot_tokensOf table f target.dialect p
      base := by
        obtain ⟨rest, tokens, -⟩ := exists_tokens_columnOf_eq_cons table f target.dialect p
        refine ⟨p, hp, ?_⟩
        rw [tokens, List.head?_cons]
      primaryKey := primaryKey_mem_columnOf_iff
      notNull := notNull_mem_columnOf_iff
      unique := unique_mem_columnOf_iff
      length := fun _ => length_mem_columnOf_iff
      references := by
        intro r
        simp only [references_mem_columnOf_iff, reference?_columnOf, Option.map_eq_some_iff,
          ← eq_referenceOf_iff, @eq_comm _ r]
      noDefault := by
        simp only [default_mem_columnOf_iff, default?_columnOf, ← Option.eq_none_iff_forall_ne_some,
          defaultTokenOf_eq_none_iff]
      autoIncrement := by
        simp [default_mem_columnOf_iff, defaultTokenOf_eq_some_iff]
      randomUuid := by
        simp [default_mem_columnOf_iff, defaultTokenOf_eq_some_iff]
      now := by
        simp [default_mem_columnOf_iff, defaultTokenOf_eq_some_iff]
      literal := by
        intro v
        simp [default_mem_columnOf_iff, defaultTokenOf_eq_some_iff]
      counted := primaryKey_mem_of_counted flagged
      nullable := by
        rw [primaryKey_mem_columnOf_iff, notNull_mem_columnOf_iff]
        show f.isNullable = true ↔ _
        unfold Field.isNullable Field.isMandatory
        cases f.isPrimaryKey <;> cases f.required <;> simp }

/-- The slug of the category above, for a table that refers to itself: it declares all but a key. -/
def slugAbove : Field :=
  ((Builtin.bounded "above" 100).mandatory.distinct.defaulting (.text "root")).referencing
    "categories" .setNull

/-- The slug of the category above has all tokens but that of a key. -/
theorem lowerField_faithful_slugAbove :
    ∃ c, lowerField Builtin.categories slugAbove ⟨.drizzle, .postgresql⟩ = .ok c ∧
      c.tokens = [.base "varchar", .length 100, .notNull, .unique,
        .default (.literal (.text "root")),
        .references ⟨"categories", "id", some .setNull, true⟩] ∧
      c.Faithful Builtin.categories slugAbove ⟨.drizzle, .postgresql⟩ := by
  refine ⟨_, rfl, ?_, ?_⟩
  · decide
  · exact lowerField_faithful rfl

end SchemaForge
