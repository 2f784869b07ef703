import SchemaForge.Proofs.Drizzle.ImportUse
import SchemaForge.Proofs.Kysely.RowTypes
import SchemaForge.Proofs.Prisma.RelationPairs

/-!
# What the backends agree on

A field means the same for every backend: on one dialect its columns differ in the backend's own
type only (`Column.SameButType`), and from one dialect to another only the way an identifier that is
the key gets its values changes as well (`Column.SameButKey`).  A column knows twice whether it may
be null, by a flag and by its tokens, and each backend prints it in its own way; all of them print
what the field declares.

Main results:

* Drizzle forbids `null` by a call in the chain of a mandatory field
  (`Drizzle.forbidsNull_builderColumn_iff`);
* Prisma marks the type of an optional one (`Prisma.mark_scalarMember_iff`);
* Kysely allows `null` in no interface for a mandatory one (`Kysely.allowsNull_of_mem_properties`);
* together: `lowerings_agree`.
-/

namespace SchemaForge

/-! ## Columns of one field -/

/-- The columns say the same, but for the backend's own type. -/
structure Column.SameButType (c c' : Column) : Prop where
  name : c.name = c'.name
  type : c.type = c'.type
  keyGeneration : c.keyGeneration = c'.keyGeneration
  nullable : c.nullable = c'.nullable
  tokens : ∃ p p' rest, c.tokens = .base p :: rest ∧ c'.tokens = .base p' :: rest

/-- The columns say the same, but for the backend's own type and for how the key is generated, which
is their default. -/
structure Column.SameButKey (c c' : Column) : Prop where
  name : c.name = c'.name
  type : c.type = c'.type
  nullable : c.nullable = c'.nullable
  tokens : ∃ p p' d d' front back, c.tokens = .base p :: (front ++ .default d :: back) ∧
    c'.tokens = .base p' :: (front ++ .default d' :: back)

/-- The key of a table whose values the dialect decides on: an identifier that is not counted up by
its own flag. -/
def Field.KeyedByDialect (f : Field) : Prop :=
  f.isPrimaryKey = true ∧ f.type = .identifier ∧ f.isAutoIncrement = false

variable {table : Table} {f : Field} {b b' : Backend} {dialect dialect' : Dialect}
  {c c' : Column}

/-- How a field gets its values depends on the dialect only for the key that the dialect decides on.
-/
theorem Field.keyGeneration_eq (other : ¬ f.KeyedByDialect) (dialect dialect' : Dialect) :
    f.keyGeneration dialect = f.keyGeneration dialect' := by
  rw [keyGeneration, keyGeneration]
  split_ifs with counted key
  · rfl
  · exact absurd ⟨key.1, key.2, by simpa using counted⟩ other
  · rfl

/-- A key that the dialect decides on has a default and no other constraint, on every target. -/
theorem Field.KeyedByDialect.exists_tokensOf_eq (keyed : f.KeyedByDialect) (table : Table)
    (dialect : Dialect) (p : String) :
    ∃ d, tokensOf table f dialect p = .base p :: ([.primaryKey] ++ .default d ::
      (f.foreignKey.map fun key => Token.references (referenceOf table key)).toList) := by
  obtain ⟨key, identifier, notCounted⟩ := keyed
  -- whether the field declares a default does not matter
  obtain ⟨d, hd⟩ : ∃ d, defaultTokenOf (f.keyGeneration dialect) f.defaultValue = some d := by
    rw [keyGeneration, notCounted, if_neg (by simp), if_pos ⟨key, identifier⟩]
    cases dialect <;> exact ⟨_, rfl⟩
  refine ⟨d, ?_⟩
  rw [tokensOf_eq, hd, lengthTokens, identifier, key]
  rfl

/-- Two lowerings that generate the key alike give the same but for the type. -/
theorem sameButType_of_lowerField (h : lowerField table f ⟨b, dialect⟩ = .ok c)
    (h' : lowerField table f ⟨b', dialect'⟩ = .ok c')
    (alike : f.keyGeneration dialect = f.keyGeneration dialect') : c.SameButType c' := by
  obtain ⟨-, p, -, rfl⟩ := lowerField_eq_ok_iff.1 h
  obtain ⟨-, p', -, rfl⟩ := lowerField_eq_ok_iff.1 h'
  refine ⟨rfl, rfl, alike, rfl, p, p', _, tokensOf_eq table f dialect p, ?_⟩
  rw [alike]
  exact tokensOf_eq table f dialect' p'

/-- Two lowerings of a key that the dialect decides on give the same but for the type and the
key. -/
theorem sameButKey_of_lowerField (h : lowerField table f ⟨b, dialect⟩ = .ok c)
    (h' : lowerField table f ⟨b', dialect'⟩ = .ok c') (keyed : f.KeyedByDialect) :
    c.SameButKey c' := by
  obtain ⟨-, p, -, rfl⟩ := lowerField_eq_ok_iff.1 h
  obtain ⟨-, p', -, rfl⟩ := lowerField_eq_ok_iff.1 h'
  obtain ⟨d, tokens⟩ := keyed.exists_tokensOf_eq table dialect p
  obtain ⟨d', tokens'⟩ := keyed.exists_tokensOf_eq table dialect' p'
  exact ⟨rfl, rfl, rfl, p, p', d, d', _, _, tokens, tokens'⟩

/-! ## Mandatory fields -/

theorem Field.isMandatory_iff (f : Field) :
    f.isMandatory = true ↔ f.required = true ∨ f.isPrimaryKey = true := by
  rw [isMandatory, Bool.or_eq_true]

theorem not_nullable_columnOf_iff {p : String} :
    ¬ (columnOf table f dialect p).nullable = true ↔ f.isMandatory = true := by
  simp [columnOf, Field.isNullable]

theorem notNull_or_primaryKey_mem_tokens_iff {p : String} :
    (Token.notNull ∈ (columnOf table f dialect p).tokens ∨
      Token.primaryKey ∈ (columnOf table f dialect p).tokens) ↔ f.isMandatory = true := by
  rw [notNull_mem_columnOf_iff, primaryKey_mem_columnOf_iff, Field.isMandatory_iff]
  cases f.isPrimaryKey <;> simp

namespace Drizzle

open Text (Opens)

/-- A call in the chain of the column forbids `null`. -/
def ForbidsNull (dialect : Dialect) (c : Column) : Prop :=
  ∃ call ∈ clauses c dialect,
    Opens ".notNull(" (call.render dialect) ∨ Opens ".primaryKey(" (call.render dialect)

theorem opens_forbidding_iff {call : Clause}
    (hcall : call ∈ clauses (builderColumn table f dialect) dialect) :
    Opens ".notNull(" (call.render dialect) ∨ Opens ".primaryKey(" (call.render dialect) ↔
      call = .notNull ∨ ∃ autoIncrement, call = .primaryKey autoIncrement := by
  cases call with
  | builder name column length mode =>
    obtain ⟨type, rfl⟩ := exists_type_of_builder hcall
    refine iff_of_false ?_ (by simp)
    rintro (opens | opens) <;> exact not_opens_builder (by simp) type opens
  | primaryKey autoIncrement => cases autoIncrement <;> simp [Opens, Clause.render]
  | notNull => simp [Opens, Clause.render]
  | unique => simp [Opens, Clause.render]
  | default value =>
    cases value <;> cases dialect <;> simp [Opens, Clause.render, defaultCall]
  | references target => simp [Opens, Clause.render]

/-- The calls for the two constraints stand in the chain if the column has them. -/
theorem forbidding_mem_clauses_iff :
    (.notNull ∈ clauses c dialect ∨
        ∃ autoIncrement, .primaryKey autoIncrement ∈ clauses c dialect) ↔
      Token.notNull ∈ c.tokens ∨ Token.primaryKey ∈ c.tokens := by
  simp [mem_clauses_iff, Clause.token, clause?]

/-- The chain of a column forbids `null` if its field is mandatory. -/
theorem forbidsNull_builderColumn_iff :
    ForbidsNull dialect (builderColumn table f dialect) ↔ f.isMandatory = true := by
  rw [← notNull_or_primaryKey_mem_tokens_iff, ← builderColumn, ← forbidding_mem_clauses_iff]
  constructor
  · rintro ⟨call, hcall, opens⟩
    rcases (opens_forbidding_iff hcall).1 opens with rfl | ⟨autoIncrement, rfl⟩
    · exact .inl hcall
    · exact .inr ⟨_, hcall⟩
  · rintro (hcall | ⟨autoIncrement, hcall⟩)
    · exact ⟨_, hcall, (opens_forbidding_iff hcall).2 (.inl rfl)⟩
    · exact ⟨_, hcall, (opens_forbidding_iff hcall).2 (.inr ⟨_, rfl⟩)⟩

end Drizzle

namespace Prisma

/-- The type of the member of a column is marked as optional if the column may be null. -/
theorem mark_scalarMember_iff (known : primitive? dialect c.type = some c.primitive) :
    '?' ∈ (scalarMember dialect c).typeText.toList ↔ c.nullable = true := by
  have plain : '?' ∉ c.primitive.toList := by
    revert known
    cases dialect <;> cases c.type <;> simp [primitive?, @eq_comm _ _ c.primitive] <;>
      (intro h; rw [h]; decide)
  rw [typeText_scalarMember]
  cases c.nullable <;> simp [plain]

end Prisma

namespace Kysely

theorem allowsNull_of_mem_properties {p : Property} (known : c.primitive ∈ columnTypes)
    (hp : p ∈ (Entry.ofColumn c).properties) : AllowsNull p.type.render ↔ c.nullable = true := by
  obtain ⟨-, primitive, nullable⟩ := Entry.mem_properties_ofColumn hp
  rw [allowsNull_render_iff (primitive ▸ known), nullable]

/-- What is picked from columns belongs to some of the fields, in their order. -/
theorem sublistForall₂_filterMap {R : Field → Column → Prop} {S : Property → Field → Prop}
    {pick : Column → Option Property} {fields : List Field} {columns : List Column}
    (related : List.Forall₂ R fields columns)
    (picked : ∀ f c, R f c → ∀ p ∈ pick c, S p f) :
    List.SublistForall₂ S (columns.filterMap pick) fields := by
  induction related with
  | nil => exact .nil
  | @cons f c fields columns first _ ih =>
    cases h : pick c with
    | none =>
      rw [List.filterMap_cons_none h]
      exact .cons_right ih
    | some p =>
      rw [List.filterMap_cons_some h]
      exact .cons (picked f c first p h) ih

end Kysely

/-! ## All backends -/

/-- What the lowerings of a table agree on. -/
structure LoweringsAgree (table : Table) : Prop where
  /-- On one dialect the backends differ in their own types. -/
  backends : ∀ (f : Field) (dialect : Dialect) (b b' : Backend) (c c' : Column),
    lowerField table f ⟨b, dialect⟩ = .ok c → lowerField table f ⟨b', dialect⟩ = .ok c' →
      c.SameButType c'
  /-- On one backend the dialects differ in their own types, save for a key that they decide on. -/
  dialects : ∀ (f : Field) (b : Backend) (dialect dialect' : Dialect) (c c' : Column),
    ¬ f.KeyedByDialect → lowerField table f ⟨b, dialect⟩ = .ok c →
      lowerField table f ⟨b, dialect'⟩ = .ok c' → c.SameButType c'
  /-- A key that the dialects decide on differs in its type and in its default. -/
  keys : ∀ (f : Field) (b : Backend) (dialect dialect' : Dialect) (c c' : Column),
    f.KeyedByDialect → lowerField table f ⟨b, dialect⟩ = .ok c →
      lowerField table f ⟨b, dialect'⟩ = .ok c' → c.SameButKey c'
  /-- Drizzle forbids `null` by a call if the field is mandatory. -/
  drizzle : ∀ (f : Field) (dialect : Dialect) (c : Column),
    lowerField table f ⟨.drizzle, dialect⟩ = .ok c →
      (Drizzle.ForbidsNull dialect c ↔ f.required = true ∨ f.isPrimaryKey = true)
  /-- Prisma forbids it by a missing mark behind the type. -/
  prisma : ∀ (f : Field) (dialect : Dialect) (c : Column),
    lowerField table f ⟨.prisma, dialect⟩ = .ok c →
      ('?' ∉ (Prisma.scalarMember dialect c).typeText.toList ↔
        f.required = true ∨ f.isPrimaryKey = true)
  /-- Kysely forbids it in every interface by a type without `null`. -/
  kysely : ∀ (dialect : Dialect) (decl : TableDecl),
    lowerTable ⟨.kysely, dialect⟩ table = .ok decl →
      ∀ i ∈ Kysely.tableInterfaces decl, List.SublistForall₂
        (fun p f => p.name = f.name ∧
          (¬ Kysely.AllowsNull p.type.render ↔ f.required = true ∨ f.isPrimaryKey = true))
        i.properties table.fields

/-- The lowerings of every table agree. -/
theorem lowerings_agree (table : Table) : LoweringsAgree table where
  backends := fun f dialect b b' c c' h h' => sameButType_of_lowerField h h' rfl
  dialects := fun f b dialect dialect' c c' other h h' =>
    sameButType_of_lowerField h h' (Field.keyGeneration_eq other dialect dialect')
  keys := fun f b dialect dialect' c c' keyed h h' => sameButKey_of_lowerField h h' keyed
  drizzle := by
    intro f dialect c h
    obtain ⟨-, p, hp, rfl⟩ := lowerField_eq_ok_iff.1 h
    obtain rfl : Drizzle.primitive dialect f.type = p := Option.some.inj hp
    rw [← f.isMandatory_iff]
    exact Drizzle.forbidsNull_builderColumn_iff
  prisma := by
    intro f dialect c h
    obtain ⟨-, p, hp, rfl⟩ := lowerField_eq_ok_iff.1 h
    have known : Prisma.primitive? dialect f.type
        = some (columnOf table f dialect p).primitive := by
      rw [primitive_columnOf]
      exact hp
    rw [Prisma.mark_scalarMember_iff known, not_nullable_columnOf_iff, f.isMandatory_iff]
  kysely := by
    intro dialect decl h i hi
    obtain ⟨-, columns⟩ := lowerTable_eq_ok_iff.1 h
    obtain ⟨pick, picked, listed⟩ := Kysely.exists_filterMap_of_mem_tableInterfaces hi
    rw [listed, List.filterMap_map]
    refine Kysely.sublistForall₂_filterMap columns fun f c hc p hp => ?_
    obtain ⟨-, q, hq, rfl⟩ := lowerField_eq_ok_iff.1 hc
    obtain rfl : Kysely.primitive dialect f.type = q := Option.some.inj hq
    have mine := picked _ p hp
    have known : (columnOf table f dialect (Kysely.primitive dialect f.type)).primitive
        ∈ Kysely.columnTypes := by
      rw [primitive_columnOf]
      exact Kysely.primitive_mem_columnTypes dialect f.type
    refine ⟨(Kysely.Entry.mem_properties_ofColumn mine).1, ?_⟩
    rw [Kysely.allowsNull_of_mem_properties known mine, not_nullable_columnOf_iff,
      f.isMandatory_iff]

/-- Articles: the dialects decide on their key, and their content is optional on every target. -/
theorem lowerings_agree_posts :
    ∃ key key' content content' content'' decl,
      lowerField Builtin.posts Field.id ⟨.drizzle, .postgresql⟩ = .ok key ∧
      lowerField Builtin.posts Field.id ⟨.drizzle, .sqlite⟩ = .ok key' ∧
      key.SameButKey key' ∧ key.keyGeneration ≠ key'.keyGeneration ∧
      Drizzle.ForbidsNull .sqlite key' ∧
      lowerField Builtin.posts (.plain "content" .text) ⟨.drizzle, .sqlite⟩ = .ok content ∧
      lowerField Builtin.posts (.plain "content" .text) ⟨.prisma, .sqlite⟩ = .ok content' ∧
      lowerField Builtin.posts (.plain "content" .text) ⟨.drizzle, .mysql⟩ = .ok content'' ∧
      content.SameButType content' ∧ content ≠ content' ∧ content.SameButType content'' ∧
      ¬ Drizzle.ForbidsNull .sqlite content ∧
      '?' ∈ (Prisma.scalarMember .sqlite content').typeText.toList ∧
      lowerTable ⟨.kysely, .sqlite⟩ Builtin.posts = .ok decl ∧
      List.SublistForall₂
        (fun p f => p.name = f.name ∧
          (¬ Kysely.AllowsNull p.type.render ↔ f.required = true ∨ f.isPrimaryKey = true))
        (Kysely.tableInterface decl).properties Builtin.posts.fields := by
  have agree := lowerings_agree Builtin.posts
  have keyed : Field.id.KeyedByDialect := ⟨rfl, rfl, rfl⟩
  have other : ¬ (Field.plain "content" .text).KeyedByDialect := fun h => absurd h.1 (by decide)
  have optional : ¬ ((Field.plain "content" .text).required = true ∨
      (Field.plain "content" .text).isPrimaryKey = true) := by decide
  refine ⟨_, _, _, _, _, _, rfl, rfl,
    agree.keys .id .drizzle .postgresql .sqlite _ _ keyed rfl rfl, by decide,
    (agree.drizzle .id .sqlite _ rfl).2 (.inr rfl), rfl, rfl, rfl,
    agree.backends (.plain "content" .text) .sqlite .drizzle .prisma _ _ rfl rfl, by decide,
    agree.dialects (.plain "content" .text) .drizzle .sqlite .mysql _ _ other rfl rfl,
    fun forbids => optional ((agree.drizzle (.plain "content" .text) .sqlite _ rfl).1 forbids),
    ?_, rfl, agree.kysely .sqlite _ rfl _ List.mem_cons_self⟩
  by_contra unmarked
  exact optional ((agree.prisma (.plain "content" .text) .sqlite _ rfl).1 unmarked)

end SchemaForge
