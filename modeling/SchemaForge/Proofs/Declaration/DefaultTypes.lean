import SchemaForge.Proofs.Declaration.Faithful

/-!
# Defaults and the types of their columns

A default that is no literal makes values of one kind: a counter makes numbers, a random UUID goes
into a column for UUIDs or for texts, and the time of the insert is a timestamp
(`DefaultToken.Fits`).  Lowering takes the default from the flag, the key and the declaration of a
field, the type from its type, and does not compare the two.

* A random UUID fits always, and so does a counter that the type of the key asks for.  The time of
  the insert is a word of its own among defaults, which any field may declare (`default_fits`).
* All defaults fit exactly when a flagged field is of a type that has numbers on the target and a
  field whose value is the time of the insert is a timestamp (`defaultFits_iff`).
* That holds on every target if the flagged fields are integers (`Field.defaultSuits_all_iff`), and
  so for every field of the built-in tables (`defaultSuits_builtin`).
-/

namespace SchemaForge

/-! ## Types for counters and for UUIDs -/

/-- The types of the backends for whole numbers. -/
def numberTypes : List String := ["integer", "int", "Int", "number"]

/-- The types of the backends for UUIDs: one of its own, or one for texts. -/
def uuidTypes : List String := ["uuid", "varchar", "text", "String", "string"]

/-- The backend stores a type as whole numbers on the dialect.  SQLite does so for most types, but
Prisma has booleans and times there too, and Kysely reads times as texts. -/
def Target.hasNumbersFor (target : Target) : FieldType → Bool
  | .integer => true
  | .identifier => target.dialect == .sqlite
  | .boolean => target.dialect == .sqlite && target.backend != .prisma
  | .timestamp => target.dialect == .sqlite && target.backend == .drizzle
  | _ => false

namespace Target

variable {target : Target} {type : FieldType} {p : String}

theorem mem_numberTypes_iff (mapped : target.primitive? type = some p) :
    p ∈ numberTypes ↔ target.hasNumbersFor type = true := by
  obtain ⟨backend, dialect⟩ := target
  cases backend <;> cases dialect <;> cases type <;> cases mapped <;> decide

theorem mem_uuidTypes_of_identifier (mapped : target.primitive? .identifier = some p)
    (other : target.dialect ≠ .sqlite) : p ∈ uuidTypes := by
  obtain ⟨backend, dialect⟩ := target
  cases dialect with
  | sqlite => exact absurd rfl other
  | postgresql => cases backend <;> cases mapped <;> decide
  | mysql => cases backend <;> cases mapped <;> decide

theorem hasNumbersFor_identifier (sqlite : target.dialect = .sqlite) :
    target.hasNumbersFor .identifier = true := by
  rw [hasNumbersFor, sqlite]
  rfl

/-- Integers alone are numbers everywhere. -/
theorem hasNumbersFor_all_iff :
    (∀ target : Target, target.hasNumbersFor type = true) ↔ type = .integer := by
  constructor
  · intro all
    have postgresql := all ⟨.drizzle, .postgresql⟩
    cases type <;> first | rfl | cases postgresql
  · rintro rfl target
    rfl

end Target

/-! ## How a field gets its values -/

namespace Field

variable {f : Field} {dialect : Dialect}

/-- A field is counted up by its flag, or as an identifier that SQLite counts. -/
theorem keyGeneration_eq_autoIncrement_iff :
    f.keyGeneration dialect = .autoIncrement ↔
      f.isAutoIncrement = true ∨ f.isPrimaryKey = true ∧ f.type = .identifier ∧
        dialect = .sqlite := by
  unfold keyGeneration
  split_ifs with flag identifier
  · simp [flag]
  · cases dialect <;> simp [flag, identifier, Dialect.identifierGeneration]
  · simp only [flag, false_or, reduceCtorEq, false_iff]
    exact fun h => identifier ⟨h.1, h.2.1⟩

/-- UUIDs are made for the identifiers of the other dialects. -/
theorem keyGeneration_eq_randomUuid_iff :
    f.keyGeneration dialect = .randomUuid ↔
      f.isAutoIncrement = false ∧ f.isPrimaryKey = true ∧ f.type = .identifier ∧
        dialect ≠ .sqlite := by
  unfold keyGeneration
  split_ifs with flag identifier
  · simp [flag]
  · cases dialect <;> simp [flag, identifier, Dialect.identifierGeneration]
  · simp only [false_iff]
    exact fun h => identifier ⟨h.2.1, h.2.2.1⟩

/-- Whether the caller gives the values does not depend on the dialect. -/
theorem keyGeneration_eq_supplied_iff :
    f.keyGeneration dialect = .supplied ↔
      f.isAutoIncrement = false ∧ ¬ (f.isPrimaryKey = true ∧ f.type = .identifier) := by
  unfold keyGeneration
  split_ifs with flag identifier
  · simp [flag]
  · cases dialect <;> simp [identifier, Dialect.identifierGeneration]
  · simp [flag, identifier]

end Field

/-! ## Defaults that fit -/

/-- The column can hold the values that a default makes.  A literal is what the field declares. -/
def DefaultToken.Fits (c : Column) : DefaultToken → Prop
  | .literal _ => True
  | .now => c.type = .timestamp
  | .autoIncrement => c.primitive ∈ numberTypes
  | .randomUuid => c.primitive ∈ uuidTypes

/-- The default of a column fits, if there is one. -/
def Column.DefaultFits (c : Column) : Prop := ∀ d, .default d ∈ c.tokens → d.Fits c

/-- What a field has to be for its default to fit on a target. -/
structure Field.DefaultSuits (f : Field) (target : Target) : Prop where
  /-- A flagged field has a type with numbers. -/
  counted : f.isAutoIncrement = true → target.hasNumbersFor f.type = true
  /-- A field is a timestamp if the time of the insert stands for values that are left out. -/
  timed : f.keyGeneration target.dialect = .supplied → f.defaultValue = some .now →
    f.type = .timestamp

variable {table : Table} {f : Field} {target : Target} {c : Column}

/-- A field suits every target if it counts integers alone and has timestamps alone for the time of
the insert.  Validation checks neither. -/
theorem Field.defaultSuits_all_iff :
    (∀ target, f.DefaultSuits target) ↔
      (f.isAutoIncrement = true → f.type = .integer) ∧
        (f.isAutoIncrement = false → ¬ (f.isPrimaryKey = true ∧ f.type = .identifier) →
          f.defaultValue = some .now → f.type = .timestamp) := by
  constructor
  · intro suits
    refine ⟨?_, ?_⟩
    · intro flag
      exact Target.hasNumbersFor_all_iff.1 fun target => (suits target).counted flag
    · intro flag identifier
      exact (suits ⟨.drizzle, .postgresql⟩).timed
        (Field.keyGeneration_eq_supplied_iff.2 ⟨flag, identifier⟩)
  · rintro ⟨counted, timed⟩ target
    refine ⟨?_, ?_⟩
    · intro flag
      exact Target.hasNumbersFor_all_iff.2 (counted flag) target
    · intro supplied
      obtain ⟨flag, identifier⟩ := Field.keyGeneration_eq_supplied_iff.1 supplied
      exact timed flag identifier

/-- The fields of the built-in tables suit every target. -/
theorem defaultSuits_builtin :
    ∀ t ∈ Builtin.tables, ∀ f ∈ t.fields, ∀ target, f.DefaultSuits target := by
  have suits : ∀ t ∈ Builtin.tables, ∀ f ∈ t.fields,
      (f.isAutoIncrement = true → f.type = .integer) ∧
        (f.isAutoIncrement = false → ¬ (f.isPrimaryKey = true ∧ f.type = .identifier) →
          f.defaultValue = some .now → f.type = .timestamp) := by decide
  intro t ht f hf
  exact Field.defaultSuits_all_iff.2 (suits t ht f hf)

section lowerField

variable (lowered : lowerField table f target = .ok c)
include lowered

theorem primitive?_of_lowerField : target.primitive? f.type = some c.primitive := by
  obtain ⟨-, p, mapped, rfl⟩ := lowerField_eq_ok_iff.1 lowered
  rw [mapped, primitive_columnOf]

theorem mem_uuidTypes_of_randomUuid (uuid : .default .randomUuid ∈ c.tokens) :
    c.primitive ∈ uuidTypes := by
  have mapped := primitive?_of_lowerField lowered
  obtain ⟨-, -, identifier, other⟩ := Field.keyGeneration_eq_randomUuid_iff.1
    ((lowerField_faithful lowered).randomUuid.1 uuid)
  rw [identifier] at mapped
  exact Target.mem_uuidTypes_of_identifier mapped other

/-- A counter counts in numbers if the type of the field has numbers, and only a flag asks for one
elsewhere. -/
theorem mem_numberTypes_iff_of_autoIncrement (counter : .default .autoIncrement ∈ c.tokens) :
    c.primitive ∈ numberTypes ↔
      (f.isAutoIncrement = true → target.hasNumbersFor f.type = true) := by
  rw [Target.mem_numberTypes_iff (primitive?_of_lowerField lowered)]
  constructor
  · exact fun numbers _ => numbers
  · intro flagged
    rcases Field.keyGeneration_eq_autoIncrement_iff.1
      ((lowerField_faithful lowered).autoIncrement.1 counter) with flag | ⟨-, identifier, sqlite⟩
    · exact flagged flag
    · rw [identifier]
      exact Target.hasNumbersFor_identifier sqlite

/-- All defaults fit exactly if the field suits the target. -/
theorem defaultFits_iff : c.DefaultFits ↔ f.DefaultSuits target := by
  have faithful := lowerField_faithful lowered
  constructor
  · intro fits
    refine ⟨?_, ?_⟩
    · intro flag
      have counter := faithful.autoIncrement.2
        (Field.keyGeneration_eq_autoIncrement_iff.2 (.inl flag))
      exact (mem_numberTypes_iff_of_autoIncrement lowered counter).1 (fits _ counter) flag
    · intro supplied declared
      exact faithful.type.symm.trans (fits .now (faithful.now.2 ⟨supplied, declared⟩))
  · intro suits d hd
    cases d with
    | literal value => trivial
    | now =>
      obtain ⟨supplied, declared⟩ := faithful.now.1 hd
      exact faithful.type.trans (suits.timed supplied declared)
    | autoIncrement => exact (mem_numberTypes_iff_of_autoIncrement lowered hd).2 suits.counted
    | randomUuid => exact mem_uuidTypes_of_randomUuid lowered hd

/-- A random UUID is made for a column that holds UUIDs, and a counter counts in numbers where no
flag asks for it on a field of another type.  The time of the insert stands where the field declares
it and its value is not made in another way, whatever its type. -/
theorem default_fits :
    (.default .randomUuid ∈ c.tokens → c.primitive ∈ uuidTypes) ∧
      (.default .autoIncrement ∈ c.tokens →
        (f.isAutoIncrement = true → target.hasNumbersFor f.type = true) →
        c.primitive ∈ numberTypes) ∧
      (.default .now ∈ c.tokens ↔
        f.keyGeneration target.dialect = .supplied ∧ f.defaultValue = some .now) := by
  refine ⟨mem_uuidTypes_of_randomUuid lowered, ?_, (lowerField_faithful lowered).now⟩
  exact fun counter => (mem_numberTypes_iff_of_autoIncrement lowered counter).2

end lowerField

/-- Posts on SQLite: the key, an identifier, is counted in numbers. -/
theorem default_fits_posts :
    ∃ c, lowerField Builtin.posts Field.id ⟨.drizzle, .sqlite⟩ = .ok c ∧
      .default .autoIncrement ∈ c.tokens ∧ c.primitive ∈ numberTypes := by
  obtain ⟨c, lowered, counter⟩ :
      ∃ c, lowerField Builtin.posts Field.id ⟨.drizzle, .sqlite⟩ = .ok c ∧
        .default .autoIncrement ∈ c.tokens := ⟨_, rfl, by decide⟩
  have unflagged : Field.id.isAutoIncrement = false := rfl
  refine ⟨c, lowered, counter, (default_fits lowered).2.1 counter ?_⟩
  rw [unflagged]
  rintro ⟨⟩

/-- Badges by a code, which is a text and yet counted up, with a remark, which is a text and yet the
time of the insert if it is left out. -/
def badges : Table where
  name := "badges"
  displayName := "Badge"
  fields := [
    { name := "code", type := .string, isPrimaryKey := true, isAutoIncrement := true },
    (Field.plain "remark" .text).defaulting .now]

/-- Validation accepts the badges, and both defaults stand on columns that they do not fit. -/
theorem badges_are_counted :
    badges.validate = .ok () ∧
      ∃ code remark, lowerTable ⟨.drizzle, .postgresql⟩ badges = .ok ⟨badges, [code, remark]⟩ ∧
        .default .autoIncrement ∈ code.tokens ∧ code.primitive = "varchar" ∧
        .default .now ∈ remark.tokens ∧ remark.type = .text ∧
        ¬ code.DefaultFits ∧ ¬ remark.DefaultFits := by
  obtain ⟨code, remark, lowered, counter, varchar, now, text⟩ :
      ∃ code remark, lowerTable ⟨.drizzle, .postgresql⟩ badges = .ok ⟨badges, [code, remark]⟩ ∧
        .default .autoIncrement ∈ code.tokens ∧ code.primitive = "varchar" ∧
        .default .now ∈ remark.tokens ∧ remark.type = .text :=
    ⟨_, _, rfl, by decide, by decide, by decide, rfl⟩
  refine ⟨rfl, code, remark, lowered, counter, varchar, now, text, ?_, ?_⟩
  · intro fits
    have numbers : code.primitive ∈ numberTypes := fits .autoIncrement counter
    rw [varchar] at numbers
    exact absurd numbers (by decide)
  · intro fits
    have timed : remark.type = .timestamp := fits .now now
    rw [text] at timed
    cases timed

end SchemaForge
