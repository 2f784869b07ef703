import SchemaForge.Generate
import SchemaForge.Proofs.Declaration.Lowering
import SchemaForge.Proofs.Lists

/-!
# How emission ends

`emit` renders tables that nobody has validated: names may repeat, keys may lead anywhere, and
several things may be wrong at once.  `Emits` says how it ends on each list of tables, without the
nested steps in which it looks:

* a foreign key that leads out of the tables is found first, whatever else is wrong with the fields
  before it;
* then the first field that cannot be lowered decides, and its stray increment comes before its
  type;
* else all files of the backend are there.

`emission_decided` says that emission ends so, on every target.  The loops over tables and over
their fields are one scan of all fields, in the order of both (`error?_lowerTables`).
-/

namespace SchemaForge

/-! ## What is wrong with tables -/

/-- The foreign keys of all tables, by table and then by field, with the field that holds each. -/
def allKeys (tables : List Table) : List (Table × Field × ForeignKey) :=
  tables.flatMap fun t => t.foreignKeys.map fun k => (t, k)

/-- The fields of all tables, by table and then by field. -/
def allFields (tables : List Table) : List (Table × Field) :=
  tables.flatMap fun t => t.fields.map fun f => (t, f)

/-- No table has the name that the key leads to. -/
def LeadsOut (tables : List Table) (k : Table × Field × ForeignKey) : Prop :=
  k.2.2.targetTable ∉ tables.map (·.name)

/-- The field is counted up without being the key. -/
def Field.StrayIncrement (f : Field) : Prop := f.isAutoIncrement = true ∧ f.isPrimaryKey = false

/-- The field cannot be lowered: by its increment or because the backend lacks its type. -/
def Faulty (target : Target) (x : Table × Field) : Prop :=
  x.2.StrayIncrement ∨ target.primitive? x.2.type = none

variable {target : Target} {tables : List Table}

/-- The error of a key that leads out. -/
def keyError? (tables : List Table) (k : Table × Field × ForeignKey) : Option SchemaError :=
  if k.2.2.targetTable ∈ tables.map (·.name) then none
  else some (.unresolvableKey k.1.name k.2.1.name k.2.2.targetTable)

theorem keyError?_eq_none_iff (k : Table × Field × ForeignKey) :
    keyError? tables k = none ↔ ¬ LeadsOut tables k := by
  simp [keyError?, LeadsOut]

/-- The error of a field that cannot be lowered. -/
def fieldError? (target : Target) (x : Table × Field) : Option SchemaError :=
  Except.error? (lowerField x.1 x.2 target)

theorem fieldError?_eq_none_iff (x : Table × Field) :
    fieldError? target x = none ↔ ¬ Faulty target x := by
  have keyed : (x.2.isAutoIncrement = true → x.2.isPrimaryKey = true) ↔ ¬ x.2.StrayIncrement := by
    unfold Field.StrayIncrement
    simp
  unfold fieldError? Faulty
  rw [Except.error?_eq_none_iff, not_or, ← keyed, Option.eq_none_iff_forall_ne_some]
  simp [lowerField_eq_ok_iff, and_comm]

theorem fieldError?_eq_some_iff {t : Table} {f : Field} {e : SchemaError} :
    fieldError? target (t, f) = some e ↔
      f.StrayIncrement ∧ e = .invalidTable t.name (.strayAutoIncrement f.name) ∨
        ¬ f.StrayIncrement ∧ target.primitive? f.type = none ∧
          e = .unsupportedType f.type target.backend target.dialect := by
  unfold fieldError? Field.StrayIncrement
  rw [Except.error?_eq_some_iff, lowerField_eq_error_iff]
  simp [and_assoc]

/-! ## The scans -/

/-- Looking through the keys of one table after the other is one scan. -/
theorem findSome?_openKey? (all : List Table) :
    tables.findSome? (openKey? all) = (allKeys tables).findSome? (keyError? all) := by
  unfold allKeys
  rw [findSome?_flatMap]
  congr 1
  funext t
  rw [List.findSome?_map, openKey?, ← List.findSome?_guard, List.map_findSome?]
  congr 1
  funext k
  show (Option.guard _ k).map _ = keyError? all (t, k)
  unfold Option.guard keyError?
  by_cases inside : k.2.targetTable ∈ all.map (·.name)
  · rw [if_pos inside, if_neg (by simpa using inside)]
    rfl
  · rw [if_neg inside, if_pos (by simpa using inside)]
    rfl

/-- The error of lowering is that of the first key that leads out, else that of the first field
that cannot be lowered. -/
theorem error?_lowerTables : Except.error? (lowerTables target tables)
    = ((allKeys tables).findSome? (keyError? tables)).or
        ((allFields tables).findSome? (fieldError? target)) := by
  have fields : Except.error? (allOrFirstError (lowerTable target) tables)
      = (allFields tables).findSome? (fieldError? target) := by
    unfold allFields
    rw [error?_allOrFirstError, findSome?_flatMap]
    congr
    funext t
    rw [lowerTable, Except.error?_map, error?_allOrFirstError, List.findSome?_map]
    rfl
  rw [lowerTables, checkReferences, findSome?_openKey?]
  cases (allKeys tables).findSome? (keyError? tables) with
  | some e => rfl
  | none => exact fields

/-! ## The end -/

/-- How emission ends on a list of tables, whatever is in it. -/
inductive Emits (target : Target) (tables : List Table) :
    Except SchemaError (List Artifact) → Prop
  /-- The first key that leads out decides. -/
  | unresolvableKey {t : Table} {f : Field} {key : ForeignKey}
    (first : IsFirst (allKeys tables) (LeadsOut tables) (t, f, key)) :
    Emits target tables (.error (.unresolvableKey t.name f.name key.targetTable))
  /-- No key leads out, and the first field that cannot be lowered is counted up without being a
  key. -/
  | strayIncrement {t : Table} {f : Field}
    (inside : ∀ k ∈ allKeys tables, ¬ LeadsOut tables k)
    (first : IsFirst (allFields tables) (Faulty target) (t, f)) (stray : f.StrayIncrement) :
    Emits target tables (.error (.invalidTable t.name (.strayAutoIncrement f.name)))
  /-- No key leads out, and the first field that cannot be lowered has a type that the backend
  lacks. -/
  | unsupportedType {t : Table} {f : Field}
    (inside : ∀ k ∈ allKeys tables, ¬ LeadsOut tables k)
    (first : IsFirst (allFields tables) (Faulty target) (t, f)) (keyed : ¬ f.StrayIncrement) :
    Emits target tables (.error (.unsupportedType f.type target.backend target.dialect))
  /-- With nothing wrong, all tables are rendered. -/
  | files {models : List TableDecl} (inside : ∀ k ∈ allKeys tables, ¬ LeadsOut tables k)
    (sound : ∀ x ∈ allFields tables, ¬ Faulty target x)
    (lowered : List.Forall₂ (fun t d => lowerTable target t = .ok d) tables models) :
    Emits target tables (.ok (target.artifacts models))

/-- The paths of the files of a backend. -/
def Backend.paths : Backend → List String
  | .drizzle => [Drizzle.schemaPath, Drizzle.configPath]
  | .prisma => [Prisma.schemaPath]
  | .kysely => [Kysely.typesPath, Kysely.databasePath]

theorem map_path_artifacts (target : Target) (models : List TableDecl) :
    (target.artifacts models).map (·.path) = target.backend.paths := by
  unfold Target.artifacts
  cases target.backend <;> rfl

/-- Emission fails with the error of the first key that leads out, else with that of the first
field that cannot be lowered. -/
theorem emit_eq_error_iff {e : SchemaError} : emit target tables = .error e ↔
    (∃ k, IsFirst (allKeys tables) (LeadsOut tables) k ∧ keyError? tables k = some e) ∨
      (∀ k ∈ allKeys tables, ¬ LeadsOut tables k) ∧
        ∃ x, IsFirst (allFields tables) (Faulty target) x ∧ fieldError? target x = some e := by
  rw [← Except.error?_eq_some_iff, emit, Except.error?_map, error?_lowerTables,
    Option.or_eq_some_iff, findSome?_eq_some_iff_isFirst keyError?_eq_none_iff,
    findSome?_eq_none_iff_forall keyError?_eq_none_iff,
    findSome?_eq_some_iff_isFirst fieldError?_eq_none_iff]

theorem exists_emit_ok_iff : (∃ files, emit target tables = .ok files) ↔
    (∀ k ∈ allKeys tables, ¬ LeadsOut tables k) ∧ ∀ x ∈ allFields tables, ¬ Faulty target x := by
  rw [← Except.error?_eq_none_iff, emit, Except.error?_map, error?_lowerTables,
    Option.or_eq_none_iff, findSome?_eq_none_iff_forall keyError?_eq_none_iff,
    findSome?_eq_none_iff_forall fieldError?_eq_none_iff]

/-- Emission ends in one of the ways. -/
theorem emits_emit (target : Target) (tables : List Table) :
    Emits target tables (emit target tables) := by
  cases emitted : emit target tables with
  | error e =>
    rcases emit_eq_error_iff.1 emitted with
      ⟨⟨t, f, key⟩, first, found⟩ | ⟨inside, ⟨t, f⟩, first, found⟩
    · obtain rfl := Option.some.inj (Option.ite_none_left_eq_some.1 found).2
      exact .unresolvableKey first
    · rcases fieldError?_eq_some_iff.1 found with ⟨stray, rfl⟩ | ⟨keyed, -, rfl⟩
      · exact .strayIncrement inside first stray
      · exact .unsupportedType inside first keyed
  | ok files =>
    obtain ⟨inside, sound⟩ := exists_emit_ok_iff.1 ⟨files, emitted⟩
    obtain ⟨models, lowered, rfl⟩ := Except.map_eq_ok_iff.1 emitted
    exact .files inside sound (lowerTables_eq_ok_iff.1 lowered).2

/-- The tables determine how emission ends. -/
theorem Emits.emit_eq {result : Except SchemaError (List Artifact)}
    (ends : Emits target tables result) : emit target tables = result := by
  cases ends with
  | unresolvableKey first =>
    exact emit_eq_error_iff.2 (.inl ⟨_, first, if_neg first.mem.2⟩)
  | strayIncrement inside first stray =>
    refine emit_eq_error_iff.2 (.inr ⟨inside, _, first, ?_⟩)
    exact fieldError?_eq_some_iff.2 (.inl ⟨stray, rfl⟩)
  | unsupportedType inside first keyed =>
    have unsupported := first.mem.2.resolve_left keyed
    refine emit_eq_error_iff.2 (.inr ⟨inside, _, first, ?_⟩)
    exact fieldError?_eq_some_iff.2 (.inr ⟨keyed, unsupported, rfl⟩)
  | files inside sound lowered =>
    have keys : KeysInside tables := by
      intro t ht k hk
      have listed : (t, k) ∈ allKeys tables :=
        List.mem_flatMap.2 ⟨t, ht, List.mem_map_of_mem hk⟩
      exact not_not.1 (inside _ listed)
    exact Except.map_eq_ok_iff.2 ⟨_, lowerTables_eq_ok_iff.2 ⟨keys, lowered⟩, rfl⟩

/-- Emission fails when a key leads out or a field cannot be lowered, and only then. -/
theorem exists_emit_error_iff : (∃ e, emit target tables = .error e) ↔
    (∃ k ∈ allKeys tables, LeadsOut tables k) ∨ ∃ x ∈ allFields tables, Faulty target x := by
  have fails : (∃ e, emit target tables = .error e) ↔
      ¬ ∃ files, emit target tables = .ok files := by
    cases emit target tables <;> simp
  rw [fails, exists_emit_ok_iff, not_and_or]
  simp only [not_forall, not_not, exists_prop]

/-- Emission on any tables: it fails just when something is wrong, with the error of what is found
first, and else gives every file of the backend. -/
theorem emission_decided (target : Target) (tables : List Table) :
    (∀ result, emit target tables = result ↔ Emits target tables result) ∧
      ((∃ e, emit target tables = .error e) ↔
        (∃ k ∈ allKeys tables, LeadsOut tables k) ∨ ∃ x ∈ allFields tables, Faulty target x) ∧
      ∀ models, (target.artifacts models).map (·.path) = target.backend.paths := by
  refine ⟨?_, exists_emit_error_iff, map_path_artifacts target⟩
  intro result
  constructor
  · rintro rfl
    exact emits_emit target tables
  · exact Emits.emit_eq

/-- The key is found before the document that SQLite lacks in front of it. -/
example : emit ⟨.prisma, .sqlite⟩
    [⟨"logs", "Log", [.plain "entry" .json, Builtin.owner "user_id" "users" .cascade], []⟩]
      = .error (.unresolvableKey "logs" "user_id" "users") := rfl

end SchemaForge
