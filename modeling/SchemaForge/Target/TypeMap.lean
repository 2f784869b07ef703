import SchemaForge.Drizzle.Types
import SchemaForge.Kysely.Types
import SchemaForge.Prisma.Types
import SchemaForge.Schema.Error

/-!
# Types on a target

A target is a backend on a dialect.  `Target.primitive` gives the backend's own type for an
abstract one; only documents on Prisma with SQLite have none.
-/

namespace SchemaForge

/-- A backend on a dialect. -/
structure Target where
  backend : Backend
  dialect : Dialect
  deriving DecidableEq, Repr

namespace Target

/-- The backend's own type for a type, where it has one. -/
def primitive? (target : Target) (type : FieldType) : Option String :=
  match target.backend with
  | .drizzle => some (Drizzle.primitive target.dialect type)
  | .prisma => Prisma.primitive? target.dialect type
  | .kysely => some (Kysely.primitive target.dialect type)

/-- The backend's own type for a type, or the error that there is none. -/
def primitive (target : Target) (type : FieldType) : Except SchemaError String :=
  match target.primitive? type with
  | some p => .ok p
  | none => .error (.unsupportedType type target.backend target.dialect)

/-- Only documents on Prisma with SQLite have no type. -/
theorem primitive?_eq_none_iff (target : Target) (type : FieldType) :
    target.primitive? type = none
      ↔ target.backend = .prisma ∧ target.dialect = .sqlite ∧ type = .json := by
  obtain ⟨backend, dialect⟩ := target
  cases backend <;> cases dialect <;> cases type <;>
    simp [primitive?, Prisma.primitive?]

end Target

end SchemaForge
