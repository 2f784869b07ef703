import SchemaForge.Target.KeyGeneration

/-!
# Tokens of a column

A column is declared by tokens: its type, and one for each constraint on it.  Every token belongs
to a slot, and a declaration lists its tokens by slot, whatever the order in which they were found:

    type, length, primary key, not null, unique, default, reference
-/

namespace SchemaForge

/-- The value that a column takes when an insert leaves it out. -/
inductive DefaultToken
  | literal (value : DefaultValue)
  /-- The time of the insert. -/
  | now
  /-- The next number of a counter. -/
  | autoIncrement
  /-- A UUID made by the application. -/
  | randomUuid
  deriving DecidableEq, Repr

/-- What a column refers to. -/
structure Reference where
  table : String
  field : String
  onDelete : Option DeleteAction
  /-- The column refers to its own table. -/
  selfReferencing : Bool
  deriving DecidableEq, Repr

/-- A part of the declaration of a column. -/
inductive Token
  | base (primitive : String)
  | length (n : UInt32)
  | primaryKey
  | notNull
  | unique
  | default (value : DefaultToken)
  | references (target : Reference)
  deriving DecidableEq, Repr

namespace Token

/-- The place of a token in a declaration. -/
def slot : Token → Nat
  | base _ => 0
  | length _ => 1
  | primaryKey => 2
  | notNull => 3
  | unique => 4
  | default _ => 5
  | references _ => 6

/-- The number of slots. -/
def slots : Nat := 7

theorem slot_lt (t : Token) : t.slot < slots := by
  cases t <;> simp [slot, slots]

/-- The tokens by slot; those of one slot stay in their order. -/
def arrange (tokens : List Token) : List Token :=
  (List.range slots).flatMap fun i => tokens.filter (·.slot == i)

/-- Arranging loses no token and adds none. -/
theorem mem_arrange {t : Token} {tokens : List Token} : t ∈ arrange tokens ↔ t ∈ tokens := by
  simp only [arrange, List.mem_flatMap, List.mem_range, List.mem_filter, beq_iff_eq]
  exact ⟨fun ⟨_, _, h, _⟩ => h, fun h => ⟨t.slot, t.slot_lt, h, rfl⟩⟩

end Token

end SchemaForge
