import SchemaForge.Proofs.Declaration.Faithful
import SchemaForge.Proofs.Drizzle.ImportUse

/-!
# What the chain of a column carries

The chain of a column is its builder and one call for each further token that has one
(`map_token_calls`).  Two kinds of tokens have none: a length, which stands among the options of
the builder, and on SQLite the default that asks for a counter, which is an option of the key.
`Chain.Complete` says what the text must have so that nothing is lost on the way, and
`renderColumn_complete` that it has it for every field that is lowered, on every dialect:

* the options of the builder are the length and the mode that there are (`render_builder`);
* every call is written with a method for its token (`callee_mem_methods`);
* a counter without a call of its own has the key to carry it, since only keys are counted up
  (`Chain.carries_of_mem`).
-/

namespace SchemaForge.Drizzle

variable {c : Column} {dialect : Dialect} {call : Clause} {t : Token}

/-! ## Tokens and calls -/

/-- Behind the builder every token has a call, but a length and a counter of SQLite. -/
def HasCall (dialect : Dialect) (t : Token) : Prop :=
  2 ≤ t.slot ∧ ¬ (t = .default .autoIncrement ∧ dialect = .sqlite)

instance (dialect : Dialect) (t : Token) : Decidable (HasCall dialect t) :=
  inferInstanceAs (Decidable (_ ∧ _))

/-- The methods that a call for a token may name. -/
def methods : Token → List String
  | .base _ => []
  | .length _ => []
  | .primaryKey => [".primaryKey"]
  | .notNull => [".notNull"]
  | .unique => [".unique"]
  | .default (.literal _) => [".default"]
  | .default .now => [".default", ".defaultNow"]
  | .default .autoIncrement => [".autoincrement", ".generatedAlwaysAsIdentity"]
  | .default .randomUuid => [".$defaultFn", ".defaultRandom"]
  | .references _ => [".references"]

/-- A token behind the type has its call, or none. -/
theorem map_token_clause? (later : 0 < t.slot) :
    (clause? c dialect t).map Clause.token = if HasCall dialect t then some t else none := by
  unfold HasCall
  cases t with
  | base p => simp [Token.slot] at later
  | default d =>
    by_cases folded : d = .autoIncrement ∧ dialect = .sqlite
    · simp [clause?, folded]
    · simp [clause?, Token.slot, Clause.token, folded]
  | _ => simp [clause?, Token.slot, Clause.token]

theorem map_token_calls {rest : List Token} (later : ∀ t ∈ rest, 0 < t.slot) :
    (rest.filterMap (clause? c dialect)).map Clause.token = rest.filter (HasCall dialect ·) := by
  rw [List.map_filterMap, ← List.filterMap_eq_filter]
  apply List.filterMap_congr
  intro t ht
  rw [map_token_clause? (later t ht), Option.guard]
  simp only [decide_eq_true_eq]

/-- A call for a token is written with one of its methods. -/
theorem callee_mem_methods (own : HasCall dialect call.token) :
    callee (call.render dialect) ∈ methods call.token := by
  cases call with
  | builder name column length mode => simp [HasCall, Clause.token, Token.slot] at own
  | primaryKey autoIncrement =>
    cases autoIncrement with
    | false =>
      show callee ".primaryKey()" ∈ [".primaryKey"]
      decide
    | true =>
      show callee ".primaryKey(\x7b autoIncrement: true \x7d)" ∈ [".primaryKey"]
      decide
  | notNull =>
    show callee ".notNull()" ∈ [".notNull"]
    decide
  | unique =>
    show callee ".unique()" ∈ [".unique"]
    decide
  | default d =>
    cases d with
    | literal v =>
      have written : (Clause.default (.literal v)).render dialect
          = ".default" ++ "(" ++ (Source.literal v ++ ")") := rfl
      rw [written, callee_append (by decide)]
      exact List.mem_singleton_self _
    | now => cases dialect <;> decide
    | autoIncrement =>
      cases dialect with
      | postgresql => decide
      | mysql => decide
      | sqlite => exact absurd ⟨rfl, rfl⟩ own.2
    | randomUuid => cases dialect <;> decide
  | references r =>
    have written : ".references(" = ".references" ++ "(" := rfl
    simp only [Clause.render, String.append_assoc]
    rw [written, callee_append (by decide)]
    exact List.mem_singleton_self _

/-! ## The builder -/

/-- A builder with the options that there are. -/
def builderText (name column : String) : Option UInt32 → Option String → String
  | none, none => name ++ "(" ++ Text.singleQuoted column ++ ")"
  | some n, none =>
    name ++ "(" ++ Text.singleQuoted column ++ ", "
      ++ Source.braced ("length: " ++ toString n.toNat) ++ ")"
  | none, some m =>
    name ++ "(" ++ Text.singleQuoted column ++ ", "
      ++ Source.braced ("mode: " ++ Text.singleQuoted m) ++ ")"
  | some n, some m =>
    name ++ "(" ++ Text.singleQuoted column ++ ", "
      ++ Source.braced ("length: " ++ toString n.toNat ++ ", " ++ "mode: " ++ Text.singleQuoted m)
      ++ ")"

theorem render_builder (name column : String) (length : Option UInt32) (mode : Option String) :
    (Clause.builder name column length mode).render dialect
      = builderText name column length mode := by
  cases length <;> cases mode <;>
    simp [Clause.render, builderOptions, builderText, Source.braced, String.append_assoc,
      -String.reduceAppend]

/-- The length of a column: that of a `string` field, else the one that its type implies. -/
def lengthOn (dialect : Dialect) (f : Field) : Option UInt32 :=
  (if f.type = .string then f.length else none).or (impliedLength? dialect f.type)

/-- Every `varchar` of MySQL has a length. -/
theorem isSome_lengthOn_mysql {target : Target} {f : Field}
    (varchar : target.primitive? f.type = some "varchar") : (lengthOn .mysql f).isSome = true := by
  obtain ⟨backend, dialect⟩ := target
  rw [lengthOn, Option.isSome_or]
  cases type : f.type with
  | identifier => simp [impliedLength?]
  | string => simp [impliedLength?]
  | _ =>
    rw [type] at varchar
    exact absurd varchar (by cases backend <;> cases dialect <;> decide)

/-! ## The chain as a whole -/

/-- The call for a key that SQLite counts up. -/
def countedKeyText : String := ".primaryKey(\x7b autoIncrement: true \x7d)"

namespace Chain

/-- The calls set a default: one is its own, or it is a counter of SQLite and that of the key asks
for it. -/
def Carries (dialect : Dialect) (calls : List Clause) (d : DefaultToken) : Prop :=
  (∃ call ∈ calls, call.token = .default d) ∨
    d = .autoIncrement ∧ dialect = .sqlite ∧
      ∃ call ∈ calls, call.token = .primaryKey ∧ call.render dialect = countedKeyText

/-- On a dialect, the text of a column is its builder and the calls, and nothing of the field that
was lowered for the target is missing there. -/
structure Complete (c : Column) (f : Field) (target : Target) (dialect : Dialect)
    (calls : List Clause) : Prop where
  written : renderColumn c dialect
    = builderText c.primitive f.name (lengthOn dialect f) (columnMode? dialect f.type)
      ++ String.join (calls.map (Clause.render dialect))
  primitive : target.primitive? f.type = some c.primitive
  /-- A `varchar` of MySQL is never without a length. -/
  sized : c.primitive = "varchar" → dialect = .mysql → (lengthOn dialect f).isSome = true
  /-- Each token that has a call has just one, at its place. -/
  once : calls.map Clause.token = c.tokens.filter (HasCall dialect ·)
  ascending : calls.Pairwise fun a b => a.token.slot < b.token.slot
  called : ∀ call ∈ calls, callee (call.render dialect) ∈ methods call.token
  /-- The call for the key asks for a counter exactly if the counter has no call of its own. -/
  key : ∀ call ∈ calls, call.token = .primaryKey → call.render dialect =
    if .default .autoIncrement ∈ c.tokens ∧ dialect = .sqlite then countedKeyText
    else ".primaryKey()"
  folded : .default .autoIncrement ∈ c.tokens → dialect = .sqlite →
    ∃ call ∈ calls, call.token = .primaryKey ∧ call.render dialect = countedKeyText
  /-- Every default of the column is set. -/
  carried : ∀ d, .default d ∈ c.tokens → Carries dialect calls d
  /-- The default of a key that is counted up is set. -/
  counter : f.keyGeneration target.dialect = .autoIncrement → Carries dialect calls .autoIncrement
  /-- The default of a key with random values is set. -/
  uuid : f.keyGeneration target.dialect = .randomUuid → Carries dialect calls .randomUuid
  /-- The default that a field declares is set. -/
  declared : ∀ v, f.keyGeneration target.dialect = .supplied → f.defaultValue = some v →
    Carries dialect calls (if v = .now then .now else .literal v)

/-! ## The calls of a column -/

/-- The calls behind the builder of a column. -/
def furtherCalls (c : Column) (dialect : Dialect) : List Clause :=
  c.tokens.tail.filterMap (clause? c dialect)

/-- The call for the key is told by its token. -/
theorem eq_of_mem_furtherCalls (hcall : call ∈ furtherCalls c dialect)
    (key : call.token = .primaryKey) : call = .primaryKey (isCountedKey c dialect) := by
  obtain ⟨t, -, ht⟩ := List.mem_filterMap.1 hcall
  obtain rfl : t = .primaryKey := (token_of_clause? ht).symm.trans key
  exact (Option.some.inj ht).symm

section columnOf

variable {table : Table} {f : Field} {lowerTo : Dialect} {p : String}

theorem renderColumn_columnOf : renderColumn (columnOf table f lowerTo p) dialect
    = builderText p f.name (lengthOn dialect f) (columnMode? dialect f.type)
      ++ String.join ((furtherCalls (columnOf table f lowerTo p) dialect).map
        (Clause.render dialect)) := by
  obtain ⟨rest, tokens, -⟩ := exists_tokens_columnOf_eq_cons table f lowerTo p
  unfold renderColumn clauses furtherCalls
  have builder : clause? (columnOf table f lowerTo p) dialect (.base p)
      = some (.builder p f.name (lengthOn dialect f) (columnMode? dialect f.type)) := by
    rw [clause?, length?_columnOf]
    rfl
  rw [tokens, List.filterMap_cons_some builder, List.map_cons, String.join_cons, render_builder,
    List.tail_cons]

theorem map_token_furtherCalls :
    (furtherCalls (columnOf table f lowerTo p) dialect).map Clause.token
      = (columnOf table f lowerTo p).tokens.filter (HasCall dialect ·) := by
  obtain ⟨rest, tokens, later⟩ := exists_tokens_columnOf_eq_cons table f lowerTo p
  have builder : ¬ HasCall dialect (.base p) := by simp [HasCall, Token.slot]
  unfold furtherCalls
  rw [tokens, List.tail_cons, map_token_calls later,
    List.filter_cons_of_neg (by simpa using builder)]

/-- A token that has a call has it among them. -/
theorem exists_call (ht : t ∈ (columnOf table f lowerTo p).tokens) (own : HasCall dialect t) :
    ∃ call ∈ furtherCalls (columnOf table f lowerTo p) dialect, call.token = t := by
  apply List.mem_map.1
  rw [map_token_furtherCalls]
  exact List.mem_filter.2 ⟨ht, by simpa using own⟩

variable (flagged : f.isAutoIncrement = true → f.isPrimaryKey = true)
include flagged

/-- The key asks for a counter when SQLite counts it. -/
theorem isCountedKey_columnOf_iff :
    isCountedKey (columnOf table f lowerTo p) dialect = true ↔
      .default .autoIncrement ∈ (columnOf table f lowerTo p).tokens ∧ dialect = .sqlite := by
  unfold isCountedKey Column.isPrimaryKey
  rw [Bool.and_eq_true, Bool.and_eq_true, List.contains_iff_mem, beq_iff_eq, beq_iff_eq,
    ← default_mem_columnOf_iff]
  constructor
  · rintro ⟨⟨-, counted⟩, sqlite⟩
    exact ⟨counted, sqlite⟩
  · rintro ⟨counted, sqlite⟩
    exact ⟨⟨primaryKey_mem_of_counted flagged counted, counted⟩, sqlite⟩

theorem render_key (hcall : call ∈ furtherCalls (columnOf table f lowerTo p) dialect)
    (key : call.token = .primaryKey) : call.render dialect =
      if .default .autoIncrement ∈ (columnOf table f lowerTo p).tokens ∧ dialect = .sqlite then
        countedKeyText
      else ".primaryKey()" := by
  rw [eq_of_mem_furtherCalls hcall key, Clause.render]
  simp only [isCountedKey_columnOf_iff flagged]
  rfl

/-- A counter without a call of its own has the key to ask for it. -/
theorem exists_countedKey
    (counted : .default .autoIncrement ∈ (columnOf table f lowerTo p).tokens)
    (sqlite : dialect = .sqlite) :
    ∃ call ∈ furtherCalls (columnOf table f lowerTo p) dialect,
      call.token = .primaryKey ∧ call.render dialect = countedKeyText := by
  have own : HasCall dialect .primaryKey := by simp [HasCall, Token.slot]
  obtain ⟨call, hcall, key⟩ := exists_call (primaryKey_mem_of_counted flagged counted) own
  refine ⟨call, hcall, key, ?_⟩
  rw [render_key flagged hcall key, if_pos ⟨counted, sqlite⟩]

/-- Every default among the tokens is set. -/
theorem carries_of_mem {d : DefaultToken}
    (hd : .default d ∈ (columnOf table f lowerTo p).tokens) :
    Carries dialect (furtherCalls (columnOf table f lowerTo p) dialect) d := by
  by_cases folded : d = .autoIncrement ∧ dialect = .sqlite
  · obtain ⟨rfl, sqlite⟩ := folded
    exact .inr ⟨rfl, sqlite, exists_countedKey flagged hd sqlite⟩
  · exact .inl (exists_call hd ⟨by simp [Token.slot], by simpa using folded⟩)

end columnOf

/-! ## Nothing is lost -/

/-- The chain of a lowered field is complete on every dialect. -/
theorem renderColumn_complete {table : Table} {f : Field} {target : Target}
    (lowered : lowerField table f target = .ok c) (dialect : Dialect) :
    ∃ calls, Complete c f target dialect calls := by
  obtain ⟨flagged, p, hp, rfl⟩ := lowerField_eq_ok_iff.1 lowered
  have once : (furtherCalls (columnOf table f target.dialect p) dialect).map Clause.token
      = (columnOf table f target.dialect p).tokens.filter (HasCall dialect ·) :=
    map_token_furtherCalls
  -- a default is set when the field lowered has it
  have carried : ∀ d, defaultTokenOf (f.keyGeneration target.dialect) f.defaultValue = some d →
      Carries dialect (furtherCalls (columnOf table f target.dialect p) dialect) d := by
    intro d hd
    apply carries_of_mem flagged
    rw [default_mem_columnOf_iff, default?_columnOf, hd]
  exact ⟨furtherCalls (columnOf table f target.dialect p) dialect,
    { written := by rw [renderColumn_columnOf, primitive_columnOf]
      primitive := by rw [hp, primitive_columnOf]
      sized := by
        rw [primitive_columnOf]
        rintro rfl rfl
        exact isSome_lengthOn_mysql hp
      once := once
      ascending := by
        rw [← List.pairwise_map (f := Clause.token) (R := fun a b => a.slot < b.slot), once]
        exact (pairwise_slot_tokensOf table f target.dialect p).filter _
      called := by
        intro call hcall
        apply callee_mem_methods
        have own := once ▸ List.mem_map_of_mem (f := Clause.token) hcall
        simpa using (List.mem_filter.1 own).2
      key := fun call hcall key => render_key flagged hcall key
      folded := exists_countedKey flagged
      carried := fun d hd => carries_of_mem flagged hd
      counter := fun generation => carried _ (by simp [defaultTokenOf_eq_some_iff, generation])
      uuid := fun generation => carried _ (by simp [defaultTokenOf_eq_some_iff, generation])
      declared := by
        intro v generation value
        apply carried
        rw [defaultTokenOf_eq_some_iff]
        by_cases now : v = .now <;> simp [generation, value, now] }⟩

/-- The key of a user: what SQLite counts up is said by the call for the key alone. -/
theorem renderColumn_complete_id :
    ∃ c, lowerField Builtin.users .id ⟨.drizzle, .sqlite⟩ = .ok c ∧
      c.tokens = [.base "integer", .primaryKey, .default .autoIncrement] ∧
      renderColumn c .sqlite = "integer('id').primaryKey(\x7b autoIncrement: true \x7d)" ∧
      ∃ calls, Complete c .id ⟨.drizzle, .sqlite⟩ .sqlite calls := by
  refine ⟨_, rfl, ?_, ?_, ?_⟩
  · decide
  · decide
  · exact renderColumn_complete rfl .sqlite

end Chain

end SchemaForge.Drizzle
