import SchemaForge.Proofs.Drizzle.Associations

/-!
# The keys behind relation names

An entry with a relation name is bound to a key, and its name is that of the table that holds the
key and of the column, with an underscore between them.  Names may have underscores themselves, so
where the table ends is not told.  `names_of_keys` says that this is all that is lost: two keys have
the same relation name when they `Blend`, and only then.  The one table is called like the other
with more behind an underscore, which the column of the other begins with (`captains_share_a_name`).
-/

namespace SchemaForge.Drizzle

variable {models : List TableDecl} {table : TableDecl} {e : Entry} {name name' : String}

/-! ## Keys with their tables -/

/-- A key column with the table that holds it. -/
structure HeldKey where
  holder : TableDecl
  column : Column
  deriving DecidableEq, Repr

/-- The relation name of a key. -/
def HeldKey.relationName (k : HeldKey) : String := relationNameOf k.holder.name k.column.name

/-- The key that an entry in the block of a table is bound to: one of the table itself for a single
row, one of the other table for many. -/
def Entry.heldKey? (table : TableDecl) : Entry → Option HeldKey
  | .one _ _ key _ _ => some ⟨table, key⟩
  | .many _ target key => key.map fun k => ⟨target, k⟩
  | .through .. => none

/-- In some block there is an entry with the relation name that is bound to the key. -/
def Names (models : List TableDecl) (name : String) (k : HeldKey) : Prop :=
  ∃ table ∈ models, ∃ e ∈ entries models table,
    e.relationName? table = some name ∧ e.heldKey? table = some k

/-- An entry with a relation name is bound to a key and has the name of the key. -/
theorem exists_heldKey (h : e.relationName? table = some name) :
    ∃ k, e.heldKey? table = some k ∧ k.relationName = name := by
  cases e with
  | one property target key reference isNamed =>
    obtain ⟨-, named⟩ := Option.ite_none_right_eq_some.1 h
    exact ⟨⟨table, key⟩, rfl, Option.some.inj named⟩
  | many property target key =>
    obtain ⟨k, rfl, named⟩ := Option.map_eq_some_iff.1 h
    exact ⟨⟨target, k⟩, rfl, named⟩
  | through => exact absurd h (by simp [Entry.relationName?])

theorem Names.eq_relationName {k : HeldKey} (h : Names models name k) : name = k.relationName := by
  obtain ⟨table, -, e, -, named, held⟩ := h
  obtain ⟨k', held', rfl⟩ := exists_heldKey named
  rw [Option.some.inj (held.symm.trans held')]

/-- The key that an entry is bound to is a column of one of the tables. -/
theorem mem_of_heldKey? (linked : Linked models) {k : HeldKey} (ht : table ∈ models)
    (he : e ∈ entries models table) (h : e.heldKey? table = some k) :
    k.holder ∈ models ∧ k.column ∈ k.holder.columns := by
  obtain ⟨_, _, _, _, binds⟩ := mem_entries_iff.1 he
  cases binds with
  | one _ _ chosen =>
    cases h
    exact ⟨ht, (mem_keysTo_iff.1 (mem_of_forwardKey? chosen)).1⟩
  | byKey _ found _ chosen =>
    cases h
    have htarget := List.mem_of_find?_eq_some found
    rw [backKeys_eq linked ht htarget] at chosen
    exact ⟨htarget, (mem_keysTo_iff.1 (mem_of_backKey? chosen)).1⟩
  | plain => exact absurd h (by simp [Entry.heldKey?])
  | through => exact absurd h (by simp [Entry.heldKey?])

theorem Names.mem (linked : Linked models) {k : HeldKey} (h : Names models name k) :
    k.holder ∈ models ∧ k.column ∈ k.holder.columns := by
  obtain ⟨table, ht, e, he, -, held⟩ := h
  exact mem_of_heldKey? linked ht he held

/-! ## Equal names -/

/-- The table of the second key is called like that of the first with more behind an underscore, and
the column of the first key like that of the second with just this before an underscore. -/
def Blend (k k' : HeldKey) : Prop :=
  ∃ link, k'.holder.name = k.holder.name ++ "_" ++ link ∧
    k.column.name = link ++ "_" ++ k'.column.name

/-- Where the second table is called like the first with something behind it, names are equal only
if this is nothing or the link between the two. -/
theorem eq_or_link_of_append {t t' a a' : String} {rest : List Char}
    (table : t'.toList = t.toList ++ rest) (column : '_' :: a.toList = rest ++ '_' :: a'.toList) :
    t = t' ∧ a = a' ∨ ∃ link, t' = t ++ "_" ++ link ∧ a = link ++ "_" ++ a' := by
  cases rest with
  | nil =>
    rw [List.append_nil, String.toList_inj] at table
    rw [List.nil_append, List.cons.injEq, String.toList_inj] at column
    exact .inl ⟨table.symm, column.2⟩
  | cons c link =>
    rw [List.cons_append, List.cons.injEq] at column
    obtain ⟨rfl, column⟩ := column
    refine .inr ⟨String.ofList link, ?_, ?_⟩
    · rw [← String.toList_inj, table]
      simp
    · rw [← String.toList_inj, column]
      simp

/-- Two pairs of a table and a column have the same relation name when they are the same, or when
what is between the one table and the other stands before the one column. -/
theorem relationNameOf_eq_iff {t t' a a' : String} :
    relationNameOf t a = relationNameOf t' a' ↔ (t = t' ∧ a = a') ∨
      (∃ link, t' = t ++ "_" ++ link ∧ a = link ++ "_" ++ a') ∨
      ∃ link, t = t' ++ "_" ++ link ∧ a' = link ++ "_" ++ a := by
  constructor
  · intro same
    have chars : t.toList ++ '_' :: a.toList = t'.toList ++ '_' :: a'.toList := by
      simpa [relationNameOf] using congrArg String.toList same
    -- the name of the one table is the beginning of that of the other
    rcases List.append_eq_append_iff.1 chars with ⟨rest, table, column⟩ | ⟨rest, table, column⟩
    · exact (eq_or_link_of_append table column).imp_right .inl
    · rcases eq_or_link_of_append table column with ⟨rfl, rfl⟩ | link
      · exact .inl ⟨rfl, rfl⟩
      · exact .inr (.inr link)
  · rintro (⟨rfl, rfl⟩ | ⟨link, rfl, rfl⟩ | ⟨link, rfl, rfl⟩)
    · rfl
    · simp only [relationNameOf, String.append_assoc]
    · simp only [relationNameOf, String.append_assoc]

/-- Names of keys are the same when the keys are, or when these blend. -/
theorem Names.eq_iff (linked : Linked models) {k k' : HeldKey} (h : Names models name k)
    (h' : Names models name' k') : name = name' ↔ k = k' ∨ Blend k k' ∨ Blend k' k := by
  obtain ⟨hholder, hcolumn⟩ := h.mem linked
  obtain ⟨hholder', hcolumn'⟩ := h'.mem linked
  rw [h.eq_relationName, h'.eq_relationName, HeldKey.relationName, HeldKey.relationName,
    relationNameOf_eq_iff]
  -- tables are told apart by their names, and so are the columns of one
  refine or_congr ⟨?_, ?_⟩ Iff.rfl
  · rintro ⟨tables, columns⟩
    obtain ⟨holder, column⟩ := k
    obtain ⟨holder', column'⟩ := k'
    obtain rfl : holder = holder' := linked.eq_of_name hholder hholder' tables
    obtain rfl : column = column' := linked.column_eq_of_name hholder hcolumn hcolumn' columns
    rfl
  · rintro rfl
    exact ⟨rfl, rfl⟩

/-- How far the relation names of a schema tell the keys apart that entries are bound to. -/
structure NamesTell (models : List TableDecl) : Prop where
  /-- An entry with a name is bound to a key of one of the tables, and has its name. -/
  bound : ∀ table ∈ models, ∀ e ∈ entries models table, ∀ name,
    e.relationName? table = some name → ∃ k, e.heldKey? table = some k ∧
      k.holder ∈ models ∧ k.column ∈ k.holder.columns ∧ name = k.relationName
  /-- Two names are the same when the keys are, or when these blend. -/
  same_iff : ∀ name name' k k', Names models name k → Names models name' k' →
    (name = name' ↔ k = k' ∨ Blend k k' ∨ Blend k' k)
  /-- A name tells the keys of tables apart none of which is called like another one with more
  behind an underscore. -/
  tells : ∀ name k k', Names models name k → Names models name k' →
    (∀ link, k'.holder.name ≠ k.holder.name ++ "_" ++ link) →
    (∀ link, k.holder.name ≠ k'.holder.name ++ "_" ++ link) → k = k'

theorem namesTell (linked : Linked models) : NamesTell models where
  bound table ht e he name named := by
    obtain ⟨k, held, rfl⟩ := exists_heldKey named
    obtain ⟨hholder, hcolumn⟩ := mem_of_heldKey? linked ht he held
    exact ⟨k, held, hholder, hcolumn, rfl⟩
  same_iff _ _ _ _ h h' := h.eq_iff linked h'
  tells name k k' h h' left right := by
    rcases (h.eq_iff linked h').1 rfl with same | ⟨link, longer, -⟩ | ⟨link, longer, -⟩
    · exact same
    · exact absurd longer (left link)
    · exact absurd longer (right link)

/-- In the schema of whatever is requested, an entry with a relation name is bound to a key of this
name, and the names of two entries are the same when the keys are or when these blend. -/
theorem names_of_keys {catalog : Catalog} {requested : List String} {tables : List Table}
    (valid : catalog.Valid) (resolves : catalog.resolve requested = .ok tables)
    (dialect : Dialect) :
    ∃ models, lowerTables ⟨.drizzle, dialect⟩ tables = .ok models ∧ NamesTell models := by
  obtain ⟨models, lowered⟩ := exists_lowerTables valid resolves dialect
  exact ⟨models, lowered, namesTell (.of_resolve valid resolves lowered)⟩

/-- A crew has a captain and a mate among the members of crews, and a member may be the captain and
the mate of a crew. -/
def crews : Catalog := ⟨[
  ⟨"crew", "Crew", [
    Field.id,
    (Field.plain "member_captain_id" .identifier).referencing "crew_member" .setNull,
    (Field.plain "member_mate_id" .identifier).referencing "crew_member" .setNull],
    [⟨.manyToOne, "crew_member", "member_captain"⟩,
      ⟨.oneToMany, "crew_member", "captain_members"⟩]⟩,
  ⟨"crew_member", "CrewMember", [
    Field.id,
    (Field.plain "captain_id" .identifier).referencing "crew" .setNull,
    (Field.plain "mate_id" .identifier).referencing "crew" .setNull],
    [⟨.oneToMany, "crew", "member_captain_crews"⟩]⟩]⟩

theorem valid_crews : crews.Valid := .of_accepted (by decide) (by decide)

/-- The names for a captain are the same since the one key blends into the other. -/
theorem names_of_keys_crews :
    ∃ models, lowerTables ⟨.drizzle, .postgresql⟩ [crews.tables[1], crews.tables[0]] = .ok models ∧
      NamesTell models ∧ ∃ crew ∈ models, ∃ one ∈ entries models crew, ∃ many ∈ entries models crew,
        ∃ k k', one.heldKey? crew = some k ∧ many.heldKey? crew = some k' ∧
          k.column.name = "member_captain_id" ∧ k'.column.name = "captain_id" ∧ Blend k k' ∧
          one.relationName? crew = many.relationName? crew := by
  have resolves : crews.resolve ["crew"] = .ok [crews.tables[1], crews.tables[0]] := by cbv
  obtain ⟨models, lowered, tell⟩ := names_of_keys valid_crews resolves .postgresql
  obtain ⟨_, lowered', crew, hcrew, one, hone, many, hmany, name, hname, name', hname', holder,
      holder', column, column'⟩ :
      ∃ models,
        lowerTables ⟨.drizzle, .postgresql⟩ [crews.tables[1], crews.tables[0]] = .ok models ∧
        ∃ crew ∈ models, ∃ one ∈ entries models crew, ∃ many ∈ entries models crew,
          ∃ name ∈ one.relationName? crew, ∃ name' ∈ many.relationName? crew,
            (one.heldKey? crew).map (·.holder.name) = some "crew" ∧
            (many.heldKey? crew).map (·.holder.name) = some "crew_member" ∧
            (one.heldKey? crew).map (·.column.name) = some "member_captain_id" ∧
            (many.heldKey? crew).map (·.column.name) = some "captain_id" := ⟨_, rfl, by decide⟩
  cases lowered.symm.trans lowered'
  obtain ⟨k, held, -⟩ := tell.bound crew hcrew one hone name hname
  obtain ⟨k', held', -⟩ := tell.bound crew hcrew many hmany name' hname'
  rw [held, Option.map_some, Option.some.injEq] at holder column
  rw [held', Option.map_some, Option.some.injEq] at holder' column'
  have blend : Blend k k' := ⟨"member", by rw [holder, holder']; rfl, by rw [column, column']; rfl⟩
  refine ⟨models, lowered, tell, crew, hcrew, one, hone, many, hmany, k, k', held, held', column,
    column', blend, ?_⟩
  rw [hname, hname', (tell.same_iff name name' k k' ⟨crew, hcrew, one, hone, hname, held⟩
    ⟨crew, hcrew, many, hmany, hname', held'⟩).2 (.inr (.inl blend))]

/-- The captain of a crew and the crews that a member is the captain of have one relation name, but
different keys. -/
theorem captains_share_a_name :
    crews.Valid ∧ ∃ tables models, crews.resolve ["crew"] = .ok tables ∧
      lowerTables ⟨.drizzle, .postgresql⟩ tables = .ok models ∧
      ∃ crew ∈ models, ∃ one ∈ entries models crew, ∃ many ∈ entries models crew,
        one.relationName? crew = some "crew_member_captain_id" ∧
        many.relationName? crew = some "crew_member_captain_id" ∧
        (one.heldKey? crew).map (fun k => (k.holder.name, k.column.name)) =
          some ("crew", "member_captain_id") ∧
        (many.heldKey? crew).map (fun k => (k.holder.name, k.column.name)) =
          some ("crew_member", "captain_id") := by
  have resolves : crews.resolve ["crew"] = .ok [crews.tables[1], crews.tables[0]] := by cbv
  refine ⟨valid_crews, _, _, resolves, rfl, _, List.mem_cons_of_mem _ List.mem_cons_self, ?_⟩
  decide

end SchemaForge.Drizzle
