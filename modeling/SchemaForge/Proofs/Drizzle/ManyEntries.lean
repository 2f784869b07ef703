import SchemaForge.Proofs.Drizzle.Associations

/-!
# Entries for many rows

A block lists the rows of other tables in two ways: those that refer to its table, and those of a
junction between its table and another one.  What an entry needs to be found again from the other
side are keys, and this is how many there are.

* A junction is a table `Between` the two ends.  It `Joins` them by two different columns, except
  where the ends are one table and the junction has a single key to it (`junctions_between`,
  `badges_are_no_junction`).
* An entry without a name is for a table that has one key to that of the block, with two
  exceptions: a table may have no key at all to one that lists its rows, and a junction may have
  several (`keys_of_unnamed`, `unnamed_without_one_key`).
-/

namespace SchemaForge.Drizzle

variable {models : List TableDecl} {table junction : TableDecl} {left right : String}
  {r : Relation} {e : Entry}

/-! ## Tables between others -/

/-- A table other than the two of the given names, with keys to both. -/
structure Between (junction : TableDecl) (left right : String) : Prop where
  ne_left : junction.name ≠ left
  ne_right : junction.name ≠ right
  to_left : junction.keysTo left ≠ []
  to_right : junction.keysTo right ≠ []

/-- Two different columns of the table refer to the two of the given names, one to each. -/
def Joins (junction : TableDecl) (left right : String) : Prop :=
  ∃ k ∈ junction.keysTo left, ∃ k' ∈ junction.keysTo right, k.name ≠ k'.name

instance (junction : TableDecl) (left right : String) : Decidable (Joins junction left right) :=
  inferInstanceAs (Decidable (∃ k ∈ junction.keysTo left, ∃ k' ∈ junction.keysTo right, _))

section Lowered

variable {tables : List Table} {goal : Target} (lowered : lowerTables goal tables = .ok models)
include lowered

theorem keysTo_ne_nil_iff (ht : table ∈ models) {name : String} :
    table.keysTo name ≠ [] ↔ name ∈ table.source.dependencies := by
  rw [Table.mem_dependencies_iff]
  constructor
  · intro some
    obtain ⟨c, hc⟩ := List.exists_mem_of_ne_nil _ some
    obtain ⟨hcolumn, reference, hreference, rfl⟩ := mem_keysTo_iff.1 hc
    obtain ⟨k, hk, rfl⟩ := exists_key_of_reference? lowered ht hcolumn hreference
    exact ⟨k, hk, rfl⟩
  · rintro ⟨k, hk, rfl⟩
    obtain ⟨c, hc, hreference⟩ := exists_column_of_key lowered ht hk
    exact List.ne_nil_of_mem (mem_keysTo_iff.2 ⟨hc, _, hreference, rfl⟩)

theorem between_iff (ht : table ∈ models) :
    (table.name != left && table.name != right && table.source.dependencies.contains left
      && table.source.dependencies.contains right) = true ↔ Between table left right := by
  simp only [Bool.and_eq_true, bne_iff_ne, List.contains_iff_mem,
    ← keysTo_ne_nil_iff lowered ht]
  exact ⟨fun ⟨⟨⟨h₁, h₂⟩, h₃⟩, h₄⟩ => ⟨h₁, h₂, h₃, h₄⟩, fun ⟨h₁, h₂, h₃, h₄⟩ => ⟨⟨⟨h₁, h₂⟩, h₃⟩, h₄⟩⟩

/-- The junction of two tables is one between them. -/
theorem between_of_junction? (h : junction? models left right = some junction) :
    junction ∈ models ∧ Between junction left right := by
  have hj : junction ∈ models := List.mem_of_find?_eq_some h
  have looked := List.find?_some h
  exact ⟨hj, (between_iff lowered hj).1 looked⟩

/-- Two tables have a junction when some table lies between them. -/
theorem exists_junction?_iff :
    (∃ junction, junction? models left right = some junction) ↔
      ∃ t ∈ models, Between t left right := by
  constructor
  · rintro ⟨junction, h⟩
    exact ⟨junction, between_of_junction? lowered h⟩
  · rintro ⟨t, ht, between⟩
    refine Option.isSome_iff_exists.1 (List.find?_isSome.2 ⟨t, ht, ?_⟩)
    exact (between_iff lowered ht).2 between

end Lowered

/-- A table between two others joins them, by two keys to the same where these are one. -/
theorem Between.joins_iff (between : Between junction left right) (linked : Linked models)
    (hj : junction ∈ models) :
    Joins junction left right ↔ (left = right → 1 < (junction.keysTo left).length) := by
  constructor
  · rintro ⟨k, hk, k', hk', hne⟩ rfl
    by_contra single
    obtain ⟨c, hc⟩ := List.length_eq_one_iff.1
      (Nat.le_antisymm (not_lt.1 single) (List.length_pos_iff.2 between.to_left))
    rw [hc, List.mem_singleton] at hk hk'
    exact hne (by rw [hk, hk'])
  · intro several
    by_cases same : left = right
    · -- the columns of one table have different names
      subst same
      have nodup : ((junction.keysTo left).map (·.name)).Nodup :=
        (linked.columns_nodup junction hj).sublist (List.filter_sublist.map _)
      match keys : junction.keysTo left, several rfl with
      | k :: k' :: rest, _ =>
        rw [keys, List.map_cons, List.map_cons, List.nodup_cons] at nodup
        have hne : k.name ≠ k'.name := fun same => nodup.1 (same ▸ List.mem_cons_self)
        exact ⟨k, by simp [keys], k', by simp [keys], hne⟩
    · -- one column has one reference
      obtain ⟨k, hk⟩ := List.exists_mem_of_ne_nil _ between.to_left
      obtain ⟨k', hk'⟩ := List.exists_mem_of_ne_nil _ between.to_right
      refine ⟨k, hk, k', hk', fun name_eq => same ?_⟩
      obtain ⟨hcolumn, reference, hreference, rfl⟩ := mem_keysTo_iff.1 hk
      obtain ⟨hcolumn', reference', hreference', rfl⟩ := mem_keysTo_iff.1 hk'
      obtain rfl := linked.column_eq_of_name hj hcolumn hcolumn' name_eq
      rw [Option.some.inj (hreference.symm.trans hreference')]

/-! ## The entry of an association -/

/-- The entry that an association of a table has in the block of the table. -/
def EntryOf (models : List TableDecl) (table : TableDecl) (r : Relation) (e : Entry) : Prop :=
  ∃ earlier later, table.source.relations = earlier ++ r :: later ∧
    bound? models table earlier r = some e

theorem mem_entries_iff_entryOf : e ∈ entries models table ↔ ∃ r, EntryOf models table r e := by
  rw [mem_entries_iff]
  constructor
  · rintro ⟨earlier, r, later, split, binds⟩
    exact ⟨r, earlier, later, split, bound?_eq_some_iff.2 binds⟩
  · rintro ⟨r, earlier, later, split, bound⟩
    exact ⟨earlier, r, later, split, bound?_eq_some_iff.1 bound⟩

/-- What an association for the rows of a junction comes to. -/
structure Routed (models : List TableDecl) (table : TableDecl) (r : Relation) : Prop where
  /-- The association has an entry when its target is there and some table lies between. -/
  entry_iff : (∃ e, EntryOf models table r e) ↔
    r.targetTable ∈ models.map (·.name) ∧ ∃ t ∈ models, Between t table.name r.targetTable
  /-- The entry goes through a table that lies between the ends. -/
  between : ∀ e, EntryOf models table r e → ∃ junction ∈ models,
    e = .through (Text.lowerCamel r.fieldName) junction ∧
      Between junction table.name r.targetTable
  /-- The table of the entry joins the two ends, by two keys to the same where these are one. -/
  joins_iff : ∀ property junction, EntryOf models table r (.through property junction) →
    (Joins junction table.name r.targetTable ↔
      (table.name = r.targetTable → 1 < (junction.keysTo table.name).length))

theorem name_of_find? {target : TableDecl} {name : String}
    (found : models.find? (·.name == name) = some target) : target.name = name := by
  simpa using List.find?_some found

section Lowered

variable {tables : List Table} {goal : Target} (lowered : lowerTables goal tables = .ok models)
include lowered

/-- The entry of an association for the rows of a junction, by its junction. -/
theorem entryOf_manyToMany (kind : r.kind = .manyToMany) (h : EntryOf models table r e) :
    ∃ junction ∈ models, e = .through (Text.lowerCamel r.fieldName) junction ∧
      Between junction table.name r.targetTable := by
  obtain ⟨_, _, -, bound⟩ := h
  cases bound?_eq_some_iff.1 bound with
  | one other | byKey other | plain other => exact absurd (kind.symm.trans other) (by simp)
  | @through target junction _ found joins =>
    obtain ⟨hj, between⟩ := between_of_junction? lowered (name_of_find? found ▸ joins)
    exact ⟨junction, hj, rfl, between⟩

theorem routed (linked : Linked models) (hr : r ∈ table.source.relations)
    (kind : r.kind = .manyToMany) : Routed models table r where
  entry_iff := by
    constructor
    · rintro ⟨e, h⟩
      obtain ⟨junction, hj, -, between⟩ := entryOf_manyToMany lowered kind h
      obtain ⟨_, _, -, bound⟩ := h
      obtain ⟨target, found, -⟩ := Option.bind_eq_some_iff.1 bound
      have there := List.mem_map_of_mem (f := (·.name)) (List.mem_of_find?_eq_some found)
      exact ⟨name_of_find? found ▸ there, junction, hj, between⟩
    · rintro ⟨there, between⟩
      obtain ⟨target, htarget, name_eq⟩ := List.mem_map.1 there
      obtain ⟨junction, joins⟩ := (exists_junction?_iff lowered).2 between
      obtain ⟨earlier, later, split⟩ := List.append_of_mem hr
      refine ⟨.through (Text.lowerCamel r.fieldName) junction, earlier, later, split, ?_⟩
      rw [bound?_manyToMany linked htarget kind name_eq.symm, name_eq, joins, Option.map_some]
  between e h := entryOf_manyToMany lowered kind h
  joins_iff property junction h := by
    obtain ⟨_, hj, same, between⟩ := entryOf_manyToMany lowered kind h
    cases same
    exact between.joins_iff linked hj

end Lowered

/-! ## Junctions -/

/-- In the schema of whatever is requested, the entries of associations for the rows of junctions
go through tables between their ends. -/
theorem junctions_between {catalog : Catalog} {requested : List String} {tables : List Table}
    (valid : catalog.Valid) (resolves : catalog.resolve requested = .ok tables)
    (dialect : Dialect) :
    ∃ models, lowerTables ⟨.drizzle, dialect⟩ tables = .ok models ∧
      ∀ table ∈ models, ∀ r ∈ table.source.relations, r.kind = .manyToMany →
        Routed models table r := by
  obtain ⟨models, lowered⟩ := exists_lowerTables valid resolves dialect
  refine ⟨models, lowered, ?_⟩
  intro table _ r hr kind
  exact routed lowered (.of_resolve valid resolves lowered) hr kind

/-- People with notes, badges and friends. -/
def club : Catalog := ⟨[
  ⟨"people", "Person", [Field.id],
    [⟨.oneToMany, "notes", "notes"⟩, ⟨.manyToMany, "people", "friends"⟩]⟩,
  ⟨"notes", "Note", [Field.id], []⟩,
  ⟨"badges", "Badge",
    [Field.id, ((Field.plain "person_id" .identifier).referencing "people" .cascade).mandatory],
    []⟩,
  ⟨"friendships", "Friendship", [
    Field.id,
    ((Field.plain "person_id" .identifier).referencing "people" .cascade).mandatory,
    ((Field.plain "friend_id" .identifier).referencing "people" .cascade).mandatory], []⟩]⟩

theorem valid_club : club.Valid := .of_accepted (by decide) (by decide)

/-- Friendships lie between people and people, and join them by two keys. -/
theorem junctions_between_club :
    ∃ models, lowerTables ⟨.drizzle, .mysql⟩ [club.tables[0], club.tables[3]] = .ok models ∧
      ∃ people ∈ models, ∃ friendships ∈ models,
        Routed models people ⟨.manyToMany, "people", "friends"⟩ ∧
          Joins friendships people.name "people" := by
  have resolves : club.resolve ["friendships"] = .ok [club.tables[0], club.tables[3]] := by cbv
  obtain ⟨models, lowered, all⟩ := junctions_between valid_club resolves .mysql
  obtain ⟨_, lowered', people, hpeople, friendships, hfriendships, entry, kind⟩ :
      ∃ models, lowerTables ⟨.drizzle, .mysql⟩ [club.tables[0], club.tables[3]] = .ok models ∧
        ∃ people ∈ models, ∃ friendships ∈ models,
          (⟨.manyToMany, "people", "friends"⟩ : Relation) ∈ people.source.relations ∧
            Joins friendships people.name "people" := ⟨_, rfl, by decide⟩
  cases lowered.symm.trans lowered'
  exact ⟨models, lowered, people, hpeople, friendships, hfriendships,
    all people hpeople _ entry rfl, kind⟩

/-- Badges are taken for a junction of people and people, though each has one person only. -/
theorem badges_are_no_junction :
    club.Valid ∧ ∃ tables models, club.resolve ["badges"] = .ok tables ∧
      lowerTables ⟨.drizzle, .postgresql⟩ tables = .ok models ∧
      ∃ people ∈ models, ∃ badges ∈ models,
        EntryOf models people ⟨.manyToMany, "people", "friends"⟩ (.through "friends" badges) ∧
          ¬ Joins badges people.name "people" := by
  have resolves : club.resolve ["badges"] = .ok [club.tables[0], club.tables[2]] := by cbv
  refine ⟨valid_club, _, _, resolves, rfl, _, List.mem_cons_self, _,
    List.mem_cons_of_mem _ List.mem_cons_self, ⟨[⟨.oneToMany, "notes", "notes"⟩], [], rfl, ?_⟩, ?_⟩
  · decide
  · decide

/-! ## Entries without a name -/

/-- The table whose rows an entry lists. -/
def Entry.rows? : Entry → Option TableDecl
  | .one .. => none
  | .many _ target _ => some target
  | .through _ junction => some junction

/-- The keys behind the entry of an association, when it has no name. -/
theorem EntryOf.keys {tables : List Table} {goal : Target} {rows : TableDecl}
    (linked : Linked models) (lowered : lowerTables goal tables = .ok models)
    (ht : table ∈ models) (h : EntryOf models table r e) (lists : e.rows? = some rows)
    (unnamed : e.relationName? table = none) :
    rows ∈ models ∧ rows.name ≠ table.name ∧
      (r.kind = .oneToMany ∧ (rows.keysTo table.name).length ≤ 1 ∨
        r.kind = .manyToMany ∧ 1 ≤ (rows.keysTo table.name).length) := by
  obtain ⟨_, _, -, bound⟩ := id h
  cases bound?_eq_some_iff.1 bound with
  | one => exact absurd lists (by simp [Entry.rows?])
  | byKey => exact absurd unnamed (by simp [Entry.relationName?])
  | plain kind found needless =>
    cases lists
    have hrows : rows ∈ models := List.mem_of_find?_eq_some found
    rw [backKeys_eq linked ht hrows, not_or, not_lt] at needless
    exact ⟨hrows, needless.1, .inl ⟨kind, needless.2⟩⟩
  | through kind =>
    obtain ⟨junction, hj, same, between⟩ := entryOf_manyToMany lowered kind h
    cases same
    cases lists
    exact ⟨hj, between.ne_left, .inr ⟨kind, List.length_pos_iff.2 between.to_left⟩⟩

/-- In the schema of whatever is requested, an entry that lists rows and has no name is for another
table.  If it lists those that refer to its own, this has one key to it or none; if it lists those
of a junction, this has one or several. -/
theorem keys_of_unnamed {catalog : Catalog} {requested : List String} {tables : List Table}
    (valid : catalog.Valid) (resolves : catalog.resolve requested = .ok tables)
    (dialect : Dialect) :
    ∃ models, lowerTables ⟨.drizzle, dialect⟩ tables = .ok models ∧
      ∀ table ∈ models, ∀ r e rows, EntryOf models table r e → e.rows? = some rows →
        e.relationName? table = none → rows ∈ models ∧ rows.name ≠ table.name ∧
          (r.kind = .oneToMany ∧ (rows.keysTo table.name).length ≤ 1 ∨
            r.kind = .manyToMany ∧ 1 ≤ (rows.keysTo table.name).length) := by
  obtain ⟨models, lowered⟩ := exists_lowerTables valid resolves dialect
  refine ⟨models, lowered, ?_⟩
  intro table ht r e rows h lists unnamed
  exact h.keys (.of_resolve valid resolves lowered) lowered ht lists unnamed

/-- The posts of users are listed without a name: one key leads from posts to users. -/
theorem keys_of_unnamed_builtin :
    ∃ models, lowerTables ⟨.drizzle, .sqlite⟩ [Builtin.users, Builtin.posts] = .ok models ∧
      ∃ users ∈ models, ∃ posts ∈ models, Entry.many "posts" posts none ∈ entries models users ∧
        (posts.keysTo users.name).length ≤ 1 := by
  have resolves : Catalog.builtin.resolve ["posts"] = .ok [Builtin.users, Builtin.posts] := by cbv
  obtain ⟨models, lowered, all⟩ := keys_of_unnamed .builtin resolves .sqlite
  obtain ⟨_, lowered', users, husers, posts, hposts, entry⟩ :
      ∃ models, lowerTables ⟨.drizzle, .sqlite⟩ [Builtin.users, Builtin.posts] = .ok models ∧
        ∃ users ∈ models, ∃ posts ∈ models,
          Entry.many "posts" posts none ∈ entries models users := ⟨_, rfl, by decide⟩
  cases lowered.symm.trans lowered'
  refine ⟨models, lowered, users, husers, posts, hposts, entry, ?_⟩
  obtain ⟨r, h⟩ := mem_entries_iff_entryOf.1 entry
  obtain ⟨-, -, ⟨-, atMostOne⟩ | ⟨kind, -⟩⟩ := all users husers r _ posts h rfl rfl
  · exact atMostOne
  · obtain ⟨_, _, same, -⟩ := entryOf_manyToMany lowered kind h
    exact absurd same (by simp)

/-- People list notes that refer to nobody, and friendships that refer to two people, both without a
name. -/
theorem unnamed_without_one_key :
    club.Valid ∧
      (∃ tables models, club.resolve ["people", "notes"] = .ok tables ∧
        lowerTables ⟨.drizzle, .postgresql⟩ tables = .ok models ∧
        ∃ people ∈ models, ∃ notes ∈ models, Entry.many "notes" notes none ∈ entries models people ∧
          notes.keysTo people.name = []) ∧
      ∃ tables models, club.resolve ["friendships"] = .ok tables ∧
        lowerTables ⟨.drizzle, .postgresql⟩ tables = .ok models ∧
        ∃ people ∈ models, ∃ friendships ∈ models,
          Entry.through "friends" friendships ∈ entries models people ∧
            (friendships.keysTo people.name).length = 2 := by
  have notes : club.resolve ["people", "notes"] = .ok [club.tables[0], club.tables[1]] := by cbv
  have friends : club.resolve ["friendships"] = .ok [club.tables[0], club.tables[3]] := by cbv
  refine ⟨valid_club, ⟨_, _, notes, rfl, ?_⟩, ⟨_, _, friends, rfl, ?_⟩⟩
  · decide
  · decide

end SchemaForge.Drizzle
