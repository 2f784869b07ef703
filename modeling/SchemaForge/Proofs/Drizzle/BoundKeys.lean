import SchemaForge.Proofs.Drizzle.ManyEntries

/-!
# The keys of siblings

Several keys may lead from one table to another, for the associations between the two to share out.
The associations of one kind that a table declares to another one are `siblings`.  Where there are
keys enough, each of them has an entry that is bound to a key and named after it.

Each finds its key by itself, however: the first that its name `fits`, or else the one at its
`reserve`.  `Meet` lists the ways in which two of them come to the same key then, and
`keys_of_siblings` says that there are no others.  Names that find different keys do not meet
(`not_meet_of_find?`), but a name with a key of its own may find another one before, the stem of
which is part of its own (`coauthors_share_a_key`).
-/

namespace SchemaForge.Drizzle

variable {models : List TableDecl} {table target : TableDecl} {kind : RelationKind}
  {keys : List Column} {key : Column} {r s : Relation} {i j : Nat} {name name' : String}
  {e e' : Entry}

/-! ## Siblings -/

/-- The associations of a kind to a table, in the order of their declarations. -/
def siblings (kind : RelationKind) (target : String) (relations : List Relation) : List Relation :=
  relations.filter fun r => r.kind == kind && r.targetTable == target

theorem countBack_eq (relations : List Relation) (target : String) :
    countBack relations target = (siblings .oneToMany target relations).length :=
  List.countP_eq_length_filter

/-- The place of an association among its siblings is the number of those before it. -/
theorem getElem?_siblings_iff {relations : List Relation} {target : String} :
    (siblings kind target relations)[i]? = some r ↔ ∃ earlier later,
      relations = earlier ++ r :: later ∧ (r.kind = kind ∧ r.targetTable = target) ∧
        (siblings kind target earlier).length = i := by
  constructor
  · intro at_i
    obtain ⟨hi, hr⟩ := List.getElem?_eq_some_iff.1 at_i
    have split := (List.take_append_drop i (siblings kind target relations)).symm
    rw [List.drop_eq_getElem_cons hi, hr] at split
    obtain ⟨front, back, rfl, hfront, hback⟩ := List.filter_eq_append_iff.1 split
    obtain ⟨others, later, rfl, none_of, is, -⟩ := List.filter_eq_cons_iff.1 hback
    refine ⟨front ++ others, later, by rw [List.append_assoc], by simpa using is, ?_⟩
    rw [siblings, List.filter_append, hfront, List.filter_eq_nil_iff.2 none_of, List.append_nil,
      List.length_take_of_le (Nat.le_of_lt hi)]
  · rintro ⟨earlier, later, rfl, ⟨rfl, rfl⟩, rfl⟩
    have parts : siblings r.kind r.targetTable (earlier ++ r :: later) =
        siblings r.kind r.targetTable earlier ++ r :: siblings r.kind r.targetTable later := by
      rw [siblings, List.filter_append, List.filter_cons_of_pos (by simp)]
      rfl
    rw [parts, List.getElem?_append_right (Nat.le_refl _), Nat.sub_self, List.getElem?_cons_zero]

/-! ## Choosing among keys -/

/-- The name of an association fits a key: for one row it is the stem of the key, for many it has
the stem in it. -/
def fits (kind : RelationKind) (name : String) (key : Column) : Bool :=
  match kind with
  | .manyToOne => keyStem key.name == name
  | _ => Text.containsText name (keyStem key.name)

/-- The place of the key for an association whose name fits none: the first for one row, that of
the association among its siblings for many. -/
def reserve (kind : RelationKind) (place : Nat) : Nat :=
  match kind with
  | .manyToOne => 0
  | _ => place

/-- The key of an association by its name and its place among its siblings. -/
def keyFor? (kind : RelationKind) (keys : List Column) (name : String) (place : Nat) :
    Option Column :=
  (keys.find? (fits kind name)).or keys[reserve kind place]?

theorem forwardKey?_eq (keys : List Column) (name : String) (place : Nat) :
    forwardKey? keys name = keyFor? .manyToOne keys name place := by
  rw [forwardKey?, List.head?_eq_getElem?]
  rfl

theorem backKey?_eq (keys : List Column) (name : String) (place : Nat) :
    backKey? keys name place = keyFor? .oneToMany keys name place :=
  rfl

/-- Two siblings, given by their names and places, come to the same key. -/
inductive Meet (kind : RelationKind) (keys : List Column) (name name' : String) (i j : Nat) : Prop
  /-- The first key with a stem that is in the one name is the first for the other as well. -/
  | named {key : Column} (kind_eq : kind = .oneToMany)
      (left : keys.find? (fits kind name) = some key)
      (right : keys.find? (fits kind name') = some key)
  /-- Neither name is a stem, so both are left the first key. -/
  | nameless (kind_eq : kind = .manyToOne) (left : ∀ k ∈ keys, ¬ fits kind name k)
      (right : ∀ k ∈ keys, ¬ fits kind name' k)
  /-- The one name fits no key, and is left the key that the other is for. -/
  | left {key : Column} (misfit : ∀ k ∈ keys, ¬ fits kind name k)
      (kept : keys[reserve kind i]? = some key)
      (named : keys.find? (fits kind name') = some key)
  /-- The other name fits no key, and is left the key that the one is for. -/
  | right {key : Column} (named : keys.find? (fits kind name) = some key)
      (misfit : ∀ k ∈ keys, ¬ fits kind name' k) (kept : keys[reserve kind j]? = some key)

/-- A key has one stem, so it fits one name. -/
theorem eq_of_fits_manyToOne (left : fits .manyToOne name key = true)
    (right : fits .manyToOne name' key = true) : name = name' := by
  rw [fits, beq_iff_eq] at left right
  exact left.symm.trans right

/-- An association has a key when there is one at its place. -/
theorem exists_keyFor? (kind : RelationKind) (name : String) (place : i < keys.length) :
    ∃ key ∈ keys, keyFor? kind keys name i = some key := by
  have hreserve : reserve kind i < keys.length := by
    cases kind with
    | manyToOne => exact Nat.zero_lt_of_lt place
    | oneToMany | manyToMany => exact place
  cases found : keys.find? (fits kind name) with
  | some key => exact ⟨key, List.mem_of_find?_eq_some found, by rw [keyFor?, found, Option.some_or]⟩
  | none =>
    refine ⟨keys[reserve kind i], List.getElem_mem _, ?_⟩
    rw [keyFor?, found, Option.none_or, List.getElem?_eq_getElem hreserve]

/-- Siblings of different names have the same key where they meet, and there only. -/
theorem keyFor?_eq_iff (rows : kind ≠ .manyToMany) (nodup : keys.Nodup) (hi : i < keys.length)
    (apart : i ≠ j) (names : name ≠ name') :
    keyFor? kind keys name i = keyFor? kind keys name' j ↔ Meet kind keys name name' i j := by
  constructor
  · intro same
    rw [keyFor?, keyFor?] at same
    cases hname : keys.find? (fits kind name) with
    | some key =>
      rw [hname, Option.some_or] at same
      rcases Option.or_eq_some_iff.1 same.symm with hname' | ⟨hname', kept⟩
      · cases kind with
        | manyToOne =>
          have fitting := List.find?_some hname
          have fitting' := List.find?_some hname'
          exact absurd (eq_of_fits_manyToOne fitting fitting') names
        | oneToMany => exact .named rfl hname hname'
        | manyToMany => exact absurd rfl rows
      · exact .right hname (List.find?_eq_none.1 hname') kept
    | none =>
      rw [hname, Option.none_or] at same
      have misfit := List.find?_eq_none.1 hname
      cases hname' : keys.find? (fits kind name') with
      | some key =>
        rw [hname', Option.some_or] at same
        exact .left misfit same hname'
      | none =>
        rw [hname', Option.none_or] at same
        cases kind with
        | manyToOne => exact .nameless rfl misfit (List.find?_eq_none.1 hname')
        | oneToMany => exact absurd ((List.getElem?_inj hi nodup).1 same) apart
        | manyToMany => exact absurd rfl rows
  · intro meet
    rw [keyFor?, keyFor?]
    cases meet with
    | named _ left right => rw [left, right, Option.some_or, Option.some_or]
    | nameless kind_eq left right =>
      subst kind_eq
      rw [List.find?_eq_none.2 left, List.find?_eq_none.2 right]
      rfl
    | left misfit kept named =>
      rw [List.find?_eq_none.2 misfit, named, kept, Option.none_or, Option.some_or]
    | right named misfit kept =>
      rw [List.find?_eq_none.2 misfit, named, kept, Option.none_or, Option.some_or]

/-- Names that find different keys do not meet, whatever their places are. -/
theorem not_meet_of_find? {key' : Column} (left : keys.find? (fits kind name) = some key)
    (right : keys.find? (fits kind name') = some key') (apart : key ≠ key') :
    ¬ Meet kind keys name name' i j := by
  intro meet
  cases meet with
  | named _ left' right' =>
    exact apart (Option.some.inj ((left.symm.trans left').trans (right'.symm.trans right)))
  | nameless _ misfit _ | left misfit _ _ =>
    exact misfit key (List.mem_of_find?_eq_some left) (List.find?_some left)
  | right _ misfit _ =>
    exact misfit key' (List.mem_of_find?_eq_some right) (List.find?_some right)

/-! ## Bound entries -/

/-- The table that has the keys of the associations of a kind from one table to another. -/
def holder (kind : RelationKind) (table target : TableDecl) : TableDecl :=
  match kind with
  | .manyToOne => table
  | _ => target

/-- The keys of the associations of a kind from one table to another. -/
def keysBetween (kind : RelationKind) (table target : TableDecl) : List Column :=
  match kind with
  | .manyToOne => table.keysTo target.name
  | _ => target.keysTo table.name

/-- The key that an entry is bound to. -/
def Entry.key? : Entry → Option Column
  | .one _ _ key _ _ => some key
  | .many _ _ key => key
  | .through .. => none

/-- An entry for an association of a kind from one table to another is bound to a key. -/
structure BoundTo (kind : RelationKind) (table target : TableDecl) (e : Entry) (key : Column) :
    Prop where
  mem : key ∈ keysBetween kind table target
  key_eq : e.key? = some key
  /-- The relation name of the entry is that of the key. -/
  name_eq : e.relationName? table =
    some (relationNameOf (holder kind table target).name key.name)

/-- The entry of the association at a place among its siblings. -/
def EntryAt (models : List TableDecl) (table target : TableDecl) (kind : RelationKind) (i : Nat)
    (r : Relation) (e : Entry) : Prop :=
  ∃ earlier later, table.source.relations = earlier ++ r :: later ∧
    (r.kind = kind ∧ r.targetTable = target.name) ∧
      (siblings kind target.name earlier).length = i ∧ bound? models table earlier r = some e

theorem EntryAt.getElem? (h : EntryAt models table target kind i r e) :
    (siblings kind target.name table.source.relations)[i]? = some r := by
  obtain ⟨earlier, later, split, is, place, -⟩ := h
  exact getElem?_siblings_iff.2 ⟨earlier, later, split, is, place⟩

/-- What the associations of a kind from one table to another come to. -/
structure SiblingsBound (models : List TableDecl) (table target : TableDecl)
    (kind : RelationKind) : Prop where
  /-- Each has an entry in the block of its table, which is bound to a key. -/
  bound : ∀ i r, (siblings kind target.name table.source.relations)[i]? = some r →
    ∃ e ∈ entries models table, EntryAt models table target kind i r e ∧
      e.property = Text.lowerCamel r.fieldName ∧ ∃ key, BoundTo kind table target e key
  /-- Two of different names are bound to the same key when they meet, and only then. -/
  same_key_iff : ∀ i j r s e e', EntryAt models table target kind i r e →
    EntryAt models table target kind j s e' → r.fieldName ≠ s.fieldName →
    (e.key? = e'.key? ↔
      Meet kind (keysBetween kind table target) r.fieldName s.fieldName i j)
  /-- Two have the same relation name when they are bound to the same key, and only then. -/
  same_name_iff : ∀ i j r s e e', EntryAt models table target kind i r e →
    EntryAt models table target kind j s e' → r.fieldName ≠ s.fieldName →
    (e.relationName? table = e'.relationName? table ↔ e.key? = e'.key?)

section Linked

variable (linked : Linked models)
include linked

/-- The keys between two tables are different columns. -/
theorem nodup_keysBetween (ht : table ∈ models) (htarget : target ∈ models) :
    (keysBetween kind table target).Nodup := by
  have nodup : ∀ t ∈ models, ∀ name, (t.keysTo name).Nodup := fun t ht name =>
    (List.Nodup.of_map _ (linked.columns_nodup t ht)).sublist List.filter_sublist
  cases kind with
  | manyToOne => exact nodup table ht target.name
  | oneToMany | manyToMany => exact nodup target htarget table.name

/-- The relation names of entries bound to keys between the same tables are those of the keys. -/
theorem BoundTo.relationName?_eq_iff {key' : Column} (ht : table ∈ models)
    (htarget : target ∈ models) (left : BoundTo kind table target e key)
    (right : BoundTo kind table target e' key') :
    e.relationName? table = e'.relationName? table ↔ e.key? = e'.key? := by
  rw [left.name_eq, right.name_eq, left.key_eq, right.key_eq, Option.some.injEq,
    relationNameOf_inj, Option.some.injEq]
  constructor
  · have column_mem : ∀ k ∈ keysBetween kind table target,
        k ∈ (holder kind table target).columns := fun k hk => by
      cases kind with
      | manyToOne | oneToMany | manyToMany => exact (mem_keysTo_iff.1 hk).1
    have holder_mem : holder kind table target ∈ models := by
      cases kind with
      | manyToOne => exact ht
      | oneToMany | manyToMany => exact htarget
    exact linked.column_eq_of_name holder_mem (column_mem _ left.mem) (column_mem _ right.mem)
  · exact congrArg _

/-- Where there are several keys, the entry of an association is bound to the one it gets by its
name and place. -/
theorem exists_bound (ht : table ∈ models) (htarget : target ∈ models)
    (rows : kind ≠ .manyToMany) (several : 1 < (keysBetween kind table target).length)
    (is : r.kind = kind ∧ r.targetTable = target.name) {earlier : List Relation}
    (mem : key ∈ keysBetween kind table target)
    (chosen : keyFor? kind (keysBetween kind table target) r.fieldName
      (siblings kind target.name earlier).length = some key) :
    ∃ e, bound? models table earlier r = some e ∧ e.property = Text.lowerCamel r.fieldName ∧
      BoundTo kind table target e key := by
  obtain ⟨kind_eq, leads⟩ := is
  have found : models.find? (·.name == r.targetTable) = some target :=
    leads ▸ find?_name_of_nodup linked.names_nodup htarget
  cases kind with
  | manyToOne =>
    rw [← forwardKey?_eq] at chosen
    obtain ⟨-, reference, refers, -⟩ := mem_keysTo_iff.1 mem
    refine ⟨_, bound?_eq_some_iff.2 (.one kind_eq found chosen refers), rfl, mem, rfl, ?_⟩
    have isNamed : (reference.selfReferencing || decide (1 < (table.keysTo target.name).length))
        = true := Bool.or_eq_true_iff.2 (.inr (decide_eq_true several))
    exact if_pos isNamed
  | oneToMany =>
    have same : backKeys table target = keysBetween .oneToMany table target :=
      backKeys_eq linked ht htarget
    rw [← countBack_eq, ← backKey?_eq, ← leads, ← same] at chosen
    rw [← same] at several
    exact ⟨_, bound?_eq_some_iff.2 (.byKey kind_eq found (.inr several) chosen), rfl, mem, rfl, rfl⟩
  | manyToMany => exact absurd rfl rows

/-- Siblings come to what `SiblingsBound` says when there are keys enough. -/
theorem siblingsBound (ht : table ∈ models) (htarget : target ∈ models)
    (rows : kind ≠ .manyToMany)
    (enough : (siblings kind target.name table.source.relations).length
      ≤ (keysBetween kind table target).length)
    (several : 1 < (keysBetween kind table target).length) :
    SiblingsBound models table target kind := by
  have place : ∀ {i r}, (siblings kind target.name table.source.relations)[i]? = some r →
      i < (keysBetween kind table target).length := fun at_i =>
    Nat.lt_of_lt_of_le (List.getElem?_eq_some_iff.1 at_i).1 enough
  have bound_at : ∀ {i r e}, EntryAt models table target kind i r e → ∃ key,
      keyFor? kind (keysBetween kind table target) r.fieldName i = some key ∧
        BoundTo kind table target e key := by
    intro i r e h
    obtain ⟨key, mem, chosen⟩ := exists_keyFor? kind r.fieldName (place h.getElem?)
    obtain ⟨earlier, later, -, is, rfl, bound⟩ := h
    obtain ⟨e', bound', -, boundTo⟩ := exists_bound linked ht htarget rows several is mem chosen
    cases bound.symm.trans bound'
    exact ⟨key, chosen, boundTo⟩
  constructor
  case bound =>
    intro i r at_i
    obtain ⟨key, mem, chosen⟩ := exists_keyFor? kind r.fieldName (place at_i)
    obtain ⟨earlier, later, split, is, rfl⟩ := getElem?_siblings_iff.1 at_i
    obtain ⟨e, bound, property, boundTo⟩ :=
      exists_bound linked ht htarget rows several is mem chosen
    exact ⟨e, mem_entries_iff_entryOf.2 ⟨r, earlier, later, split, bound⟩,
      ⟨earlier, later, split, is, rfl, bound⟩, property, key, boundTo⟩
  case same_key_iff =>
    intro i j r s e e' h h' names
    obtain ⟨key, chosen, boundTo⟩ := bound_at h
    obtain ⟨key', chosen', boundTo'⟩ := bound_at h'
    have apart : i ≠ j := by
      rintro rfl
      exact names (congrArg _ (Option.some.inj (h.getElem?.symm.trans h'.getElem?)))
    rw [boundTo.key_eq, boundTo'.key_eq, ← chosen, ← chosen']
    exact keyFor?_eq_iff rows (nodup_keysBetween linked ht htarget) (place h.getElem?) apart names
  case same_name_iff =>
    intro i j r s e e' h h' _
    obtain ⟨key, -, boundTo⟩ := bound_at h
    obtain ⟨key', -, boundTo'⟩ := bound_at h'
    exact boundTo.relationName?_eq_iff linked ht htarget boundTo'

end Linked

/-- In the schema of whatever is requested, take the associations of a kind, for one row or for
many, from a table to one with which it has several keys, and as many keys as there are
associations.  Each of them has an entry, which is bound to a key and named after it.  Two with
different names are bound to the same key, and have the same name, just when they meet. -/
theorem keys_of_siblings {catalog : Catalog} {requested : List String} {tables : List Table}
    (valid : catalog.Valid) (resolves : catalog.resolve requested = .ok tables)
    (dialect : Dialect) :
    ∃ models, lowerTables ⟨.drizzle, dialect⟩ tables = .ok models ∧
      ∀ table ∈ models, ∀ target ∈ models, ∀ kind, kind ≠ .manyToMany →
        (siblings kind target.name table.source.relations).length
          ≤ (keysBetween kind table target).length →
        1 < (keysBetween kind table target).length →
        SiblingsBound models table target kind := by
  obtain ⟨models, lowered⟩ := exists_lowerTables valid resolves dialect
  refine ⟨models, lowered, ?_⟩
  intro table ht target htarget kind rows enough several
  exact siblingsBound (.of_resolve valid resolves lowered) ht htarget rows enough several

/-- Users who write posts alone or with another one. -/
def pairedAuthors : Catalog := ⟨[
  ⟨"users", "User", [Field.id],
    [⟨.oneToMany, "posts", "author_posts"⟩, ⟨.oneToMany, "posts", "coauthor_posts"⟩]⟩,
  ⟨"posts", "Post", [
    Field.id,
    ((Field.plain "author_id" .identifier).referencing "users" .cascade).mandatory,
    ((Field.plain "coauthor_id" .identifier).referencing "users" .cascade).mandatory],
    [⟨.manyToOne, "users", "author"⟩, ⟨.manyToOne, "users", "coauthor"⟩]⟩]⟩

theorem valid_pairedAuthors : pairedAuthors.Valid := .of_accepted (by decide) (by decide)

/-- The two users of a post are told apart, since the names of both associations are stems. -/
theorem keys_of_siblings_posts :
    ∃ models, lowerTables ⟨.drizzle, .sqlite⟩ pairedAuthors.tables = .ok models ∧
      ∃ users ∈ models, ∃ posts ∈ models, SiblingsBound models posts users .manyToOne ∧
        ∃ e ∈ entries models posts, ∃ e' ∈ entries models posts,
          e.property = "author" ∧ e'.property = "coauthor" ∧
            e.relationName? posts ≠ e'.relationName? posts := by
  have resolves : pairedAuthors.resolve ["posts"] = .ok pairedAuthors.tables := by cbv
  obtain ⟨models, lowered, all⟩ := keys_of_siblings valid_pairedAuthors resolves .sqlite
  obtain ⟨_, lowered', users, husers, posts, hposts, declared, author, -, coauthor, -, both,
      hauthor, hcoauthor, apart⟩ :
      ∃ models, lowerTables ⟨.drizzle, .sqlite⟩ pairedAuthors.tables = .ok models ∧
        ∃ users ∈ models, ∃ posts ∈ models,
          siblings .manyToOne users.name posts.source.relations =
            [⟨.manyToOne, "users", "author"⟩, ⟨.manyToOne, "users", "coauthor"⟩] ∧
          ∃ author ∈ posts.columns, ∃ coauthor ∈ posts.columns,
            (keysBetween .manyToOne posts users).length = 2 ∧
            (keysBetween .manyToOne posts users).find? (fits .manyToOne "author") = some author ∧
            (keysBetween .manyToOne posts users).find? (fits .manyToOne "coauthor")
              = some coauthor ∧ author ≠ coauthor := ⟨_, rfl, by decide⟩
  cases lowered.symm.trans lowered'
  have siblings_bound : SiblingsBound models posts users .manyToOne :=
    all posts hposts users husers .manyToOne (by decide) (by rw [declared, both]; decide)
      (by rw [both]; decide)
  obtain ⟨e, he, at_0, property, -⟩ := siblings_bound.bound 0 _ (by rw [declared]; rfl)
  obtain ⟨e', he', at_1, property', -⟩ := siblings_bound.bound 1 _ (by rw [declared]; rfl)
  refine ⟨models, lowered, users, husers, posts, hposts, siblings_bound, e, he, e', he', ?_, ?_, ?_⟩
  · exact property.trans (by decide)
  · exact property'.trans (by decide)
  · rw [Ne, siblings_bound.same_name_iff 0 1 _ _ e e' at_0 at_1 (by decide),
      siblings_bound.same_key_iff 0 1 _ _ e e' at_0 at_1 (by decide)]
    exact not_meet_of_find? hauthor hcoauthor apart

/-- The posts of an author and those of a coauthor are bound to one key, since the one stem is part
of the other, and there is another key. -/
theorem coauthors_share_a_key :
    pairedAuthors.Valid ∧ ∃ tables models, pairedAuthors.resolve ["posts"] = .ok tables ∧
      lowerTables ⟨.drizzle, .postgresql⟩ tables = .ok models ∧
      ∃ users ∈ models, ∃ posts ∈ models, ∃ key other,
        siblings .oneToMany posts.name users.source.relations =
          [⟨.oneToMany, "posts", "author_posts"⟩, ⟨.oneToMany, "posts", "coauthor_posts"⟩] ∧
        keysBetween .oneToMany users posts = [key, other] ∧ key ≠ other ∧
        EntryAt models users posts .oneToMany 0 ⟨.oneToMany, "posts", "author_posts"⟩
          (.many "authorPosts" posts (some key)) ∧
        EntryAt models users posts .oneToMany 1 ⟨.oneToMany, "posts", "coauthor_posts"⟩
          (.many "coauthorPosts" posts (some key)) := by
  have resolves : pairedAuthors.resolve ["posts"] = .ok pairedAuthors.tables := by cbv
  refine ⟨valid_pairedAuthors, _, _, resolves, rfl, _, List.mem_cons_self, _,
    List.mem_cons_of_mem _ List.mem_cons_self, _, _, by decide, rfl, by decide, ?_, ?_⟩
  · exact ⟨[], _, rfl, by decide, by decide, by decide⟩
  · exact ⟨[⟨.oneToMany, "posts", "author_posts"⟩], [], rfl, by decide, by decide, by decide⟩

end SchemaForge.Drizzle
