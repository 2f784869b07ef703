import SchemaForge.Proofs.Declaration.Linked
import SchemaForge.Proofs.Prisma.RelationPairs
import SchemaForge.Proofs.Text.PlainWords

/-!
# The names of relations

Keys that join the same two tables are told apart by the names of their relations.  A name is the
model of the key and the property of its relation, written together: it tells the words of both, but
not where the first ends and not whether the column ended with `_id`.  `names_of_joined` says that
over plain names this is all that is lost.  Two keys of one table have the same name only when one
column is the other followed by `_rel_id`; keys that two tables have to each other, only when one
model is called like the beginning of the other.  There are such tables: `names_meet`.
-/

namespace SchemaForge.Prisma

open Text

/-! ## The words of a property -/

/-- What a key column ends with. -/
def idWord : PlainWord := ⟨'i', 'd', [], rfl, rfl, rfl⟩

/-- What the property of a relation ends with when its column does not end with `_id`. -/
def relWord : PlainWord := ⟨'r', 'e', ['l'], rfl, rfl, rfl⟩

/-- The last word of a column is `id`, and it is not alone. -/
def HasStem (column : List PlainWord) : Prop :=
  column.getLast? = some idWord ∧ column.dropLast ≠ []

instance (column : List PlainWord) : Decidable (HasStem column) :=
  inferInstanceAs (Decidable (_ ∧ _))

/-- The words of the property beside a key column. -/
def propertyWords (column : List PlainWord) : List PlainWord :=
  if HasStem column then column.dropLast else column ++ [relWord]

section Columns

variable {column column' : List PlainWord}

theorem HasStem.eq_append (h : HasStem column) : column = column.dropLast ++ [idWord] :=
  (List.dropLast_append_getLast? idWord h.1).symm

theorem hasStem_append_singleton {stem : List PlainWord} (hne : stem ≠ []) :
    HasStem (stem ++ [idWord]) := by
  unfold HasStem
  simp [hne]

theorem snake_append_id {stem : List PlainWord} (hne : stem ≠ []) :
    snake (stem ++ [idWord]) = snake stem ++ "_id" :=
  snake_append_singleton hne idWord

/-- A column in snake case ends with `_id` exactly when its words say so. -/
theorem dropEnding?_snake (column : List PlainWord) :
    dropEnding? "_id" (snake column)
      = if HasStem column then some (snake column.dropLast) else none := by
  by_cases h : HasStem column
  · rw [if_pos h, dropEnding?_eq_some_iff, ← snake_append_id h.2, ← h.eq_append]
  · rw [if_neg h, Option.eq_none_iff_forall_ne_some]
    intro s ends
    have cut : snake column = s ++ "_id" := dropEnding?_eq_some_iff.1 ends
    have found : column.map (·.small) = words s ++ [idWord.small] := by
      rw [← words_snake, cut]
      exact words_append_underscore s "id"
    obtain rfl | ⟨init, last, rfl⟩ := column.eq_nil_or_concat'
    · simp at found
    · rw [List.map_append, List.map_singleton] at found
      obtain ⟨-, same⟩ := List.append_inj' found rfl
      obtain rfl : last = idWord := PlainWord.small_injective (List.singleton_inj.1 same)
      -- it would have a stem, were it not `id` alone, which is too short
      by_cases hne : init = []
      · subst hne
        have length := congrArg String.length cut
        rw [String.length_append] at length
        have short : (snake [idWord]).length = 2 := rfl
        have long : "_id".length = 3 := rfl
        rw [List.nil_append] at length
        omega
      · exact h (hasStem_append_singleton hne)

theorem dropEnding?_snake_eq_none_iff :
    dropEnding? "_id" (snake column) = none ↔ ¬ HasStem column := by
  rw [dropEnding?_snake, ite_eq_right_iff]
  simp

/-- The property beside a key column, as a name tells it. -/
theorem upperCamel_forwardName (hne : column ≠ []) :
    upperCamel (Edge.forwardName (snake column)) = pascal (propertyWords column) := by
  unfold Edge.forwardName propertyWords
  rw [dropEnding?_snake]
  by_cases h : HasStem column
  · have stem : (snake column.dropLast).isEmpty = false := by
      rw [Bool.eq_false_iff, Ne, String.isEmpty_iff]
      exact fun empty => h.2 (snake_injective (empty.trans rfl))
    simp only [if_pos h, stem]
    exact upperCamel_lowerCamel_snake _
  · simp only [if_neg h]
    rw [← upperCamel_lowerCamel_snake, lowerCamel_snake_append_singleton hne]
    rfl

theorem propertyWords_of_hasStem (h : HasStem column) : propertyWords column = column.dropLast :=
  if_pos h

theorem propertyWords_of_not_hasStem (h : ¬ HasStem column) :
    propertyWords column = column ++ [relWord] :=
  if_neg h

theorem hasStem_append_rel_id (column : List PlainWord) :
    HasStem (column ++ [relWord, idWord]) := by
  have split : column ++ [relWord, idWord] = (column ++ [relWord]) ++ [idWord] := by simp
  rw [split]
  exact hasStem_append_singleton (by simp)

/-- A column without a stem makes the property of one with a stem. -/
theorem append_rel_eq_dropLast_iff (h : HasStem column') :
    column ++ [relWord] = column'.dropLast ↔ column' = column ++ [relWord, idWord] := by
  constructor
  · intro same
    rw [h.eq_append, ← same, List.append_assoc]
    rfl
  · rintro rfl
    rw [List.dropLast_append_of_ne_nil (List.cons_ne_nil _ _)]
    rfl

/-- Two columns make the same property when one is the other followed by `rel` and `id`, and that
one keeps all its words. -/
theorem propertyWords_eq_iff (hne : column ≠ column') :
    propertyWords column = propertyWords column' ↔
      (¬ HasStem column ∧ column' = column ++ [relWord, idWord]) ∨
        (¬ HasStem column' ∧ column = column' ++ [relWord, idWord]) := by
  by_cases h : HasStem column <;> by_cases h' : HasStem column'
  · rw [propertyWords_of_hasStem h, propertyWords_of_hasStem h']
    have differ : column.dropLast ≠ column'.dropLast := by
      intro same
      exact hne (by rw [h.eq_append, same, ← h'.eq_append])
    simp [h, h', differ]
  · rw [propertyWords_of_hasStem h, propertyWords_of_not_hasStem h', eq_comm,
      append_rel_eq_dropLast_iff h]
    simp [h, h']
  · rw [propertyWords_of_not_hasStem h, propertyWords_of_hasStem h',
      append_rel_eq_dropLast_iff h']
    simp [h, h']
  · rw [propertyWords_of_not_hasStem h, propertyWords_of_not_hasStem h', List.append_left_inj]
    constructor
    · intro same
      exact absurd same hne
    · rintro (⟨-, rfl⟩ | ⟨-, rfl⟩)
      · exact absurd (hasStem_append_rel_id column) h'
      · exact absurd (hasStem_append_rel_id column') h

/-- A column `author` makes the property of a column `author_rel_id`. -/
example : Edge.forwardName "author" = "authorRel" ∧
    Edge.forwardName "author_rel_id" = "authorRel" := by
  decide

end Columns

/-! ## The words of a name -/

/-- The plain words that the model of an edge and its column are named with. -/
structure Edge.Spelling (e : Edge) where
  model : List PlainWord
  column : List PlainWord
  typeName_eq : e.source.typeName = pascal model
  column_eq : e.column.name = snake column
  column_ne_nil : column ≠ []

namespace Edge.Spelling

variable {e e' : Edge}

/-- The words of the name of the edge. -/
def words (s : e.Spelling) : List PlainWord := s.model ++ propertyWords s.column

theorem fullName_eq (s : e.Spelling) : e.fullName = pascal s.words := by
  rw [Edge.fullName, s.typeName_eq, s.column_eq, upperCamel_forwardName s.column_ne_nil, words,
    pascal_append]

/-- Edges have the same name when their words are the same. -/
theorem fullName_eq_iff (s : e.Spelling) (s' : e'.Spelling) :
    e.fullName = e'.fullName ↔ s.words = s'.words := by
  rw [s.fullName_eq, s'.fullName_eq]
  exact pascal_injective.eq_iff

/-- If two edges have the same name, one of their models is called like the beginning of the other.
-/
theorem model_prefix (s : e.Spelling) (s' : e'.Spelling) (same : e.fullName = e'.fullName) :
    s.model <+: s'.model ∨ s'.model <+: s.model := by
  have words : s.model ++ propertyWords s.column = s'.model ++ propertyWords s'.column :=
    (s.fullName_eq_iff s').1 same
  refine List.prefix_or_prefix_of_prefix (List.prefix_append _ (propertyWords s.column)) ?_
  rw [words]
  exact List.prefix_append _ _

theorem dropEnding?_eq_none_iff (s : e.Spelling) :
    dropEnding? "_id" e.column.name = none ↔ ¬ HasStem s.column := by
  rw [s.column_eq, dropEnding?_snake_eq_none_iff]

theorem column_eq_append_iff (s : e.Spelling) (s' : e'.Spelling) :
    e'.column.name = e.column.name ++ "_rel_id" ↔ s'.column = s.column ++ [relWord, idWord] := by
  have longer : snake (s.column ++ [relWord, idWord]) = snake s.column ++ "_rel_id" := by
    have split : s.column ++ [relWord, idWord] = (s.column ++ [relWord]) ++ [idWord] := by simp
    rw [split, snake_append_id (by simp), snake_append_singleton s.column_ne_nil,
      String.append_assoc]
    rfl
  rw [s.column_eq, s'.column_eq, ← longer]
  exact snake_injective.eq_iff

/-- Different columns of one model have the same name when one is the other followed by `_rel_id`
and the other does not end with `_id` itself. -/
theorem fullName_eq_iff_of_source_eq (s : e.Spelling) (s' : e'.Spelling)
    (same : e.source = e'.source) (hne : e.column.name ≠ e'.column.name) :
    e.fullName = e'.fullName ↔
      (dropEnding? "_id" e.column.name = none ∧ e'.column.name = e.column.name ++ "_rel_id") ∨
        (dropEnding? "_id" e'.column.name = none ∧
          e.column.name = e'.column.name ++ "_rel_id") := by
  have models : s.model = s'.model := by
    apply pascal_injective
    rw [← s.typeName_eq, same, s'.typeName_eq]
  have columns : s.column ≠ s'.column := by
    intro h
    exact hne (by rw [s.column_eq, h, ← s'.column_eq])
  rw [s.fullName_eq_iff s', words, words, models, List.append_right_inj,
    propertyWords_eq_iff columns, s.dropEnding?_eq_none_iff, s'.dropEnding?_eq_none_iff,
    s.column_eq_append_iff s', s'.column_eq_append_iff s]

end Edge.Spelling

/-! ## Keys that join the same tables -/

/-- How far the names of two edges tell them apart. -/
structure NamedApart (models : List TableDecl) (e e' : Edge) : Prop where
  named : e.name? (allEdges models) = some e.fullName
  named' : e'.name? (allEdges models) = some e'.fullName
  /-- The names are the same when they are spelled by the same words. -/
  same_iff : ∀ (s : e.Spelling) (s' : e'.Spelling),
    e.fullName = e'.fullName ↔ s.words = s'.words
  /-- One of the models is then called like the beginning of the other. -/
  same_model : ∀ (s : e.Spelling) (s' : e'.Spelling), e.fullName = e'.fullName →
    s.model <+: s'.model ∨ s'.model <+: s.model
  /-- In one table, one of the columns is then the other with an ending. -/
  same_iff_column : e.source = e'.source → ∀ (_ : e.Spelling) (_ : e'.Spelling),
    e.fullName = e'.fullName ↔
      (dropEnding? "_id" e.column.name = none ∧ e'.column.name = e.column.name ++ "_rel_id") ∨
        (dropEnding? "_id" e'.column.name = none ∧ e.column.name = e'.column.name ++ "_rel_id")

section Joined

variable {models : List TableDecl} {e e' : Edge} (linked : Linked models)
include linked

/-- Edges differ by their tables or by their columns. -/
theorem edge_eq (he : e ∈ allEdges models) (he' : e' ∈ allEdges models)
    (source : e.source = e'.source) (column : e.column.name = e'.column.name) : e = e' := by
  obtain ⟨hsource, hcolumn, hreference⟩ := mem_allEdges_iff.1 he
  obtain ⟨-, hcolumn', hreference'⟩ := mem_allEdges_iff.1 he'
  have columns : e.column = e'.column :=
    linked.column_eq_of_name hsource hcolumn (source ▸ hcolumn') column
  have references : e.reference = e'.reference := by
    rw [columns, hreference'] at hreference
    exact (Option.some.inj hreference).symm
  cases e
  cases e'
  simp_all

/-- An edge that another one joins its tables with has a name. -/
theorem name?_of_joins (he : e ∈ allEdges models) (he' : e' ∈ allEdges models) (hne : e ≠ e')
    (joins : e'.Joins e.source.name e.reference.table) :
    e.name? (allEdges models) = some e.fullName := by
  obtain ⟨hsource, hcolumn, hreference⟩ := mem_allEdges_iff.1 he
  have self : e.reference.selfReferencing = true ↔ e.source.name = e.reference.table := by
    rw [linked.selfReferencing_iff _ hsource _ hcolumn _ hreference]
    exact eq_comm
  have named : e.name? (allEdges models) ≠ none := by
    intro unnamed
    obtain ⟨-, only⟩ := (Edge.name?_eq_none_iff he self).1 unnamed
    have both : e' ∈ (allEdges models).filter fun o => o.Joins e.source.name e.reference.table :=
      List.mem_filter.2 ⟨he', decide_eq_true joins⟩
    rw [only, List.mem_singleton] at both
    exact hne both.symm
  unfold Edge.name? at named ⊢
  split_ifs at named ⊢
  · rfl
  · exact absurd rfl named

theorem namedApart (he : e ∈ allEdges models) (he' : e' ∈ allEdges models) (hne : e ≠ e')
    (joins : e'.Joins e.source.name e.reference.table) : NamedApart models e e' where
  named := name?_of_joins linked he he' hne joins
  named' := by
    refine name?_of_joins linked he' he hne.symm ?_
    rcases joins with ⟨hs, ht⟩ | ⟨hs, ht⟩
    · exact .inl ⟨hs.symm, ht.symm⟩
    · exact .inr ⟨ht.symm, hs.symm⟩
  same_iff s s' := s.fullName_eq_iff s'
  same_model s s' := s.model_prefix s'
  same_iff_column source s s' :=
    s.fullName_eq_iff_of_source_eq s' source fun column => hne (edge_eq linked he he' source column)

end Joined

/-- Different keys that join the same tables have names, and with plain names these are the same
only for the same words. -/
theorem names_of_joined {catalog : Catalog} {requested : List String} {tables : List Table}
    {dialect : Dialect} {models : List TableDecl} (valid : catalog.Valid)
    (resolves : catalog.resolve requested = .ok tables)
    (lowered : lowerTables ⟨.prisma, dialect⟩ tables = .ok models) :
    ∀ e ∈ allEdges models, ∀ e' ∈ allEdges models, e ≠ e' →
      e'.Joins e.source.name e.reference.table → NamedApart models e e' := by
  intro e he e' he' hne joins
  exact namedApart (.of_resolve valid resolves lowered) he he' hne joins

/-- Games have a home team and a guest team. -/
theorem names_of_joined_league :
    ∃ models, lowerTables ⟨.prisma, .postgresql⟩
        [Catalog.league.tables[1], Catalog.league.tables[2], Catalog.league.tables[0]]
          = .ok models ∧
      ∃ e ∈ allEdges models, ∃ e' ∈ allEdges models, e.column.name = "home_id" ∧
        e'.column.name = "guest_id" ∧ NamedApart models e e' ∧ e.fullName ≠ e'.fullName := by
  have valid : Catalog.league.Valid := .of_accepted (by decide) (by decide)
  have resolves : Catalog.league.resolve ["games"]
      = .ok [Catalog.league.tables[1], Catalog.league.tables[2], Catalog.league.tables[0]] := by
    cbv
  obtain ⟨models, lowered, e, he, e', he', hne, joins, source, model, home, guest⟩ :
      ∃ models, lowerTables ⟨.prisma, .postgresql⟩
          [Catalog.league.tables[1], Catalog.league.tables[2], Catalog.league.tables[0]]
            = .ok models ∧
        ∃ e ∈ allEdges models, ∃ e' ∈ allEdges models, e ≠ e' ∧
          e'.Joins e.source.name e.reference.table ∧ e.source = e'.source ∧
          e.source.typeName = "Game" ∧ e.column.name = "home_id" ∧ e'.column.name = "guest_id" :=
    ⟨_, rfl, by decide⟩
  have apart := names_of_joined valid resolves lowered e he e' he' hne joins
  let game : PlainWord := ⟨'g', 'a', ['m', 'e'], rfl, rfl, rfl⟩
  let s : e.Spelling :=
    { model := [game]
      column := [⟨'h', 'o', ['m', 'e'], rfl, rfl, rfl⟩, idWord]
      typeName_eq := model.trans (by decide)
      column_eq := home.trans (by decide)
      column_ne_nil := List.cons_ne_nil _ _ }
  let s' : e'.Spelling :=
    { model := [game]
      column := [⟨'g', 'u', ['e', 's', 't'], rfl, rfl, rfl⟩, idWord]
      typeName_eq := (source ▸ model).trans (by decide)
      column_eq := guest.trans (by decide)
      column_ne_nil := List.cons_ne_nil _ _ }
  refine ⟨models, lowered, e, he, e', he', home, guest, apart, ?_⟩
  rw [Ne, apart.same_iff_column source s s', home, guest]
  decide

/-- Users have a group that they own, and groups of users have an owner. -/
def groups : Catalog := ⟨[
  ⟨"user_groups", "UserGroup",
    [Field.id, (Field.plain "owner_id" .identifier).referencing "users" .setNull], []⟩,
  ⟨"users", "User",
    [Field.id, (Field.plain "group_owner_id" .identifier).referencing "user_groups" .setNull],
    []⟩]⟩

/-- The owner of a user group and the group owner of a user have one name. -/
theorem names_meet :
    groups.Valid ∧ ∃ tables models, groups.resolve ["users"] = .ok tables ∧
      lowerTables ⟨.prisma, .postgresql⟩ tables = .ok models ∧
      ∃ e ∈ allEdges models, ∃ e' ∈ allEdges models, e ≠ e' ∧
        e'.Joins e.source.name e.reference.table ∧
        e.name? (allEdges models) = some "UserGroupOwner" ∧
        e'.name? (allEdges models) = some "UserGroupOwner" := by
  have valid : groups.Valid := .of_accepted (by decide) (by decide)
  have resolves : groups.resolve ["users"] = .ok groups.tables := by cbv
  refine ⟨valid, groups.tables, _, resolves, rfl, ?_⟩
  decide

end SchemaForge.Prisma
