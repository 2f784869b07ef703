import SchemaForge.Proofs.Declaration.Linked
import SchemaForge.Proofs.Drizzle.Entries

/-!
# The two ends of an association

An association is declared at both of its tables, and each block decides by itself which key its
entry is bound to and whether the entry has a name.  `EndsAgree` says that what the two decide fits
together, and `associations_agree` that it does for whatever is requested.

Both ends ask the same question, `NeedsName`, though of different lists of keys: the answers are
read off by `relationName?_one` and `back_of_many`.
-/

namespace SchemaForge.Drizzle

variable {models : List TableDecl} {source target : TableDecl} {key : Column}
  {back : Option Column} {r : Reference} {p q : String} {named : Bool}

/-! ## When a name is needed -/

/-- There is more than one way from `source` to `target`, or back: the two are the same, or there
are several keys. -/
def NeedsName (source target : TableDecl) : Prop :=
  source.name = target.name ∨ 1 < (source.keysTo target.name).length

instance (source target : TableDecl) : Decidable (NeedsName source target) :=
  inferInstanceAs (Decidable (_ ∨ _))

section Linked

variable (linked : Linked models)
include linked

/-- The keys that an entry for many rows may be bound to are those from their table. -/
theorem backKeys_eq (ht : target ∈ models) (hs : source ∈ models) :
    backKeys target source = source.keysTo target.name := by
  rw [backKeys]
  by_cases self : source.name = target.name
  · obtain rfl := linked.eq_of_name hs ht self
    rw [if_pos rfl]
    exact List.filter_congr fun c hc => linked.refersToItself_eq hs hc
  · rw [if_neg self]

/-- An entry for one row is bound to a key, and named after it where a name is needed. -/
theorem relationName?_one (hs : source ∈ models)
    (h : Entry.one p target key r named ∈ entries models source) :
    key ∈ source.keysTo target.name ∧ (Entry.one p target key r named).relationName? source
      = if NeedsName source target then some (relationNameOf source.name key.name) else none := by
  obtain ⟨_, _, _, _, binds⟩ := mem_entries_iff.1 h
  cases binds with
  | one _ _ chosen refers =>
    have hkey := mem_of_forwardKey? chosen
    obtain ⟨hcolumn, r', hr', leads⟩ := mem_keysTo_iff.1 hkey
    obtain rfl : r = r' := Option.some.inj (refers.symm.trans hr')
    have needs : (r.selfReferencing || decide (1 < (source.keysTo target.name).length)) = true ↔
        NeedsName source target := by
      rw [Bool.or_eq_true, decide_eq_true_iff,
        linked.selfReferencing_iff source hs key hcolumn r refers, leads, NeedsName, eq_comm]
    refine ⟨hkey, ?_⟩
    rw [Entry.relationName?]
    exact if_congr needs rfl rfl

/-- An entry for many rows is bound to a key where a name is needed, and there only. -/
theorem back_of_many (ht : target ∈ models) (hs : source ∈ models)
    (h : Entry.many q source back ∈ entries models target) :
    (NeedsName source target ∧ ∃ key ∈ source.keysTo target.name, back = some key) ∨
      (¬ NeedsName source target ∧ back = none) := by
  obtain ⟨_, _, _, _, binds⟩ := mem_entries_iff.1 h
  cases binds with
  | byKey _ _ needed chosen =>
    rw [backKeys_eq linked ht hs] at needed chosen
    exact .inl ⟨needed, _, mem_of_backKey? chosen, rfl⟩
  | plain _ _ needless =>
    rw [backKeys_eq linked ht hs] at needless
    exact .inr ⟨needless, rfl⟩

end Linked

/-! ## Junctions -/

theorem junction?_comm (models : List TableDecl) (left right : String) :
    junction? models left right = junction? models right left := by
  rw [junction?, junction?]
  congr 1
  funext t
  rw [Bool.and_comm (t.name != left), Bool.and_assoc,
    Bool.and_comm (t.source.dependencies.contains left), ← Bool.and_assoc]

theorem bound?_manyToMany (linked : Linked models) {left right : TableDecl} {a : Relation}
    (hr : right ∈ models) (kind : a.kind = .manyToMany) (leads : a.targetTable = right.name)
    (earlier : List Relation) :
    bound? models left earlier a = (junction? models left.name right.name).map
      (Entry.through (Text.lowerCamel a.fieldName)) := by
  rw [bound?, leads, find?_name_of_nodup linked.names_nodup hr]
  simp only [kind]
  rfl

/-! ## Both ends -/

/-- Entries for an association from its two ends: one in the block of `source`, for the row that a
key refers to, and one in the block of `target`, for the rows of `source`. -/
structure Opposite (models : List TableDecl) (source target : TableDecl) (one many : Entry)
    (key : Column) (back : Option Column) : Prop where
  source_mem : source ∈ models
  target_mem : target ∈ models
  one_mem : one ∈ entries models source
  many_mem : many ∈ entries models target
  one_eq : ∃ property reference named, one = .one property target key reference named
  many_eq : ∃ property, many = .many property source back

/-- What the two ends of the associations between the tables say fits together. -/
structure EndsAgree (models : List TableDecl) : Prop where
  /-- Keys lead from the source to the target. -/
  keys : ∀ source target one many key back, Opposite models source target one many key back →
    key ∈ source.keysTo target.name ∧ ∀ k ∈ back, k ∈ source.keysTo target.name
  /-- Both entries have a name or none of them has. -/
  named_together : ∀ source target one many key back,
    Opposite models source target one many key back →
    (one.relationName? source = none ↔ many.relationName? target = none)
  /-- Both entries have the same name when they are bound to the same key, and only then. -/
  same_name : ∀ source target one many key back,
    Opposite models source target one many key back →
    ∀ n n', one.relationName? source = some n → many.relationName? target = some n' →
      (n = n' ↔ back = some key)
  /-- The junction of two tables is the same from either side. -/
  junction : ∀ left ∈ models, ∀ right ∈ models,
    junction? models left.name right.name = junction? models right.name left.name
  /-- What is declared at both of two tables goes through the same table. -/
  through : ∀ left ∈ models, ∀ right ∈ models,
    ∀ a ∈ left.source.relations, ∀ b ∈ right.source.relations,
    a.kind = .manyToMany → b.kind = .manyToMany → a.targetTable = right.name →
    b.targetTable = left.name → ∀ earlier earlier', ∃ junction? : Option TableDecl,
      bound? models left earlier a
          = junction?.map (Entry.through (Text.lowerCamel a.fieldName)) ∧
        bound? models right earlier' b
          = junction?.map (Entry.through (Text.lowerCamel b.fieldName))

theorem relationNameOf_inj {table a b : String} :
    relationNameOf table a = relationNameOf table b ↔ a = b := by
  rw [relationNameOf, relationNameOf, String.append_right_inj]

/-- The ends agree in tables that are linked. -/
theorem endsAgree (linked : Linked models) : EndsAgree models where
  keys := by
    rintro source target _ _ key back ⟨hs, ht, hone, hmany, ⟨_, _, _, rfl⟩, _, rfl⟩
    refine ⟨(relationName?_one linked hs hone).1, ?_⟩
    rintro k hk
    rcases back_of_many linked ht hs hmany with ⟨-, k', hk', rfl⟩ | ⟨-, rfl⟩
    · exact Option.some.inj hk ▸ hk'
    · exact absurd hk (by simp)
  named_together := by
    rintro source target _ _ key back ⟨hs, ht, hone, hmany, ⟨_, _, _, rfl⟩, _, rfl⟩
    rw [(relationName?_one linked hs hone).2]
    rcases back_of_many linked ht hs hmany with ⟨needed, _, _, rfl⟩ | ⟨needless, rfl⟩
    · simp [needed, Entry.relationName?]
    · simp [needless, Entry.relationName?]
  same_name := by
    rintro source target _ _ key back ⟨hs, ht, hone, hmany, ⟨_, _, _, rfl⟩, _, rfl⟩ n n' hn hn'
    obtain ⟨hkey, name_eq⟩ := relationName?_one linked hs hone
    rw [name_eq] at hn
    rcases back_of_many linked ht hs hmany with ⟨needed, k, hk, rfl⟩ | ⟨needless, rfl⟩
    · rw [if_pos needed] at hn
      cases hn
      cases hn'
      rw [relationNameOf_inj, Option.some.injEq, eq_comm]
      constructor
      · exact linked.column_eq_of_name hs (mem_keysTo_iff.1 hk).1 (mem_keysTo_iff.1 hkey).1
      · exact congrArg _
    · exact absurd hn (by simp [needless])
  junction left _ right _ := junction?_comm models left.name right.name
  through := by
    intro left hl right hr a _ b _ ha hb leads leads' earlier earlier'
    refine ⟨_, bound?_manyToMany linked hr ha leads earlier, ?_⟩
    rw [junction?_comm]
    exact bound?_manyToMany linked hl hb leads' earlier'

/-- Lowering for Drizzle never fails on what a request resolves to. -/
theorem exists_lowerTables {catalog : Catalog} {requested : List String} {tables : List Table}
    (valid : catalog.Valid) (resolves : catalog.resolve requested = .ok tables)
    (dialect : Dialect) : ∃ models, lowerTables ⟨.drizzle, dialect⟩ tables = .ok models :=
  lowerTables_of_supported (keysInside_of_resolve resolves) (wellFormed_of_resolve valid resolves)
    fun _ _ _ _ => Option.some_ne_none _

/-- In the schema of whatever is requested, the ends of associations agree. -/
theorem associations_agree {catalog : Catalog} {requested : List String} {tables : List Table}
    (valid : catalog.Valid) (resolves : catalog.resolve requested = .ok tables)
    (dialect : Dialect) :
    ∃ models : List TableDecl, models.map (·.source) = tables ∧
      emit ⟨.drizzle, dialect⟩ tables = .ok (artifacts dialect models) ∧ EndsAgree models := by
  obtain ⟨models, lowered⟩ := exists_lowerTables valid resolves dialect
  refine ⟨models, map_source_of_lowerTables lowered, ?_, ?_⟩
  · rw [emit, lowered]
    rfl
  · exact endsAgree (.of_resolve valid resolves lowered)

/-- Categories have a parent among themselves, and posts and tags have each other. -/
theorem associations_agree_builtin :
    ∃ models : List TableDecl, models.map (·.source) = [Builtin.users, Builtin.posts, Builtin.tags,
        Builtin.postTags, Builtin.categories] ∧
      emit ⟨.drizzle, .sqlite⟩ [Builtin.users, Builtin.posts, Builtin.tags, Builtin.postTags,
        Builtin.categories] = .ok (artifacts .sqlite models) ∧ EndsAgree models := by
  have resolves : Catalog.builtin.resolve ["post_tags", "categories"] = .ok [Builtin.users,
      Builtin.posts, Builtin.tags, Builtin.postTags, Builtin.categories] := by cbv
  exact associations_agree .builtin resolves .sqlite

end SchemaForge.Drizzle
