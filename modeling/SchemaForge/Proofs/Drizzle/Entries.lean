import SchemaForge.Drizzle.Relation
import SchemaForge.Proofs.Results

/-!
# How associations get their entries

The entries of a block are computed from the associations of its table, one after the other.
`Binds` lists the ways in which an association gets an entry, `bound?_eq_some_iff` says that there
are no others, and `mem_entries_iff` finds the association behind an entry.
-/

namespace SchemaForge.Drizzle

variable {models : List TableDecl} {table target : TableDecl} {earlier : List Relation}
  {r : Relation} {e : Entry} {keys : List Column} {key : Column}

/-! ## Keys -/

/-- The key chosen for a to-one association is one of the keys. -/
theorem mem_of_forwardKey? {fieldName : String} (h : forwardKey? keys fieldName = some key) :
    key ∈ keys := by
  rcases Option.or_eq_some_iff.1 h with h | ⟨-, h⟩
  · exact List.mem_of_find?_eq_some h
  · exact List.mem_of_head? h

/-- The key chosen for a to-many association is one of the keys. -/
theorem mem_of_backKey? {fieldName : String} {position : Nat}
    (h : backKey? keys fieldName position = some key) : key ∈ keys := by
  rcases Option.or_eq_some_iff.1 h with h | ⟨-, h⟩
  · exact List.mem_of_find?_eq_some h
  · exact List.mem_of_getElem? h

/-- The keys to a table are the columns that refer to it. -/
theorem mem_keysTo_iff {name : String} :
    key ∈ table.keysTo name ↔ key ∈ table.columns ∧
      ∃ reference, key.reference? = some reference ∧ reference.table = name := by
  rw [TableDecl.keysTo, List.mem_filter, Column.refersTo, Option.any_eq_true]
  simp only [beq_iff_eq]

/-! ## Entries -/

/-- How an association of a table gets an entry, given the associations declared before it. -/
inductive Binds (models : List TableDecl) (table : TableDecl) (earlier : List Relation)
    (r : Relation) : Entry → Prop
  /-- To the row that a key of the table refers to. -/
  | one {target : TableDecl} {key : Column} {reference : Reference} (kind : r.kind = .manyToOne)
      (found : models.find? (·.name == r.targetTable) = some target)
      (chosen : forwardKey? (table.keysTo target.name) r.fieldName = some key)
      (refers : key.reference? = some reference) :
      Binds models table earlier r (.one (Text.lowerCamel r.fieldName) target key reference
        (reference.selfReferencing || 1 < (table.keysTo target.name).length))
  /-- To the rows that refer to the table by one of several keys, or to rows of its own. -/
  | byKey {target : TableDecl} {key : Column} (kind : r.kind = .oneToMany)
      (found : models.find? (·.name == r.targetTable) = some target)
      (needed : target.name = table.name ∨ 1 < (backKeys table target).length)
      (chosen : backKey? (backKeys table target) r.fieldName
        (countBack earlier r.targetTable) = some key) :
      Binds models table earlier r (.many (Text.lowerCamel r.fieldName) target (some key))
  /-- To the rows that refer to it by the only key there can be. -/
  | plain {target : TableDecl} (kind : r.kind = .oneToMany)
      (found : models.find? (·.name == r.targetTable) = some target)
      (needless : ¬ (target.name = table.name ∨ 1 < (backKeys table target).length)) :
      Binds models table earlier r (.many (Text.lowerCamel r.fieldName) target none)
  /-- To the rows of a junction. -/
  | through {target junction : TableDecl} (kind : r.kind = .manyToMany)
      (found : models.find? (·.name == r.targetTable) = some target)
      (joins : junction? models table.name target.name = some junction) :
      Binds models table earlier r (.through (Text.lowerCamel r.fieldName) junction)

theorem oneEntry?_eq_some_iff :
    oneEntry? table target r = some e ↔ ∃ key reference,
      forwardKey? (table.keysTo target.name) r.fieldName = some key ∧
        key.reference? = some reference ∧
        e = .one (Text.lowerCamel r.fieldName) target key reference
          (reference.selfReferencing || 1 < (table.keysTo target.name).length) := by
  unfold oneEntry?
  simp only [Option.bind_eq_bind, Option.bind_eq_some_iff, Option.pure_def,
    Option.some.injEq, @eq_comm _ e]
  constructor
  · rintro ⟨key, chosen, reference, refers, he⟩
    exact ⟨key, reference, chosen, refers, he⟩
  · rintro ⟨key, reference, chosen, refers, he⟩
    exact ⟨key, chosen, reference, refers, he⟩

theorem bound?_eq_some_iff :
    bound? models table earlier r = some e ↔ Binds models table earlier r e := by
  rw [bound?, Option.bind_eq_bind, Option.bind_eq_some_iff]
  constructor
  · rintro ⟨target, found, h⟩
    cases kind : r.kind with
    | manyToOne =>
      simp only [kind] at h
      obtain ⟨key, reference, chosen, refers, rfl⟩ := oneEntry?_eq_some_iff.1 h
      exact .one kind found chosen refers
    | oneToMany =>
      simp only [kind, manyEntry?] at h
      by_cases needed : target.name = table.name ∨ 1 < (backKeys table target).length
      · rw [if_pos needed] at h
        obtain ⟨key, chosen, rfl⟩ := Option.map_eq_some_iff.1 h
        exact .byKey kind found needed chosen
      · rw [if_neg needed] at h
        cases h
        exact .plain kind found needed
    | manyToMany =>
      simp only [kind] at h
      obtain ⟨junction, joins, rfl⟩ := Option.map_eq_some_iff.1 h
      exact .through kind found joins
  · intro h
    cases h with
    | @one target _ _ kind found chosen refers =>
      refine ⟨target, found, ?_⟩
      simp only [kind]
      exact oneEntry?_eq_some_iff.2 ⟨_, _, chosen, refers, rfl⟩
    | @byKey target _ kind found needed chosen =>
      refine ⟨target, found, ?_⟩
      simp only [kind, manyEntry?]
      rw [if_pos needed, chosen]
      rfl
    | @plain target kind found needless =>
      refine ⟨target, found, ?_⟩
      simp only [kind, manyEntry?]
      rw [if_neg needless]
    | @through target _ kind found joins =>
      refine ⟨target, found, ?_⟩
      simp only [kind, throughEntry?]
      rw [joins]
      rfl

theorem mem_entriesFrom_iff {relations : List Relation} :
    e ∈ entriesFrom models table earlier relations ↔ ∃ front r back,
      relations = front ++ r :: back ∧ Binds models table (earlier ++ front) r e := by
  induction relations generalizing earlier with
  | nil => simp [entriesFrom]
  | cons r rest ih =>
    rw [entriesFrom, List.mem_append, Option.mem_toList, bound?_eq_some_iff, ih]
    constructor
    · rintro (h | ⟨front, r', back, rfl, h⟩)
      · exact ⟨[], r, rest, rfl, by rwa [List.append_nil]⟩
      · exact ⟨r :: front, r', back, rfl, by rwa [List.append_cons]⟩
    · rintro ⟨front, r', back, split, h⟩
      cases front with
      | nil =>
        obtain ⟨rfl, rfl⟩ := List.cons.inj split
        exact .inl (by rwa [List.append_nil] at h)
      | cons r₀ front =>
        obtain ⟨rfl, rfl⟩ := List.cons.inj split
        exact .inr ⟨front, r', back, rfl, by rwa [← List.append_cons]⟩

/-- An entry of the block of a table is that of one of its associations. -/
theorem mem_entries_iff :
    e ∈ entries models table ↔ ∃ earlier r later,
      table.source.relations = earlier ++ r :: later ∧ Binds models table earlier r e := by
  rw [entries, mem_entriesFrom_iff]
  simp only [List.nil_append]

end SchemaForge.Drizzle
