import SchemaForge.Generate
import SchemaForge.Proofs.Declaration.Lowering
import SchemaForge.Proofs.Lists
import SchemaForge.Proofs.Schema.Resolution

/-!
# The two relations of a foreign key

A foreign key is written twice in a Prisma schema: as a relation behind its column, and as a
relation back in the model that it leads to.  The two are found separately, each while its own model
is written.  `RelationsPaired` says that they fit together, and `relations_paired` that they do in
every schema that is emitted.

* `map_role_members` — what the members of a model stand for, in the order of their lines;
* `edgesTo_perm` — the edges that lead to the models, taken together, are all edges;
* `Edge.name?_eq_none_iff` — the edges without a name.
-/

namespace SchemaForge.Prisma

variable {models : List TableDecl} {dialect : Dialect} {t u : TableDecl} {e : Edge} {m : Member}

/-! ## What members stand for -/

/-- The edge of a relation beside a column. -/
def Role.forward? : Role → Option Edge
  | .forward e => some e
  | _ => none

/-- The edge of a relation back. -/
def Role.back? : Role → Option Edge
  | .back e => some e
  | _ => none

/-- What a column of a table is written as: a scalar, and behind it a relation if it is a key. -/
def columnRoles (table : TableDecl) (c : Column) : List Role :=
  .scalar c :: (c.reference?.map fun r => Role.forward ⟨table, c, r⟩).toList

/-- The member for a role, under a given name. -/
def Role.written (models : List TableDecl) (dialect : Dialect) (name : String) : Role → Member
  | .scalar c => scalarMember dialect c
  | .forward e => forwardMember models (allEdges models) e name
  | .back e => backMember (allEdges models) e name

theorem map_role_columnMembers (edges : List Edge) (columns : List Column) (used : List String) :
    (columnMembers models edges dialect t used columns).1.map (·.role)
      = columns.flatMap (columnRoles t) := by
  induction columns generalizing used with
  | nil => rfl
  | cons c rest ih =>
    rw [List.flatMap_cons, columnRoles, columnMembers]
    cases c.reference? with
    | none => rw [List.map_cons, ih]; rfl
    | some r => rw [List.map_cons, List.map_cons, ih]; rfl

theorem map_role_backMembers (edges es : List Edge) (used : List String) :
    (backMembers edges t used es).map (·.role) = es.map Role.back := by
  induction es generalizing used with
  | nil => rfl
  | cons e rest ih =>
    rw [backMembers, List.map_cons, ih]
    rfl

/-- A model has its columns, each with the relation beside it, and then the relations back. -/
theorem map_role_members (models : List TableDecl) (dialect : Dialect) (t : TableDecl) :
    (members models dialect t).map (·.role)
      = t.columns.flatMap (columnRoles t) ++ (edgesTo (allEdges models) t).map Role.back := by
  rw [members, List.map_append, map_role_columnMembers, map_role_backMembers]

theorem exists_written_of_mem_columnMembers {columns : List Column} {used : List String}
    (hm : m ∈ (columnMembers models (allEdges models) dialect t used columns).1) :
    ∃ name, m = m.role.written models dialect name := by
  induction columns generalizing used with
  | nil => exact absurd hm List.not_mem_nil
  | cons c rest ih =>
    rw [columnMembers] at hm
    cases h : c.reference? with
    | none =>
      simp only [h] at hm
      rcases List.mem_cons.1 hm with rfl | hm
      · exact ⟨"", rfl⟩
      · exact ih hm
    | some r =>
      simp only [h] at hm
      rcases List.mem_cons.1 hm with rfl | hm
      · exact ⟨"", rfl⟩
      · rcases List.mem_cons.1 hm with rfl | hm
        · exact ⟨_, rfl⟩
        · exact ih hm

theorem exists_written_of_mem_backMembers {es : List Edge} {used : List String}
    (hm : m ∈ backMembers (allEdges models) t used es) :
    ∃ name, m = m.role.written models dialect name := by
  induction es generalizing used with
  | nil => exact absurd hm List.not_mem_nil
  | cons e rest ih =>
    rw [backMembers] at hm
    rcases List.mem_cons.1 hm with rfl | hm
    · exact ⟨_, rfl⟩
    · exact ih hm

/-- Only the name of a member is not told by its role. -/
theorem exists_written (hm : m ∈ members models dialect t) :
    ∃ name, m = m.role.written models dialect name := by
  rw [members] at hm
  rcases List.mem_append.1 hm with hm | hm
  · exact exists_written_of_mem_columnMembers hm
  · exact exists_written_of_mem_backMembers hm

/-! ## Each edge once on either side -/

theorem filterMap_forward?_columnRoles (t : TableDecl) (c : Column) :
    (columnRoles t c).filterMap Role.forward?
      = (c.reference?.map fun r => (⟨t, c, r⟩ : Edge)).toList := by
  rw [columnRoles]
  cases c.reference? <;> rfl

theorem filterMap_back?_columnRoles (t : TableDecl) (c : Column) :
    (columnRoles t c).filterMap Role.back? = [] := by
  rw [columnRoles]
  cases c.reference? <;> rfl

/-- The relations beside columns are the edges of the table. -/
theorem filterMap_forward?_members (models : List TableDecl) (dialect : Dialect) (t : TableDecl) :
    (members models dialect t).filterMap (·.role.forward?) = edgesOf t := by
  have backs : ∀ es : List Edge, (es.map Role.back).filterMap Role.forward? = [] := by
    intro es
    rw [List.filterMap_map]
    exact List.filterMap_eq_nil_iff.2 fun _ _ => rfl
  rw [← Function.comp_def Role.forward?, ← List.filterMap_map, map_role_members,
    List.filterMap_append, List.filterMap_flatMap, backs, List.append_nil, edgesOf,
    List.filterMap_eq_flatMap_toList]
  exact List.flatMap_congr fun c _ => filterMap_forward?_columnRoles t c

/-- The relations back are the edges that lead to the table. -/
theorem filterMap_back?_members (models : List TableDecl) (dialect : Dialect) (t : TableDecl) :
    (members models dialect t).filterMap (·.role.back?) = edgesTo (allEdges models) t := by
  have columns : (t.columns.flatMap (columnRoles t)).filterMap Role.back? = [] := by
    rw [List.filterMap_flatMap, List.flatMap_eq_nil_iff]
    exact fun c _ => filterMap_back?_columnRoles t c
  have backs : ∀ es : List Edge, (es.map Role.back).filterMap Role.back? = es := by
    intro es
    rw [List.filterMap_map]
    exact List.filterMap_some
  rw [← Function.comp_def Role.back?, ← List.filterMap_map, map_role_members,
    List.filterMap_append, columns, backs, List.nil_append]

/-! ## Edges of lowered tables -/

theorem mem_allEdges_iff :
    e ∈ allEdges models ↔
      e.source ∈ models ∧ e.column ∈ e.source.columns ∧ e.column.reference? = some e.reference := by
  rw [allEdges, List.mem_flatMap]
  constructor
  · rintro ⟨t, ht, he⟩
    obtain ⟨c, hc, he⟩ := List.mem_filterMap.1 he
    obtain ⟨r, hr, rfl⟩ := Option.map_eq_some_iff.1 he
    exact ⟨ht, hc, hr⟩
  · rintro ⟨ht, hc, hr⟩
    refine ⟨e.source, ht, List.mem_filterMap.2 ⟨e.column, hc, ?_⟩⟩
    rw [hr]
    rfl

section Lowered

variable {target : Target} {tables : List Table} (lowered : lowerTables target tables = .ok models)
include lowered

/-- An edge leads to one of the tables. -/
theorem target_mem_of_mem_allEdges (he : e ∈ allEdges models) :
    e.reference.table ∈ models.map (·.name) := by
  obtain ⟨hsource, hcolumn, hreference⟩ := mem_allEdges_iff.1 he
  exact target_mem_of_reference? lowered hsource hcolumn hreference

theorem selfReferencing_iff (he : e ∈ allEdges models) :
    e.reference.selfReferencing = true ↔ e.source.name = e.reference.table := by
  obtain ⟨hsource, hcolumn, hreference⟩ := mem_allEdges_iff.1 he
  rw [selfReferencing_iff_of_reference? lowered hsource hcolumn hreference]
  exact eq_comm

/-- The edges that lead to the tables, taken together, are all edges. -/
theorem edgesTo_perm (nodup : (models.map (·.name)).Nodup) :
    (models.flatMap (edgesTo (allEdges models))).Perm (allEdges models) :=
  flatMap_filter_perm nodup fun _ he => target_mem_of_mem_allEdges lowered he

end Lowered

/-! ## Names of edges -/

/-- An edge joins the tables of two names, whichever of them has the key. -/
def Edge.Joins (e : Edge) (a b : String) : Prop :=
  e.source.name = a ∧ e.reference.table = b ∨ e.source.name = b ∧ e.reference.table = a

instance (e : Edge) (a b : String) : Decidable (e.Joins a b) :=
  inferInstanceAs (Decidable (_ ∨ _))

theorem Edge.linksAs_iff {e other : Edge} :
    e.linksAs other = true ↔ other.Joins e.source.name e.reference.table := by
  simp only [linksAs, Bool.or_eq_true, Bool.and_eq_true, beq_iff_eq, Joins]
  constructor
  · rintro (⟨hs, ht⟩ | ⟨hs, ht⟩)
    · exact .inl ⟨hs.symm, ht.symm⟩
    · exact .inr ⟨ht.symm, hs.symm⟩
  · rintro (⟨hs, ht⟩ | ⟨hs, ht⟩)
    · exact .inl ⟨hs.symm, ht.symm⟩
    · exact .inr ⟨ht.symm, hs.symm⟩

/-- An edge has no name when it leads to another table and no other edge joins the two. -/
theorem Edge.name?_eq_none_iff {edges : List Edge} (he : e ∈ edges)
    (self : e.reference.selfReferencing = true ↔ e.source.name = e.reference.table) :
    e.name? edges = none ↔ e.source.name ≠ e.reference.table ∧
      edges.filter (fun o => o.Joins e.source.name e.reference.table) = [e] := by
  have count : edges.countP e.linksAs
      = (edges.filter fun o => o.Joins e.source.name e.reference.table).length := by
    rw [List.countP_eq_length_filter]
    refine congrArg List.length (List.filter_congr fun o _ => Bool.eq_iff_iff.2 ?_)
    rw [decide_eq_true_iff]
    exact linksAs_iff
  have joins : e ∈ edges.filter fun o => o.Joins e.source.name e.reference.table :=
    List.mem_filter.2 ⟨he, decide_eq_true (.inl ⟨rfl, rfl⟩)⟩
  have unnamed : e.name? edges = none ↔
      ¬ 1 < edges.countP e.linksAs ∧ e.source.name ≠ e.reference.table := by
    rw [name?, ite_eq_right_iff, needsName, Ne, ← self]
    simp
  rw [unnamed, count, and_comm]
  refine and_congr_right fun _ => ?_
  constructor
  · intro few
    have one := List.length_pos_of_mem joins
    obtain ⟨o, ho⟩ := List.length_eq_one_iff.1 (Nat.le_antisymm (Nat.not_lt.1 few) one)
    rw [ho] at joins ⊢
    rw [List.mem_singleton.1 joins]
  · intro only
    rw [only]
    exact Nat.lt_irrefl 1

/-! ## The two relations of an edge -/

/-- The name of the relation that a member is, if it has one. -/
def Member.relationName? (m : Member) : Option String :=
  m.attributes.findSome? fun
    | .relation name _ => name
    | _ => none

/-- How the relations of an edge to a model are written: `forward` beside the key and `back` in the
model. -/
structure EdgePaired (models : List TableDecl) (e : Edge) (model : TableDecl)
    (forward back : Member) : Prop where
  forward_type : forward.typeText =
    if e.column.nullable then model.typeName ++ "?" else model.typeName
  back_type : back.typeText = e.source.typeName ++ "[]" ∨ back.typeText = e.source.typeName ++ "?"
  same_name : forward.relationName? = back.relationName?
  /-- Both lines go without a name when no other edge joins the two models, and these are two. -/
  unnamed : forward.relationName? = none ↔ e.source.name ≠ model.name ∧
    (allEdges models).filter (fun o => o.Joins e.source.name model.name) = [e]

/-- The relations in a schema are those of the foreign keys, two for each. -/
structure RelationsPaired (dialect : Dialect) (models : List TableDecl) : Prop where
  /-- The columns of a model are the fields of its table. -/
  columns : ∀ t ∈ models,
    List.Forall₂ (fun f c => c.Represents t.source f) t.source.fields t.columns
  /-- Each is written as a scalar, which the relation of a foreign key directly follows.  The
  relations back stand behind them. -/
  layout : ∀ t ∈ models, (members models dialect t).map (·.role) =
    t.columns.flatMap (columnRoles t)
      ++ ((allEdges models).filter fun e => e.reference.table = t.name).map Role.back
  /-- Scalars are optional like their columns, and no relations. -/
  scalars : ∀ t ∈ models, ∀ m ∈ members models dialect t, ∀ c, m.role = .scalar c →
    m.typeText = (if c.nullable then c.primitive ++ "?" else c.primitive) ∧
      ∀ name link, Attribute.relation name link ∉ m.attributes
  /-- Every foreign key has one relation beside it. -/
  forward_once :
    (models.flatMap fun t => (members models dialect t).filterMap (·.role.forward?))
      = allEdges models
  /-- Every foreign key has one relation back. -/
  back_once :
    (models.flatMap fun t => (members models dialect t).filterMap (·.role.back?)).Perm
      (allEdges models)
  /-- The relation back is in the model that the foreign key leads to, and the two fit together. -/
  paired : ∀ e ∈ allEdges models, ∃ u ∈ models, u.name = e.reference.table ∧
    ∀ f ∈ members models dialect e.source, f.role = .forward e →
      ∀ b ∈ members models dialect u, b.role = .back e → EdgePaired models e u f b

theorem typeText_scalarMember (dialect : Dialect) (c : Column) :
    (scalarMember dialect c).typeText =
      if c.nullable then c.primitive ++ "?" else c.primitive := by
  rw [Member.typeText, scalarMember]
  cases c.nullable <;> simp [Multiplicity.mark]

theorem relation_notMem_scalarMember (dialect : Dialect) (c : Column) (name : Option String)
    (link : Option Link) : Attribute.relation name link ∉ (scalarMember dialect c).attributes := by
  intro h
  rcases List.mem_append.1 h with h | h
  · obtain ⟨token, -, h⟩ := List.mem_flatMap.1 h
    cases token <;> simp [tokenAttributes] at h
  · rw [mapAttributes] at h
    split_ifs at h <;> simp at h

theorem relationName?_forwardMember (edges : List Edge) (name : String) :
    (forwardMember models edges e name).relationName? = e.name? edges := by
  simp only [Member.relationName?, forwardMember, List.findSome?_singleton]

theorem relationName?_backMember (edges : List Edge) (name : String) :
    (backMember edges e name).relationName? = e.name? edges := by
  rw [Member.relationName?, backMember]
  cases e.name? edges <;> rfl

/-- With names that differ, a model is found under the name of its table. -/
theorem modelNameOf_eq (nodup : (models.map (·.name)).Nodup) (hu : u ∈ models) :
    modelNameOf models u.name = u.typeName := by
  rw [modelNameOf, find?_name_of_nodup nodup hu]
  rfl

/-- The relations of an edge, whatever their properties are called, fit together. -/
theorem edgePaired {target : Target} {tables : List Table}
    (lowered : lowerTables target tables = .ok models) (nodup : (models.map (·.name)).Nodup)
    (he : e ∈ allEdges models) (hu : u ∈ models) (leads : u.name = e.reference.table)
    (forwardName backName : String) :
    EdgePaired models e u (forwardMember models (allEdges models) e forwardName)
      (backMember (allEdges models) e backName) where
  forward_type := by
    rw [Member.typeText, forwardMember, ← leads, modelNameOf_eq nodup hu]
    cases e.column.nullable <;> simp [Multiplicity.mark]
  back_type := by
    rw [Member.typeText, backMember]
    cases e.column.isUnique
    · exact .inl rfl
    · exact .inr rfl
  same_name := by
    rw [relationName?_forwardMember, relationName?_backMember]
  unnamed := by
    rw [relationName?_forwardMember, leads]
    exact Edge.name?_eq_none_iff he (selfReferencing_iff lowered he)

/-- Whatever tables are emitted, the relations in their schema are paired. -/
theorem relations_paired {tables : List Table} {artifacts : List Artifact}
    (distinct : (tables.map (·.name)).Nodup)
    (accepted : emit ⟨.prisma, dialect⟩ tables = .ok artifacts) :
    ∃ models : List TableDecl, models.map (·.source) = tables ∧
      artifacts = Prisma.artifacts dialect models ∧ RelationsPaired dialect models := by
  obtain ⟨models, lowered, rfl⟩ := Except.map_eq_ok_iff.1 accepted
  have sources := map_source_of_lowerTables lowered
  have nodup : (models.map (·.name)).Nodup := by
    rw [← sources, List.map_map] at distinct
    exact distinct
  refine ⟨models, sources, rfl, ?_⟩
  refine ⟨fun t ht => represents_of_lowerTables lowered ht, ?_, ?_, ?_, ?_, ?_⟩
  · intro t _
    exact map_role_members models dialect t
  · intro t _ m hm c hrole
    obtain ⟨name, written⟩ := exists_written hm
    rw [hrole] at written
    rw [written]
    exact ⟨typeText_scalarMember dialect c, relation_notMem_scalarMember dialect c⟩
  · rw [allEdges]
    exact List.flatMap_congr fun t _ => filterMap_forward?_members models dialect t
  · rw [List.flatMap_congr fun t _ => filterMap_back?_members models dialect t]
    exact edgesTo_perm lowered nodup
  · intro e he
    obtain ⟨u, hu, leads⟩ := List.mem_map.1 (target_mem_of_mem_allEdges lowered he)
    refine ⟨u, hu, leads, ?_⟩
    intro f hf hforward b hb hback
    obtain ⟨forwardName, written⟩ := exists_written hf
    obtain ⟨backName, written'⟩ := exists_written hb
    rw [hforward] at written
    rw [hback] at written'
    rw [written, written']
    exact edgePaired lowered nodup he hu leads forwardName backName

/-- Games lead to themselves and twice to teams, and teams and players to each other. -/
theorem relations_paired_league :
    ∃ models : List TableDecl, models.map (·.source) = Catalog.league.tables ∧
      RelationsPaired .postgresql models := by
  have inside : KeysInside Catalog.league.tables := by
    rw [KeysInside]
    decide
  have accepts : ∀ t ∈ Catalog.league.tables, t.fault? = none := by decide
  have supported : ∀ t ∈ Catalog.league.tables, ∀ f ∈ t.fields,
      Target.primitive? ⟨.prisma, .postgresql⟩ f.type ≠ none := by decide
  obtain ⟨models, lowered⟩ := lowerTables_of_supported inside
    (fun t ht => Table.fault?_eq_none_iff.1 (accepts t ht)) supported
  have accepted : emit ⟨.prisma, .postgresql⟩ Catalog.league.tables
      = .ok (Prisma.artifacts .postgresql models) := by
    rw [emit, lowered]
    rfl
  have distinct : (Catalog.league.tables.map (·.name)).Nodup := by decide
  obtain ⟨models, sources, -, paired⟩ := relations_paired distinct accepted
  exact ⟨models, sources, paired⟩

end SchemaForge.Prisma
