import SchemaForge.Prisma.Schema
import SchemaForge.Proofs.Text.NameSearch

/-!
# The names of members

The columns of a model are named first, whatever their names come to.  Then the relations take free
names, those beside keys in the order of the columns and those back behind them: by which rule a
name is made up (`forwardBases`, `backName`) does not matter then (`map_name_relations`).  So a
relation never shares its name with another member, and the members of a model are told apart by
their names just when its columns are (`member_names_apart`).
-/

namespace SchemaForge.Prisma

variable {models : List TableDecl} {dialect : Dialect} {t : TableDecl} {edges : List Edge}
  {columns : List Column} {used : List String} {m : Member}

/-- The member is a relation, on either side. -/
def Member.isRelation (m : Member) : Bool :=
  match m.role with
  | .scalar _ => false
  | .forward _ => true
  | .back _ => true

/-! ## Scalars -/

/-- The scalars among members are those of the columns. -/
theorem filter_scalars_columnMembers (columns : List Column) (used : List String) :
    (columnMembers models edges dialect t used columns).1.filter (!·.isRelation)
      = columns.map (scalarMember dialect) := by
  induction columns generalizing used with
  | nil => rfl
  | cons c rest ih =>
    rw [columnMembers]
    cases c.reference? with
    | none => exact congrArg (scalarMember dialect c :: ·) (ih used)
    | some r => exact congrArg (scalarMember dialect c :: ·) (ih _)

theorem isRelation_of_mem_backMembers {es : List Edge}
    (hm : m ∈ backMembers edges t used es) : m.isRelation = true := by
  induction es generalizing used with
  | nil => exact absurd hm List.not_mem_nil
  | cons e rest ih =>
    rw [backMembers] at hm
    rcases List.mem_cons.1 hm with rfl | hm
    · rfl
    · exact ih hm

/-! ## Relations -/

/-- The names that the relations beside keys would have if they were free. -/
def forwardBases (columns : List Column) : List String :=
  columns.filterMap fun c => c.reference?.map fun _ => Edge.forwardName c.name

theorem forwardBases_cons_none {c : Column} (h : c.reference? = none) :
    forwardBases (c :: columns) = forwardBases columns :=
  List.filterMap_cons_none (by rw [h, Option.map_none])

theorem forwardBases_cons_some {c : Column} {r : Reference} (h : c.reference? = some r) :
    forwardBases (c :: columns) = Edge.forwardName c.name :: forwardBases columns :=
  List.filterMap_cons_some (by rw [h, Option.map_some])

/-- The relations beside keys have free names, one after the other. -/
theorem map_name_relations_columnMembers (columns : List Column) (used : List String) :
    ((columnMembers models edges dialect t used columns).1.filter (·.isRelation)).map (·.name)
      = Text.freeNames (forwardBases columns) used := by
  induction columns generalizing used with
  | nil => rfl
  | cons c rest ih =>
    rw [columnMembers]
    cases h : c.reference? with
    | none =>
      rw [forwardBases_cons_none h]
      exact ih used
    | some r =>
      rw [forwardBases_cons_some h, Text.freeNames]
      exact congrArg (Text.freeName (Edge.forwardName c.name) used :: ·) (ih _)

/-- The names of the relations beside keys are in use behind them. -/
theorem used_columnMembers (columns : List Column) (used : List String) :
    (columnMembers models edges dialect t used columns).2
      = (Text.freeNames (forwardBases columns) used).reverse ++ used := by
  induction columns generalizing used with
  | nil => rfl
  | cons c rest ih =>
    rw [columnMembers]
    cases h : c.reference? with
    | none =>
      rw [forwardBases_cons_none h]
      exact ih used
    | some r =>
      rw [forwardBases_cons_some h, Text.freeNames, List.reverse_cons, List.append_assoc]
      exact ih _

/-- The relations back have free names, one after the other. -/
theorem map_name_backMembers (es : List Edge) (used : List String) :
    (backMembers edges t used es).map (·.name)
      = Text.freeNames (es.map (backName t edges)) used := by
  induction es generalizing used with
  | nil => rfl
  | cons e rest ih =>
    rw [backMembers, List.map_cons, ih, List.map_cons, Text.freeNames]
    rfl

/-! ## All members -/

theorem filter_scalars_members (models : List TableDecl) (dialect : Dialect) (t : TableDecl) :
    (members models dialect t).filter (!·.isRelation) = t.columns.map (scalarMember dialect) := by
  have backs : ∀ (used : List String) (es : List Edge),
      (backMembers (allEdges models) t used es).filter (!·.isRelation) = [] := by
    intro used es
    exact List.filter_eq_nil_iff.2 fun m hm => by simp [isRelation_of_mem_backMembers hm]
  rw [members, List.filter_append, backs, List.append_nil, filter_scalars_columnMembers]

/-- The scalars of a model are named as its columns are. -/
theorem map_name_scalars (models : List TableDecl) (dialect : Dialect) (t : TableDecl) :
    ((members models dialect t).filter (!·.isRelation)).map (·.name)
      = t.columns.map (·.propertyName) := by
  rw [filter_scalars_members, List.map_map]
  rfl

/-- The relations of a model have free names, one after the other, behind those of its columns. -/
theorem map_name_relations (models : List TableDecl) (dialect : Dialect) (t : TableDecl) :
    ((members models dialect t).filter (·.isRelation)).map (·.name)
      = Text.freeNames
          (forwardBases t.columns
            ++ (edgesTo (allEdges models) t).map (backName t (allEdges models)))
          (t.columns.map (·.propertyName)) := by
  have backs : ∀ (used : List String) (es : List Edge),
      (backMembers (allEdges models) t used es).filter (·.isRelation)
        = backMembers (allEdges models) t used es := by
    intro used es
    exact List.filter_eq_self.2 fun m hm => isRelation_of_mem_backMembers hm
  rw [members, List.filter_append, backs, List.map_append, map_name_relations_columnMembers,
    map_name_backMembers, used_columnMembers, Text.freeNames_append]

/-- The names of relations are reserved by searches, the first with the names of the columns in use
and every other with those left by the one before it. -/
theorem exists_reservesAll_relations (models : List TableDecl) (dialect : Dialect) (t : TableDecl) :
    ∃ after, Text.ReservesAll
      (forwardBases t.columns ++ (edgesTo (allEdges models) t).map (backName t (allEdges models)))
      (t.columns.map (·.propertyName))
      (((members models dialect t).filter (·.isRelation)).map (·.name)) after := by
  rw [map_name_relations]
  exact ⟨_, Text.reservesAll_freeNames _ _⟩

/-- Every scalar of a model has the name of one of its columns. -/
theorem name_mem_of_scalar (hm : m ∈ members models dialect t) (scalar : m.isRelation = false) :
    m.name ∈ t.columns.map (·.propertyName) := by
  rw [← map_name_scalars models dialect t]
  exact List.mem_map_of_mem (List.mem_filter.2 ⟨hm, by simp [scalar]⟩)

/-- No relation of a model has the name of one of its columns. -/
theorem name_notMem_of_relation (hm : m ∈ members models dialect t)
    (relation : m.isRelation = true) : m.name ∉ t.columns.map (·.propertyName) := by
  have free : m.name ∈ ((members models dialect t).filter (·.isRelation)).map (·.name) :=
    List.mem_map_of_mem (List.mem_filter.2 ⟨hm, relation⟩)
  rw [map_name_relations] at free
  exact Text.freeNames_notMem _ _ _ free

theorem nodup_name_relations (models : List TableDecl) (dialect : Dialect) (t : TableDecl) :
    (((members models dialect t).filter (·.isRelation)).map (·.name)).Nodup := by
  rw [map_name_relations]
  exact Text.nodup_freeNames _ _

/-- In every model the name of a relation is that of no other member, so the members have different
names if the columns have, and only then. -/
theorem member_names_apart (models : List TableDecl) (dialect : Dialect) (t : TableDecl) :
    (((members models dialect t).map (·.name)).Nodup ↔
        (t.columns.map (·.propertyName)).Nodup) ∧
      ∀ front m back, members models dialect t = front ++ m :: back → m.isRelation = true →
        m.name ∉ (front ++ back).map (·.name) := by
  constructor
  · have split := (List.filter_append_perm (·.isRelation) (members models dialect t)).map (·.name)
    rw [← split.nodup_iff, List.map_append, List.nodup_append, map_name_scalars]
    constructor
    · exact fun h => h.2.1
    · intro columns
      refine ⟨nodup_name_relations models dialect t, columns, ?_⟩
      intro name hname other hother same
      obtain ⟨m, hm, rfl⟩ := List.mem_map.1 hname
      obtain ⟨hm, relation⟩ := List.mem_filter.1 hm
      exact name_notMem_of_relation hm relation (same ▸ hother)
  · intro front m back split relation again
    obtain ⟨other, hother, same⟩ := List.mem_map.1 again
    have hm : m ∈ members models dialect t := by simp [split]
    have hother' : other ∈ members models dialect t := by
      rw [split]
      exact List.mem_append.2 ((List.mem_append.1 hother).imp_right (List.mem_cons_of_mem _))
    cases kind : other.isRelation with
    | false =>
      exact name_notMem_of_relation hm relation (same ▸ name_mem_of_scalar hother' kind)
    | true =>
      -- two relations of one name
      have nodup := nodup_name_relations models dialect t
      rw [split, List.filter_append, List.filter_cons_of_pos relation, List.map_append,
        List.map_cons, List.nodup_middle, ← List.map_append, ← List.filter_append] at nodup
      exact (List.nodup_cons.1 nodup).1
        (same ▸ List.mem_map_of_mem (List.mem_filter.2 ⟨hother, kind⟩))

end SchemaForge.Prisma
