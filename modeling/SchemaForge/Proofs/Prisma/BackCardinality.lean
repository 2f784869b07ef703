import SchemaForge.Proofs.Declaration.Linked
import SchemaForge.Proofs.Prisma.RelationPairs

/-!
# One row back or many

The relation back of a foreign key stands for one row if the values of the key do not repeat, and
for a list of rows if they may.  They do not repeat in a field that is marked unique, nor in one
that is the primary key (`Field.backMultiplicity`), but a column is marked unique only when it is
not the primary key (`isUnique_columnOf`).

So the relation back of a field fits its values, unless the field is the primary key of its table:
then it is written as a list (`back_cardinality`).  `settings_of_a_user_are_listed` is a case in
point.
-/

namespace SchemaForge

/-- How many rows may have one value of a field, given what the field declares: one if it is marked
unique or is the primary key. -/
def Field.backMultiplicity (f : Field) : Prisma.Multiplicity :=
  if f.unique || f.isPrimaryKey then .optional else .list

/-- A column is unique when its field is, and is not the primary key. -/
theorem isUnique_columnOf (table : Table) (f : Field) (dialect : Dialect) (primitive : String) :
    (columnOf table f dialect primitive).isUnique = (f.unique && !f.isPrimaryKey) := by
  rw [Column.isUnique, Bool.eq_iff_iff, List.contains_iff_mem, unique_mem_columnOf_iff]
  simp

namespace Prisma

variable {models : List TableDecl} {dialect : Dialect} {t u : TableDecl} {e : Edge} {f : Field}
  {key : ForeignKey}

/-! ## The relation back of an edge -/

section Linked

variable (linked : Linked models)
include linked

theorem nodup_edgesOf (ht : t ∈ models) : (edgesOf t).Nodup := by
  have columns : t.columns.Nodup := (linked.columns_nodup t ht).of_map
  refine columns.filterMap ?_
  intro c c' e he he'
  obtain ⟨r, -, rfl⟩ := Option.map_eq_some_iff.1 he
  obtain ⟨r', -, same⟩ := Option.map_eq_some_iff.1 he'
  cases same
  rfl

theorem nodup_allEdges : (allEdges models).Nodup := by
  rw [allEdges, List.nodup_flatMap]
  refine ⟨fun t ht => nodup_edgesOf linked ht, ?_⟩
  have tables : models.Nodup := linked.names_nodup.of_map
  refine tables.imp ?_
  intro t t' apart e he he'
  obtain ⟨c, -, he⟩ := List.mem_filterMap.1 he
  obtain ⟨c', -, he'⟩ := List.mem_filterMap.1 he'
  obtain ⟨r, -, rfl⟩ := Option.map_eq_some_iff.1 he
  obtain ⟨r', -, same⟩ := Option.map_eq_some_iff.1 he'
  exact apart (congrArg Edge.source same).symm

/-- One member of a model is the relation back of an edge that leads to it. -/
theorem count_role_back (dialect : Dialect) (he : e ∈ allEdges models)
    (leads : u.name = e.reference.table) :
    ((members models dialect u).map (·.role)).count (.back e) = 1 := by
  have columns : Role.back e ∉ u.columns.flatMap (columnRoles u) := by
    rw [List.mem_flatMap]
    rintro ⟨c, -, hc⟩
    rw [columnRoles] at hc
    cases c.reference? <;> simp at hc
  have leading : e ∈ edgesTo (allEdges models) u := by
    rw [edgesTo, List.mem_filter, beq_iff_eq]
    exact ⟨he, leads.symm⟩
  have backs : ((edgesTo (allEdges models) u).map Role.back).Nodup := by
    refine ((nodup_allEdges linked).filter _).map ?_
    intro e e' same
    exact Role.back.inj same
  rw [map_role_members, List.count_append, List.count_eq_zero_of_not_mem columns,
    List.count_eq_one_of_mem backs (List.mem_map_of_mem leading)]

/-- Only the name of the member back along an edge is not told by the edge. -/
theorem exists_filter_role_back (dialect : Dialect) (he : e ∈ allEdges models)
    (leads : u.name = e.reference.table) :
    ∃ name, (members models dialect u).filter (·.role == .back e)
      = [backMember (allEdges models) e name] := by
  have one := count_role_back linked dialect he leads
  rw [List.count, List.countP_map, List.countP_eq_length_filter] at one
  obtain ⟨back, only⟩ := List.length_eq_one_iff.1 one
  have found : back ∈ (members models dialect u).filter (·.role == .back e) := by
    rw [← Function.comp_def (· == Role.back e) Member.role, only]
    exact List.mem_singleton_self back
  obtain ⟨hback, role⟩ := List.mem_filter.1 found
  obtain ⟨name, written⟩ := exists_written hback
  rw [beq_iff_eq.1 role] at written
  exact ⟨name, only.trans (congrArg ([·]) written)⟩

end Linked

/-! ## Fields -/

/-- The relation back of a field with a foreign key, in the model that the key leads to. -/
structure BackOf (models : List TableDecl) (dialect : Dialect) (t u : TableDecl) (f : Field)
    (key : ForeignKey) (back : Member) : Prop where
  leads : u.name = key.targetTable
  /-- One member of the model leads back along the column of the field, this one. -/
  once : ∃ c ∈ t.columns, c.name = f.name ∧
    (members models dialect u).filter (·.role == .back ⟨t, c, referenceOf t.source key⟩) = [back]
  /-- The type of the member is a row of the table with the key if the field is marked unique and is
  not the primary key, else a list of such rows. -/
  typeText : back.typeText = t.typeName ++ (if f.unique && !f.isPrimaryKey then "?" else "[]")
  /-- The type is what the values of the field ask for, unless the field is the primary key. -/
  fits_iff : back.multiplicity = f.backMultiplicity ↔ f.isPrimaryKey = false

theorem exists_backOf {tables : List Table}
    (lowered : lowerTables ⟨.prisma, dialect⟩ tables = .ok models) (linked : Linked models)
    (ht : t ∈ models) (hf : f ∈ t.source.fields) (refers : f.foreignKey = some key) :
    ∃ u ∈ models, ∃ back, BackOf models dialect t u f key back := by
  obtain ⟨p, hc⟩ := exists_columnOf_of_field lowered ht hf
  have reference : (columnOf t.source f dialect p).reference?
      = some (referenceOf t.source key) := by
    rw [reference?_columnOf, refers, Option.map_some]
  have he : ⟨t, columnOf t.source f dialect p, referenceOf t.source key⟩ ∈ allEdges models :=
    mem_allEdges_iff.2 ⟨ht, hc, reference⟩
  obtain ⟨u, hu, leads⟩ := List.mem_map.1 (target_mem_of_mem_allEdges lowered he)
  obtain ⟨name, only⟩ := exists_filter_role_back linked dialect he leads
  refine ⟨u, hu, _, leads, ⟨_, hc, rfl, only⟩, ?typeText, ?fits⟩
  case typeText =>
    rw [Member.typeText, backMember, isUnique_columnOf]
    cases f.unique && !f.isPrimaryKey <;> rfl
  case fits =>
    rw [backMember, isUnique_columnOf, Field.backMultiplicity]
    cases f.unique <;> cases f.isPrimaryKey <;> simp

/-- In the schema of whatever is requested, every field with a foreign key has one relation back in
the model that the key leads to: optional for a unique field that is not the primary key, else a
list.  It fits the values of the field just when this is not the primary key. -/
theorem back_cardinality {catalog : Catalog} {requested : List String} {tables : List Table}
    (valid : catalog.Valid) (resolves : catalog.resolve requested = .ok tables)
    (lowered : lowerTables ⟨.prisma, dialect⟩ tables = .ok models) :
    ∀ t ∈ models, ∀ f ∈ t.source.fields, ∀ key, f.foreignKey = some key →
      ∃ u ∈ models, ∃ back, BackOf models dialect t u f key back := by
  intro t ht f hf key refers
  exact exists_backOf lowered (.of_resolve valid resolves lowered) ht hf refers

/-- A user has one profile, if any. -/
theorem back_cardinality_profiles :
    ∃ models, lowerTables ⟨.prisma, .postgresql⟩ [Builtin.users, Builtin.profiles] = .ok models ∧
      ∃ profiles ∈ models, ∃ users ∈ models, ∃ f ∈ profiles.source.fields, ∃ key back,
        BackOf models .postgresql profiles users f key back ∧ users.name = "users" ∧
          back.typeText = "Profile?" := by
  have resolves : Catalog.builtin.resolve ["profiles"] = .ok [Builtin.users, Builtin.profiles] := by
    cbv
  obtain ⟨models, lowered, profiles, hprofiles, model, f, hf, key, refers, marked, users⟩ :
      ∃ models, lowerTables ⟨.prisma, .postgresql⟩ [Builtin.users, Builtin.profiles] = .ok models ∧
        ∃ profiles ∈ models, profiles.typeName = "Profile" ∧
          ∃ f ∈ profiles.source.fields, ∃ key, f.foreignKey = some key ∧
            (f.unique && !f.isPrimaryKey) = true ∧ key.targetTable = "users" :=
    ⟨_, rfl, _, List.mem_cons_of_mem _ List.mem_cons_self, by decide, _,
      List.mem_cons_of_mem _ List.mem_cons_self, _, rfl, rfl, rfl⟩
  obtain ⟨u, hu, back, hback⟩ :=
    back_cardinality .builtin resolves lowered profiles hprofiles f hf key refers
  refine ⟨models, lowered, profiles, hprofiles, u, hu, f, hf, key, back, hback,
    hback.leads.trans users, ?_⟩
  rw [hback.typeText, marked, model]
  rfl

/-- Users with settings, which are kept under the user that they belong to. -/
def settingsOfUsers : Catalog := ⟨[
  ⟨"users", "User", [Field.id], []⟩,
  ⟨"settings", "Settings",
    [{ (Field.plain "user_id" .identifier).referencing "users" .cascade with
      isPrimaryKey := true }],
    []⟩]⟩

/-- A user has one row of settings at most, and yet a list of them. -/
theorem settings_of_a_user_are_listed :
    settingsOfUsers.Valid ∧ ∃ tables models, settingsOfUsers.resolve ["settings"] = .ok tables ∧
      lowerTables ⟨.prisma, .postgresql⟩ tables = .ok models ∧
      ∃ users ∈ models, ∃ settings ∈ models, ∃ f ∈ settings.source.fields, ∃ c ∈ settings.columns,
        f.backMultiplicity = .optional ∧ c.name = f.name ∧ users.name = "users" ∧
          ∃ key, f.foreignKey = some key ∧ key.targetTable = users.name ∧
            ((members models .postgresql users).filter
              (·.role == .back ⟨settings, c, referenceOf settings.source key⟩)).map
                (fun back => (back.typeText, back.multiplicity)) = [("Settings[]", .list)] := by
  have valid : settingsOfUsers.Valid := .of_accepted (by decide) (by decide)
  have resolves : settingsOfUsers.resolve ["settings"] = .ok settingsOfUsers.tables := by cbv
  refine ⟨valid, _, _, resolves, rfl, _, List.mem_cons_self, _,
    List.mem_cons_of_mem _ List.mem_cons_self, _, List.mem_cons_self, _, List.mem_cons_self,
    rfl, rfl, rfl, _, rfl, rfl, ?_⟩
  decide

end Prisma

end SchemaForge
