import SchemaForge.Proofs.Drizzle.Entries
import SchemaForge.Proofs.Outcome
import SchemaForge.Proofs.Schema.Restriction

/-!
# Associations with tables that are not generated

An association counts only if its target is among the tables of the schema.  The others are passed
over, and the block of a table is that of the table without them (`entries_restrict`): they have no
entry of their own (`bound?_absent`), and those that have one find the same key by their place
among the associations with the same table (`bound?_filter`).

Nothing else in a schema reads associations.  Lowering a restricted table gives the same columns
(`lowerTables_restrict`), the tables that an entry leads to may be restricted as well
(`entries_map_restrict`), and so definitions that differ in such associations alone have the same
schema (`absent_targets_traceless`).
-/

namespace SchemaForge

variable {names : List String} {tables : List Table} {target : Target}

/-! ## Lowering restricted tables -/

/-- The declaration of the restricted table, with the same columns. -/
def TableDecl.restrict (names : List String) (t : TableDecl) : TableDecl :=
  { t with source := t.source.restrict names }

theorem lowerTable_restrict (t : Table) :
    lowerTable target (t.restrict names) = (lowerTable target t).map (·.restrict names) := by
  have columns : allOrFirstError (fun f => lowerField (t.restrict names) f target)
      (t.restrict names).fields = allOrFirstError (fun f => lowerField t f target) t.fields := rfl
  rw [lowerTable, lowerTable, columns]
  cases allOrFirstError (fun f => lowerField t f target) t.fields <;> rfl

theorem checkReferences_restrict :
    checkReferences (tables.map (·.restrict names)) = checkReferences tables := by
  have each : ∀ t, openKey? (tables.map (·.restrict names)) (t.restrict names)
      = openKey? tables t := by
    intro t
    simp only [openKey?, List.any_map]
    rfl
  rw [checkReferences, checkReferences, List.findSome?_map]
  simp only [Function.comp_def, each]

/-- Restricted tables are lowered as the tables are, and fail as these do. -/
theorem lowerTables_restrict :
    lowerTables target (tables.map (·.restrict names))
      = (lowerTables target tables).map fun models => models.map (·.restrict names) := by
  rw [lowerTables, lowerTables, checkReferences_restrict]
  cases checkReferences tables with
  | error e => rfl
  | ok => exact allOrFirstError_map lowerTable_restrict tables

namespace Drizzle

variable {models : List TableDecl} {t : TableDecl} {earlier relations : List Relation}
  {r : Relation} {dialect : Dialect}

/-! ## The table of a block -/

/-- An association with a table that is not there has no entry. -/
theorem bound?_absent (absent : r.targetTable ∉ models.map (·.name)) :
    bound? models t earlier r = none := by
  have missing : models.find? (·.name == r.targetTable) = none := by
    rw [List.find?_eq_none]
    intro m hm
    rw [beq_iff_eq]
    intro same
    exact absent (same ▸ List.mem_map_of_mem hm)
  rw [bound?, missing]
  rfl

/-- Associations with other tables are not counted. -/
theorem countBack_filter {name : String} (hname : name ∈ names) :
    countBack (earlier.filter (·.leadsInto names)) name = countBack earlier name := by
  unfold countBack
  rw [List.countP_filter]
  refine List.countP_congr fun r _ => ?_
  rw [Bool.and_eq_true, and_iff_left_iff_imp]
  intro counts
  rw [Bool.and_eq_true, beq_iff_eq, beq_iff_eq] at counts
  rw [Relation.leadsInto, counts.2, List.contains_iff_mem]
  exact hname

/-- An entry depends on the associations before it by those with tables that are there. -/
theorem bound?_filter (inside : models.map (·.name) ⊆ names) :
    bound? models t (earlier.filter (·.leadsInto names)) r = bound? models t earlier r := by
  by_cases there : r.targetTable ∈ models.map (·.name)
  · unfold bound?
    rw [countBack_filter (inside there)]
  · rw [bound?_absent there, bound?_absent there]

theorem entriesFrom_filter (inside : models.map (·.name) ⊆ names)
    (earlier relations : List Relation) :
    entriesFrom models t (earlier.filter (·.leadsInto names))
        (relations.filter (·.leadsInto names))
      = entriesFrom models t earlier relations := by
  induction relations generalizing earlier with
  | nil => rfl
  | cons r rest ih =>
    have step := ih (earlier ++ [r])
    rw [List.filter_append] at step
    rw [entriesFrom, ← step]
    cases kept : r.leadsInto names with
    | true =>
      simp only [List.filter_cons, kept, if_true, entriesFrom, bound?_filter inside,
        List.filter_nil]
    | false =>
      have absent : r.targetTable ∉ models.map (·.name) := by
        intro there
        rw [Relation.leadsInto, List.contains_iff_mem.2 (inside there)] at kept
        exact absurd kept (by decide)
      simp only [List.filter_cons, kept, Bool.false_eq_true, if_false, bound?_absent absent,
        List.filter_nil, List.append_nil, Option.toList_none, List.nil_append]

/-- Entries are looked for in the name and the columns of their table, not in its other
associations. -/
theorem entriesFrom_restrict (earlier relations : List Relation) :
    entriesFrom models (t.restrict names) earlier relations
      = entriesFrom models t earlier relations := by
  induction relations generalizing earlier with
  | nil => rfl
  | cons r rest ih =>
    rw [entriesFrom, entriesFrom, ih]
    rfl

/-- The entries of a table are those of the table restricted to the tables that are there. -/
theorem entries_restrict (inside : models.map (·.name) ⊆ names) :
    entries models (t.restrict names) = entries models t := by
  rw [entries, entriesFrom_restrict]
  exact entriesFrom_filter inside [] t.source.relations

/-! ## The tables that entries lead to -/

/-- The entry with the tables in it restricted. -/
def Entry.restrict (names : List String) : Entry → Entry
  | one property target key reference isNamed =>
    one property (target.restrict names) key reference isNamed
  | many property target key => many property (target.restrict names) key
  | through property junction => through property (junction.restrict names)

theorem oneEntry?_restrict (target : TableDecl) :
    oneEntry? t (target.restrict names) r = Entry.restrict names <$> oneEntry? t target r := by
  have keys : t.keysTo (target.restrict names).name = t.keysTo target.name := rfl
  simp only [keys, oneEntry?, Option.bind_eq_bind]
  cases forwardKey? (t.keysTo target.name) r.fieldName with
  | none => rfl
  | some key =>
    rw [Option.bind_some, Option.bind_some]
    cases key.reference? <;> rfl

theorem manyEntry?_restrict (target : TableDecl) (position : Nat) :
    manyEntry? t (target.restrict names) r position
      = Entry.restrict names <$> manyEntry? t target r position := by
  have keys : backKeys t (target.restrict names) = backKeys t target := rfl
  have name : (target.restrict names).name = target.name := rfl
  unfold manyEntry?
  simp only [keys, name]
  by_cases named : target.name = t.name ∨ 1 < (backKeys t target).length
  · rw [if_pos named, if_pos named]
    cases backKey? (backKeys t target) r.fieldName position <;> rfl
  · rw [if_neg named, if_neg named]
    rfl

theorem throughEntry?_restrict (target : TableDecl) :
    throughEntry? (models.map (·.restrict names)) t (target.restrict names) r
      = Entry.restrict names <$> throughEntry? models t target r := by
  have joins : junction? (models.map (·.restrict names)) t.name (target.restrict names).name
      = (junction? models t.name target.name).map (·.restrict names) := List.find?_map
  unfold throughEntry?
  rw [joins]
  cases junction? models t.name target.name <;> rfl

theorem bound?_map_restrict :
    bound? (models.map (·.restrict names)) t earlier r
      = (bound? models t earlier r).map (·.restrict names) := by
  have found : (models.map (·.restrict names)).find? (·.name == r.targetTable)
      = (models.find? (·.name == r.targetTable)).map (·.restrict names) := List.find?_map
  rw [bound?, bound?, found]
  cases models.find? (·.name == r.targetTable) with
  | none => rfl
  | some target =>
    cases r.kind with
    | manyToOne => exact oneEntry?_restrict target
    | oneToMany => exact manyEntry?_restrict target _
    | manyToMany => exact throughEntry?_restrict target

/-- With restricted tables around it, a table has entries to these in place of the others. -/
theorem entries_map_restrict :
    entries (models.map (·.restrict names)) t = (entries models t).map (·.restrict names) := by
  have each : ∀ relations earlier,
      entriesFrom (models.map (·.restrict names)) t earlier relations
        = (entriesFrom models t earlier relations).map (·.restrict names) := by
    intro relations
    induction relations with
    | nil => exact fun _ => rfl
    | cons r rest ih =>
      intro earlier
      rw [entriesFrom, entriesFrom, ih, bound?_map_restrict, List.map_append]
      cases bound? models t earlier r <;> rfl
  exact each t.source.relations []

/-! ## Texts -/

/-- The block of a table among others, if it has entries. -/
def block? (models : List TableDecl) (t : TableDecl) : Option String :=
  if (entries models t).isEmpty then none else some (renderBlock t (entries models t))

theorem blocks_eq (models : List TableDecl) : blocks models = models.filterMap (block? models) :=
  rfl

theorem renderBlock_map_restrict (es : List Entry) :
    renderBlock (t.restrict names) (es.map (·.restrict names)) = renderBlock t es := by
  have line : ∀ e : Entry, (e.restrict names).line (t.restrict names) = e.line t := by
    intro e
    cases e <;> rfl
  have helper : ∀ e : Entry, (e.restrict names).helper = e.helper := by
    intro e
    cases e <;> rfl
  unfold renderBlock helpers
  simp only [List.map_map, Function.comp_def, line, helper]
  rfl

/-- The block of a table does not change when the table is restricted to the tables that are there.
-/
theorem block?_restrict (inside : models.map (·.name) ⊆ names) :
    block? models (t.restrict names) = block? models t := by
  rw [block?, block?, entries_restrict inside]
  rfl

/-- The block of a table does not change when all tables are restricted to those that are there. -/
theorem block?_map_restrict (inside : models.map (·.name) ⊆ names) :
    block? (models.map (·.restrict names)) (t.restrict names) = block? models t := by
  rw [block?, block?, entries_map_restrict, entries_restrict inside, renderBlock_map_restrict,
    List.isEmpty_map]

theorem renderSchema_map_restrict (inside : models.map (·.name) ⊆ names) :
    renderSchema dialect (models.map (·.restrict names)) = renderSchema dialect models := by
  have associations : blocks (models.map (·.restrict names)) = blocks models := by
    rw [blocks_eq, blocks_eq, List.filterMap_map]
    exact congrArg (List.filterMap · models) (funext fun _ => block?_map_restrict inside)
  have columns : allColumns (models.map (·.restrict names)) = allColumns models :=
    List.flatMap_map _ _ _
  have declarations : (models.map (·.restrict names)).map (renderTable dialect)
      = models.map (renderTable dialect) := List.map_map
  unfold renderSchema Imports.ofTables usedPrimitives
  rw [associations, columns, declarations, List.isEmpty_map]

/-- The files for restricted tables are those for the tables. -/
theorem emit_map_restrict (inside : tables.map (·.name) ⊆ names) :
    emit ⟨.drizzle, dialect⟩ (tables.map (·.restrict names)) = emit ⟨.drizzle, dialect⟩ tables := by
  rw [emit, emit, lowerTables_restrict]
  cases lowered : lowerTables ⟨.drizzle, dialect⟩ tables with
  | error e => rfl
  | ok models =>
    have inside' : models.map (·.name) ⊆ names := by
      rw [← map_source_of_lowerTables lowered, List.map_map] at inside
      exact inside
    simp only [Except.ok_map, Target.artifacts, artifacts, renderSchema_map_restrict inside']

/-! ## No trace is left -/

/-- What associations of a table with others than the given ones have no part in. -/
structure Traceless (models : List TableDecl) (t : TableDecl) : Prop where
  /-- An association with another table has no entry. -/
  absent : ∀ earlier r, r.targetTable ∉ models.map (·.name) → bound? models t earlier r = none
  /-- An entry, and the key in it, is the same when those associations are taken away before it. -/
  bound : ∀ earlier r, bound? models (t.restrict (models.map (·.name)))
    (earlier.filter (·.leadsInto (models.map (·.name)))) r
      = bound? models t earlier r
  /-- The table has the same entries, which call the same helpers. -/
  entries : entries models (t.restrict (models.map (·.name))) = entries models t
  /-- The block of the table is the same, or there is none either way. -/
  block : block? models (t.restrict (models.map (·.name))) = block? models t

theorem traceless (models : List TableDecl) (t : TableDecl) : Traceless models t where
  absent _ _ := bound?_absent
  bound _ _ := bound?_filter (List.Subset.refl _)
  entries := entries_restrict (List.Subset.refl _)
  block := block?_restrict (List.Subset.refl _)

/-- Definitions that differ in such associations have the same files. -/
theorem emit_of_alikeFor {tables' : List Table}
    (alike : List.Forall₂ (Table.AlikeFor (tables.map (·.name))) tables tables') :
    emit ⟨.drizzle, dialect⟩ tables' = emit ⟨.drizzle, dialect⟩ tables := by
  have inside := List.Subset.refl (tables.map (·.name))
  have inside' : tables'.map (·.name) ⊆ tables.map (·.name) := by
    rw [Table.map_name_of_alikeFor alike]
    exact inside
  rw [← emit_map_restrict inside, ← emit_map_restrict inside', Table.forall₂_alikeFor_iff.1 alike]

/-- Associations with tables that are not generated leave no trace: not in the block of their table,
not in the schema of tables that differ in nothing else, and not in what is generated from a catalog
of such tables. -/
theorem absent_targets_traceless (dialect : Dialect) :
    (∀ models t, Traceless models t) ∧
      (∀ tables tables' : List Table,
        List.Forall₂ (Table.AlikeFor (tables.map (·.name))) tables tables' →
          emit ⟨.drizzle, dialect⟩ tables' = emit ⟨.drizzle, dialect⟩ tables) ∧
      ∀ (c c' : Catalog) (selection : Selection) (requested : List String) (tables : List Table),
        selection.tableNames = .ok requested → c.resolve requested = .ok tables →
          List.Forall₂ (Table.AlikeFor (tables.map (·.name))) c.tables c'.tables →
            generate ⟨⟨.drizzle, dialect⟩, selection, []⟩ c'
              = generate ⟨⟨.drizzle, dialect⟩, selection, []⟩ c := by
  refine ⟨traceless, fun tables tables' => emit_of_alikeFor, ?_⟩
  intro c c' selection requested tables selects resolves alike
  obtain ⟨tables', resolves', alike'⟩ := Catalog.exists_resolve_of_alikeFor alike resolves
  have names := Table.map_name_of_alikeFor alike'
  simp only [generate_eq, Catalog.extend_nil, Except.ok_bind, selects, resolves, resolves',
    emit_of_alikeFor alike', names]

/-- Each match is played by two teams, which list their matches at home and those away under names
that tell neither from the other.  Associations with other tables stand before, between and behind
the two lists. -/
def tournamentAmid (before between behind : List Relation) : Catalog := ⟨[
  ⟨"teams", "Team", [Field.id],
    before ++ [⟨.oneToMany, "matches", "games"⟩] ++ between
      ++ [⟨.oneToMany, "matches", "returns"⟩] ++ behind⟩,
  ⟨"matches", "Match", [
    Field.id,
    ((Field.plain "home_id" .identifier).referencing "teams" .cascade).mandatory,
    ((Field.plain "away_id" .identifier).referencing "teams" .cascade).mandatory],
    [⟨.manyToOne, "teams", "home"⟩, ⟨.manyToOne, "teams", "away"⟩]⟩]⟩

/-- Teams with a city, sponsors, fans and players, none of which are tables of the catalog. -/
def tournament : Catalog :=
  tournamentAmid [⟨.manyToOne, "cities", "city"⟩, ⟨.oneToMany, "sponsors", "sponsors"⟩]
    [⟨.oneToMany, "fans", "fans"⟩, ⟨.manyToMany, "cities", "tours"⟩]
    [⟨.oneToMany, "players", "squad"⟩]

/-- The games of a team are those that it is at home in and the returns those that it is away in, by
their places among the associations with matches, and all is as without the other associations. -/
theorem absent_targets_tournament :
    (∃ models, lowerTables ⟨.drizzle, .postgresql⟩ tournament.tables = .ok models ∧
      ∃ teams ∈ models,
        (entries models teams).map (fun e => (e.property, e.relationName? teams))
            = [("games", some "matches_home_id"), ("returns", some "matches_away_id")] ∧
          entries models (teams.restrict ["teams", "matches"]) = entries models teams) ∧
      emit ⟨.drizzle, .postgresql⟩ (tournamentAmid [] [] []).tables
        = emit ⟨.drizzle, .postgresql⟩ tournament.tables ∧
      generate ⟨⟨.drizzle, .postgresql⟩, .custom ["matches"], []⟩ (tournamentAmid [] [] [])
        = generate ⟨⟨.drizzle, .postgresql⟩, .custom ["matches"], []⟩ tournament := by
  obtain ⟨traceless, emits, generates⟩ := absent_targets_traceless .postgresql
  have alike : List.Forall₂ (Table.AlikeFor ["teams", "matches"]) tournament.tables
      (tournamentAmid [] [] []).tables := Table.forall₂_alikeFor_iff.2 (by decide)
  have resolves : tournament.resolve ["matches"] = .ok tournament.tables := by cbv
  refine ⟨⟨_, rfl, _, List.mem_cons_self, by decide, ?_⟩, emits _ _ alike,
    generates tournament _ _ ["matches"] tournament.tables rfl resolves alike⟩
  exact (traceless _ _).entries

end Drizzle

end SchemaForge
