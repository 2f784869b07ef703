import SchemaForge.CommandLine.Run
import SchemaForge.Proofs.Outcome

/-!
# A resolution shows what would be generated

Before files are generated, the tables that a selection leads to can be looked at.  The two
commands put catalog and selection together on their own, but they take the same steps in the same
order (`Catalog.preview`): generating goes on from where resolving ends, and all that can go wrong
there is a type that the backend lacks.

Main results:

* a table depends on what its foreign keys lead to, in the order of the first references
  (`Table.firstOccurrences_dependencies`);
* both commands end alike (`Context.commands_agree`).
-/

namespace SchemaForge

/-! ## First occurrences -/

/-- The second list has the elements of the first, each once and in the order in which they first
occur there. -/
structure FirstOccurrences (all found : List String) : Prop where
  nodup : found.Nodup
  mem : ∀ n, n ∈ found ↔ n ∈ all
  order : found.Pairwise fun a b => all.idxOf a < all.idxOf b

namespace FirstOccurrences

variable {all found : List String}

theorem nil : FirstOccurrences [] [] := ⟨.nil, fun _ => .rfl, .nil⟩

/-- Elements that occur keep their places when one more follows. -/
theorem pairwise_append (h : FirstOccurrences all found) (n : String) :
    found.Pairwise fun a b => (all ++ [n]).idxOf a < (all ++ [n]).idxOf b := by
  refine h.order.imp_of_mem fun {a b} ha hb less => ?_
  rwa [List.idxOf_append_of_mem ((h.mem a).1 ha), List.idxOf_append_of_mem ((h.mem b).1 hb)]

/-- An element that has occurred changes nothing. -/
theorem known {n : String} (h : FirstOccurrences all found) (hn : n ∈ found) :
    FirstOccurrences (all ++ [n]) found where
  nodup := h.nodup
  mem := by
    intro m
    rw [List.mem_append, List.mem_singleton, ← h.mem]
    exact ⟨.inl, fun hm => hm.elim id fun same => same ▸ hn⟩
  order := h.pairwise_append n

/-- An element that has not occurred comes last. -/
theorem new {n : String} (h : FirstOccurrences all found) (hn : n ∉ found) :
    FirstOccurrences (all ++ [n]) (found ++ [n]) where
  nodup := List.nodup_append.2 ⟨h.nodup, List.nodup_singleton n, by
    intro a ha b hb
    rw [List.mem_singleton.1 hb]
    rintro rfl
    exact hn ha⟩
  mem := by
    intro m
    rw [List.mem_append, List.mem_append, h.mem]
  order := by
    rw [List.pairwise_append]
    refine ⟨h.pairwise_append n, List.pairwise_singleton _ _, ?_⟩
    intro a ha b hb
    obtain rfl := List.mem_singleton.1 hb
    have before : all.idxOf a < all.length := List.idxOf_lt_length_iff.2 ((h.mem a).1 ha)
    have fresh : b ∉ all := fun hall => hn ((h.mem b).2 hall)
    rw [List.idxOf_append_of_mem ((h.mem a).1 ha), List.idxOf_append_of_notMem fresh]
    omega

theorem step (h : FirstOccurrences all found) (n : String) :
    FirstOccurrences (all ++ [n]) (if n ∈ found then found else found ++ [n]) := by
  by_cases hn : n ∈ found
  · rw [if_pos hn]
    exact h.known hn
  · rw [if_neg hn]
    exact h.new hn

/-- First occurrences are found by going through the elements once. -/
theorem foldl {α : Type} (name : α → String) (more : List α) (h : FirstOccurrences all found) :
    FirstOccurrences (all ++ more.map name)
      (more.foldl (fun found a => if name a ∈ found then found else found ++ [name a]) found) := by
  induction more generalizing all found with
  | nil => simpa using h
  | cons a rest ih =>
    rw [List.map_cons, List.append_cons, List.foldl_cons]
    exact ih (h.step (name a))

end FirstOccurrences

/-- A table depends on the tables that its foreign keys lead to, in the order of the first
references. -/
theorem Table.firstOccurrences_dependencies (t : Table) :
    FirstOccurrences (t.foreignKeys.map (·.2.targetTable)) t.dependencies :=
  FirstOccurrences.nil.foldl (fun k : Field × ForeignKey => k.2.targetTable) t.foreignKeys

/-! ## The common steps -/

/-- The names that a selection asks for, and the tables that they lead to among those of the catalog
and the given ones. -/
def Catalog.preview (c : Catalog) (selection : Selection) (tables : List Table) :
    Except SchemaError (List String × List Table) :=
  (c.extend tables).bind fun merged =>
    selection.tableNames.bind fun requested =>
      (merged.resolve requested).map fun resolved => (requested, resolved)

theorem Catalog.preview_eq_ok_iff {c : Catalog} {selection : Selection} {tables : List Table}
    {requested : List String} {resolved : List Table} :
    c.preview selection tables = .ok (requested, resolved) ↔ ∃ merged,
      c.extend tables = .ok merged ∧ selection.tableNames = .ok requested ∧
        merged.resolve requested = .ok resolved := by
  simp only [preview, Except.bind_eq_ok_iff, Except.map_eq_ok_iff, Prod.mk.injEq]
  constructor
  · rintro ⟨merged, merges, _, selects, _, resolves, rfl, rfl⟩
    exact ⟨merged, merges, selects, resolves⟩
  · rintro ⟨merged, merges, selects, resolves⟩
    exact ⟨merged, merges, requested, selects, resolved, resolves, rfl, rfl⟩

/-- Generating goes on from there. -/
theorem generate_eq_preview (request : Request) (c : Catalog) :
    generate request c = (c.preview request.selection request.customTables).bind fun p =>
      (emit request.target p.2).map fun artifacts =>
        ⟨request.target, p.2.map (·.name), artifacts⟩ := by
  rw [generate_eq, Catalog.preview]
  cases c.extend request.customTables with
  | error e => rfl
  | ok merged =>
    cases request.selection.tableNames with
    | error e => rfl
    | ok requested =>
      simp only [Except.ok_bind]
      cases merged.resolve requested with
      | error e => rfl
      | ok resolved => cases emit request.target resolved <;> rfl

/-! ## The commands -/

namespace Context

variable {c : Context} {s : SelectionArguments} {backend : Option Backend}
  {dialect : Option Dialect} {target : Target}

/-- Resolving, as a chain of steps. -/
theorem resolve_eq (c : Context) (s : SelectionArguments) :
    c.resolve s = ((c.customTables s.custom).bind fun tables =>
      (c.catalog.extend tables).mapError .schema).bind fun merged =>
        ((c.selection s).tableNames.mapError .schema).bind fun requested =>
          ((merged.resolve requested).mapError .schema).bind fun resolved =>
            .ok (requested, resolved) :=
  rfl

/-- Once the file is read, resolving ends as the preview does. -/
theorem resolve_eq_preview (c : Context) (s : SelectionArguments) :
    c.resolve s = (c.customTables s.custom).bind fun tables =>
      (c.catalog.preview (c.selection s) tables).mapError .schema := by
  rw [resolve_eq]
  cases c.customTables s.custom with
  | error e => rfl
  | ok tables =>
    rw [Except.ok_bind, Except.ok_bind, Catalog.preview]
    cases c.catalog.extend tables with
    | error e => rfl
    | ok merged =>
      cases (c.selection s).tableNames with
      | error e => rfl
      | ok requested =>
        simp only [Except.mapError, Except.ok_bind]
        cases merged.resolve requested <;> rfl

/-- With a target at hand, generating reads the file and renders for this target. -/
theorem generate_eq_of_target (available : c.target backend dialect = .ok target) :
    c.generate backend dialect s = (c.customTables s.custom).bind fun tables =>
      (SchemaForge.generate ⟨target, c.selection s, tables⟩ c.catalog).mapError .schema := by
  rw [generate, available]
  rfl

theorem exists_target (available : c.config.chooseBackend backend ≠ none)
    (dialect : Option Dialect) : ∃ target, c.target backend dialect = .ok target := by
  obtain ⟨chosen, h⟩ := Option.ne_none_iff_exists'.1 available
  rw [target, h]
  exact ⟨_, rfl⟩

/-- A report of a resolution shows the tables of a generation: the same names in the same order,
each with the tables that it refers to. -/
def Previews (shown : Report) (generated : Generation) : Prop :=
  ∃ label requested tables, shown = .resolution label requested tables ∧
    tables.map (·.name) = generated.tables ∧
    ∀ t ∈ tables, ∃ targets, FirstOccurrences (t.foreignKeys.map (·.2.targetTable)) targets ∧
      Report.resolvedJson t = .object [("name", .string t.name),
        ("display_name", .string t.displayName), ("depends_on", Json.strings targets)]

/-- How the two commands end on one selection. -/
structure EndAlike (resolved generated : Except CommandError Report) : Prop where
  /-- What is generated has been shown. -/
  previewed : ∀ report, generated = .ok report → ∃ generation shown,
    report = .generation generation ∧ resolved = .ok shown ∧ Previews shown generation
  /-- What cannot be resolved is not generated, for the same reason. -/
  refused : ∀ e, resolved = .error e → generated = .error e
  /-- What is shown but not generated has documents for which there is no type. -/
  unsupported : ∀ shown e, resolved = .ok shown → generated = .error e →
    e = .schema (.unsupportedType .json .prisma .sqlite)

namespace EndAlike

theorem of_previews {shown : Report} {generation : Generation} (h : Previews shown generation) :
    EndAlike (.ok shown) (.ok (.generation generation)) where
  previewed := by
    rintro report ⟨⟩
    exact ⟨generation, shown, rfl, rfl, h⟩
  refused := fun e he => absurd he (by simp)
  unsupported := fun shown e _ he => absurd he (by simp)

theorem of_error (e : CommandError) : EndAlike (.error e) (.error e) where
  previewed := fun report h => absurd h (by simp)
  refused := fun _ h => h
  unsupported := fun shown e h => absurd h (by simp)

theorem of_unsupported (shown : Report) :
    EndAlike (.ok shown) (.error (.schema (.unsupportedType .json .prisma .sqlite))) where
  previewed := fun report h => absurd h (by simp)
  refused := fun e h => absurd h (by simp)
  unsupported := by
    rintro _ e - ⟨⟩
    rfl

end EndAlike

/-- With a backend, resolving and generating end alike. -/
theorem commands_agree (built : c.catalog.Built)
    (available : c.config.chooseBackend backend ≠ none) (dialect : Option Dialect)
    (s : SelectionArguments) :
    EndAlike (c.report (.resolve s)) (c.report (.generate backend dialect s)) := by
  obtain ⟨target, available⟩ := exists_target available dialect
  simp only [report, resolve_eq_preview, generate_eq_of_target available, generate_eq_preview]
  cases c.customTables s.custom with
  | error e => exact .of_error e
  | ok tables =>
    simp only [Except.ok_bind]
    cases preview : c.catalog.preview (c.selection s) tables with
    | error e => exact .of_error (.schema e)
    | ok p =>
      obtain ⟨requested, resolved⟩ := p
      obtain ⟨merged, merges, -, resolves⟩ := Catalog.preview_eq_ok_iff.1 preview
      simp only [Except.ok_bind]
      rcases emit_of_resolve (built.valid.extend merges) resolves target with
        ⟨-, fails⟩ | ⟨-, artifacts, succeeds⟩
      · rw [fails]
        exact .of_unsupported _
      · rw [succeeds]
        refine .of_previews ⟨(c.selection s).label, requested, resolved, rfl, rfl, fun t _ => ?_⟩
        exact ⟨t.dependencies, t.firstOccurrences_dependencies, rfl⟩

/-- The context without configuration, database and files. -/
def plain : Context := ⟨.builtin, {}, none, fun _ => .missing⟩

/-- Comments are generated with what has been shown: the users and posts that they lead to. -/
theorem commands_agree_comments :
    ∃ artifacts shown,
      plain.report (.generate (some .drizzle) none ⟨none, ["comments"], none⟩)
        = .ok (.generation ⟨⟨.drizzle, .postgresql⟩, ["users", "posts", "comments"], artifacts⟩) ∧
      plain.report (.resolve ⟨none, ["comments"], none⟩) = .ok shown ∧
      Previews shown ⟨⟨.drizzle, .postgresql⟩, ["users", "posts", "comments"], artifacts⟩ := by
  have resolves : Catalog.builtin.resolve ["comments"]
      = .ok [Builtin.users, Builtin.posts, Builtin.comments] := by cbv
  have preview : Catalog.builtin.preview (.custom ["comments"]) []
      = .ok (["comments"], [Builtin.users, Builtin.posts, Builtin.comments]) :=
    Catalog.preview_eq_ok_iff.2 ⟨_, rfl, rfl, resolves⟩
  rcases emit_of_resolve Catalog.Built.builtin.valid resolves ⟨.drizzle, .postgresql⟩ with
    ⟨lacks, -⟩ | ⟨-, artifacts, emitted⟩
  · exact absurd lacks.1 (by decide)
  · have generated : plain.report (.generate (some .drizzle) none ⟨none, ["comments"], none⟩)
        = .ok (.generation ⟨⟨.drizzle, .postgresql⟩, ["users", "posts", "comments"],
          artifacts⟩) := by
      have target : plain.target (some .drizzle) none = .ok ⟨.drizzle, .postgresql⟩ := rfl
      have read : plain.customTables none = .ok [] := rfl
      have selection : plain.selection ⟨none, ["comments"], none⟩ = .custom ["comments"] := rfl
      simp only [report, generate_eq_of_target target, read, selection, Except.ok_bind,
        generate_eq_preview, show plain.catalog = Catalog.builtin from rfl, preview, emitted]
      rfl
    have built : plain.catalog.Built := .builtin
    have available : plain.config.chooseBackend (some .drizzle) ≠ none := by decide
    obtain ⟨_, shown, same, resolved, previews⟩ :=
      (commands_agree built available none ⟨none, ["comments"], none⟩).previewed _ generated
    cases same
    exact ⟨artifacts, shown, generated, resolved, previews⟩

end Context

end SchemaForge
