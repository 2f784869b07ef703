import SchemaForge.Proofs.Outcome

/-!
# What a request takes from a catalog

Of a catalog, a request sees the tables that it leads to and nothing else: not the other tables, and
not the order in which tables came.  Catalogs that agree there resolve it alike
(`Catalog.resolve_congr`), and so generate the same for it (`generate_congr`).  Adding tables takes
no table away and replaces none, so it leaves a request that succeeds as it is
(`generate_local`).
-/

namespace SchemaForge

namespace Catalog

variable {c c' : Catalog} {requested names : List String} {name n : String} {t : Table}
  {tables : List Table}

/-! ## Catalogs that agree -/

/-- Wherever the request leads in `c`, the two catalogs have the same table or both none. -/
def AgreeFor (c c' : Catalog) (requested : List String) : Prop :=
  ∀ n, c.Reachable requested n → c.get? n = c'.get? n

namespace AgreeFor

theorem mono (agree : c.AgreeFor c' requested) (sub : names ⊆ requested) : c.AgreeFor c' names :=
  fun n ⟨r, hr, reaches⟩ => agree n ⟨r, sub hr, reaches⟩

theorem get?_eq (agree : c.AgreeFor c' [name]) : c.get? name = c'.get? name :=
  agree name (reachable_of_mem List.mem_cons_self)

/-- Catalogs that agree on a name agree on what the table of that name refers to. -/
theorem targets (agree : c.AgreeFor c' [name]) (found : c.get? name = some t) :
    c.AgreeFor c' (t.foreignKeys.map (·.2.targetTable)) := by
  rintro n ⟨r, hr, reaches⟩
  obtain ⟨k, hk, rfl⟩ := List.mem_map.1 hr
  exact agree n ⟨name, List.mem_cons_self, .head (refers_of_mem found hk) reaches⟩

end AgreeFor

/-! ## Calls on both -/

/-- On catalogs that agree for the names that calls are made for, the calls end alike. -/
theorem calls_congr (c c' : Catalog) :
    (∀ name referrer s, c.AgreeFor c' [name] →
      c'.visitEnd name referrer s = c.visitEnd name referrer s) ∧
    ∀ t keys s, c.AgreeFor c' (keys.map (·.2.targetTable)) →
      c'.followEnd t keys s = c.followEnd t keys s := by
  refine traversal_induction
    (P := fun name referrer s r => c.AgreeFor c' [name] → c'.visitEnd name referrer s = r)
    (Q := fun t keys s r => c.AgreeFor c' (keys.map (·.2.targetTable)) → c'.followEnd t keys s = r)
    ?missing ?marked ?unmarked ?nil ?stop ?cons
  case missing =>
    intro name referrer s missing agree
    exact visitEnd_missing (agree.get?_eq.symm.trans missing)
  case marked =>
    intro name referrer s t found marked agree
    exact visitEnd_marked (agree.get?_eq.symm.trans found) marked
  case unmarked =>
    intro name referrer s t r found unmarked _ ih agree
    rw [visitEnd_unmarked (agree.get?_eq.symm.trans found) unmarked, ih (agree.targets found)]
  case nil =>
    intro t s _
    exact followEnd_nil
  case stop =>
    intro t f key rest s e _ ih agree
    rw [followEnd_cons, ih (agree.mono (by simp)), Except.error_bind]
  case cons =>
    intro t f key rest s s' r _ _ ihVisit ihRest agree
    rw [followEnd_cons, ihVisit (agree.mono (by simp)), Except.ok_bind]
    exact ihRest (agree.mono (by simp))

theorem visitAll_congr (agree : c.AgreeFor c' names) (s : Traversal) :
    c'.visitAll names s = c.visitAll names s := by
  induction names generalizing s with
  | nil => rfl
  | cons name rest ih =>
    rw [visitAll_cons, visitAll_cons, (calls_congr c c').1 name none s (agree.mono (by simp))]
    cases c.visitEnd name none s with
    | error e => rfl
    | ok s' => exact ih (agree.mono (by simp)) s'

/-- Catalogs that agree for a request resolve it alike, to the same tables or the same error. -/
theorem resolve_congr (agree : c.AgreeFor c' requested) :
    c'.resolve requested = c.resolve requested := by
  rw [resolve, resolve, visitAll_congr agree]

/-! ## Catalogs with more tables -/

/-- A request that succeeds finds no difference when tables have been added. -/
theorem agreeFor_of_extend (h : c.extend tables = .ok c')
    (present : ∀ n, c.Reachable requested n → c.get? n ≠ none) : c.AgreeFor c' requested := by
  intro n hn
  obtain ⟨t, found⟩ := Option.ne_none_iff_exists'.1 (present n hn)
  rw [found, get?_of_extend h found]

/-- Tables that can be added can be added in any order. -/
theorem exists_extend_of_perm {tables' : List Table} (perm : tables'.Perm tables)
    (h : c.extend tables = .ok c') : ∃ c'', c.extend tables' = .ok c'' := by
  obtain ⟨wellFormed, nodup, fresh, -⟩ := extend_eq_ok_iff.1 h
  exact ⟨_, extend_eq_ok_iff.2 ⟨fun t ht => wellFormed t (perm.mem_iff.1 ht),
    (perm.map _).nodup_iff.2 nodup, fun t ht => fresh t (perm.mem_iff.1 ht), rfl⟩⟩

end Catalog

/-! ## Generating -/

variable {c c' : Catalog} {target : Target} {selection : Selection} {generation : Generation}

/-- Catalogs that agree for what is selected generate the same. -/
theorem generate_congr
    (agree : ∀ requested, selection.tableNames = .ok requested → c.AgreeFor c' requested) :
    generate ⟨target, selection, []⟩ c' = generate ⟨target, selection, []⟩ c := by
  simp only [generate_eq, Catalog.extend_nil, Except.ok_bind]
  cases selects : selection.tableNames with
  | error e => rfl
  | ok requested =>
    simp only [Except.ok_bind]
    rw [Catalog.resolve_congr (agree requested selects)]

/-- A request with tables of its own is one without, on the catalog with these added. -/
theorem generate_of_extend {tables : List Table} (h : c.extend tables = .ok c') :
    generate ⟨target, selection, tables⟩ c = generate ⟨target, selection, []⟩ c' := by
  simp only [generate_eq, h, Catalog.extend_nil, Except.ok_bind]

theorem present_of_generate (h : generate ⟨target, selection, []⟩ c = .ok generation)
    {requested : List String} (selects : selection.tableNames = .ok requested) :
    ∀ n, c.Reachable requested n → c.get? n ≠ none := by
  simp only [generate_eq, Catalog.extend_nil, Except.ok_bind, selects] at h
  obtain ⟨tables, resolves, -⟩ := Except.bind_eq_ok_iff.1 h
  exact Catalog.exists_resolve_iff.1 ⟨tables, resolves⟩

/-- What is generated depends on the catalog only where the request leads; so tables that are added,
in whatever order, change nothing for a request that succeeds without them. -/
theorem generate_local (target : Target) (selection : Selection) (c : Catalog) :
    (∀ c' : Catalog,
      (∀ requested, selection.tableNames = .ok requested →
        ∀ n, c.Reachable requested n → c.get? n = c'.get? n) →
      generate ⟨target, selection, []⟩ c' = generate ⟨target, selection, []⟩ c) ∧
    ∀ generation, generate ⟨target, selection, []⟩ c = .ok generation →
      ∀ extra merged, c.extend extra = .ok merged → ∀ extra' : List Table, extra'.Perm extra →
        generate ⟨target, selection, extra'⟩ c = .ok generation ∧
          ∃ merged', c.extend extra' = .ok merged' ∧
            generate ⟨target, selection, []⟩ merged' = .ok generation := by
  refine ⟨fun c' agree => generate_congr agree, ?_⟩
  intro generation succeeds extra merged merges extra' perm
  obtain ⟨merged', merges'⟩ := Catalog.exists_extend_of_perm perm merges
  have unchanged : generate ⟨target, selection, []⟩ merged' = .ok generation := by
    rw [← succeeds]
    exact generate_congr fun requested selects =>
      Catalog.agreeFor_of_extend merges' (present_of_generate succeeds selects)
  exact ⟨(generate_of_extend merges').trans unchanged, merged', merges', unchanged⟩

/-- Players and teams are the same whether there are games or users besides and whatever comes
first, and the built-in tags are the same when games, players and teams are added in reverse. -/
theorem generate_local_league :
    generate ⟨⟨.prisma, .mysql⟩, .custom ["players"], []⟩
        ⟨[Builtin.users, Catalog.league.tables[2], Catalog.league.tables[1]]⟩
      = generate ⟨⟨.prisma, .mysql⟩, .custom ["players"], []⟩ .league ∧
    ∃ generation, generate ⟨⟨.kysely, .sqlite⟩, .custom ["tags"], []⟩ .builtin = .ok generation ∧
      generate ⟨⟨.kysely, .sqlite⟩, .custom ["tags"], Catalog.league.tables.reverse⟩ .builtin
        = .ok generation := by
  constructor
  · have closed : ∀ n, Catalog.league.Reachable ["players"] n → n = "players" ∨ n = "teams" := by
      intro n hn
      refine hn.of_closed (S := fun n => n = "players" ∨ n = "teams") (by simp) ?_
      have players : Catalog.league.get? "players" = some Catalog.league.tables[1] := by decide
      have teams : Catalog.league.get? "teams" = some Catalog.league.tables[2] := by decide
      rintro a b (rfl | rfl) ⟨t, found, k, hk, rfl⟩
      · obtain rfl := Option.some.inj (players.symm.trans found)
        revert k
        decide
      · obtain rfl := Option.some.inj (teams.symm.trans found)
        revert k
        decide
    refine (generate_local _ _ .league).1 _ fun requested selects n hn => ?_
    cases selects
    rcases closed n hn with rfl | rfl <;> decide
  · have merges : Catalog.builtin.extend Catalog.league.tables
        = .ok ⟨Builtin.tables ++ Catalog.league.tables⟩ := by decide
    have resolves : Catalog.builtin.resolve ["tags"] = .ok [Builtin.tags] := by cbv
    obtain ⟨decls, lowered⟩ : ∃ decls, lowerTables ⟨.kysely, .sqlite⟩ [Builtin.tags] = .ok decls :=
      ⟨_, rfl⟩
    have succeeds : generate ⟨⟨.kysely, .sqlite⟩, .custom ["tags"], []⟩ .builtin
        = .ok ⟨⟨.kysely, .sqlite⟩, ["tags"], Kysely.artifacts .sqlite decls⟩ := by
      simp only [generate_eq, Catalog.extend_nil, Except.ok_bind, Selection.tableNames, resolves,
        emit, lowered]
      rfl
    have local' :=
      (generate_local ⟨.kysely, .sqlite⟩ (.custom ["tags"]) .builtin).2 _ succeeds _ _ merges
    exact ⟨_, succeeds, (local' _ (List.reverse_perm _)).1⟩

end SchemaForge
