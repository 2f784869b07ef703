import Mathlib.Data.List.Nodup
import Mathlib.Data.List.Perm.Subperm
import SchemaForge.Proofs.Schema.Coherence
import SchemaForge.Proofs.Schema.Failure

/-!
# What a request resolves to

The tables that `Catalog.resolve` gives are those that the request leads to over foreign keys, each
once (`Catalog.resolve_exact`), and each behind the tables that it refers to unless it lies on a
circle with them (`Catalog.resolve_dependencies_first`).  It fails just when the request leads to a
name without a table (`Catalog.exists_resolve_iff`), and names one with what refers to it
(`Catalog.resolve_failure`).

All of it is read off the traversal at its end, when no call is under way.
-/

namespace SchemaForge.Catalog

variable {c : Catalog} {requested : List String} {tables : List Table} {n : String}

/-! ## The end of a traversal -/

/-- The tables resolved are those of a coherent traversal with everything requested marked. -/
theorem coherent_of_resolve (h : c.resolve requested = .ok tables) :
    ∃ s : Traversal, s.Coherent c requested [] ∧ s.ordered = tables ∧
      ∀ n ∈ requested, s.isMarked n = true := by
  obtain ⟨s, hs, rfl⟩ := Except.map_eq_ok_iff.1 h
  obtain ⟨coherent, marked⟩ :=
    coherent_visitAll (Traversal.Coherent.start c requested) (List.Subset.refl _) hs
  exact ⟨s, coherent, rfl, marked⟩

theorem get?_of_mem_resolve (h : c.resolve requested = .ok tables) {t : Table} (ht : t ∈ tables) :
    c.get? t.name = some t := by
  obtain ⟨s, coherent, rfl, -⟩ := coherent_of_resolve h
  exact coherent.held t ht

theorem nodup_of_resolve (h : c.resolve requested = .ok tables) : (tables.map (·.name)).Nodup := by
  obtain ⟨s, coherent, rfl, -⟩ := coherent_of_resolve h
  exact coherent.names_nodup

/-- The names resolved are those that the request leads to. -/
theorem mem_resolve_iff (h : c.resolve requested = .ok tables) :
    n ∈ tables.map (·.name) ↔ c.Reachable requested n := by
  obtain ⟨s, coherent, rfl, marked⟩ := coherent_of_resolve h
  constructor
  · intro hn
    exact coherent.reachable n (coherent.isMarked_of_mem hn)
  · -- with nothing in progress, the names that are done are closed under foreign keys
    intro hn
    refine hn.of_closed (S := (· ∈ s.names)) ?_ ?_
    · intro r hr
      exact coherent.mem_names (marked r hr)
    · rintro a b ha ⟨t, found, k, hk, rfl⟩
      obtain ⟨u, hu, rfl⟩ := List.mem_map.1 ha
      obtain rfl : u = t := Option.some.inj ((coherent.held u hu).symm.trans found)
      exact coherent.mem_names (coherent.closed u hu k hk)

/-- Whoever leads to more names gets more tables. -/
theorem subset_of_resolve {requested' : List String} {tables' : List Table}
    (h : c.resolve requested = .ok tables) (h' : c.resolve requested' = .ok tables')
    (sub : ∀ n, c.Reachable requested n → c.Reachable requested' n) : tables ⊆ tables' := by
  intro t ht
  have reachable := sub _ ((mem_resolve_iff h).1 (List.mem_map_of_mem ht))
  obtain ⟨u, hu, name_eq⟩ := List.mem_map.1 ((mem_resolve_iff h').2 reachable)
  have same : some u = some t := by
    rw [← get?_of_mem_resolve h' hu, name_eq, get?_of_mem_resolve h ht]
  exact Option.some.inj same ▸ hu

/-! ## Failure -/

theorem error_of_resolve {e : SchemaError} (h : c.resolve requested = .error e) :
    ∃ n by', e = .unknownTable n by' ∧ c.get? n = none ∧ c.Reachable requested n := by
  obtain ⟨n, referrer, he, missing, blames⟩ := blames_of_resolve h
  exact ⟨n, referrer, he, missing, blames.reachable⟩

theorem exists_resolve_iff :
    (∃ tables, c.resolve requested = .ok tables) ↔
      ∀ n, c.Reachable requested n → c.get? n ≠ none := by
  constructor
  · rintro ⟨tables, h⟩ n hn
    obtain ⟨t, ht, rfl⟩ := List.mem_map.1 ((mem_resolve_iff h).2 hn)
    rw [get?_of_mem_resolve h ht]
    exact Option.some_ne_none t
  · intro present
    cases h : c.resolve requested with
    | ok tables => exact ⟨tables, rfl⟩
    | error e =>
      obtain ⟨n, _, _, missing, reachable⟩ := error_of_resolve h
      exact absurd missing (present n reachable)

/-! ## The closure of a request -/

/-- The names resolved are those that the request leads to, each once, and the tables are the ones
that the catalog has for them. -/
theorem resolve_exact (h : c.resolve requested = .ok tables) :
    (∀ n, n ∈ tables.map (·.name) ↔ c.Reachable requested n) ∧
      (∀ n, c.Reachable requested n → (tables.map (·.name)).count n = 1) ∧
      ∀ t, t ∈ tables ↔ c.Reachable requested t.name ∧ c.get? t.name = some t := by
  refine ⟨fun n => mem_resolve_iff h, ?_, fun t => ⟨fun ht => ?_, ?_⟩⟩
  · intro n hn
    exact List.count_eq_one_of_mem (nodup_of_resolve h) ((mem_resolve_iff h).2 hn)
  · exact ⟨(mem_resolve_iff h).1 (List.mem_map_of_mem ht), get?_of_mem_resolve h ht⟩
  · rintro ⟨reachable, found⟩
    obtain ⟨u, hu, name_eq⟩ := List.mem_map.1 ((mem_resolve_iff h).2 reachable)
    have hut : some u = some t := by
      rw [← get?_of_mem_resolve h hu, name_eq, found]
    exact Option.some.inj hut ▸ hu

/-- Teams with a captain, players with a team, and games of two teams that may replay a game. -/
def league : Catalog := ⟨[
  ⟨"games", "Game", [
    Field.id,
    (Field.plain "home_id" .identifier).referencing "teams" .cascade,
    (Field.plain "guest_id" .identifier).referencing "teams" .cascade,
    (Field.plain "replay_of_id" .identifier).referencing "games" .setNull], []⟩,
  ⟨"players", "Player",
    [Field.id, (Field.plain "team_id" .identifier).referencing "teams" .setNull], []⟩,
  ⟨"teams", "Team",
    [Field.id, (Field.plain "captain_id" .identifier).referencing "players" .setNull], []⟩]⟩

theorem resolve_exact_league :
    ∃ tables, league.resolve ["games", "teams"] = .ok tables ∧
      tables.map (·.name) = ["players", "teams", "games"] ∧
      ∀ n, n ∈ tables.map (·.name) ↔ league.Reachable ["games", "teams"] n := by
  have h : league.resolve ["games", "teams"]
      = .ok [league.tables[1], league.tables[2], league.tables[0]] := by cbv
  exact ⟨_, h, rfl, (resolve_exact h).1⟩

/-! ## The error of a request -/

/-- A request fails just when it leads to a name without a table, and the error then names such a
one, with the key that leads there unless it is requested itself. -/
theorem resolve_failure (c : Catalog) (requested : List String) :
    ((∃ e, c.resolve requested = .error e) ↔
        ∃ n, c.Reachable requested n ∧ c.get? n = none) ∧
      ∀ e, c.resolve requested = .error e → ∃ n referrer, e = .unknownTable n referrer ∧
        c.get? n = none ∧ c.Blames requested n referrer := by
  refine ⟨⟨?_, ?_⟩, fun e h => blames_of_resolve h⟩
  · rintro ⟨e, h⟩
    obtain ⟨n, _, _, missing, reachable⟩ := error_of_resolve h
    exact ⟨n, reachable, missing⟩
  · rintro ⟨n, reachable, missing⟩
    cases h : c.resolve requested with
    | ok tables => exact absurd missing (exists_resolve_iff.1 ⟨tables, h⟩ n reachable)
    | error e => exact ⟨e, rfl⟩

/-- Without players the captains of teams are missing, which games lead to. -/
theorem resolve_failure_league :
    (⟨[league.tables[0], league.tables[2]]⟩ : Catalog).resolve ["games", "fans"]
        = .error (.unknownTable "players" (some ⟨"teams", "captain_id"⟩)) ∧
      (⟨[league.tables[0], league.tables[2]]⟩ : Catalog).Blames ["games", "fans"] "players"
        (some ⟨"teams", "captain_id"⟩) := by
  have h : (⟨[league.tables[0], league.tables[2]]⟩ : Catalog).resolve ["games", "fans"]
      = .error (.unknownTable "players" (some ⟨"teams", "captain_id"⟩)) := by cbv
  obtain ⟨_, _, he, -, blames⟩ := (resolve_failure _ _).2 _ h
  cases he
  exact ⟨h, blames⟩

/-! ## The order of a request -/

theorem idxOf_lt_of_mem_front {front back : List Table} {t : Table}
    (nodup : ((front ++ t :: back).map (·.name)).Nodup) (h : n ∈ front.map (·.name)) :
    ((front ++ t :: back).map (·.name)).idxOf n
      < ((front ++ t :: back).map (·.name)).idxOf t.name := by
  rw [List.map_append, List.map_cons] at nodup ⊢
  have ht : t.name ∉ front.map (·.name) :=
    fun hmem => (List.nodup_append.1 nodup).2.2 _ hmem _ List.mem_cons_self rfl
  rw [List.idxOf_append_of_mem h, List.idxOf_append_of_notMem ht, List.idxOf_cons_self]
  exact List.idxOf_lt_length_of_mem h

/-- What a resolved table refers to stands before it, unless the table is reached from there. -/
theorem idxOf_lt_or_reaches (h : c.resolve requested = .ok tables) {u : Table} (hu : u ∈ tables)
    {k : Field × ForeignKey} (hk : k ∈ u.foreignKeys) :
    (tables.map (·.name)).idxOf k.2.targetTable < (tables.map (·.name)).idxOf u.name ∨
      c.Reaches k.2.targetTable u.name := by
  have nodup := nodup_of_resolve h
  obtain ⟨s, coherent, rfl, -⟩ := coherent_of_resolve h
  obtain ⟨front, back, split⟩ := List.append_of_mem hu
  rcases coherent.dependenciesFirst front u back split k hk with hfront | reaches
  · rw [split] at nodup ⊢
    exact .inl (idxOf_lt_of_mem_front nodup hfront)
  · exact .inr reaches

/-- What a resolved table refers to, if it is another table, stands before it unless the two lie on
a circle; so where the request leads to no circles, it always does. -/
theorem resolve_dependencies_first (h : c.resolve requested = .ok tables) :
    (∀ u ∈ tables, ∀ k ∈ u.foreignKeys, k.2.targetTable ≠ u.name →
      (tables.map (·.name)).idxOf k.2.targetTable < (tables.map (·.name)).idxOf u.name ∨
        c.Reaches k.2.targetTable u.name) ∧
    (c.Acyclic requested → ∀ u ∈ tables, ∀ k ∈ u.foreignKeys, k.2.targetTable ≠ u.name →
      (tables.map (·.name)).idxOf k.2.targetTable < (tables.map (·.name)).idxOf u.name) := by
  refine ⟨fun u hu k hk _ => idxOf_lt_or_reaches h hu hk, ?_⟩
  intro acyclic u hu k hk hne
  refine (idxOf_lt_or_reaches h hu hk).resolve_right fun back => hne ?_
  have reachable := (mem_resolve_iff h).1 (List.mem_map_of_mem hu)
  have forth : c.Reaches u.name k.2.targetTable :=
    .single (refers_of_mem (get?_of_mem_resolve h hu) hk)
  exact (acyclic.eq_of_reaches reachable forth back).symm

/-- No builtin tables lie on a circle, so a post stands before its comments though it is not among
the names requested, and the parents of comments and categories are no obstacle. -/
theorem resolve_dependencies_first_builtin :
    ∃ tables, builtin.resolve ["comments", "categories"] = .ok tables ∧
      tables.map (·.name) = ["users", "posts", "comments", "categories"] ∧
      builtin.Acyclic ["comments", "categories"] ∧
      ∀ u ∈ tables, ∀ k ∈ u.foreignKeys, k.2.targetTable ≠ u.name →
        (tables.map (·.name)).idxOf k.2.targetTable < (tables.map (·.name)).idxOf u.name := by
  have h : builtin.resolve ["comments", "categories"]
      = .ok [Builtin.users, Builtin.posts, Builtin.comments, Builtin.categories] := by cbv
  have acyclic := acyclic_builtin ["comments", "categories"]
  exact ⟨_, h, rfl, acyclic, (resolve_dependencies_first h).2 acyclic⟩

end SchemaForge.Catalog
