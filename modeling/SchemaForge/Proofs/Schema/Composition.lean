import SchemaForge.Proofs.Schema.Resolution

/-!
# Requests one behind the other

Names requested together resolve to what they resolve to apart: the tables of the first names, and
behind them those of the others that are new, in their own order (`Catalog.resolve_append`).

The proof runs two traversals for the second names side by side, one from the start and one on a
`base` where the first names are done.  `Traversal.Over` relates the two at every moment.  What the
base has marked is settled (`Traversal.Settled`): it has tables, and these refer to nothing else.
So the traversal from the start neither fails nor gets out there, while the other one has nothing to
do.
-/

namespace SchemaForge

namespace Traversal

/-! ## A traversal that is settled -/

/-- The marked names are those of tables that refer to marked names only. -/
structure Settled (c : Catalog) (base : Traversal) : Prop where
  found : ∀ n, base.isMarked n = true → ∃ t, c.get? n = some t
  closed : ∀ n t, base.isMarked n = true → c.get? n = some t →
    ∀ k ∈ t.foreignKeys, base.isMarked k.2.targetTable = true

variable {c : Catalog} {requested : List String} {base s s' : Traversal} {t : Table} {n : String}

theorem Coherent.settled (h : base.Coherent c requested []) : base.Settled c where
  found := by
    intro n marked
    obtain ⟨t, ht, rfl⟩ := List.mem_map.1 (h.mem_names marked)
    exact ⟨t, h.held t ht⟩
  closed := by
    intro n t marked found
    obtain ⟨u, hu, rfl⟩ := List.mem_map.1 (h.mem_names marked)
    obtain rfl : u = t := Option.some.inj ((h.held u hu).symm.trans found)
    exact h.closed u hu

/-- Of the tables found in the catalog, the marked ones are those that are done. -/
theorem Coherent.isMarked_iff_mem (h : base.Coherent c requested [])
    (found : c.get? t.name = some t) : base.isMarked t.name = true ↔ t ∈ base.ordered := by
  constructor
  · intro marked
    obtain ⟨u, hu, name_eq⟩ := List.mem_map.1 (h.mem_names marked)
    have same : some u = some t := by rw [← h.held u hu, name_eq, found]
    exact Option.some.inj same ▸ hu
  · exact fun ht => h.isMarked_of_mem (List.mem_map_of_mem ht)

/-! ## Two traversals side by side -/

/-- `s'` is to a traversal on `base` what `s` is to one from the start: it has the marks of both,
and behind the tables of the base those of `s` that are not among them. -/
structure Over (base s s' : Traversal) : Prop where
  marked : ∀ n, s'.isMarked n = (base.isMarked n || s.isMarked n)
  ordered : s'.ordered = base.ordered ++ s.ordered.filter fun t => !base.isMarked t.name

namespace Over

theorem start (base : Traversal) : base.Over .start base where
  marked n := by simp [isMarked]
  ordered := by simp [Traversal.start]

theorem enter (h : base.Over s s') (n : String) : base.Over (s.enter n) (s'.enter n) where
  marked m := by rw [isMarked_enter, isMarked_enter, h.marked, Bool.or_left_comm]
  ordered := h.ordered

theorem leave (h : base.Over s s') (new : base.isMarked t.name = false) :
    base.Over (s.leave t) (s'.leave t) where
  marked m := by rw [isMarked_leave, isMarked_leave, h.marked, Bool.or_left_comm]
  ordered := by
    have kept : [t].filter (fun u => !base.isMarked u.name) = [t] := by simp [new]
    simp only [Traversal.leave, h.ordered, List.filter_append, kept, List.append_assoc]

/-- One more mark on a name of the base makes no difference. -/
theorem marked_settled (h : base.Over s s') (old : base.isMarked n = true) (m : String) :
    s'.isMarked m = (base.isMarked m || (m == n || s.isMarked m)) := by
  rw [h.marked]
  by_cases hm : m = n
  · rw [hm, old, Bool.true_or, Bool.true_or]
  · rw [beq_false_of_ne hm, Bool.false_or]

/-- A table of the base is entered by the one from the start alone. -/
theorem enter_settled (h : base.Over s s') (old : base.isMarked n = true) :
    base.Over (s.enter n) s' where
  marked m := by rw [isMarked_enter, h.marked_settled old]
  ordered := h.ordered

theorem leave_settled (h : base.Over s s') (old : base.isMarked t.name = true) :
    base.Over (s.leave t) s' where
  marked m := by rw [isMarked_leave, h.marked_settled old]
  ordered := by
    have dropped : [t].filter (fun u => !base.isMarked u.name) = [] := by simp [old]
    simp only [Traversal.leave, h.ordered, List.filter_append, dropped, List.append_nil]

end Over

/-- Two calls end alike: in traversals that are still side by side, or with the same error. -/
inductive EndOver (base : Traversal) :
    Except SchemaError Traversal → Except SchemaError Traversal → Prop
  | ok {s s' : Traversal} : base.Over s s' → EndOver base (.ok s) (.ok s')
  | error (e : SchemaError) : EndOver base (.error e) (.error e)

end Traversal

namespace Catalog

open Traversal

variable {c : Catalog} {base s s' : Traversal} {t : Table} {name : String}
  {referrer : Option Referrer}

/-! ## Calls side by side -/

theorem visitEnd_of_isMarked (found : c.get? name = some t) (marked : s.isMarked name = true) :
    c.visitEnd name referrer s = .ok s :=
  visitEnd_marked found (by rwa [name_of_get? found])

/-- Nothing is done for keys whose targets are all marked. -/
theorem followEnd_of_isMarked {keys : List (Field × ForeignKey)}
    (found : ∀ k ∈ keys, ∃ u, c.get? k.2.targetTable = some u)
    (marked : ∀ k ∈ keys, s.isMarked k.2.targetTable = true) : c.followEnd t keys s = .ok s := by
  induction keys with
  | nil => exact followEnd_nil
  | cons k rest ih =>
    obtain ⟨u, hu⟩ := found k List.mem_cons_self
    rw [followEnd_cons, visitEnd_of_isMarked hu (marked k List.mem_cons_self), Except.ok_bind]
    exact ih (fun k hk => found k (List.mem_cons_of_mem _ hk))
      fun k hk => marked k (List.mem_cons_of_mem _ hk)

/-- Calls of traversals side by side end alike. -/
theorem endOver_calls (settled : base.Settled c) :
    (∀ name referrer s, ∀ s', base.Over s s' →
      base.EndOver (c.visitEnd name referrer s) (c.visitEnd name referrer s')) ∧
    ∀ t keys s, ∀ s', base.Over s s' →
      base.EndOver (c.followEnd t keys s) (c.followEnd t keys s') := by
  refine traversal_induction
    (P := fun name referrer s r => ∀ s', base.Over s s' →
      base.EndOver r (c.visitEnd name referrer s'))
    (Q := fun t keys s r => ∀ s', base.Over s s' → base.EndOver r (c.followEnd t keys s'))
    ?missing ?marked ?unmarked ?nil ?stop ?cons
  case missing =>
    intro name referrer s missing s' _
    rw [visitEnd_missing missing]
    exact .error _
  case marked =>
    intro name referrer s t found marked s' beside
    rw [visitEnd_marked found (by simp [beside.marked, marked])]
    exact .ok beside
  case unmarked =>
    intro name referrer s t r found unmarked _ ih s' beside
    cases hbase : base.isMarked t.name with
    | true =>
      -- the one from the start goes through tables of the base only, the other one stays
      have targets := settled.closed t.name t hbase (name_of_get? found ▸ found)
      have stays : c.followEnd t t.foreignKeys s' = .ok s' :=
        followEnd_of_isMarked (fun k hk => settled.found _ (targets k hk))
          fun k hk => by rw [beside.marked, targets k hk, Bool.true_or]
      have inside := ih s' (beside.enter_settled hbase)
      rw [stays] at inside
      rw [visitEnd_marked found (by simp [beside.marked, hbase])]
      cases inside with
      | ok h => exact .ok (h.leave_settled hbase)
    | false =>
      have inside := ih (s'.enter t.name) (beside.enter t.name)
      rw [visitEnd_unmarked found (by simp [beside.marked, hbase, unmarked])]
      generalize c.followEnd t t.foreignKeys (s'.enter t.name) = r' at inside ⊢
      cases inside with
      | ok h => exact .ok (h.leave hbase)
      | error e => exact .error e
  case nil =>
    intro t s s' beside
    rw [followEnd_nil]
    exact .ok beside
  case stop =>
    intro t f key rest s e _ ih s' beside
    have first := ih s' beside
    rw [followEnd_cons]
    generalize c.visitEnd key.targetTable (some ⟨t.name, f.name⟩) s' = r' at first ⊢
    cases first with
    | error => exact .error e
  case cons =>
    intro t f key rest s s₁ r _ _ ihVisit ihRest s' beside
    have first := ihVisit s' beside
    rw [followEnd_cons]
    generalize c.visitEnd key.targetTable (some ⟨t.name, f.name⟩) s' = r' at first ⊢
    cases first with
    | ok h => exact ihRest _ h

theorem endOver_visitAll (settled : base.Settled c) {names : List String}
    (beside : base.Over s s') : base.EndOver (c.visitAll names s) (c.visitAll names s') := by
  induction names generalizing s s' with
  | nil => exact .ok beside
  | cons name rest ih =>
    have first := (endOver_calls settled).1 name none s s' beside
    rw [visitAll_cons, visitAll_cons]
    generalize c.visitEnd name none s = r at first ⊢
    generalize c.visitEnd name none s' = r' at first ⊢
    cases first with
    | ok h => exact ih h
    | error e => exact .error e

/-! ## Two requests -/

/-- Two requests in one: what fails first apart fails together, and else the tables of the second
that are new stand behind those of the first. -/
theorem resolve_append (c : Catalog) (front back : List String) :
    c.resolve (front ++ back) = (c.resolve front).bind fun tables =>
      (c.resolve back).map fun more => tables ++ more.filter (· ∉ tables) := by
  simp only [resolve, visitAll_append]
  cases first : c.visitAll front .start with
  | error e => rfl
  | ok base =>
    obtain ⟨coherent, -⟩ :=
      coherent_visitAll (Coherent.start c front) (List.Subset.refl _) first
    have ends : base.EndOver (c.visitAll back .start) (c.visitAll back base) :=
      endOver_visitAll coherent.settled (Over.start base)
    simp only [Except.ok_bind, Except.ok_map]
    cases second : c.visitAll back .start with
    | error e =>
      rw [second] at ends
      generalize c.visitAll back base = r' at ends ⊢
      cases ends with
      | error => rfl
    | ok s =>
      obtain ⟨coherent', -⟩ :=
        coherent_visitAll (Coherent.start c back) (List.Subset.refl _) second
      have new : ∀ t ∈ s.ordered, (!base.isMarked t.name) = decide (t ∉ base.ordered) := by
        intro t ht
        rw [Bool.eq_iff_iff, Bool.not_eq_true', decide_eq_true_iff,
          ← coherent.isMarked_iff_mem (coherent'.held t ht), Bool.not_eq_true]
      rw [second] at ends
      generalize c.visitAll back base = r' at ends ⊢
      cases ends with
      | ok h => simp only [Except.ok_map, h.ordered, List.filter_congr new]

/-- Behind players and teams come the games alone, though apart they have the players before
teams. -/
example : (league.resolve (["players"] ++ ["games"])).map (·.map (·.name))
      = .ok ["teams", "players", "games"] ∧
    (league.resolve ["games"]).map (·.map (·.name)) = .ok ["players", "teams", "games"] := by
  constructor <;> cbv

end Catalog

end SchemaForge
