import SchemaForge.Proofs.Schema.Composition
import SchemaForge.Proofs.Schema.Validity

/-!
# Requesting an answer again

The names of the tables that a request resolves to can be requested in their turn.  This gives the
same tables, and it gives them in the same order just when the request leads to no circle: names are
resolved to their own tables in their own order only if each of these refers to itself and to tables
before it (`InOrder`), and on a circle there is one that does not.  Tables on a circle come in the
order in which the search finds them, and no other order among them is promised.

Main results:

* a call only ever appends tables (`Catalog.prefix_calls`), and one that appends none was made for
  keys to marked names (`Catalog.marked_of_followEnd`);
* names resolve to their tables as they stand exactly if these are in order
  (`Catalog.resolve_names_eq_iff`), which can be told from the names alone
  (`Catalog.resolve_eq_self_iff`);
* an answer is in order exactly if the request leads to no circle (`Catalog.inOrder_iff_acyclic`).
-/

namespace SchemaForge

/-! ## Tables in order -/

/-- Each table refers to itself, to the given names and to tables before it only. -/
def InOrder (done : List String) : List Table → Prop
  | [] => True
  | t :: rest =>
    (∀ k ∈ t.foreignKeys, k.2.targetTable = t.name ∨ k.2.targetTable ∈ done) ∧
      InOrder (done ++ [t.name]) rest

theorem inOrder_iff {done : List String} {tables : List Table} :
    InOrder done tables ↔ ∀ front t back, tables = front ++ t :: back → ∀ k ∈ t.foreignKeys,
      k.2.targetTable = t.name ∨ k.2.targetTable ∈ done ++ front.map (·.name) := by
  induction tables generalizing done with
  | nil => simp [InOrder]
  | cons u rest ih =>
    rw [InOrder, ih]
    constructor
    · rintro ⟨head, tail⟩ front t back split
      cases front with
      | nil =>
        obtain ⟨rfl, -⟩ := List.cons.inj split
        simpa using head
      | cons v front =>
        obtain ⟨rfl, behind⟩ := List.cons.inj split
        simpa using tail front t back behind
    · intro all
      refine ⟨by simpa using all [] u rest rfl, ?_⟩
      intro front t back split
      simpa using all (u :: front) t back (by rw [split, List.cons_append])

namespace Catalog

open Traversal

variable {c : Catalog} {requested path : List String} {tables : List Table} {name n : String}
  {referrer : Option Referrer} {t : Table} {keys : List (Field × ForeignKey)} {s s' : Traversal}

/-! ## Calls append -/

/-- A visit that succeeds finds its name marked, or enters and leaves the table of that name. -/
theorem visitEnd_eq_ok_iff :
    c.visitEnd name referrer s = .ok s' ↔ ∃ t, c.get? name = some t ∧
      (s.isMarked name = true ∧ s' = s ∨ s.isMarked name = false ∧
        ∃ r, c.followEnd t t.foreignKeys (s.enter name) = .ok r ∧ s' = r.leave t) := by
  cases found : c.get? name with
  | none => simp [visitEnd_missing found]
  | some t =>
    obtain rfl := name_of_get? found
    cases marked : s.isMarked t.name with
    | true => simp [visitEnd_marked found marked, eq_comm]
    | false => simp [visitEnd_unmarked found marked, Except.map_eq_ok_iff, @eq_comm _ s']

/-- The tables that are done stay at the front. -/
theorem prefix_calls (c : Catalog) :
    (∀ name referrer s, ∀ s', c.visitEnd name referrer s = .ok s' → s.ordered <+: s'.ordered) ∧
      ∀ t keys s, ∀ s', c.followEnd t keys s = .ok s' → s.ordered <+: s'.ordered := by
  refine traversal_induction
    (P := fun _ _ s r => ∀ s', r = .ok s' → s.ordered <+: s'.ordered)
    (Q := fun _ _ s r => ∀ s', r = .ok s' → s.ordered <+: s'.ordered)
    ?missing ?marked ?unmarked ?nil ?stop ?cons
  case missing =>
    intro name referrer s _ s' h
    exact absurd h (by simp)
  case marked =>
    intro name referrer s t _ _ s' h
    cases h
    exact List.prefix_rfl
  case unmarked =>
    intro name referrer s t r _ _ _ ih s' h
    obtain ⟨s₁, hr, rfl⟩ := Except.map_eq_ok_iff.1 h
    exact (ih s₁ hr).trans (List.prefix_append _ _)
  case nil =>
    intro t s s' h
    cases h
    exact List.prefix_rfl
  case stop =>
    intro t f key rest s e _ _ s' h
    exact absurd h (by simp)
  case cons =>
    intro t f key rest s s₁ r _ _ ihVisit ihRest s' h
    exact (ihVisit s₁ rfl).trans (ihRest s' h)

theorem prefix_visitAll {names : List String} (h : c.visitAll names s = .ok s') :
    s.ordered <+: s'.ordered := by
  induction names generalizing s with
  | nil =>
    cases h
    exact List.prefix_rfl
  | cons name rest ih =>
    rw [visitAll_cons] at h
    obtain ⟨s₁, hv, hrest⟩ := Except.bind_eq_ok_iff.1 h
    exact ((prefix_calls c).1 name none s s₁ hv).trans (ih hrest)

/-- Following keys appends nothing only if the keys lead to marked names, and then it does nothing
at all. -/
theorem marked_of_followEnd (h : c.followEnd t keys s = .ok s') (same : s'.ordered = s.ordered) :
    s' = s ∧ ∀ k ∈ keys, s.isMarked k.2.targetTable = true := by
  induction keys generalizing s with
  | nil =>
    rw [followEnd_nil] at h
    cases h
    exact ⟨rfl, by simp⟩
  | cons k rest ih =>
    rw [followEnd_cons] at h
    obtain ⟨s₁, hv, hrest⟩ := Except.bind_eq_ok_iff.1 h
    have later : s₁.ordered <+: s.ordered := same ▸ (prefix_calls c).2 t rest s₁ s' hrest
    obtain ⟨u, found, ⟨marked, rfl⟩ | ⟨unmarked, r, hr, rfl⟩⟩ := visitEnd_eq_ok_iff.1 hv
    · obtain ⟨stays, targets⟩ := ih hrest same
      exact ⟨stays, List.forall_mem_cons.2 ⟨marked, targets⟩⟩
    · -- the visit has appended its own table
      have inside : s.ordered <+: r.ordered :=
        (prefix_calls c).2 u _ (s.enter k.2.targetTable) r hr
      have longer := inside.length_le
      have shorter := later.length_le
      simp only [Traversal.leave, List.length_append, List.length_singleton] at shorter
      omega

theorem visitEnd_alone (settled : s.Settled c) (found : c.get? t.name = some t)
    (unmarked : s.isMarked t.name = false)
    (targets : ∀ k ∈ t.foreignKeys,
      k.2.targetTable = t.name ∨ s.isMarked k.2.targetTable = true) :
    c.visitEnd t.name referrer s = .ok ((s.enter t.name).leave t) := by
  have present : ∀ k ∈ t.foreignKeys, ∃ u, c.get? k.2.targetTable = some u := by
    intro k hk
    rcases targets k hk with self | marked
    · exact ⟨t, self ▸ found⟩
    · exact settled.found _ marked
  have marked : ∀ k ∈ t.foreignKeys, (s.enter t.name).isMarked k.2.targetTable = true := by
    intro k hk
    rw [isMarked_enter, Bool.or_eq_true, beq_iff_eq]
    exact targets k hk
  rw [visitEnd_unmarked found unmarked, followEnd_of_isMarked present marked, Except.ok_map]

/-- A visit behind which its own table comes first was of that table alone. -/
theorem alone_of_visitEnd (coherent : s'.Coherent c requested path)
    (found : c.get? t.name = some t) (unmarked : s.isMarked t.name = false)
    (h : c.visitEnd t.name referrer s = .ok s') (first : s'.ordered <+: s.ordered ++ t :: tables) :
    s' = (s.enter t.name).leave t ∧
      ∀ k ∈ t.foreignKeys, k.2.targetTable = t.name ∨ s.isMarked k.2.targetTable = true := by
  obtain ⟨u, found', ⟨marked, -⟩ | ⟨-, r, hr, rfl⟩⟩ := visitEnd_eq_ok_iff.1 h
  · exact absurd marked (by simp [unmarked])
  · obtain rfl : t = u := Option.some.inj (found.symm.trans found')
    obtain ⟨new, hnew⟩ : s.ordered <+: r.ordered := (prefix_calls c).2 t _ (s.enter t.name) r hr
    rw [Traversal.leave, ← hnew, List.append_assoc, List.prefix_append_right_inj] at first
    cases new with
    | nil =>
      obtain ⟨rfl, targets⟩ := marked_of_followEnd hr (by simpa [Traversal.enter] using hnew.symm)
      refine ⟨rfl, fun k hk => ?_⟩
      have marked := targets k hk
      rwa [isMarked_enter, Bool.or_eq_true, beq_iff_eq] at marked
    | cons v new =>
      -- the table would be there twice
      obtain ⟨rfl, -⟩ := List.cons_prefix_cons.1 first
      have nodup := coherent.names_nodup
      rw [names_leave] at nodup
      have done : v.name ∈ r.names := List.mem_map_of_mem (by simp [← hnew])
      exact absurd rfl ((List.nodup_append.1 nodup).2.2 _ done _ (List.mem_singleton_self _))

/-! ## Names that resolve to their tables -/

/-- Behind a traversal with no call under way, names are resolved to their tables as they stand if
these are in order behind it, and only then. -/
theorem visitAll_names_iff (coherent : s.Coherent c requested [])
    (sub : tables.map (·.name) ⊆ requested) (found : ∀ t ∈ tables, c.get? t.name = some t)
    (nodup : (s.names ++ tables.map (·.name)).Nodup) :
    (∃ s', c.visitAll (tables.map (·.name)) s = .ok s' ∧ s'.ordered = s.ordered ++ tables) ↔
      InOrder s.names tables := by
  induction tables generalizing s with
  | nil => simp [InOrder, visitAll]
  | cons t rest ih =>
    obtain ⟨wanted, sub⟩ := List.cons_subset.1 sub
    obtain ⟨foundHead, found⟩ := List.forall_mem_cons.1 found
    rw [List.map_cons, List.append_cons] at nodup
    have unmarked : s.isMarked t.name = false := by
      rw [← Bool.not_eq_true]
      intro marked
      have new := (List.nodup_append.1 (List.nodup_append.1 nodup).1).2.2
      exact absurd rfl (new _ (coherent.mem_names marked) _ (List.mem_singleton_self _))
    -- what is left when the table has been visited alone
    have left (h : c.visitEnd t.name none s = .ok ((s.enter t.name).leave t)) :
        (∃ s', c.visitAll (rest.map (·.name)) ((s.enter t.name).leave t) = .ok s' ∧
          s'.ordered = s.ordered ++ t :: rest) ↔ InOrder (s.names ++ [t.name]) rest := by
      obtain ⟨coherent', -⟩ := coherent_visitEnd coherent (by simp) (reachable_of_mem wanted) h
      have names : ((s.enter t.name).leave t).names = s.names ++ [t.name] := names_leave _ t
      have ordered : ((s.enter t.name).leave t).ordered = s.ordered ++ [t] := rfl
      rw [List.append_cons, ← names, ← ordered]
      exact ih coherent' sub found (names ▸ nodup)
    rw [List.map_cons, visitAll_cons, InOrder]
    constructor
    · rintro ⟨s', h, same⟩
      obtain ⟨s₁, hv, hrest⟩ := Except.bind_eq_ok_iff.1 h
      obtain ⟨coherent', -⟩ := coherent_visitEnd coherent (by simp) (reachable_of_mem wanted) hv
      obtain ⟨rfl, targets⟩ := alone_of_visitEnd coherent' foundHead unmarked hv
        (same ▸ prefix_visitAll hrest)
      exact ⟨fun k hk => (targets k hk).imp_right coherent.mem_names,
        (left hv).1 ⟨s', hrest, same⟩⟩
    · rintro ⟨targets, inOrder⟩
      have alone : c.visitEnd t.name none s = .ok ((s.enter t.name).leave t) :=
        visitEnd_alone coherent.settled foundHead unmarked fun k hk =>
          (targets k hk).imp_right coherent.isMarked_of_mem
      rw [alone, Except.ok_bind]
      exact (left alone).2 inOrder

theorem resolve_names_eq_iff (found : ∀ t ∈ tables, c.get? t.name = some t)
    (nodup : (tables.map (·.name)).Nodup) :
    c.resolve (tables.map (·.name)) = .ok tables ↔ InOrder [] tables := by
  have behindNothing := visitAll_names_iff (Coherent.start c (tables.map (·.name)))
    (List.Subset.refl _) found nodup
  rw [← names_start, ← behindNothing, resolve, Except.map_eq_ok_iff]
  rfl

/-! ## Requests that are their own answers -/

theorem forall₂_get?_iff {names : List String} :
    List.Forall₂ (fun n t => c.get? n = some t) names tables ↔
      tables.map (·.name) = names ∧ ∀ t ∈ tables, c.get? t.name = some t := by
  induction tables generalizing names with
  | nil => simp [eq_comm]
  | cons t rest ih =>
    rw [List.forall₂_cons_right_iff, List.map_cons, List.forall_mem_cons]
    constructor
    · rintro ⟨n, behind, found, related, rfl⟩
      obtain ⟨rfl, all⟩ := ih.1 related
      obtain rfl := name_of_get? found
      exact ⟨rfl, found, all⟩
    · rintro ⟨rfl, found, all⟩
      exact ⟨t.name, _, found, ih.2 ⟨rfl, all⟩, rfl⟩

theorem exists_forall₂_get? {names : List String} (present : ∀ n ∈ names, c.get? n ≠ none) :
    ∃ tables, List.Forall₂ (fun n t => c.get? n = some t) names tables := by
  induction names with
  | nil => exact ⟨[], .nil⟩
  | cons n rest ih =>
    obtain ⟨here, behind⟩ := List.forall_mem_cons.1 present
    obtain ⟨t, found⟩ := Option.ne_none_iff_exists'.1 here
    obtain ⟨tables, related⟩ := ih behind
    exact ⟨t :: tables, .cons found related⟩

/-- Tables are in order if what the name of each refers to is that name or one before it. -/
theorem inOrder_iff_names (found : ∀ t ∈ tables, c.get? t.name = some t) :
    InOrder [] tables ↔ ∀ front n back, tables.map (·.name) = front ++ n :: back →
      ∀ m, c.Refers n m → m ≠ n → m ∈ front := by
  rw [inOrder_iff]
  constructor
  · rintro inOrder front n back split m ⟨t, held, k, hk, rfl⟩ hne
    obtain ⟨before, behind, rfl, rfl, hbehind⟩ := List.map_eq_append_iff.1 split
    obtain ⟨u, after, rfl, rfl, rfl⟩ := List.map_eq_cons_iff.1 hbehind
    obtain rfl : u = t := Option.some.inj ((found u (by simp)).symm.trans held)
    exact (inOrder before u after rfl k hk).resolve_left hne
  · rintro names front t back rfl k hk
    have refers := refers_of_mem (found t (by simp)) hk
    have before := names (front.map (·.name)) t.name (back.map (·.name)) (by simp) _ refers
    exact or_iff_not_imp_left.2 before

/-- Names resolve to their own tables in their own order if there are such tables, none is named
twice, and each refers to itself and to tables named before it only; and only then. -/
theorem resolve_eq_self_iff (c : Catalog) (names : List String) :
    (∃ tables, c.resolve names = .ok tables ∧
        List.Forall₂ (fun n t => c.get? n = some t) names tables) ↔
      (∀ n ∈ names, c.get? n ≠ none) ∧ names.Nodup ∧
        ∀ front n back, names = front ++ n :: back → ∀ m, c.Refers n m → m ≠ n → m ∈ front := by
  constructor
  · rintro ⟨tables, h, related⟩
    obtain ⟨rfl, found⟩ := forall₂_get?_iff.1 related
    have nodup := nodup_of_resolve h
    refine ⟨?_, nodup, (inOrder_iff_names found).1 ((resolve_names_eq_iff found nodup).1 h)⟩
    intro n hn
    exact exists_resolve_iff.1 ⟨tables, h⟩ n (reachable_of_mem hn)
  · rintro ⟨present, nodup, inOrder⟩
    obtain ⟨tables, related⟩ := exists_forall₂_get? present
    obtain ⟨rfl, found⟩ := forall₂_get?_iff.1 related
    exact ⟨tables, (resolve_names_eq_iff found nodup).2 ((inOrder_iff_names found).2 inOrder),
      related⟩

/-! ## Answers -/

theorem reachable_names_iff (h : c.resolve requested = .ok tables) :
    c.Reachable (tables.map (·.name)) n ↔ c.Reachable requested n := by
  constructor
  · rintro ⟨r, hr, reaches⟩
    obtain ⟨r', hr', reaches'⟩ := (mem_resolve_iff h).1 hr
    exact ⟨r', hr', reaches'.trans reaches⟩
  · exact fun hn => reachable_of_mem ((mem_resolve_iff h).2 hn)

/-- An answer is in order if the request leads to no circle, and only then. -/
theorem inOrder_iff_acyclic (h : c.resolve requested = .ok tables) :
    InOrder [] tables ↔ c.Acyclic requested := by
  rw [inOrder_iff]
  constructor
  · intro inOrder
    refine .of_rank (tables.map (·.name)).idxOf ?_
    rintro a b reachable ⟨t, found, k, hk, rfl⟩ hne
    obtain ⟨u, hu, rfl⟩ := List.mem_map.1 ((mem_resolve_iff h).2 reachable)
    obtain rfl : u = t := Option.some.inj ((get?_of_mem_resolve h hu).symm.trans found)
    obtain ⟨front, back, rfl⟩ := List.append_of_mem hu
    have before := (inOrder front u back rfl k hk).resolve_left hne.symm
    exact idxOf_lt_of_mem_front (nodup_of_resolve h) before
  · intro acyclic front t back split k hk
    obtain ⟨s, coherent, rfl, -⟩ := coherent_of_resolve h
    rcases coherent.dependenciesFirst front t back split k hk with before | back'
    · exact .inr before
    · have ht : t ∈ s.ordered := by simp [split]
      have reachable := (mem_resolve_iff h).1 (List.mem_map_of_mem ht)
      have forth : c.Reaches t.name k.2.targetTable :=
        .single (refers_of_mem (coherent.held t ht) hk)
      exact .inl (acyclic.eq_of_reaches reachable forth back').symm

/-- The names of an answer resolve to the same tables, and they do so in the same order if the
request leads to no circle, and only then. -/
theorem resolve_again (h : c.resolve requested = .ok tables) :
    ∃ again, c.resolve (tables.map (·.name)) = .ok again ∧ again.Perm tables ∧
      (again = tables ↔ c.Acyclic requested) := by
  have found : ∀ t ∈ tables, c.get? t.name = some t := fun t ht => get?_of_mem_resolve h ht
  obtain ⟨again, hagain⟩ : ∃ again, c.resolve (tables.map (·.name)) = .ok again :=
    exists_resolve_iff.2 fun n hn =>
      exists_resolve_iff.1 ⟨tables, h⟩ n ((reachable_names_iff h).1 hn)
  refine ⟨again, hagain, ?_, ?_⟩
  · have fewer : again.Subperm tables := List.Nodup.subperm (.of_map _ (nodup_of_resolve hagain))
      (subset_of_resolve hagain h fun n => (reachable_names_iff h).1)
    have more : tables.Subperm again := List.Nodup.subperm (.of_map _ (nodup_of_resolve h))
      (subset_of_resolve h hagain fun n => (reachable_names_iff h).2)
    exact fewer.antisymm more
  · rw [← inOrder_iff_acyclic h, ← resolve_names_eq_iff found (nodup_of_resolve h), hagain,
      Except.ok.injEq]

/-- The built-in tables lie on no circle, so an answer with them comes back as it is. -/
theorem resolve_again_builtin :
    ∃ tables, builtin.resolve ["comments", "order_items"] = .ok tables ∧
      tables.map (·.name)
        = ["users", "posts", "comments", "orders", "categories", "products", "order_items"] ∧
      builtin.resolve (tables.map (·.name)) = .ok tables := by
  have h : builtin.resolve ["comments", "order_items"] = .ok [Builtin.users, Builtin.posts,
      Builtin.comments, Builtin.orders, Builtin.categories, Builtin.products,
      Builtin.orderItems] := by cbv
  obtain ⟨again, hagain, -, same⟩ := resolve_again h
  obtain rfl := same.2 (acyclic_builtin _)
  exact ⟨_, h, rfl, hagain⟩

/-- Teams and their captains refer to each other: they change places when they are requested
again. -/
theorem teams_change_places :
    league.Valid ∧ ∃ tables, league.resolve ["teams"] = .ok tables ∧
      tables.map (·.name) = ["players", "teams"] ∧
      league.resolve (tables.map (·.name)) = .ok tables.reverse ∧ tables.reverse ≠ tables := by
  have valid : league.Valid := .of_accepted (by decide) (by decide)
  have h : league.resolve ["teams"] = .ok [league.tables[1], league.tables[2]] := by cbv
  have again : league.resolve ["players", "teams"]
      = .ok [league.tables[2], league.tables[1]] := by cbv
  exact ⟨valid, _, h, rfl, again, by decide⟩

end Catalog

end SchemaForge
