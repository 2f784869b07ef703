import SchemaForge.Proofs.Lists
import SchemaForge.Proofs.Schema.Resolution

/-!
# Requests written out

A request can be written out without keeping account of what has been met: a table is expanded into
what its keys to other tables lead to, expanded in their turn, and itself behind that.  A table that
is referred to from several sides is written out as often.  Where the request leads to no circle,
resolving it gives the first occurrences of all this, or fails as writing it out fails
(`Catalog.resolve_eq_expansion`).

`Catalog.expandBy` says how a name is expanded when the names behind it are.  Doing so down to a
depth is `Catalog.expandTo`; the depth makes no difference once it is larger than the number of
tables (`Catalog.expandTo_eq`), as no path over different tables is longer (`Catalog.LeadTo`).
-/

namespace SchemaForge

namespace Catalog

open Traversal

/-! ## Expanding -/

/-- A way to write out what a name leads to, given what refers to it. -/
abbrev Expander := String → Option Referrer → Except SchemaError (List Table)

/-- What the keys of a table to other tables lead to, one key after the other. -/
def expandKeys (expand : Expander) (t : Table) (keys : List (Field × ForeignKey)) :
    Except SchemaError (List Table) :=
  (keys.filter fun k => k.2.targetTable ≠ t.name).flatMapM fun k =>
    expand k.2.targetTable (some ⟨t.name, k.1.name⟩)

/-- A name is expanded into what the keys of its table lead to, and the table behind it. -/
def expandBy (c : Catalog) (expand : Expander) : Expander := fun name referrer =>
  match c.get? name with
  | none => .error (.unknownTable name referrer)
  | some t => (expandKeys expand t t.foreignKeys).map (· ++ [t])

/-- Expanding down to a depth. -/
def expandTo (c : Catalog) : Nat → Expander
  | 0 => fun _ _ => .ok []
  | depth + 1 => c.expandBy (c.expandTo depth)

/-- Expanding as far as paths over different tables can lead, and to a missing table behind. -/
def expansion (c : Catalog) : Expander := c.expandTo (c.size + 1)

variable {c : Catalog} {requested path : List String} {n m : String} {t : Table}
  {s s' : Traversal} {referrer : Option Referrer} {depth depth' : Nat} {expand : Expander}
  {keys : List (Field × ForeignKey)} {k : Field × ForeignKey}

theorem expandBy_missing (missing : c.get? n = none) :
    c.expandBy expand n referrer = .error (.unknownTable n referrer) := by
  simp only [expandBy, missing]

theorem expandBy_found (found : c.get? n = some t) :
    c.expandBy expand n referrer = (expandKeys expand t t.foreignKeys).map (· ++ [t]) := by
  simp only [expandBy, found]

theorem expandKeys_cons_self (self : k.2.targetTable = t.name) :
    expandKeys expand t (k :: keys) = expandKeys expand t keys := by
  rw [expandKeys, List.filter_cons_of_neg (by simpa using self), ← expandKeys]

theorem expandKeys_cons_outer (outer : k.2.targetTable ≠ t.name) :
    expandKeys expand t (k :: keys)
      = (expand k.2.targetTable (some ⟨t.name, k.1.name⟩)).bind fun ts =>
          (expandKeys expand t keys).map (ts ++ ·) := by
  rw [expandKeys, List.filter_cons_of_pos (by simpa using outer), Except.flatMapM_cons,
    ← expandKeys]

/-! ## How deep it goes -/

/-- From each of the names a path over different tables leads to `n`. -/
def LeadTo (c : Catalog) (path : List String) (n : String) : Prop :=
  ∀ p ∈ path, Relation.TransGen (fun a b => c.Refers a b ∧ a ≠ b) p n

namespace LeadTo

theorem nil (c : Catalog) (n : String) : c.LeadTo [] n := by simp [LeadTo]

theorem cons (h : c.LeadTo path n) (refers : c.Refers n m) (outer : m ≠ n) :
    c.LeadTo (n :: path) m := by
  intro p hp
  rcases List.mem_cons.1 hp with rfl | hp
  · exact .single ⟨refers, outer.symm⟩
  · exact (h p hp).tail ⟨refers, outer.symm⟩

/-- Without circles no name leads to itself. -/
theorem notMem (h : c.LeadTo path n) (acyclic : c.Acyclic requested)
    (reachable : c.Reachable requested n) : n ∉ path :=
  fun hn => acyclic n reachable (h n hn)

/-- A name that leads on is that of a table. -/
theorem subset (h : c.LeadTo path n) : path ⊆ c.names := by
  intro p hp
  obtain ⟨q, ⟨⟨t, found, -⟩, -⟩, -⟩ := Relation.TransGen.head'_iff.1 (h p hp)
  exact name_of_get? found ▸ List.mem_map_of_mem (mem_of_get? found)

/-- A depth that is larger, together with the path, than the number of tables is not used up. -/
theorem exists_depth (h : c.LeadTo path n) (nodup : path.Nodup)
    (deep : c.size < path.length + depth) : ∃ rest, depth = rest + 1 := by
  have short := nodup.length_le_of_subset h.subset
  rw [names, List.length_map, ← size] at short
  exact Nat.exists_eq_add_one_of_ne_zero (by omega)

end LeadTo

/-- Depths that are large enough give the same. -/
theorem expandTo_eq (acyclic : c.Acyclic requested) (reachable : c.Reachable requested n)
    (leads : c.LeadTo path n) (nodup : path.Nodup) (deep : c.size < path.length + depth)
    (deep' : c.size < path.length + depth') :
    c.expandTo depth n referrer = c.expandTo depth' n referrer := by
  induction depth generalizing depth' path n referrer with
  | zero =>
    obtain ⟨_, same⟩ := leads.exists_depth nodup deep
    exact absurd same (by simp)
  | succ depth ih =>
    obtain ⟨depth', rfl⟩ := leads.exists_depth nodup deep'
    rw [expandTo, expandTo]
    cases found : c.get? n with
    | none => rw [expandBy_missing found, expandBy_missing found]
    | some t =>
      obtain rfl := name_of_get? found
      rw [expandBy_found found, expandBy_found found]
      refine congrArg _ (Except.flatMapM_congr fun k hk => ?_)
      obtain ⟨hk, outer⟩ := List.mem_filter.1 hk
      have refers := refers_of_mem found hk
      refine ih (reachable.step refers) (leads.cons refers (by simpa using outer))
        (List.nodup_cons.2 ⟨leads.notMem acyclic reachable, nodup⟩) ?_ ?_
      · rw [List.length_cons]
        omega
      · rw [List.length_cons]
        omega

/-- Where there are no circles, a name is expanded into what the names behind it are expanded
into. -/
theorem expansion_eq (acyclic : c.Acyclic requested) (reachable : c.Reachable requested n) :
    c.expansion n referrer = c.expandBy c.expansion n referrer := by
  have deeper : c.expandBy c.expansion = c.expandTo (c.size + 2) := rfl
  rw [deeper]
  exact expandTo_eq acyclic reachable (.nil c n) .nil (by simp) (by simp)

/-! ## Calls and expansions -/

/-- A call from `s` ends as an expansion does: it fails with the same error, or the tables of the
expansion have been appended, as far as they were not there. -/
inductive Appends (s : Traversal) :
    Except SchemaError Traversal → Except SchemaError (List Table) → Prop
  | ok {s' : Traversal} {ts : List Table} (ordered : s'.ordered = (s.ordered ++ ts).eraseDups) :
    Appends s (.ok s') (.ok ts)
  | error (e : SchemaError) : Appends s (.error e) (.error e)

/-- Tables that are there already leave a traversal as it is. -/
theorem Appends.of_subset (coherent : s.Coherent c requested path) {ts : List Table}
    (sub : ts ⊆ s.ordered) : Appends s (.ok s) (.ok ts) := by
  have nodup : s.ordered.Nodup := .of_map _ coherent.names_nodup
  refine .ok ?_
  rw [eraseDups_append_of_subset sub, eraseDups_of_nodup nodup]

/-- Two calls, one behind the other. -/
theorem Appends.append {s₁ : Traversal} {ts : List Table} {r : Except SchemaError Traversal}
    {r' : Except SchemaError (List Table)} (first : s₁.ordered = (s.ordered ++ ts).eraseDups)
    (h : Appends s₁ r r') : Appends s r (r'.map (ts ++ ·)) := by
  cases h with
  | error e => exact .error e
  | ok ordered =>
    refine .ok ?_
    rw [ordered, first, eraseDups_eraseDups_append, List.append_assoc]

theorem notMem_of_underWay (coherent : s.Coherent c requested path) (ht : t.name ∈ path) :
    t ∉ s.ordered := by
  intro done
  have marked := (coherent.done_iff t.name).2 (List.mem_map_of_mem done)
  rw [(coherent.inProgress_iff t.name).2 ht] at marked
  exact absurd marked (by simp)

/-- A key of the innermost table under way to this table is not followed. -/
theorem visitEnd_of_underWay (coherent : s.Coherent c requested (t.name :: path))
    (found : c.get? t.name = some t) (self : n = t.name) : c.visitEnd n referrer s = .ok s := by
  have marked := (coherent.inProgress_iff t.name).2 List.mem_cons_self
  rw [self]
  exact visitEnd_marked found (by simp [isMarked, marked])

/-- What a table that is done is expanded into is done. -/
theorem expandTo_of_mem (coherent : s.Coherent c requested path) (acyclic : c.Acyclic requested)
    (depth : Nat) (referrer : Option Referrer) (ht : t ∈ s.ordered) :
    ∃ ts, c.expandTo depth t.name referrer = .ok ts ∧ ts ⊆ s.ordered := by
  induction depth generalizing t referrer with
  | zero => exact ⟨[], rfl, List.nil_subset _⟩
  | succ depth ih =>
    have found := coherent.held t ht
    have reachable := coherent.reachable _ (coherent.isMarked_of_mem (List.mem_map_of_mem ht))
    obtain ⟨ts, hts, sub⟩ : ∃ ts, expandKeys (c.expandTo depth) t t.foreignKeys = .ok ts ∧
        ts ⊆ s.ordered := by
      refine Except.exists_flatMapM fun k hk => ?_
      obtain ⟨hk, outer⟩ := List.mem_filter.1 hk
      obtain ⟨front, back, split⟩ := List.append_of_mem ht
      rcases coherent.dependenciesFirst front t back split k hk with before | round
      · obtain ⟨u, hu, leads⟩ := List.mem_map.1 before
        exact leads ▸ ih _ (by simp [split, hu])
      · have same := acyclic.eq_of_reaches reachable (.single (refers_of_mem found hk)) round
        exact absurd same.symm (by simpa using outer)
    refine ⟨ts ++ [t], ?_, List.append_subset.2 ⟨sub, by simpa using ht⟩⟩
    rw [expandTo, expandBy_found found, hts, Except.ok_map]

/-- Where there are no circles, calls end as expansions do: a visit as that of its name, and
following keys as those of their targets. -/
theorem appends_calls (acyclic : c.Acyclic requested) :
    (∀ name referrer s, ∀ path depth, s.Coherent c requested path → c.LeadTo path name →
      (∀ outer ∈ path.head?, c.Refers outer name) → c.Reachable requested name →
      c.size < path.length + depth →
      Appends s (c.visitEnd name referrer s) (c.expandTo depth name referrer)) ∧
    ∀ t keys s, ∀ path depth, s.Coherent c requested (t.name :: path) → c.LeadTo path t.name →
      c.get? t.name = some t → keys ⊆ t.foreignKeys → c.size ≤ path.length + depth →
      Appends s (c.followEnd t keys s) (expandKeys (c.expandTo depth) t keys) := by
  refine traversal_induction
    (P := fun name referrer s r => ∀ path depth, s.Coherent c requested path →
      c.LeadTo path name → (∀ outer ∈ path.head?, c.Refers outer name) →
      c.Reachable requested name → c.size < path.length + depth →
      Appends s r (c.expandTo depth name referrer))
    (Q := fun t keys s r => ∀ path depth, s.Coherent c requested (t.name :: path) →
      c.LeadTo path t.name → c.get? t.name = some t → keys ⊆ t.foreignKeys →
      c.size ≤ path.length + depth →
      Appends s r (expandKeys (c.expandTo depth) t keys))
    ?missing ?marked ?unmarked ?nil ?stop ?cons
  case missing =>
    intro name referrer s missing path depth coherent leads _ _ deep
    obtain ⟨depth, rfl⟩ := leads.exists_depth coherent.path_nodup deep
    rw [expandTo, expandBy_missing missing]
    exact .error _
  case marked =>
    intro name referrer s t found marked path depth coherent leads _ wanted _
    obtain rfl := name_of_get? found
    have done := (coherent.mem_of_isMarked marked).resolve_left (leads.notMem acyclic wanted)
    obtain ⟨u, hu, name_eq⟩ := List.mem_map.1 done
    obtain ⟨ts, hts, sub⟩ := expandTo_of_mem coherent acyclic depth referrer hu
    rw [← name_eq, hts]
    exact .of_subset coherent sub
  case unmarked =>
    intro name referrer s t r found unmarked hr ih path depth coherent leads caller wanted deep
    obtain rfl := name_of_get? found
    obtain ⟨depth, rfl⟩ := leads.exists_depth coherent.path_nodup deep
    have entered := coherent.enter unmarked caller wanted
    have inside := ih path depth entered leads found (List.Subset.refl _) (by omega)
    rw [expandTo, expandBy_found found]
    generalize expandKeys (c.expandTo depth) t t.foreignKeys = r' at inside
    cases inside with
    | error e => exact .error e
    | @ok s₁ ts ordered =>
      -- the table is still under way, so its keys have not led to it
      have underWay : s₁.Coherent c requested (t.name :: path) :=
        ((coherent_calls c requested).2 t _ _ path s₁ entered found (List.Subset.refl _) hr).1
      have new : t ∉ s.ordered ++ ts := by
        rw [← List.mem_eraseDups]
        exact ordered ▸ notMem_of_underWay underWay List.mem_cons_self
      refine .ok ?_
      rw [← List.append_assoc, eraseDups_append_singleton new]
      exact congrArg (· ++ [t]) ordered
  case nil =>
    intro t s path depth coherent _ _ _ _
    exact .of_subset coherent (List.nil_subset _)
  case stop =>
    intro t f key rest s e visited ih path depth coherent leads found sub deep
    obtain ⟨hf, -⟩ := List.cons_subset.1 sub
    have refers : c.Refers t.name key.targetTable := refers_of_mem found hf
    by_cases self : key.targetTable = t.name
    · rw [visitEnd_of_underWay coherent found self] at visited
      exact absurd visited (by simp)
    · have first := ih (t.name :: path) depth coherent (leads.cons refers self)
        (by simpa using refers) ((coherent.reachable_of_mem List.mem_cons_self).step refers)
        (by rw [List.length_cons]; omega)
      rw [expandKeys_cons_outer self]
      generalize c.expandTo depth key.targetTable _ = r' at first ⊢
      cases first with
      | error => exact .error e
  case cons =>
    intro t f key rest s s₁ r visited _ ihVisit ihRest path depth coherent leads found sub deep
    obtain ⟨hf, sub⟩ := List.cons_subset.1 sub
    have refers : c.Refers t.name key.targetTable := refers_of_mem found hf
    by_cases self : key.targetTable = t.name
    · rw [visitEnd_of_underWay coherent found self] at visited
      cases visited
      rw [expandKeys_cons_self self]
      exact ihRest path depth coherent leads found sub deep
    · have wanted := (coherent.reachable_of_mem List.mem_cons_self).step refers
      have first := ihVisit (t.name :: path) depth coherent (leads.cons refers self)
        (by simpa using refers) wanted (by rw [List.length_cons]; omega)
      have coherent₁ := (coherent_visitEnd coherent (by simpa using refers) wanted visited).1
      have behind := ihRest path depth coherent₁ leads found sub deep
      rw [expandKeys_cons_outer self]
      generalize c.expandTo depth key.targetTable _ = r' at first ⊢
      cases first with
      | ok ordered => exact behind.append ordered

/-- A traversal for requested names appends their expansions, one behind the other. -/
theorem appends_visitAll (acyclic : c.Acyclic requested) {names : List String}
    (coherent : s.Coherent c requested []) (sub : names ⊆ requested) :
    Appends s (c.visitAll names s) (names.flatMapM fun n => c.expansion n none) := by
  induction names generalizing s with
  | nil => exact .of_subset coherent (List.nil_subset _)
  | cons name rest ih =>
    obtain ⟨hname, hrest⟩ := List.cons_subset.1 sub
    have wanted : c.Reachable requested name := reachable_of_mem hname
    have first := (appends_calls acyclic).1 name none s [] (c.size + 1) coherent (.nil c name)
      (by simp) wanted (by simp)
    rw [← expansion] at first
    rw [visitAll_cons, Except.flatMapM_cons]
    cases visited : c.visitEnd name none s with
    | error e =>
      rw [visited] at first
      generalize c.expansion name none = r' at first ⊢
      cases first with
      | error => exact .error e
    | ok s₁ =>
      have coherent₁ := (coherent_visitEnd coherent (by simp) wanted visited).1
      rw [visited] at first
      generalize c.expansion name none = r' at first ⊢
      cases first with
      | ok ordered => exact (ih coherent₁ hrest).append ordered

/-! ## Requests -/

/-- A request that leads to no circle resolves to the first occurrences in what its names are
expanded into, one behind the other, where a name is expanded into what the other tables that it
refers to are expanded into.  If it leads to tables only, there is such an expansion. -/
theorem resolve_eq_expansion (acyclic : c.Acyclic requested) :
    (∀ n referrer, c.Reachable requested n →
      c.expansion n referrer = c.expandBy c.expansion n referrer) ∧
    c.resolve requested
      = (requested.flatMapM fun n => c.expansion n none).map (·.eraseDups) ∧
    ((∀ n, c.Reachable requested n → c.get? n ≠ none) →
      ∃ tables, (requested.flatMapM fun n => c.expansion n none) = .ok tables ∧
        c.resolve requested = .ok tables.eraseDups) := by
  have same : c.resolve requested
      = (requested.flatMapM fun n => c.expansion n none).map (·.eraseDups) := by
    have ends := appends_visitAll acyclic (Coherent.start c requested) (List.Subset.refl _)
    rw [resolve]
    generalize c.visitAll requested .start = r at ends ⊢
    generalize (requested.flatMapM fun n => c.expansion n none) = r' at ends ⊢
    cases ends with
    | error e => rfl
    | ok ordered => exact congrArg _ ordered
  refine ⟨fun n referrer reachable => expansion_eq acyclic reachable, same, fun present => ?_⟩
  obtain ⟨resolved, h⟩ := exists_resolve_iff.2 present
  obtain ⟨tables, expands, -⟩ := Except.map_eq_ok_iff.1 (same.symm.trans h)
  exact ⟨tables, expands, by rw [same, expands, Except.ok_map]⟩

/-- Users are written out for posts and for comments, and posts with their users twice. -/
theorem resolve_eq_expansion_builtin :
    builtin.Acyclic ["post_tags", "comments"] ∧ ∃ tables,
      (["post_tags", "comments"].flatMapM fun n => builtin.expansion n none) = .ok tables ∧
      tables.map (·.name)
        = ["users", "posts", "tags", "post_tags", "users", "posts", "users", "comments"] ∧
      builtin.resolve ["post_tags", "comments"] = .ok tables.eraseDups ∧
      tables.eraseDups.map (·.name) = ["users", "posts", "tags", "post_tags", "comments"] := by
  have acyclic := acyclic_builtin ["post_tags", "comments"]
  have expands : (["post_tags", "comments"].flatMapM fun n => builtin.expansion n none)
      = .ok [Builtin.users, Builtin.posts, Builtin.tags, Builtin.postTags, Builtin.users,
        Builtin.posts, Builtin.users, Builtin.comments] := rfl
  refine ⟨acyclic, _, expands, rfl, ?_, rfl⟩
  rw [(resolve_eq_expansion acyclic).2.1, expands, Except.ok_map]

end Catalog

end SchemaForge
