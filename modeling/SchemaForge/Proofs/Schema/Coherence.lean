import Mathlib.Data.List.Nodup
import SchemaForge.Proofs.Schema.Reachability
import SchemaForge.Proofs.Schema.Traversal

/-!
# What a traversal never breaks

`Traversal.Coherent` relates the marks and the tables of a traversal to the path of calls under
way.  A table in progress is on the path, and each table of the path refers to the next one.  So a
foreign key of a table that is left leads to a table that is done already or to one of the path,
from which the table itself was reached: this is what orders the answer, circles or not.

Main results:

* entering and leaving a table keep a traversal coherent (`Traversal.Coherent.enter`,
  `Traversal.Coherent.leave`), hence so does every call (`Catalog.coherent_visitEnd`);
* so does a request, which leaves each of its names marked (`Catalog.coherent_visitAll`).
-/

namespace SchemaForge

namespace Traversal

/-! ## Marks -/

/-- The names of the tables that are done, in order. -/
def names (s : Traversal) : List String := s.ordered.map (·.name)

@[simp] theorem names_start : start.names = [] := rfl

@[simp] theorem names_enter (s : Traversal) (n : String) : (s.enter n).names = s.names := rfl

@[simp] theorem names_leave (s : Traversal) (t : Table) :
    (s.leave t).names = s.names ++ [t.name] := by
  simp [names, leave]

@[simp] theorem mark?_start (n : String) : start.mark? n = none := rfl

theorem mark?_enter (s : Traversal) (name n : String) :
    (s.enter name).mark? n = if n = name then some .inProgress else s.mark? n := by
  simp only [mark?, enter, List.findSome?_cons]
  by_cases same : n = name
  · rw [if_pos same, if_pos same.symm]
  · rw [if_neg same, if_neg (Ne.symm same)]

theorem mark?_leave (s : Traversal) (t : Table) (n : String) :
    (s.leave t).mark? n = if n = t.name then some .done else s.mark? n := by
  simp only [mark?, leave, List.findSome?_cons]
  by_cases same : n = t.name
  · rw [if_pos same, if_pos same.symm]
  · rw [if_neg same, if_neg (Ne.symm same)]

theorem mark?_eq_none {s : Traversal} {n : String} (h : s.isMarked n = false) :
    s.mark? n = none := by
  simpa [isMarked] using h

/-! ## The invariant -/

/-- The marks and the tables of a traversal of `c` from the requested names fit together, and fit
the path of calls under way, the innermost first. -/
structure Coherent (c : Catalog) (requested path : List String) (s : Traversal) : Prop where
  /-- The names in progress are those of the path. -/
  inProgress_iff : ∀ n, s.mark? n = some .inProgress ↔ n ∈ path
  /-- No call is under way twice. -/
  path_nodup : path.Nodup
  /-- Each table of the path refers to the one it called. -/
  path_chain : path.IsChain fun inner outer => c.Refers outer inner
  /-- The names that are done are those of the tables so far. -/
  done_iff : ∀ n, s.mark? n = some .done ↔ n ∈ s.names
  /-- No table is there twice. -/
  names_nodup : s.names.Nodup
  /-- Each table is the one of its name in the catalog. -/
  held : ∀ t ∈ s.ordered, c.get? t.name = some t
  /-- Nothing is marked that the request does not lead to. -/
  reachable : ∀ n, s.isMarked n = true → c.Reachable requested n
  /-- What a table that is done refers to is marked. -/
  closed : ∀ t ∈ s.ordered, ∀ k ∈ t.foreignKeys, s.isMarked k.2.targetTable = true
  /-- What a table refers to stands before it, unless the table is reached from there. -/
  dependenciesFirst : ∀ front t back, s.ordered = front ++ t :: back → ∀ k ∈ t.foreignKeys,
    k.2.targetTable ∈ front.map (·.name) ∨ c.Reaches k.2.targetTable t.name

namespace Coherent

variable {c : Catalog} {requested path : List String} {s : Traversal} {t : Table} {n : String}

theorem start (c : Catalog) (requested : List String) :
    Traversal.start.Coherent c requested [] where
  inProgress_iff := by simp
  path_nodup := .nil
  path_chain := .nil
  done_iff := by simp
  names_nodup := .nil
  held := by simp [Traversal.start]
  reachable := by simp [isMarked]
  closed := by simp [Traversal.start]
  dependenciesFirst := by simp [Traversal.start]

/-- A marked name is on the path or done. -/
theorem mem_of_isMarked (h : s.Coherent c requested path) (marked : s.isMarked n = true) :
    n ∈ path ∨ n ∈ s.names := by
  obtain ⟨m, hm⟩ := Option.isSome_iff_exists.1 marked
  cases m with
  | inProgress => exact .inl ((h.inProgress_iff n).1 hm)
  | done => exact .inr ((h.done_iff n).1 hm)

/-- When no call is under way, every marked name is done. -/
theorem mem_names (h : s.Coherent c requested []) (marked : s.isMarked n = true) :
    n ∈ s.names :=
  (h.mem_of_isMarked marked).resolve_left List.not_mem_nil

/-- The name of a table that is done is marked. -/
theorem isMarked_of_mem (h : s.Coherent c requested path) (hn : n ∈ s.names) :
    s.isMarked n = true := by
  simp [isMarked, (h.done_iff n).2 hn]

/-- A table under way is reachable from the request. -/
theorem reachable_of_mem (h : s.Coherent c requested path) (hn : n ∈ path) :
    c.Reachable requested n := by
  have hm := (h.inProgress_iff n).2 hn
  exact h.reachable n (by simp [isMarked, hm])

/-- Entering a table that has no mark, from the innermost table under way. -/
theorem enter (h : s.Coherent c requested path) (unmarked : s.isMarked n = false)
    (caller : ∀ outer ∈ path.head?, c.Refers outer n) (wanted : c.Reachable requested n) :
    (s.enter n).Coherent c requested (n :: path) := by
  have hm : s.mark? n = none := mark?_eq_none unmarked
  have notOnPath : n ∉ path := by
    rw [← h.inProgress_iff, hm]
    simp
  have notDone : n ∉ s.names := by
    rw [← h.done_iff, hm]
    simp
  refine ⟨?_, List.nodup_cons.2 ⟨notOnPath, h.path_nodup⟩, ?_, ?_, h.names_nodup, h.held, ?_, ?_,
    h.dependenciesFirst⟩
  · intro m
    rw [mark?_enter, List.mem_cons, ← h.inProgress_iff]
    by_cases hmn : m = n <;> simp [hmn]
  · cases path with
    | nil => exact .singleton _
    | cons outer rest => exact .cons_cons (caller outer rfl) h.path_chain
  · intro m
    rw [mark?_enter, names_enter, ← h.done_iff]
    by_cases hmn : m = n
    · simp [hmn, hm]
    · simp [hmn]
  · intro m hmarked
    rw [isMarked_enter, Bool.or_eq_true, beq_iff_eq] at hmarked
    rcases hmarked with rfl | hmarked
    · exact wanted
    · exact h.reachable m hmarked
  · intro t ht k hk
    exact s.within_enter n _ (h.closed t ht k hk)

/-- Leaving the innermost table, when everything that it refers to is marked. -/
theorem leave (h : s.Coherent c requested (t.name :: path)) (found : c.get? t.name = some t)
    (followed : ∀ k ∈ t.foreignKeys, s.isMarked k.2.targetTable = true) :
    (s.leave t).Coherent c requested path := by
  obtain ⟨notOnPath, path_nodup⟩ := List.nodup_cons.1 h.path_nodup
  have hm : s.mark? t.name = some .inProgress := (h.inProgress_iff _).2 List.mem_cons_self
  have notDone : t.name ∉ s.names := by
    rw [← h.done_iff, hm]
    simp
  refine ⟨?_, path_nodup, h.path_chain.tail, ?_, ?_, ?_, ?_, ?_, ?_⟩
  · intro m
    rw [mark?_leave]
    by_cases hmt : m = t.name
    · simp [hmt, notOnPath]
    · simp [hmt, h.inProgress_iff]
  · intro m
    rw [mark?_leave, names_leave]
    by_cases hmt : m = t.name
    · simp [hmt]
    · simp [hmt, h.done_iff]
  · rw [names_leave, ← List.concat_eq_append]
    exact List.Nodup.concat notDone h.names_nodup
  · intro u hu
    rcases List.mem_append.1 hu with hu | hu
    · exact h.held u hu
    · exact List.mem_singleton.1 hu ▸ found
  · intro m hmarked
    rw [isMarked_leave, Bool.or_eq_true, beq_iff_eq] at hmarked
    rcases hmarked with rfl | hmarked
    · exact h.reachable_of_mem List.mem_cons_self
    · exact h.reachable m hmarked
  · intro u hu k hk
    apply s.within_leave t
    rcases List.mem_append.1 hu with hu | hu
    · exact h.closed u hu k hk
    · exact followed k (List.mem_singleton.1 hu ▸ hk)
  · intro front u back split k hk
    rcases List.eq_nil_or_concat back with rfl | ⟨back, last, rfl⟩
    · -- the table that is left: its target is done, or on the path and so leads to it
      obtain ⟨rfl, hut⟩ := List.append_inj' split rfl
      obtain rfl : t = u := List.singleton_inj.1 hut
      rcases h.mem_of_isMarked (followed k hk) with onPath | done
      · exact .inr (Catalog.reaches_of_isChain h.path_chain onPath)
      · exact .inl done
    · rw [List.concat_eq_append, ← List.cons_append, ← List.append_assoc] at split
      exact h.dependenciesFirst front u back (List.append_inj' split rfl).1 k hk

end Coherent

end Traversal

namespace Catalog

/-! ## Calls keep it -/

variable {c : Catalog} {requested path : List String} {name : String}
  {referrer : Option Referrer} {s s' : Traversal}

/-- A call that succeeds keeps a traversal coherent and leaves marked what it was made for: a visit
its name, following keys their targets. -/
theorem coherent_calls (c : Catalog) (requested : List String) :
    (∀ name referrer s, ∀ path s', s.Coherent c requested path →
      (∀ outer ∈ path.head?, c.Refers outer name) → c.Reachable requested name →
      c.visitEnd name referrer s = .ok s' →
      s'.Coherent c requested path ∧ s'.isMarked name = true) ∧
    ∀ t keys s, ∀ path s', s.Coherent c requested (t.name :: path) → c.get? t.name = some t →
      keys ⊆ t.foreignKeys → c.followEnd t keys s = .ok s' →
      s'.Coherent c requested (t.name :: path) ∧
        ∀ k ∈ keys, s'.isMarked k.2.targetTable = true := by
  refine traversal_induction
    (P := fun name _ s r => ∀ path s', s.Coherent c requested path →
      (∀ outer ∈ path.head?, c.Refers outer name) → c.Reachable requested name → r = .ok s' →
      s'.Coherent c requested path ∧ s'.isMarked name = true)
    (Q := fun t keys s r => ∀ path s', s.Coherent c requested (t.name :: path) →
      c.get? t.name = some t → keys ⊆ t.foreignKeys → r = .ok s' →
      s'.Coherent c requested (t.name :: path) ∧
        ∀ k ∈ keys, s'.isMarked k.2.targetTable = true)
    ?missing ?marked ?unmarked ?nil ?stop ?cons
  case missing =>
    intro name referrer s _ path s' _ _ _ h
    exact absurd h (by simp)
  case marked =>
    rintro name referrer s t found marked path s' coherent _ _ h
    cases h
    exact ⟨coherent, name_of_get? found ▸ marked⟩
  case unmarked =>
    intro name referrer s t r found unmarked _ ih path s' coherent caller wanted h
    obtain rfl := name_of_get? found
    obtain ⟨s₁, hr, rfl⟩ := Except.map_eq_ok_iff.1 h
    obtain ⟨inside, followed⟩ :=
      ih path s₁ (coherent.enter unmarked caller wanted) found (List.Subset.refl _) hr
    exact ⟨inside.leave found followed, by simp [Traversal.isMarked_leave]⟩
  case nil =>
    intro t s path s' coherent _ _ h
    cases h
    exact ⟨coherent, by simp⟩
  case stop =>
    intro t f key rest s e _ _ path s' _ _ _ h
    exact absurd h (by simp)
  case cons =>
    intro t f key rest s s₁ r _ hrest ihVisit ihRest path s' coherent found sub h
    obtain ⟨hf, sub⟩ := List.cons_subset.1 sub
    have refers : c.Refers t.name key.targetTable := refers_of_mem found hf
    obtain ⟨coherent₁, marked₁⟩ := ihVisit (t.name :: path) s₁ coherent
      (by simpa using refers) ((coherent.reachable_of_mem List.mem_cons_self).step refers) rfl
    obtain ⟨coherent', marked'⟩ := ihRest path s' coherent₁ found sub h
    refine ⟨coherent', fun k hk => ?_⟩
    rcases List.mem_cons.1 hk with rfl | hk
    · exact within_of_followEnd (hrest.trans h) _ marked₁
    · exact marked' k hk

/-- A visit that succeeds keeps a traversal coherent, and its name is marked then. -/
theorem coherent_visitEnd (coherent : s.Coherent c requested path)
    (caller : ∀ outer ∈ path.head?, c.Refers outer name) (wanted : c.Reachable requested name)
    (h : c.visitEnd name referrer s = .ok s') :
    s'.Coherent c requested path ∧ s'.isMarked name = true :=
  (coherent_calls c requested).1 name referrer s path s' coherent caller wanted h

/-- Visiting requested names keeps a traversal coherent, and all of them are marked then. -/
theorem coherent_visitAll {names : List String} (coherent : s.Coherent c requested [])
    (sub : names ⊆ requested) (h : c.visitAll names s = .ok s') :
    s'.Coherent c requested [] ∧ ∀ n ∈ names, s'.isMarked n = true := by
  induction names generalizing s with
  | nil =>
    cases h
    exact ⟨coherent, by simp⟩
  | cons name rest ih =>
    obtain ⟨hname, hrest⟩ := List.cons_subset.1 sub
    rw [visitAll_cons] at h
    obtain ⟨s₁, hv, hs'⟩ := Except.bind_eq_ok_iff.1 h
    obtain ⟨coherent₁, marked₁⟩ :=
      coherent_visitEnd coherent (by simp) (reachable_of_mem hname) hv
    obtain ⟨coherent', marked'⟩ := ih coherent₁ hrest hs'
    refine ⟨coherent', fun n hn => ?_⟩
    rcases List.mem_cons.1 hn with rfl | hn
    · exact within_of_visitAll hs' _ marked₁
    · exact marked' n hn

end Catalog

end SchemaForge
