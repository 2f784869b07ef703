import SchemaForge.Proofs.Schema.Reachability
import SchemaForge.Proofs.Schema.Traversal

/-!
# Why a request fails

A traversal stops at the first name without a table that it is sent to.  `Catalog.Blames` says what
the error of a request tells of it: either the name is requested, and the names requested before it
lead to tables only, or a foreign key leads to it, of a table that the request leads to and whose
earlier keys all lead to tables.

Main results:

* a call that fails was made for the missing name, or met a table with a key to it
  (`Catalog.stopped_calls`);
* a request that fails blames a name without a table (`Catalog.blames_of_resolve`).
-/

namespace SchemaForge.Catalog

variable {c : Catalog} {requested : List String} {name n : String}
  {referrer : Option Referrer} {t : Table} {keys : List (Field × ForeignKey)} {s s' : Traversal}
  {e : SchemaError}

/-! ## Stopping at a key -/

/-- Of the keys of a table, one leads to a name without a table, those before it lead to tables,
and the error says so. -/
def StopsAt (c : Catalog) (t : Table) (keys : List (Field × ForeignKey)) (e : SchemaError) : Prop :=
  ∃ front f key back, keys = front ++ (f, key) :: back ∧
    (∀ k ∈ front, c.get? k.2.targetTable ≠ none) ∧ c.get? key.targetTable = none ∧
    e = .unknownTable key.targetTable (some ⟨t.name, f.name⟩)

theorem StopsAt.head {f : Field} {key : ForeignKey} (missing : c.get? key.targetTable = none) :
    c.StopsAt t ((f, key) :: keys) (.unknownTable key.targetTable (some ⟨t.name, f.name⟩)) :=
  ⟨[], f, key, keys, rfl, by simp, missing, rfl⟩

theorem StopsAt.cons (h : c.StopsAt t keys e) {k : Field × ForeignKey}
    (present : c.get? k.2.targetTable ≠ none) : c.StopsAt t (k :: keys) e := by
  obtain ⟨front, f, key, back, rfl, before, missing, rfl⟩ := h
  exact ⟨k :: front, f, key, back, rfl, List.forall_mem_cons.2 ⟨present, before⟩, missing, rfl⟩

/-- From the given name, some table is reached whose keys stop the traversal. -/
def StopsBehind (c : Catalog) (name : String) (e : SchemaError) : Prop :=
  ∃ t, c.get? t.name = some t ∧ c.Reaches name t.name ∧ c.StopsAt t t.foreignKeys e

/-! ## Calls that fail -/

/-- A visit that succeeds was made for the name of a table. -/
theorem present_of_visitEnd (h : c.visitEnd name referrer s = .ok s') : c.get? name ≠ none := by
  intro missing
  rw [visitEnd_missing missing] at h
  exact absurd h (by simp)

/-- A visit fails at its own name or behind it; following keys fails at one of them or behind its
target. -/
theorem stopped_calls (c : Catalog) :
    (∀ name referrer s, ∀ e, c.visitEnd name referrer s = .error e →
      (c.get? name = none ∧ e = .unknownTable name referrer) ∨ c.StopsBehind name e) ∧
    ∀ t keys s, ∀ e, c.followEnd t keys s = .error e →
      c.StopsAt t keys e ∨ ∃ k ∈ keys, c.StopsBehind k.2.targetTable e := by
  refine traversal_induction
    (P := fun name referrer _ r => ∀ e, r = .error e →
      (c.get? name = none ∧ e = .unknownTable name referrer) ∨ c.StopsBehind name e)
    (Q := fun t keys _ r => ∀ e, r = .error e →
      c.StopsAt t keys e ∨ ∃ k ∈ keys, c.StopsBehind k.2.targetTable e)
    ?missing ?marked ?unmarked ?nil ?stop ?cons
  case missing =>
    intro name referrer s missing e h
    cases h
    exact .inl ⟨missing, rfl⟩
  case marked =>
    intro name referrer s t _ _ e h
    exact absurd h (by simp)
  case unmarked =>
    intro name referrer s t r found _ _ ih e h
    obtain rfl := name_of_get? found
    rcases ih e (Except.map_eq_error_iff.1 h) with stops | ⟨k, hk, u, held, reaches, stops⟩
    · exact .inr ⟨t, found, .refl, stops⟩
    · exact .inr ⟨u, held, .head (refers_of_mem found hk) reaches, stops⟩
  case nil =>
    intro t s e h
    exact absurd h (by simp)
  case stop =>
    intro t f key rest s e' _ ih e h
    rcases ih e h with ⟨missing, rfl⟩ | behind
    · exact .inl (.head missing)
    · exact .inr ⟨(f, key), List.mem_cons_self, behind⟩
  case cons =>
    intro t f key rest s s' r visited _ _ ih e h
    rcases ih e h with stops | ⟨k, hk, behind⟩
    · exact .inl (stops.cons (present_of_visitEnd visited))
    · exact .inr ⟨k, List.mem_cons_of_mem _ hk, behind⟩

/-- Visiting names one after the other fails at one of them, when those before it are visited. -/
theorem visitAll_eq_error {names : List String} (h : c.visitAll names s = .error e) :
    ∃ front name back s', names = front ++ name :: back ∧ c.visitAll front s = .ok s' ∧
      c.visitEnd name none s' = .error e := by
  induction names generalizing s with
  | nil => exact absurd h (by simp [visitAll])
  | cons name rest ih =>
    rw [visitAll_cons] at h
    rcases Except.bind_eq_error_iff.1 h with h | ⟨s₁, visited, h⟩
    · exact ⟨[], name, rest, s, rfl, rfl, h⟩
    · obtain ⟨front, name', back, s', rfl, before, fails⟩ := ih h
      refine ⟨name :: front, name', back, s', rfl, ?_, fails⟩
      rw [visitAll_cons, visited, Except.ok_bind, before]

theorem present_of_visitAll {names : List String} (h : c.visitAll names s = .ok s') :
    ∀ n ∈ names, c.get? n ≠ none := by
  induction names generalizing s with
  | nil => simp
  | cons name rest ih =>
    rw [visitAll_cons] at h
    obtain ⟨s₁, visited, h⟩ := Except.bind_eq_ok_iff.1 h
    exact List.forall_mem_cons.2 ⟨present_of_visitEnd visited, ih h⟩

/-! ## Requests that fail -/

/-- A split of the foreign keys of a table comes from one of its fields. -/
theorem fields_eq_of_foreignKeys {front back : List (Field × ForeignKey)} {f : Field}
    {key : ForeignKey} (split : t.foreignKeys = front ++ (f, key) :: back) :
    ∃ earlier later, t.fields = earlier ++ f :: later ∧ f.foreignKey = some key ∧
      ∀ g ∈ earlier, ∀ k, g.foreignKey = some k → (g, k) ∈ front := by
  obtain ⟨fields, rest, hfields, rfl, hrest⟩ := List.filterMap_eq_append_iff.1 split
  obtain ⟨skipped, f', later, rfl, hskipped, hf, -⟩ := List.filterMap_eq_cons_iff.1 hrest
  obtain ⟨key', hkey, same⟩ := Option.map_eq_some_iff.1 hf
  cases same
  refine ⟨fields ++ skipped, later, by rw [hfields, List.append_assoc], hkey, ?_⟩
  intro g hg k hk
  rcases List.mem_append.1 hg with hg | hg
  · exact List.mem_filterMap.2 ⟨g, hg, by rw [hk, Option.map_some]⟩
  · exact absurd (hskipped g hg) (by simp [hk])

/-- What the error of a request says of a missing name and of what refers to it. -/
inductive Blames (c : Catalog) (requested : List String) (n : String) : Option Referrer → Prop
  /-- The name is requested itself, and what is requested before it resolves. -/
  | request {front back : List String} (split : requested = front ++ n :: back)
      (first : n ∉ front) (before : ∃ tables, c.resolve front = .ok tables) :
      Blames c requested n none
  /-- The key of a field leads to the name, and the keys of the fields before this one lead to
  tables. -/
  | key {t : Table} {earlier later : List Field} {f : Field} {key : ForeignKey}
      (found : c.get? t.name = some t) (reachable : c.Reachable requested t.name)
      (split : t.fields = earlier ++ f :: later) (held : f.foreignKey = some key)
      (leads : key.targetTable = n)
      (before : ∀ g ∈ earlier, ∀ k, g.foreignKey = some k → c.get? k.targetTable ≠ none) :
      Blames c requested n (some ⟨t.name, f.name⟩)

/-- A request that fails blames a name without a table. -/
theorem blames_of_resolve (h : c.resolve requested = .error e) :
    ∃ n referrer, e = .unknownTable n referrer ∧ c.get? n = none ∧
      c.Blames requested n referrer := by
  obtain ⟨front, name, back, s, split, before, fails⟩ :=
    visitAll_eq_error (Except.map_eq_error_iff.1 h)
  rcases (stopped_calls c).1 name none s e fails with ⟨missing, rfl⟩ | ⟨t, found, reaches, stops⟩
  · have first : name ∉ front := fun again => present_of_visitAll before name again missing
    have resolves : c.resolve front = .ok s.ordered := by
      rw [resolve, before, Except.ok_map]
    exact ⟨name, none, rfl, missing, .request split first ⟨_, resolves⟩⟩
  · obtain ⟨keys, f, key, keys', splitKeys, present, missing, rfl⟩ := stops
    obtain ⟨earlier, later, splitFields, held, listed⟩ := fields_eq_of_foreignKeys splitKeys
    have reachable : c.Reachable requested t.name := ⟨name, by simp [split], reaches⟩
    exact ⟨key.targetTable, _, rfl, missing, .key found reachable splitFields held rfl
      fun g hg k hk => present _ (listed g hg k hk)⟩

theorem Blames.reachable (h : c.Blames requested n referrer) : c.Reachable requested n := by
  cases h with
  | request split => exact reachable_of_mem (by simp [split])
  | @key t earlier later f key found reachable split held leads =>
    have hkey : (f, key) ∈ t.foreignKeys :=
      List.mem_filterMap.2 ⟨f, by simp [split], by rw [held, Option.map_some]⟩
    exact leads ▸ reachable.step (refers_of_mem found hkey)

end SchemaForge.Catalog
