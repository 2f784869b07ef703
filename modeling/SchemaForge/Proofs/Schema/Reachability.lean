import Mathlib.Data.List.Chain
import Mathlib.Logic.Relation
import SchemaForge.Schema.Catalog

/-!
# Reachability over foreign keys

The foreign keys of a catalog make a graph of table names, which may hold names that no table of
the catalog has.  `Catalog.Reaches` follows any number of keys, `Catalog.Reachable` starts from the
names of a request.

Main results:

* a relation without circles other than self references orders the names it reaches
  (`Catalog.Acyclic.eq_of_reaches`);
* a set of names that holds the request and the targets of its own keys holds everything reachable
  (`Catalog.Reachable.of_closed`).
-/

namespace SchemaForge.Catalog

variable {c : Catalog} {requested : List String} {a b n : String}

/-! ## Following foreign keys -/

/-- The catalog has a table named `a`, and a foreign key of it leads to `b`. -/
def Refers (c : Catalog) (a b : String) : Prop :=
  ∃ t, c.get? a = some t ∧ ∃ k ∈ t.foreignKeys, k.2.targetTable = b

/-- From `a`, following foreign keys any number of times leads to `b`. -/
def Reaches (c : Catalog) : String → String → Prop := Relation.ReflTransGen c.Refers

/-- Some requested name leads to `n`. -/
def Reachable (c : Catalog) (requested : List String) (n : String) : Prop :=
  ∃ r ∈ requested, c.Reaches r n

theorem refers_of_mem {t : Table} (found : c.get? a = some t) {k : Field × ForeignKey}
    (hk : k ∈ t.foreignKeys) : c.Refers a k.2.targetTable :=
  ⟨t, found, k, hk, rfl⟩

theorem reachable_of_mem (h : n ∈ requested) : c.Reachable requested n :=
  ⟨n, h, Relation.ReflTransGen.refl⟩

theorem Reachable.step (h : c.Reachable requested a) (hab : c.Refers a b) :
    c.Reachable requested b := by
  obtain ⟨r, hr, ha⟩ := h
  exact ⟨r, hr, ha.tail hab⟩

/-- What holds of the requested names, and of the target of a key whenever it holds of the key's
table, holds of everything reachable. -/
theorem Reachable.of_closed {S : String → Prop} (start : ∀ r ∈ requested, S r)
    (closed : ∀ a b, S a → c.Refers a b → S b) (h : c.Reachable requested n) : S n := by
  obtain ⟨r, hr, hn⟩ := h
  induction hn with
  | refl => exact start r hr
  | tail _ hab ih => exact closed _ _ ih hab

/-- In a path of tables, innermost first, each of which refers to the one before it, every table
leads to the innermost one. -/
theorem reaches_of_isChain {path : List String}
    (chain : (n :: path).IsChain fun inner outer => c.Refers outer inner) (ha : a ∈ n :: path) :
    c.Reaches a n := by
  induction path generalizing n with
  | nil =>
    rw [List.mem_singleton] at ha
    exact ha ▸ Relation.ReflTransGen.refl
  | cons outer rest ih =>
    rw [List.isChain_cons_cons] at chain
    rcases List.mem_cons.1 ha with rfl | ha
    · exact Relation.ReflTransGen.refl
    · exact Relation.ReflTransGen.tail (ih chain.2 ha) chain.1

/-! ## Circles -/

/-- The reachable foreign keys form no circle other than self references. -/
def Acyclic (c : Catalog) (requested : List String) : Prop :=
  ∀ n, c.Reachable requested n → ¬ Relation.TransGen (fun a b => c.Refers a b ∧ a ≠ b) n n

/-- Self references are not needed to reach a name. -/
theorem Reaches.without_self (h : c.Reaches a b) :
    Relation.ReflTransGen (fun a b => c.Refers a b ∧ a ≠ b) a b := by
  induction h with
  | refl => exact .refl
  | @tail m b _ hmb ih =>
    by_cases hm : m = b
    · exact hm ▸ ih
    · exact ih.tail ⟨hmb, hm⟩

/-- There are no circles when every reachable key to another table leads to a lower rank. -/
theorem Acyclic.of_rank (rank : String → Nat)
    (lower : ∀ a b, c.Reachable requested a → c.Refers a b → a ≠ b → rank b < rank a) :
    c.Acyclic requested := by
  have descends : ∀ a b, c.Reachable requested a →
      Relation.TransGen (fun a b => c.Refers a b ∧ a ≠ b) a b →
      c.Reachable requested b ∧ rank b < rank a := by
    intro a b reachable h
    induction h with
    | single h => exact ⟨reachable.step h.1, lower _ _ reachable h.1 h.2⟩
    | tail _ h ih => exact ⟨ih.1.step h.1, (lower _ _ ih.1 h.1 h.2).trans ih.2⟩
  exact fun n hn h => Nat.lt_irrefl _ (descends n n hn h).2

/-- The built-in tables refer only to tables before them and to themselves. -/
theorem acyclic_builtin (requested : List String) : builtin.Acyclic requested := by
  have earlier : ∀ t ∈ Builtin.tables, ∀ k ∈ t.foreignKeys, t.name ≠ k.2.targetTable →
      builtin.names.idxOf k.2.targetTable < builtin.names.idxOf t.name := by decide
  refine .of_rank builtin.names.idxOf ?_
  rintro a b - ⟨t, found, k, hk, rfl⟩ hne
  obtain rfl := name_of_get? found
  exact earlier t (mem_of_get? found) k hk hne

/-- Without circles, names that reach each other are equal. -/
theorem Acyclic.eq_of_reaches (acyclic : c.Acyclic requested) (ha : c.Reachable requested a)
    (hab : c.Reaches a b) (hba : c.Reaches b a) : a = b := by
  rcases Relation.reflTransGen_iff_eq_or_transGen.1 hab.without_self with h | h
  · exact h.symm
  · exact absurd (h.trans_left hba.without_self) (acyclic a ha)

end SchemaForge.Catalog
