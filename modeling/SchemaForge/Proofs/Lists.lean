import Mathlib.Data.List.Forall2
import Mathlib.Data.List.Nodup

/-!
# Lists

What the proofs use of lists and the library does not have.  Nothing here is about tables.

* `find?_key_eq_some_iff` — looking for a key that comes once finds the element that has it;
* `flatMap_filter_perm` — sorting by keys rearranges a list;
* `eraseDups_eraseDups_append` — first occurrences can be taken at any time;
* `findSome?_eq_some_iff_isFirst` — a scan gives what it finds at the first element of a kind.
-/

namespace SchemaForge

/-! ## Elements and their keys -/

section keys

variable {α β : Type} {key : β → String} {bs : List β}

/-- Where no key comes twice, looking for one finds the element that has it. -/
theorem find?_key_eq_some_iff (nodup : (bs.map key).Nodup) {name : String} {b : β} :
    bs.find? (key · == name) = some b ↔ b ∈ bs ∧ key b = name := by
  constructor
  · intro found
    exact ⟨List.mem_of_find?_eq_some found, by simpa using List.find?_some found⟩
  · rintro ⟨hb, rfl⟩
    obtain ⟨b', found⟩ : ∃ b', bs.find? (key · == key b) = some b' := by
      rw [← Option.isSome_iff_exists, List.find?_isSome]
      exact ⟨b, hb, beq_self_eq_true (key b)⟩
    -- what is found has the same key
    have same : key b' = key b := by simpa using List.find?_some found
    rw [found, List.inj_on_of_nodup_map nodup (List.mem_of_find?_eq_some found) hb same]

/-- Sorting a list by keys that differ and that are all there are rearranges it. -/
theorem flatMap_filter_perm {keyOf : α → String} {as : List α} (nodup : (bs.map key).Nodup)
    (inside : ∀ a ∈ as, keyOf a ∈ bs.map key) :
    (bs.flatMap fun b => as.filter (keyOf · == key b)).Perm as := by
  induction bs generalizing as with
  | nil =>
    have none : as = [] := List.eq_nil_iff_forall_not_mem.2 fun a ha => by simpa using inside a ha
    rw [none]
    exact .refl _
  | cons b rest ih =>
    obtain ⟨new, nodup⟩ := List.nodup_cons.1 nodup
    -- the rest sorts what the first leaves
    have others : ∀ b' ∈ rest, as.filter (keyOf · == key b')
        = (as.filter fun a => !(keyOf a == key b)).filter (keyOf · == key b') := by
      intro b' hb'
      have hne : key b' ≠ key b := fun h => new (h ▸ List.mem_map_of_mem hb')
      rw [List.filter_filter]
      refine List.filter_congr fun a _ => ?_
      by_cases h : keyOf a = key b' <;> simp [h, hne]
    have left : ∀ a ∈ as.filter (fun a => !(keyOf a == key b)), keyOf a ∈ rest.map key := by
      intro a ha
      obtain ⟨ha, hne⟩ := List.mem_filter.1 ha
      rcases List.mem_cons.1 (inside a ha) with h | h
      · simp [h] at hne
      · exact h
    rw [List.flatMap_cons, List.flatMap_congr others]
    exact ((ih nodup left).append_left _).trans (List.filter_append_perm _ as)

/-- What is made for a single name is made once, if the name is listed. -/
theorem filterMap_of_nodup {names : List String} (nodup : names.Nodup) (name text : String) :
    names.filterMap (fun p => if p = name then some text else none) =
      if name ∈ names then [text] else [] := by
  induction names with
  | nil => rfl
  | cons first rest ih =>
    obtain ⟨fresh, nodup⟩ := List.nodup_cons.1 nodup
    rw [List.filterMap_cons, ih nodup]
    by_cases same : first = name
    · subst same
      simp [fresh]
    · simp [same, Ne.symm same]

end keys

/-! ## Related lists -/

/-- Where lists are related, an element of the first is related to one of the second. -/
theorem exists_mem_of_forall₂ {α β : Type} {R : α → β → Prop} {as : List α} {bs : List β}
    (h : List.Forall₂ R as bs) {a : α} (ha : a ∈ as) : ∃ b ∈ bs, R a b := by
  induction h with
  | nil => exact absurd ha List.not_mem_nil
  | @cons x b _ _ hb _ ih =>
    rcases List.mem_cons.1 ha with rfl | ha
    · exact ⟨b, List.mem_cons_self, hb⟩
    · obtain ⟨b', hb', hab⟩ := ih ha
      exact ⟨b', List.mem_cons_of_mem _ hb', hab⟩

/-! ## First occurrences -/

section eraseDups

variable {α : Type} [BEq α] [LawfulBEq α] {l l' : List α} {a : α}

theorem eraseDups_of_nodup (nodup : l.Nodup) : l.eraseDups = l := by
  induction l with
  | nil => rfl
  | cons a rest ih =>
    obtain ⟨new, nodup⟩ := List.nodup_cons.1 nodup
    have kept : rest.filter (fun b => !b == a) = rest := by
      refine List.filter_eq_self.2 fun b hb => ?_
      have hne : b ≠ a := fun same => new (same ▸ hb)
      simpa using hne
    rw [List.eraseDups_cons, kept, ih nodup]

theorem nodup_eraseDups (l : List α) : l.eraseDups.Nodup := by
  match l with
  | [] => exact List.nodup_nil
  | a :: rest =>
    rw [List.eraseDups_cons, List.nodup_cons]
    exact ⟨by simp [List.mem_eraseDups], nodup_eraseDups _⟩
termination_by l.length
decreasing_by exact Nat.lt_succ_of_le (List.length_filter_le _ _)

theorem eraseDups_append_of_subset (h : l' ⊆ l) : (l ++ l').eraseDups = l.eraseDups := by
  have none : l'.removeAll l = [] := by
    simpa [List.removeAll, List.filter_eq_nil_iff] using fun b hb => h hb
  rw [List.eraseDups_append, none, List.eraseDups_nil, List.append_nil]

theorem eraseDups_append_singleton (h : a ∉ l) : (l ++ [a]).eraseDups = l.eraseDups ++ [a] := by
  have kept : [a].removeAll l = [a] := by simp [List.removeAll, h]
  rw [List.eraseDups_append, kept]
  rfl

/-- Taking first occurrences on the way changes nothing. -/
theorem eraseDups_eraseDups_append : (l.eraseDups ++ l').eraseDups = (l ++ l').eraseDups := by
  have same : l'.removeAll l.eraseDups = l'.removeAll l := by simp [List.removeAll]
  rw [List.eraseDups_append, List.eraseDups_append, same, eraseDups_of_nodup (nodup_eraseDups l)]

end eraseDups

/-! ## The first element of a kind -/

section IsFirst

variable {α β γ : Type} {l : List α} {P : α → Prop} {scan : α → Option β}

/-- The element is the first one in the list that has the property. -/
def IsFirst (l : List α) (P : α → Prop) (a : α) : Prop :=
  ∃ front back, l = front ++ a :: back ∧ P a ∧ ∀ x ∈ front, ¬ P x

theorem IsFirst.mem {a : α} (first : IsFirst l P a) : a ∈ l ∧ P a := by
  obtain ⟨front, back, rfl, holds, -⟩ := first
  exact ⟨by simp, holds⟩

/-- A scan that stops at the elements with the property gives what it finds at the first. -/
theorem findSome?_eq_some_iff_isFirst (stops : ∀ a, scan a = none ↔ ¬ P a) {b : β} :
    l.findSome? scan = some b ↔ ∃ a, IsFirst l P a ∧ scan a = some b := by
  rw [List.findSome?_eq_some_iff]
  constructor
  · rintro ⟨front, a, back, split, found, before⟩
    have holds : P a := by
      by_contra other
      rw [(stops a).2 other] at found
      exact absurd found (by simp)
    exact ⟨a, ⟨front, back, split, holds, fun x hx => (stops x).1 (before x hx)⟩, found⟩
  · rintro ⟨a, ⟨front, back, split, -, before⟩, found⟩
    exact ⟨front, a, back, split, found, fun x hx => (stops x).2 (before x hx)⟩

theorem findSome?_eq_none_iff_forall (stops : ∀ a, scan a = none ↔ ¬ P a) :
    l.findSome? scan = none ↔ ∀ a ∈ l, ¬ P a := by
  simp only [List.findSome?_eq_none_iff, stops]

/-- Scans one after the other are one scan. -/
theorem findSome?_flatMap (parts : α → List β) (scan : β → Option γ) (l : List α) :
    (l.flatMap parts).findSome? scan = l.findSome? fun a => (parts a).findSome? scan := by
  induction l with
  | nil => rfl
  | cons a rest ih =>
    rw [List.flatMap_cons, List.findSome?_append, ih, List.findSome?_cons]
    cases (parts a).findSome? scan <;> rfl

end IsFirst

end SchemaForge
