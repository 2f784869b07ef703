/-!
# Steps that may fail

How a chain of steps in `Except` ends, read off its end: it succeeds when every step does, and it
fails with the error of the first step that fails.
-/

namespace SchemaForge.Except

variable {ε α β : Type} {x : Except ε α} {f : α → Except ε β} {g : α → β} {b : β} {e : ε}

@[simp] theorem ok_bind (a : α) : (Except.ok a : Except ε α).bind f = f a := rfl

@[simp] theorem error_bind : (Except.error e : Except ε α).bind f = .error e := rfl

@[simp] theorem ok_map (a : α) : (Except.ok a : Except ε α).map g = .ok (g a) := rfl

@[simp] theorem error_map : (Except.error e : Except ε α).map g = .error e := rfl

/-- A chain succeeds when its first step does and the rest does behind it. -/
theorem bind_eq_ok_iff : x.bind f = .ok b ↔ ∃ a, x = .ok a ∧ f a = .ok b := by
  cases x <;> simp

/-- A chain fails at its first step, or at the rest behind it. -/
theorem bind_eq_error_iff :
    x.bind f = .error e ↔ x = .error e ∨ ∃ a, x = .ok a ∧ f a = .error e := by
  cases x <;> simp

theorem map_eq_ok_iff : x.map g = .ok b ↔ ∃ a, x = .ok a ∧ g a = b := by
  cases x <;> simp

/-- What is made of a success fails with the step alone. -/
theorem map_eq_error_iff : x.map g = .error e ↔ x = .error e := by
  cases x <;> simp

/-! ## The error -/

/-- The error, if there is one. -/
def error? : Except ε α → Option ε
  | .error e => some e
  | .ok _ => none

@[simp] theorem error?_error : error? (.error e : Except ε α) = some e := rfl

@[simp] theorem error?_ok (a : α) : error? (.ok a : Except ε α) = none := rfl

theorem error?_eq_some_iff : error? x = some e ↔ x = .error e := by
  cases x <;> simp

theorem error?_eq_none_iff : error? x = none ↔ ∃ a, x = .ok a := by
  cases x <;> simp

/-- What is made of a success does not change the error. -/
@[simp] theorem error?_map : error? (x.map g) = error? x := by
  cases x <;> rfl

/-! ## Lists, one step for each element -/

section flatMapM

variable {h : α → Except ε (List β)} {l : List α} {a : α}

theorem flatMapM_cons :
    (a :: l).flatMapM h = (h a).bind fun bs => (l.flatMapM h).map (bs ++ ·) := by
  rw [List.flatMapM_cons]
  cases h a with
  | error e => rfl
  | ok bs => cases l.flatMapM h <;> rfl

/-- Steps that agree on the elements of a list agree on the list. -/
theorem flatMapM_congr {h' : α → Except ε (List β)} (same : ∀ a ∈ l, h a = h' a) :
    l.flatMapM h = l.flatMapM h' := by
  induction l with
  | nil => rfl
  | cons a rest ih =>
    obtain ⟨head, rest⟩ := List.forall_mem_cons.1 same
    rw [flatMapM_cons, flatMapM_cons, head, ih rest]

/-- If every element succeeds with results among the given ones, the list does. -/
theorem exists_flatMapM {S : List β} (inside : ∀ a ∈ l, ∃ bs, h a = .ok bs ∧ bs ⊆ S) :
    ∃ bs, l.flatMapM h = .ok bs ∧ bs ⊆ S := by
  induction l with
  | nil => exact ⟨[], rfl, List.nil_subset _⟩
  | cons a rest ih =>
    obtain ⟨⟨bs, hbs, sub⟩, hrest⟩ := List.forall_mem_cons.1 inside
    obtain ⟨more, hmore, sub'⟩ := ih hrest
    refine ⟨bs ++ more, ?_, List.append_subset.2 ⟨sub, sub'⟩⟩
    rw [flatMapM_cons, hbs, ok_bind, hmore, ok_map]

end flatMapM

end SchemaForge.Except
