import SchemaForge.Schema.Catalog

/-!
# Resolving table names

`Catalog.resolve` expands requested names into the tables that have to be generated: every
requested table, every table that these reference, and so on, each once and each behind the tables
that it references.  The order is that of a depth-first traversal over the requested names and over
the foreign keys of each table in field order.

A table is marked when the traversal enters it and stays marked.  Meeting a marked table again ends
that branch, so references in a circle, of a table to itself for one, are followed once only.
Entering a table leaves fewer tables of the catalog without a mark
(`Catalog.unmarked_enter_lt`), and a branch never takes a mark away (`Traversal.Within`): that is
why the traversal ends.
-/

namespace SchemaForge

/-! ## The state of a traversal -/

/-- How far the traversal of a table has come. -/
inductive Mark
  /-- The tables that it references are being visited. -/
  | inProgress
  /-- The table is part of the answer. -/
  | done
  deriving DecidableEq, Repr

/-- The marks so far, the latest first, and the tables that are done, in order. -/
structure Traversal where
  marks : List (String × Mark)
  ordered : List Table
  deriving DecidableEq, Repr

namespace Traversal

/-- Nothing is marked. -/
def start : Traversal := ⟨[], []⟩

/-- The latest mark of a name. -/
def mark? (s : Traversal) (name : String) : Option Mark :=
  s.marks.findSome? fun (marked, mark) => if marked = name then some mark else none

/-- The name has a mark. -/
def isMarked (s : Traversal) (name : String) : Bool := (s.mark? name).isSome

/-- Marks a table that is entered. -/
def enter (s : Traversal) (name : String) : Traversal :=
  { s with marks := (name, .inProgress) :: s.marks }

/-- Marks a table that is left, and appends it. -/
def leave (s : Traversal) (t : Table) : Traversal :=
  ⟨(t.name, .done) :: s.marks, s.ordered ++ [t]⟩

/-- Every name marked in `s` is marked in `s'`. -/
def Within (s s' : Traversal) : Prop := ∀ name, s.isMarked name = true → s'.isMarked name = true

theorem Within.refl (s : Traversal) : s.Within s := fun _ h => h

theorem Within.trans {a b c : Traversal} (h₁ : a.Within b) (h₂ : b.Within c) : a.Within c :=
  fun name h => h₂ name (h₁ name h)

theorem isMarked_enter (s : Traversal) (name other : String) :
    (s.enter name).isMarked other = (other == name || s.isMarked other) := by
  simp only [isMarked, mark?, enter, List.findSome?_cons]
  by_cases same : name = other
  · simp [same]
  · simp [same, Ne.symm same]

theorem isMarked_leave (s : Traversal) (t : Table) (other : String) :
    (s.leave t).isMarked other = (other == t.name || s.isMarked other) := by
  simp only [isMarked, mark?, leave, List.findSome?_cons]
  by_cases same : t.name = other
  · simp [same]
  · simp [same, Ne.symm same]

theorem within_enter (s : Traversal) (name : String) : s.Within (s.enter name) :=
  fun other h => by simp [isMarked_enter, h]

theorem within_leave (s : Traversal) (t : Table) : s.Within (s.leave t) :=
  fun other h => by simp [isMarked_leave, h]

end Traversal

namespace Catalog

/-! ## What is left to visit -/

/-- The tables without a mark. -/
def unmarked (c : Catalog) (s : Traversal) : List Table :=
  c.tables.filter fun t => !s.isMarked t.name

theorem unmarked_le {c : Catalog} {s s' : Traversal} (h : s.Within s') :
    (c.unmarked s').length ≤ (c.unmarked s).length := by
  simp only [unmarked, ← List.countP_eq_length_filter]
  refine List.countP_mono_left fun t _ ht => ?_
  cases hs : s.isMarked t.name with
  | false => rfl
  | true => simp [h t.name hs] at ht

/-- Entering a table of the catalog that has no mark leaves fewer tables without one. -/
theorem unmarked_enter_lt {c : Catalog} {s : Traversal} {t : Table} (ht : t ∈ c.tables)
    (hm : s.isMarked t.name = false) :
    (c.unmarked (s.enter t.name)).length < (c.unmarked s).length := by
  obtain ⟨before, behind, hsplit⟩ := List.append_of_mem ht
  have less : ∀ tables : List Table,
      (tables.filter fun u => !(s.enter t.name).isMarked u.name).length
        ≤ (tables.filter fun u => !s.isMarked u.name).length := by
    intro tables
    exact unmarked_le (c := ⟨tables⟩) (s.within_enter t.name)
  have h₁ := less before
  have h₂ := less behind
  have entered : (s.enter t.name).isMarked t.name = true := by simp [Traversal.isMarked_enter]
  simp only [unmarked, hsplit, List.filter_append, List.filter_cons, List.length_append, hm,
    entered]
  simp only [Bool.not_true, Bool.not_false, if_true, Bool.false_eq_true, if_false,
    List.length_cons]
  omega

/-! ## The traversal -/

mutual

/-- Visits a table by name: nothing happens if it is marked, else its references are visited
before it is appended. -/
def visit (c : Catalog) (name : String) (referrer : Option Referrer) (s : Traversal) :
    Except SchemaError { s' : Traversal // s.Within s' } :=
  match _found : c.get? name with
  | none => .error (.unknownTable name referrer)
  | some t =>
    if _marked : s.isMarked t.name = true then .ok ⟨s, .refl s⟩
    else
      match follow c t t.foreignKeys (s.enter t.name) with
      | .error e => .error e
      | .ok ⟨s', h⟩ => .ok ⟨s'.leave t, (s.within_enter t.name).trans (h.trans (s'.within_leave t))⟩
termination_by ((c.unmarked s).length, 0)
decreasing_by
  exact Prod.Lex.left _ _ (unmarked_enter_lt (mem_of_get? _found) (by simpa using _marked))

/-- Visits the targets of foreign keys of a table, one after the other. -/
def follow (c : Catalog) (t : Table) (keys : List (Field × ForeignKey)) (s : Traversal) :
    Except SchemaError { s' : Traversal // s.Within s' } :=
  match keys with
  | [] => .ok ⟨s, .refl s⟩
  | (field, key) :: rest =>
    match visit c key.targetTable (some ⟨t.name, field.name⟩) s with
    | .error e => .error e
    | .ok ⟨s', h⟩ =>
      match follow c t rest s' with
      | .error e => .error e
      | .ok ⟨s'', h'⟩ => .ok ⟨s'', h.trans h'⟩
termination_by ((c.unmarked s).length, keys.length + 1)
decreasing_by
  · exact Prod.Lex.right _ (Nat.succ_pos _)
  · rcases Nat.lt_or_eq_of_le (unmarked_le (c := c) h) with hlt | heq
    · exact Prod.Lex.left _ _ hlt
    · rw [heq]
      exact Prod.Lex.right _ (by simp)

end

/-- Visits requested names, one after the other. -/
def visitAll (c : Catalog) : List String → Traversal → Except SchemaError Traversal
  | [], s => .ok s
  | name :: rest, s =>
    match visit c name none s with
    | .error e => .error e
    | .ok s' => visitAll c rest s'.val

/-- The requested tables with everything they reference, referenced tables first. -/
def resolve (c : Catalog) (requested : List String) : Except SchemaError (List Table) :=
  (c.visitAll requested .start).map (·.ordered)

end Catalog

end SchemaForge
