import SchemaForge.Proofs.Results
import SchemaForge.Schema.Resolve

/-!
# Calls of the depth-first traversal

`Catalog.visit` and `Catalog.follow` carry a proof with their answers.  Here they are read as plain
functions, `visitEnd` and `followEnd`, with one equation for each way that a call can go
(`Catalog.visitEnd_missing`, `Catalog.visitEnd_marked`, `Catalog.visitEnd_unmarked`,
`Catalog.followEnd_nil`, `Catalog.followEnd_cons`) and one rule for whatever is proved about all
calls (`Catalog.traversal_induction`).
-/

namespace SchemaForge.Catalog

/-! ## Calls without their proofs -/

/-- What a visit ends with. -/
def visitEnd (c : Catalog) (name : String) (referrer : Option Referrer) (s : Traversal) :
    Except SchemaError Traversal :=
  (c.visit name referrer s).map (·.val)

/-- What following foreign keys of a table ends with. -/
def followEnd (c : Catalog) (t : Table) (keys : List (Field × ForeignKey)) (s : Traversal) :
    Except SchemaError Traversal :=
  (c.follow t keys s).map (·.val)

variable {c : Catalog} {name : String} {referrer : Option Referrer} {t : Table}
  {keys : List (Field × ForeignKey)} {s s' : Traversal}

theorem visitEnd_missing (missing : c.get? name = none) :
    c.visitEnd name referrer s = .error (.unknownTable name referrer) := by
  rw [visitEnd, visit.eq_1]
  split
  · rfl
  · simp_all

theorem visitEnd_marked (found : c.get? name = some t) (marked : s.isMarked t.name = true) :
    c.visitEnd name referrer s = .ok s := by
  rw [visitEnd, visit.eq_1]
  split
  · simp_all
  · rename_i u hu
    obtain rfl : u = t := Option.some.inj (hu.symm.trans found)
    rw [dif_pos marked]
    rfl

theorem visitEnd_unmarked (found : c.get? name = some t) (unmarked : s.isMarked t.name = false) :
    c.visitEnd name referrer s
      = (c.followEnd t t.foreignKeys (s.enter t.name)).map (·.leave t) := by
  rw [visitEnd, visit.eq_1]
  split
  · simp_all
  · rename_i u hu
    obtain rfl : u = t := Option.some.inj (hu.symm.trans found)
    rw [dif_neg (by simp [unmarked]), followEnd]
    cases c.follow u u.foreignKeys (s.enter u.name) <;> rfl

@[simp] theorem followEnd_nil : c.followEnd t [] s = .ok s := by
  rw [followEnd, follow]
  rfl

theorem followEnd_cons (f : Field) (key : ForeignKey) :
    c.followEnd t ((f, key) :: keys) s
      = (c.visitEnd key.targetTable (some ⟨t.name, f.name⟩) s).bind (c.followEnd t keys) := by
  rw [followEnd, follow, visitEnd]
  cases c.visit key.targetTable (some ⟨t.name, f.name⟩) s with
  | error e => rfl
  | ok s' =>
    simp only [Except.map, Except.bind, followEnd]
    cases c.follow t keys s'.val <;> rfl

theorem visitAll_cons (rest : List String) :
    c.visitAll (name :: rest) s = (c.visitEnd name none s).bind (c.visitAll rest) := by
  rw [visitAll, visitEnd]
  cases c.visit name none s <;> rfl

/-- Keys are followed one part after the other. -/
theorem followEnd_append (front back : List (Field × ForeignKey)) (s : Traversal) :
    c.followEnd t (front ++ back) s = (c.followEnd t front s).bind (c.followEnd t back) := by
  induction front generalizing s with
  | nil => rw [List.nil_append, followEnd_nil, Except.ok_bind]
  | cons k rest ih =>
    obtain ⟨f, key⟩ := k
    rw [List.cons_append, followEnd_cons, followEnd_cons]
    cases c.visitEnd key.targetTable (some ⟨t.name, f.name⟩) s with
    | error e => rfl
    | ok s' => exact ih s'

/-- Names are visited one part after the other. -/
theorem visitAll_append (front back : List String) (s : Traversal) :
    c.visitAll (front ++ back) s = (c.visitAll front s).bind (c.visitAll back) := by
  induction front generalizing s with
  | nil => rfl
  | cons name rest ih =>
    rw [List.cons_append, visitAll_cons, visitAll_cons]
    cases c.visitEnd name none s with
    | error e => rfl
    | ok s' => exact ih s'

/-- No mark is lost in a visit. -/
theorem within_of_visitEnd (h : c.visitEnd name referrer s = .ok s') : s.Within s' := by
  obtain ⟨r, _, rfl⟩ := Except.map_eq_ok_iff.1 h
  exact r.property

/-- No mark is lost while foreign keys are followed. -/
theorem within_of_followEnd (h : c.followEnd t keys s = .ok s') : s.Within s' := by
  obtain ⟨r, _, rfl⟩ := Except.map_eq_ok_iff.1 h
  exact r.property

/-- No mark is lost while requested names are visited. -/
theorem within_of_visitAll {names : List String} (h : c.visitAll names s = .ok s') :
    s.Within s' := by
  induction names generalizing s with
  | nil =>
    cases h
    exact .refl _
  | cons name rest ih =>
    rw [visitAll_cons] at h
    obtain ⟨s₁, hv, h⟩ := Except.bind_eq_ok_iff.1 h
    exact (within_of_visitEnd hv).trans (ih h)

/-! ## Induction over calls -/

/-- What holds of a call, whenever it holds of the calls made by it, holds of every call.  `P`
speaks of visits and `Q` of following keys, each with what the call ends with. -/
theorem traversal_induction
    {P : String → Option Referrer → Traversal → Except SchemaError Traversal → Prop}
    {Q : Table → List (Field × ForeignKey) → Traversal → Except SchemaError Traversal → Prop}
    (missing : ∀ name referrer s, c.get? name = none →
      P name referrer s (.error (.unknownTable name referrer)))
    (marked : ∀ name referrer s t, c.get? name = some t → s.isMarked t.name = true →
      P name referrer s (.ok s))
    (unmarked : ∀ name referrer s t r, c.get? name = some t → s.isMarked t.name = false →
      c.followEnd t t.foreignKeys (s.enter t.name) = r →
      Q t t.foreignKeys (s.enter t.name) r → P name referrer s (r.map (·.leave t)))
    (nil : ∀ t s, Q t [] s (.ok s))
    (stop : ∀ t f key rest s e, c.visitEnd key.targetTable (some ⟨t.name, f.name⟩) s = .error e →
      P key.targetTable (some ⟨t.name, f.name⟩) s (.error e) →
      Q t ((f, key) :: rest) s (.error e))
    (cons : ∀ t f key rest s s' r,
      c.visitEnd key.targetTable (some ⟨t.name, f.name⟩) s = .ok s' →
      c.followEnd t rest s' = r → P key.targetTable (some ⟨t.name, f.name⟩) s (.ok s') →
      Q t rest s' r → Q t ((f, key) :: rest) s r) :
    (∀ name referrer s, P name referrer s (c.visitEnd name referrer s)) ∧
      ∀ t keys s, Q t keys s (c.followEnd t keys s) := by
  refine visit.mutual_induct c
    (fun name referrer s => P name referrer s (c.visitEnd name referrer s))
    (fun t keys s => Q t keys s (c.followEnd t keys s)) ?_ ?_ ?_ ?_ ?_ ?_ ?_ ?_
  · intro name referrer s h
    rw [visitEnd_missing h]
    exact missing name referrer s h
  · intro name referrer s t found h
    rw [visitEnd_marked found h]
    exact marked name referrer s t found h
  · intro name referrer s t found h e _ ih
    rw [visitEnd_unmarked found (by simpa using h)]
    exact unmarked name referrer s t _ found (by simpa using h) rfl ih
  · intro name referrer s t found h s' _ _ ih
    rw [visitEnd_unmarked found (by simpa using h)]
    exact unmarked name referrer s t _ found (by simpa using h) rfl ih
  · intro t s
    rw [followEnd_nil]
    exact nil t s
  · intro t s f key rest e h ih
    have hv : c.visitEnd key.targetTable (some ⟨t.name, f.name⟩) s = .error e := by
      rw [visitEnd, h]
      rfl
    rw [followEnd_cons, hv]
    rw [hv] at ih
    exact stop t f key rest s e hv ih
  · intro t s f key rest s' hw h e _ ih ih'
    have hv : c.visitEnd key.targetTable (some ⟨t.name, f.name⟩) s = .ok s' := by
      rw [visitEnd, h]
      rfl
    rw [followEnd_cons, hv]
    rw [hv] at ih
    exact cons t f key rest s s' _ hv rfl ih ih'
  · intro t s f key rest s' hw h s'' _ _ ih ih'
    have hv : c.visitEnd key.targetTable (some ⟨t.name, f.name⟩) s = .ok s' := by
      rw [visitEnd, h]
      rfl
    rw [followEnd_cons, hv]
    rw [hv] at ih
    exact cons t f key rest s s' _ hv rfl ih ih'

end SchemaForge.Catalog
