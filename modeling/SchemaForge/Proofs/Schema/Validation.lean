import SchemaForge.Proofs.Schema.Merging

/-!
# What validation says of a table

A table is accepted, or it is rejected for one fault, however much is wrong with it.
`Table.Rejected` says for which, without the loop that looks for it: a wrong number of keys comes
before all else, and then the first field at fault decides, where a field may be at fault for its
name, its increment and its length, in this order (`Field.FaultyBehind`).

Main results:

* the check of a field finds its fault (`Table.fieldFault?_eq_some_iff`), and the loop over all
  fields that of the first (`Table.fieldsFault?_eq_some_iff`);
* in an accepted table there is one key, and one field to find under each name
  (`Table.WellFormed.unambiguous`);
* validation accepts the well-formed tables and rejects all others for that fault
  (`Table.validate_exact`).
-/

namespace SchemaForge

variable {t : Table} {f : Field} {earlier fields : List Field} {fault : TableFault}

/-! ## Fields at fault -/

/-- What is wrong with a field behind others: the first that applies of three faults. -/
inductive Field.FaultyBehind (earlier : List Field) (f : Field) : TableFault → Prop
  /-- One of the others has its name. -/
  | repeated (taken : ∃ g ∈ earlier, g.name = f.name) :
    FaultyBehind earlier f (.duplicateField f.name)
  /-- The field has a new name, and it is counted up without being the key. -/
  | counted (new : ∀ g ∈ earlier, g.name ≠ f.name) (counts : f.isAutoIncrement = true)
      (plain : f.isPrimaryKey = false) : FaultyBehind earlier f (.strayAutoIncrement f.name)
  /-- The field has a new name and is not counted up by mistake, but it has a length without being a
  `string`. -/
  | bounded (new : ∀ g ∈ earlier, g.name ≠ f.name)
      (keyed : f.isAutoIncrement = true → f.isPrimaryKey = true) (long : f.length.isSome = true)
      (other : f.type ≠ .string) : FaultyBehind earlier f (.strayLength f.name f.type)

/-- None of the fields is at fault, each behind those before it. -/
def FaultFree (fields : List Field) : Prop :=
  ∀ front f back, fields = front ++ f :: back → ∀ fault, ¬ f.FaultyBehind front fault

namespace Table

theorem fieldFault?_eq_some_iff :
    fieldFault? earlier f = some fault ↔ f.FaultyBehind earlier fault := by
  unfold fieldFault?
  constructor
  · intro h
    split_ifs at h with taken stray bounded
    · cases h
      exact .repeated (by simpa using taken)
    · cases h
      rw [Bool.and_eq_true, Bool.not_eq_true'] at stray
      exact .counted (by simpa using taken) stray.1 stray.2
    · cases h
      rw [Bool.and_eq_true, bne_iff_ne] at bounded
      exact .bounded (by simpa using taken) (by simpa using stray) bounded.1 bounded.2
  · intro h
    cases h with
    | repeated taken => rw [if_pos (by simpa using taken)]
    | counted new counts plain =>
      rw [if_neg (by simpa using new), if_pos (by simp [counts, plain])]
    | bounded new keyed long other =>
      rw [if_neg (by simpa using new), if_neg (by simpa using keyed),
        if_pos (by simp [long, other])]

/-- Fields are checked one after the other, each with those before it. -/
theorem fieldsFault?_append (earlier front back : List Field) :
    fieldsFault? earlier (front ++ back)
      = (fieldsFault? earlier front).or (fieldsFault? (earlier ++ front) back) := by
  induction front generalizing earlier with
  | nil => simp [fieldsFault?]
  | cons f rest ih =>
    rw [List.cons_append, fieldsFault?, fieldsFault?, ih, Option.or_assoc, List.append_assoc,
      List.singleton_append]

/-- The loop finds the fault of a field when nothing is found before it. -/
theorem fieldsFault?_eq_some_iff_split :
    fieldsFault? earlier fields = some fault ↔ ∃ front f back, fields = front ++ f :: back ∧
      fieldsFault? earlier front = none ∧ fieldFault? (earlier ++ front) f = some fault := by
  constructor
  · intro h
    induction fields generalizing earlier with
    | nil => cases h
    | cons f rest ih =>
      rw [fieldsFault?, Option.or_eq_some_iff] at h
      rcases h with here | ⟨sound, later⟩
      · exact ⟨[], f, rest, rfl, rfl, by rwa [List.append_nil]⟩
      · obtain ⟨front, g, back, rfl, before, found⟩ := ih later
        refine ⟨f :: front, g, back, rfl, ?_, by rwa [List.append_cons]⟩
        rw [fieldsFault?, sound, Option.none_or, before]
  · rintro ⟨front, f, back, rfl, before, found⟩
    rw [fieldsFault?_append, before, Option.none_or, fieldsFault?, found, Option.some_or]

/-- The scan finds nothing in fields that are free of faults. -/
theorem fieldsFault?_eq_none_iff_faultFree : fieldsFault? [] fields = none ↔ FaultFree fields := by
  constructor
  · rintro none front f back rfl fault faulty
    rw [fieldsFault?_append, Option.or_eq_none_iff, fieldsFault?, List.nil_append,
      Option.or_eq_none_iff, fieldFault?_eq_some_iff.2 faulty] at none
    exact absurd none.2.1 (by simp)
  · intro free
    rw [Option.eq_none_iff_forall_ne_some]
    intro fault found
    obtain ⟨front, f, back, split, -, faulty⟩ := fieldsFault?_eq_some_iff_split.1 found
    exact free front f back split fault (fieldFault?_eq_some_iff.1 faulty)

/-- What the loop finds is the fault of the first field at fault. -/
theorem fieldsFault?_eq_some_iff :
    fieldsFault? [] fields = some fault ↔ ∃ front f back, fields = front ++ f :: back ∧
      FaultFree front ∧ f.FaultyBehind front fault := by
  simp only [fieldsFault?_eq_some_iff_split, fieldsFault?_eq_none_iff_faultFree, List.nil_append,
    fieldFault?_eq_some_iff]

/-! ## Tables -/

/-- For which fault a table is rejected. -/
inductive Rejected (t : Table) : TableFault → Prop
  /-- Not one of its fields is the key, or several are; the other rules are not looked at then. -/
  | keyCount (wrong : t.fields.countP (·.isPrimaryKey) ≠ 1) :
    Rejected t (.keyCount (t.fields.countP (·.isPrimaryKey)))
  /-- One field is the key, and the fault is that of the first field at fault. -/
  | field {front back : List Field} {f : Field} {fault : TableFault}
      (one : t.fields.countP (·.isPrimaryKey) = 1) (split : t.fields = front ++ f :: back)
      (before : FaultFree front) (faulty : f.FaultyBehind front fault) : Rejected t fault

/-- Looking for the key or for a name, one finds the only field there is. -/
structure Unambiguous (t : Table) : Prop where
  /-- One field is the key, and looking for the key finds it. -/
  key : ∃ key, t.fields.filter (·.isPrimaryKey) = [key] ∧ t.primaryKey? = some key
  /-- What is found under a name is the field that has it. -/
  field : ∀ name f, t.field? name = some f ↔ f ∈ t.fields ∧ f.name = name

theorem fault?_eq_some_iff : t.fault? = some fault ↔ t.Rejected fault := by
  rw [fault?]
  constructor
  · intro h
    split at h
    · rename_i wrong
      cases h
      exact .keyCount wrong
    · rename_i one
      obtain ⟨front, f, back, split, before, faulty⟩ := fieldsFault?_eq_some_iff.1 h
      exact .field (not_not.1 one) split before faulty
  · intro h
    cases h with
    | keyCount wrong => rw [if_pos wrong]
    | field one split before faulty =>
      rw [if_neg (not_not.2 one)]
      exact fieldsFault?_eq_some_iff.2 ⟨_, _, _, split, before, faulty⟩

theorem WellFormed.unambiguous (wellFormed : t.WellFormed) : t.Unambiguous where
  key := by
    have one := wellFormed.one_key
    rw [List.countP_eq_length_filter] at one
    obtain ⟨key, only⟩ := List.length_eq_one_iff.1 one
    refine ⟨key, only, ?_⟩
    rw [primaryKey?, ← List.head?_filter, only, List.head?_cons]
  field _ _ := find?_key_eq_some_iff wellFormed.names_nodup

/-- Validation accepts the well-formed tables, in which one finds what there is, and rejects each
other table for a wrong number of keys or else for the first field at fault. -/
theorem validate_exact (t : Table) :
    (t.validate = .ok () ↔ t.WellFormed) ∧
      (t.validate = .ok () → t.Unambiguous) ∧
      ∀ fault, t.validate = .error fault ↔ t.Rejected fault := by
  refine ⟨validate_eq_ok_iff, ?_, ?_⟩
  · intro accepted
    exact (validate_eq_ok_iff.1 accepted).unambiguous
  · intro fault
    rw [validate_eq_error_iff, fault?_eq_some_iff]

/-- The second `id` is at fault for its name, its increment and its length, and `log` before it for
its length. -/
example :
    (Table.mk "logs" "Log" [.id, (Field.plain "log" .text).upTo 9,
      { (Field.plain "id" .integer).upTo 9 with isAutoIncrement := true }] []).validate
        = .error (.strayLength "log" .text) := rfl

end Table

end SchemaForge
