import Mathlib.Data.List.Nodup
import SchemaForge.Text.FreeName

/-!
# Free names are free

A name with numbers behind it gives as many different candidates as one likes, so that among one
more of them than there are used names one is free (`exists_freeNumber?`).  Hence a free name is
never in use (`freeName_notMem`), and free names taken one after the other differ from each other
and from those in use before (`nodup_freeNames`, `freeNames_notMem`).
-/

namespace SchemaForge.Text

variable {base : String} {used : List String}

theorem numbered_injective (base : String) : Function.Injective (numbered base) := by
  intro m n h
  have same : toString m = toString n := (String.append_right_inj base).1 h
  rw [Nat.toString_eq_repr, Nat.toString_eq_repr, Nat.repr_eq_ofList_toDigits,
    Nat.repr_eq_ofList_toDigits, String.ofList_inj] at same
  simpa using congrArg (fun digits => Nat.ofDigitChars 10 digits 0) same

/-- One more candidate than there are used names is enough. -/
theorem exists_freeNumber? (base : String) (used : List String) :
    ∃ n, freeNumber? base used = some n := by
  rw [← Option.isSome_iff_exists, freeNumber?, List.find?_isSome]
  by_contra taken
  push Not at taken
  have nodup : (((List.range (used.length + 1)).map (· + 2)).map (numbered base)).Nodup :=
    (List.nodup_range.map fun _ _ => Nat.add_right_cancel).map (numbered_injective base)
  have sub : ((List.range (used.length + 1)).map (· + 2)).map (numbered base) ⊆ used := by
    intro name hname
    obtain ⟨n, hn, rfl⟩ := List.mem_map.1 hname
    simpa using taken n hn
  have longer := nodup.length_le_of_subset sub
  simp only [List.length_map, List.length_range] at longer
  omega

/-- A free name is not in use. -/
theorem freeName_notMem (base : String) (used : List String) : freeName base used ∉ used := by
  by_cases taken : base ∈ used
  · obtain ⟨n, hn⟩ := exists_freeNumber? base used
    have free : freeName base used = numbered base n := by simp [freeName, taken, hn]
    rw [free]
    simpa using List.find?_some hn
  · rwa [freeName_of_notMem taken]

/-- Free names for the given ones, each taken behind those before it. -/
def freeNames : List String → List String → List String
  | [], _ => []
  | base :: rest, used => freeName base used :: freeNames rest (freeName base used :: used)

theorem freeNames_notMem (bases used : List String) : ∀ n ∈ freeNames bases used, n ∉ used := by
  induction bases generalizing used with
  | nil => simp [freeNames]
  | cons base rest ih =>
    rw [freeNames, List.forall_mem_cons]
    exact ⟨freeName_notMem base used, fun n hn => List.not_mem_of_not_mem_cons (ih _ n hn)⟩

theorem nodup_freeNames (bases used : List String) : (freeNames bases used).Nodup := by
  induction bases generalizing used with
  | nil => exact .nil
  | cons base rest ih =>
    rw [freeNames, List.nodup_cons]
    exact ⟨fun again => freeNames_notMem _ _ _ again List.mem_cons_self, ih _⟩

theorem freeNames_append (front back used : List String) :
    freeNames (front ++ back) used = freeNames front used
      ++ freeNames back ((freeNames front used).reverse ++ used) := by
  induction front generalizing used with
  | nil => rfl
  | cons base rest ih =>
    rw [List.cons_append, freeNames, ih, freeNames, List.reverse_cons, List.append_assoc]
    rfl

end SchemaForge.Text
