import Mathlib.Data.List.Nodup
import Mathlib.Data.String.Basic
import SchemaForge.Declaration.Column

/-!
# Sets of names

A set of names lists them in ascending order (`pairwise_nameSet`), so that each is listed once
(`nodup_nameSet`).
-/

namespace SchemaForge

theorem pairwise_insertName {name : String} {names : List String} (h : names.Pairwise (· < ·)) :
    (insertName name names).Pairwise (· < ·) := by
  induction names with
  | nil => exact List.pairwise_singleton _ _
  | cons other rest ih =>
    obtain ⟨first, later⟩ := List.pairwise_cons.1 h
    rw [insertName]
    split
    · rename_i less
      refine List.pairwise_cons.2 ⟨?_, h⟩
      intro n hn
      rcases List.mem_cons.1 hn with rfl | hn
      · exact less
      · exact less.trans (first n hn)
    · rename_i notLess
      split
      · exact h
      · rename_i differs
        refine List.pairwise_cons.2 ⟨?_, ih later⟩
        intro n hn
        rcases mem_insertName.1 hn with rfl | hn
        · exact lt_of_le_of_ne (not_lt.1 notLess) (Ne.symm differs)
        · exact first n hn

/-- A set of names is in ascending order, each name once. -/
theorem pairwise_nameSet (names : List String) : (nameSet names).Pairwise (· < ·) := by
  induction names with
  | nil => exact .nil
  | cons name rest ih => exact pairwise_insertName ih

theorem nodup_nameSet (names : List String) : (nameSet names).Nodup :=
  (pairwise_nameSet names).imp ne_of_lt

end SchemaForge
