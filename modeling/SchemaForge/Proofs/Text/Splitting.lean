import SchemaForge.Proofs.Text.CodeLiterals
import SchemaForge.Text.Split

/-!
# Splitting what was put together

A text has one part more than it has separators (`length_splitAt`).  Lines that are put together and
split again are the same lines if none of them has a line feed, and more of them else
(`splitAt_intercalate`, `flatMap_splitAt_eq_iff`).
-/

namespace SchemaForge.Text

variable {sep : Char} {s : String} {parts : List String}

theorem splitChars_append_cons (sep : Char) (a b : List Char) :
    splitChars sep (a ++ sep :: b) = splitChars sep a ++ splitChars sep b := by
  induction a with
  | nil => simp [splitChars]
  | cons c a ih =>
    rw [List.cons_append, splitChars, splitChars, ih]
    obtain ⟨part, parts, split⟩ := List.exists_cons_of_ne_nil (splitChars_ne_nil sep a)
    split_ifs
    · rfl
    · rw [split]
      rfl

theorem length_splitChars (sep : Char) (s : List Char) :
    (splitChars sep s).length = s.count sep + 1 := by
  induction s with
  | nil => rfl
  | cons c s ih =>
    obtain ⟨part, parts, split⟩ := List.exists_cons_of_ne_nil (splitChars_ne_nil sep s)
    rw [splitChars]
    split_ifs with hc
    · rw [List.length_cons, ih, hc, List.count_cons_self]
    · rw [List.count_cons_of_ne hc, ← ih, split]
      rfl

theorem splitChars_of_notMem {sep : Char} {s : List Char} (h : sep ∉ s) :
    splitChars sep s = [s] := by
  induction s with
  | nil => rfl
  | cons c s ih =>
    rw [List.mem_cons, not_or] at h
    rw [splitChars, if_neg (Ne.symm h.1), ih h.2]

theorem length_splitAt (sep : Char) (s : String) :
    (splitAt sep s).length = s.toList.count sep + 1 := by
  rw [splitAt, List.length_map, length_splitChars]

theorem splitAt_of_notMem (h : sep ∉ s.toList) : splitAt sep s = [s] := by
  rw [splitAt, splitChars_of_notMem h, List.map_singleton, String.ofList_toList]

/-- Lines put together are split line by line. -/
theorem splitAt_intercalate (nonempty : parts ≠ []) :
    splitAt '\n' (String.intercalate "\n" parts) = parts.flatMap (splitAt '\n') := by
  induction parts with
  | nil => exact absurd rfl nonempty
  | cons first rest ih =>
    cases rest with
    | nil => simp [String.intercalate_singleton]
    | cons second rest =>
      have joined : (first ++ "\n" ++ String.intercalate "\n" (second :: rest)).toList
          = first.toList ++ '\n' :: (String.intercalate "\n" (second :: rest)).toList := by
        simp
      rw [String.intercalate_cons_cons, List.flatMap_cons, ← ih (List.cons_ne_nil _ _), splitAt,
        joined, splitChars_append_cons, List.map_append]
      rfl

/-- Splitting all parts once more gives one part for each and one for each separator. -/
theorem length_flatMap_splitAt (sep : Char) (parts : List String) :
    (parts.flatMap (splitAt sep)).length = parts.length + countIn sep parts := by
  induction parts with
  | nil => rfl
  | cons first rest ih =>
    rw [List.flatMap_cons, List.length_append, length_splitAt, ih, List.length_cons, countIn_cons]
    omega

/-- Splitting all parts once more changes nothing exactly if no part has a separator. -/
theorem flatMap_splitAt_eq_iff :
    parts.flatMap (splitAt sep) = parts ↔ countIn sep parts = 0 := by
  constructor
  · intro same
    have lengths := length_flatMap_splitAt sep parts
    rw [same] at lengths
    omega
  · intro none
    rw [countIn_eq_zero_iff] at none
    induction parts with
    | nil => rfl
    | cons first rest ih =>
      rw [List.flatMap_cons, splitAt_of_notMem (none first List.mem_cons_self),
        ih fun s hs => none s (List.mem_cons_of_mem first hs), List.singleton_append]

end SchemaForge.Text
