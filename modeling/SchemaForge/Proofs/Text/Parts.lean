import Mathlib.Data.List.Infix
import Mathlib.Data.List.TakeWhile
import SchemaForge.Text.Affix
import SchemaForge.Text.Blank

/-!
# Texts inside other texts

The test for a text inside another one finds just the gapless sublists of its characters
(`containsText_iff`).  So what a part of a file contains the file contains, however the file is put
together.  A text `Opens` another one that starts with it, also when more is put before or behind
both.

A text is told from those that are longer or end in another way, and where blanks are cut off at the
end of a text, nothing before its last visible character is (`trimEnd_append`).
-/

namespace SchemaForge.Text

variable {part s t : String} {parts : List String}

/-- The test finds the gapless sublists. -/
theorem occursIn_iff {p l : List Char} : occursIn p l = true ↔ p <:+: l := by
  induction l with
  | nil => simp [occursIn]
  | cons c rest ih =>
    rw [occursIn, Bool.or_eq_true, List.isPrefixOf_iff_prefix, ih, List.infix_cons_iff]

theorem containsText_iff : containsText s part = true ↔ part.toList <:+: s.toList := occursIn_iff

theorem containsText_refl (s : String) : containsText s s = true :=
  containsText_iff.2 (List.infix_refl _)

theorem containsText_trans (inner : containsText s part = true) (outer : containsText t s = true) :
    containsText t part = true :=
  containsText_iff.2 ((containsText_iff.1 inner).trans (containsText_iff.1 outer))

/-! ## Texts at the start of others -/

/-- The text starts with the other one. -/
def Opens (start text : String) : Prop := start.toList <+: text.toList

theorem Opens.of_append {a b text : String} (h : Opens (a ++ b) text) : Opens a text := by
  rw [Opens, String.toList_append] at h
  exact (List.prefix_append _ _).trans h

theorem opens_append (start rest : String) : Opens start (start ++ rest) := by
  rw [Opens, String.toList_append]
  exact List.prefix_append _ _

theorem Opens.append {start text : String} (h : Opens start text) (rest : String) :
    Opens start (text ++ rest) := by
  rw [Opens, String.toList_append]
  exact h.trans (List.prefix_append _ _)

theorem Opens.after {start text : String} (h : Opens start text) (first : String) :
    Opens (first ++ start) (first ++ text) := by
  rw [Opens, String.toList_append, String.toList_append]
  exact (List.prefix_append_right_inj _).2 h

/-! ## Texts put together -/

theorem containsText_append_left (h : containsText s part = true) :
    containsText (s ++ t) part = true := by
  rw [containsText_iff] at h ⊢
  rw [String.toList_append]
  exact h.trans (List.prefix_append _ _).isInfix

theorem containsText_append_right (h : containsText t part = true) :
    containsText (s ++ t) part = true := by
  rw [containsText_iff] at h ⊢
  rw [String.toList_append]
  exact h.trans (List.suffix_append _ _).isInfix

/-- A join contains each of its parts. -/
theorem containsText_join (h : s ∈ parts) : containsText (String.join parts) s = true := by
  induction parts with
  | nil => cases h
  | cons first rest ih =>
    rw [String.join_cons]
    rcases List.mem_cons.1 h with rfl | h
    · exact containsText_append_left (containsText_refl s)
    · exact containsText_append_right (ih h)

/-- Parts with something between them are contained in the whole. -/
theorem containsText_intercalate {between : String} (h : s ∈ parts) :
    containsText (String.intercalate between parts) s = true := by
  induction parts with
  | nil => cases h
  | cons first rest ih =>
    cases rest with
    | nil =>
      obtain rfl := List.mem_singleton.1 h
      rw [String.intercalate_singleton]
      exact containsText_refl s
    | cons second rest =>
      rw [String.intercalate_cons_cons]
      rcases List.mem_cons.1 h with rfl | h
      · exact containsText_append_left (containsText_append_left (containsText_refl s))
      · exact containsText_append_right (ih h)

/-- The last of the parts stands at the end. -/
theorem exists_intercalate_append (between : String) (parts : List String) (s : String) :
    ∃ start, String.intercalate between (parts ++ [s]) = start ++ s := by
  induction parts with
  | nil => exact ⟨"", by simp [String.intercalate_singleton]⟩
  | cons first rest ih =>
    obtain ⟨start, h⟩ := ih
    obtain ⟨second, rest', split⟩ : ∃ second rest', rest ++ [s] = second :: rest' :=
      List.exists_cons_of_ne_nil (by simp)
    refine ⟨first ++ between ++ start, ?_⟩
    rw [List.cons_append, split, String.intercalate_cons_cons, ← split, h, String.append_assoc,
      String.append_assoc, String.append_assoc]

/-! ## Blanks at the end -/

/-- Blanks are cut off from the last part only if something in it is not blank. -/
theorem trimEnd_append (visible : ∃ c ∈ t.toList, isBlank c = false) (s : String) :
    trimEnd (s ++ t) = s ++ trimEnd t := by
  have kept : t.toList.reverse.dropWhile isBlank ≠ [] := by
    obtain ⟨c, hc, hblank⟩ := visible
    rw [Ne, List.dropWhile_eq_nil_iff]
    intro all
    rw [all c (List.mem_reverse.2 hc)] at hblank
    cases hblank
  rw [trimEnd, trimEnd, String.toList_append, List.reverse_append, List.dropWhile_append,
    if_neg (by simpa using kept), List.reverse_append, List.reverse_reverse, String.ofList_append,
    String.ofList_toList]

/-- Nothing is cut off behind a bracket. -/
theorem trimEnd_append_bracket (s : String) : trimEnd (s ++ ")") = s ++ ")" :=
  trimEnd_append ⟨')', by decide, by decide⟩ s

/-! ## Different texts -/

/-- Texts of different lengths differ. -/
theorem ne_of_length_ne (h : s.length ≠ t.length) : s ≠ t :=
  fun same => h (congrArg String.length same)

/-- A text does not become another one by an ending that this has not. -/
theorem ne_append_of_dropEnding? {ending s : String} (h : dropEnding? ending s = none)
    (t : String) : s ≠ t ++ ending := by
  intro same
  rw [dropEnding?_eq_some_iff.2 same] at h
  cases h

end SchemaForge.Text
