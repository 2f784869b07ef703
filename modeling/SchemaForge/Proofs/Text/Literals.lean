import SchemaForge.Source.Artifact

/-!
# The characters of literals

Numbers are written with digits, a minus sign and a point, and no literal of a default value starts
with a small `s`, whatever the value: not a text, which starts with its quote, and not a number
(`Source.head?_literal_ne`).
-/

namespace SchemaForge

/-- A character that numbers are written with. -/
def IsNumeric (c : Char) : Prop := c.isDigit = true ∨ c = '-' ∨ c = '.'

theorem isDigit_of_mem_toString {n : Nat} {c : Char} (h : c ∈ (toString n).toList) :
    c.isDigit = true := by
  rw [Nat.toString_eq_repr, Nat.repr_eq_ofList_toDigits, String.toList_ofList] at h
  exact Nat.isDigit_of_mem_toDigits (by decide) (by decide) h

/-- An integer is written with digits behind a sign. -/
theorem isNumeric_of_mem_toString {n : Int} {c : Char} (h : c ∈ (toString n).toList) :
    IsNumeric c := by
  rw [Int.toString_eq_repr] at h
  cases n with
  | ofNat n => exact .inl (isDigit_of_mem_toString (n := n) h)
  | negSucc n =>
    rw [Int.repr, String.toList_append, List.mem_append] at h
    rcases h with h | h
    · exact .inr (.inl (by simpa using h))
    · exact .inl (isDigit_of_mem_toString (n := n.succ) h)

namespace Binary64

theorem isNumeric_of_mem_zeros {n : Nat} {c : Char} (h : c ∈ (zeros n).toList) : IsNumeric c := by
  rw [zeros, String.toList_ofList] at h
  rw [List.eq_of_mem_replicate h]
  exact .inl rfl

theorem isNumeric_of_mem_splitAt {digits : String} {point : Nat} {c : Char}
    (numeric : ∀ c ∈ digits.toList, IsNumeric c) (h : c ∈ (splitAt digits point).toList) :
    IsNumeric c := by
  simp only [splitAt, String.toList_append, String.toList_ofList, List.mem_append] at h
  rcases h with (h | h) | h
  · exact numeric c (List.mem_of_mem_take h)
  · exact .inr (.inr (by simpa using h))
  · exact numeric c (List.mem_of_mem_drop h)

/-- A number in plain layout is written with digits, a sign and a point. -/
theorem isNumeric_of_mem_plainText {x : Binary64} {c : Char} (h : c ∈ x.plainText.toList) :
    IsNumeric c := by
  have digits : ∀ c ∈ (x.digitsAndPoint .up).1.toList, IsNumeric c :=
    fun c hc => .inl (isDigit_of_mem_toString hc)
  rw [plainText, String.toList_append, List.mem_append] at h
  rcases h with h | h
  · have sign : c = '-' := by
      rw [signText] at h
      split at h <;> simp_all
    exact .inr (.inl sign)
  · split at h
    · rw [String.toList_append, String.toList_append, List.mem_append, List.mem_append] at h
      rcases h with (h | h) | h
      · have zero : c = '0' ∨ c = '.' := by simpa using h
        rcases zero with rfl | rfl
        · exact .inl rfl
        · exact .inr (.inr rfl)
      · exact isNumeric_of_mem_zeros h
      · exact digits c h
    · split at h
      · exact isNumeric_of_mem_splitAt digits h
      · rw [String.toList_append, List.mem_append] at h
        rcases h with h | h
        · exact digits c h
        · exact isNumeric_of_mem_zeros h

end Binary64

/-- A literal does not start with a small `s`. -/
theorem Source.head?_literal_ne (value : DefaultValue) :
    (Source.literal value).toList.head? ≠ some 's' := by
  have numeric : ∀ text : List Char, (∀ c ∈ text, IsNumeric c) → text.head? ≠ some 's' := by
    intro text all h
    have s : IsNumeric 's' := all 's' (List.mem_of_head? h)
    exact absurd s (by unfold IsNumeric; decide)
  cases value with
  | now => decide
  | text s => simp [Source.literal, Text.singleQuoted]
  | integer n => exact numeric _ fun c hc => isNumeric_of_mem_toString hc
  | real x => exact numeric _ fun c hc => Binary64.isNumeric_of_mem_plainText hc
  | boolean b => cases b <;> decide

end SchemaForge
