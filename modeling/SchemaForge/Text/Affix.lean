/-!
# Parts of a text

Endings that are cut off and texts that occur inside others, by character.
-/

namespace SchemaForge.Text

/-- The text before a given ending, if it ends so. -/
def dropEnding? (ending s : String) : Option String :=
  let n := s.length - ending.length
  if ending.length ≤ s.length ∧ s.toList.drop n = ending.toList then
    some (String.ofList (s.toList.take n))
  else none

/-- The first list occurs in the second without a gap. -/
def occursIn (part : List Char) : List Char → Bool
  | [] => part.isEmpty
  | c :: rest => part.isPrefixOf (c :: rest) || occursIn part rest

/-- The text contains the other one. -/
def containsText (s part : String) : Bool := occursIn part.toList s.toList

/-- What is left of a text is what the ending was appended to. -/
theorem dropEnding?_eq_some_iff {ending s t : String} :
    dropEnding? ending s = some t ↔ s = t ++ ending := by
  simp only [dropEnding?, Option.ite_none_right_eq_some, Option.some.injEq]
  constructor
  · rintro ⟨⟨-, tail⟩, rfl⟩
    rw [← String.toList_inj, String.toList_append, String.toList_ofList, ← tail,
      List.take_append_drop]
  · rintro rfl
    simp [← String.length_toList]

/-- Every text contains the empty one. -/
theorem occursIn_nil (s : List Char) : occursIn [] s = true := by
  cases s <;> rfl

end SchemaForge.Text
