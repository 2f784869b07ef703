/-!
# Splitting

`splitAt sep s` gives the parts of a text between separators, also those that are empty; a text
without a separator is its own only part.
-/

namespace SchemaForge.Text

/-- The parts of a list of characters between separators. -/
def splitChars (sep : Char) : List Char → List (List Char)
  | [] => [[]]
  | c :: rest =>
    if c = sep then [] :: splitChars sep rest
    else match splitChars sep rest with
      | [] => [[c]]
      | part :: parts => (c :: part) :: parts

/-- The parts of a text between separators. -/
def splitAt (sep : Char) (s : String) : List String := (splitChars sep s.toList).map String.ofList

/-- A text always has a first part. -/
theorem splitChars_ne_nil (sep : Char) (s : List Char) : splitChars sep s ≠ [] := by
  cases s with
  | nil => simp [splitChars]
  | cons c rest =>
    unfold splitChars
    split
    · simp
    · split <;> simp

end SchemaForge.Text
