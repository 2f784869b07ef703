/-!
# Blank characters

`isBlank` is the White_Space property of Unicode: twenty-five characters, among them the no-break
space and the ideographic space but not the zero-width space.  `trimEnd` removes the blanks at the
end of a text, and `hasOuterBlank` tells whether a text starts or ends with one.
-/

namespace SchemaForge.Text

/-- White space. -/
def isBlank (c : Char) : Bool :=
  let n := c.toNat
  (9 ≤ n && n ≤ 13) || n == 0x20 || n == 0x85 || n == 0xA0 || n == 0x1680
    || (0x2000 ≤ n && n ≤ 0x200A) || n == 0x2028 || n == 0x2029 || n == 0x202F
    || n == 0x205F || n == 0x3000

/-- A text without the blanks at its end. -/
def trimEnd (s : String) : String :=
  String.ofList (s.toList.reverse.dropWhile isBlank).reverse

/-- The text starts or ends with a blank. -/
def hasOuterBlank (s : String) : Bool :=
  s.toList.head?.any isBlank || s.toList.getLast?.any isBlank

/-- Every blank of the core library is blank. -/
theorem isBlank_of_isWhitespace {c : Char} (h : c.isWhitespace = true) : isBlank c = true := by
  simp only [Char.isWhitespace, Bool.or_eq_true, decide_eq_true_eq] at h
  rcases h with ((rfl | rfl) | rfl) | rfl <;> rfl

end SchemaForge.Text
