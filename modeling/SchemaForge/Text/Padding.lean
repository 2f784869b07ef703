/-!
# Padded columns

Rows of a layout line up in columns.  The width of a column is counted in bytes of UTF-8, its
padding in characters: `columnWidth` is the largest byte length of the cells, and `padEnd` fills a
cell with spaces until it has that many characters.
-/

namespace SchemaForge.Text

/-- The width of a column that holds the given cells. -/
def columnWidth (cells : List String) : Nat :=
  cells.foldl (fun width cell => max width cell.utf8ByteSize) 0

/-- A text of `n` spaces. -/
def spaces (n : Nat) : String := String.ofList (List.replicate n ' ')

/-- The text, filled with spaces on the right up to the given number of characters. -/
def padEnd (width : Nat) (s : String) : String := s ++ spaces (width - s.length)

/-- The text, filled with spaces on the left up to the given number of characters. -/
def padStart (width : Nat) (s : String) : String := spaces (width - s.length) ++ s

/-- Lines joined by line feeds, without one after the last. -/
def joinLines (lines : List String) : String := String.intercalate "\n" lines

/-- Items joined by a comma and a space. -/
def commaJoin (items : List String) : String := String.intercalate ", " items

/-- Items joined by a comma and a space, or a dash when there is none. -/
def commaJoinOrDash (items : List String) : String :=
  if items.isEmpty then "-" else commaJoin items

end SchemaForge.Text
