/-!
# Single-quoted literals

TypeScript text between single quotes.  A backslash and a single quote are written with a
backslash before them, every other character stands for itself.  `scanQuoted` reads a literal back
up to the quote that closes it, and `scanQuoted_escapeQuotes` says that it gives the text the
literal was made from, whatever follows.
-/

namespace SchemaForge.Text

/-- The inside of a literal: a backslash before each backslash and each single quote. -/
def escapeQuotes : List Char → List Char
  | [] => []
  | c :: rest =>
    if c = '\\' ∨ c = '\'' then '\\' :: c :: escapeQuotes rest else c :: escapeQuotes rest

/-- A TypeScript literal for the text, between single quotes. -/
def singleQuoted (s : String) : String :=
  String.ofList ('\'' :: escapeQuotes s.toList ++ ['\''])

/-- The characters up to the first single quote that no backslash protects, each protecting
backslash removed, and what follows the quote; `none` when there is no such quote. -/
def scanQuoted : List Char → Option (List Char × List Char)
  | [] => none
  | ['\\'] => none
  | '\\' :: c :: rest => (scanQuoted rest).map fun r => (c :: r.1, r.2)
  | c :: rest =>
    if c = '\'' then some ([], rest) else (scanQuoted rest).map fun r => (c :: r.1, r.2)

/-- Scanning an escaped text and a quote gives the text and stops at that quote. -/
theorem scanQuoted_escapeQuotes (s rest : List Char) :
    scanQuoted (escapeQuotes s ++ '\'' :: rest) = some (s, rest) := by
  induction s with
  | nil => simp [escapeQuotes, scanQuoted]
  | cons c s ih =>
    simp only [escapeQuotes]
    split
    · simp [scanQuoted, ih]
    · rename_i h
      simp only [not_or] at h
      rw [List.cons_append, scanQuoted.eq_4 _ _ (by simp [h.1]) (by simp [h.1])]
      simp [h.2, ih]

end SchemaForge.Text
