/-!
# Free names

`freeName base used` is a name that is not used yet: `base` itself, or `base` with the smallest
number from 2 on that gives a name not in use.  One more candidate than there are used names is
enough, because the numbered candidates differ from each other.
-/

namespace SchemaForge.Text

/-- A name with a number behind it. -/
def numbered (base : String) (n : Nat) : String := base ++ toString n

/-- The smallest number from 2 on that makes a name free, among as many candidates as there are
used names and one more. -/
def freeNumber? (base : String) (used : List String) : Option Nat :=
  ((List.range (used.length + 1)).map (· + 2)).find? fun n => !used.contains (numbered base n)

/-- The base if it is free, else the base with the smallest number that makes it free.  The numbers
are not bounded here.  None that is tried is greater than the number of used names and one, so a
signed counter of 32 bits holds them all while fewer than 2 ^ 31 - 1 names are in use. -/
def freeName (base : String) (used : List String) : String :=
  if used.contains base then ((freeNumber? base used).map (numbered base)).getD base else base

/-- A base that is free is taken as it is. -/
theorem freeName_of_notMem {base : String} {used : List String} (h : base ∉ used) :
    freeName base used = base := by
  simp [freeName, h]

end SchemaForge.Text
