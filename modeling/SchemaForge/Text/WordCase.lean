import SchemaForge.Text.CaseMapping

/-!
# Words and camel case

Names reach the program in any spelling (`post_tags`, `PostTag`, `userID`); generated code wants
one.  `words` cuts a name into words, and `upperCamel` and `lowerCamel` join the words again.

A name is cut

* at every character that is neither alphabetic nor numeric, which is dropped;
* between a lowercase and an uppercase letter, digits and caseless letters counting as the letter
  before them (`userID` is `user`, `ID`);
* before the last of several uppercase letters when a lowercase one follows (`HTTPServer` is
  `HTTP`, `Server`).
-/

namespace SchemaForge.Text

/-! ## Cutting a name into words -/

/-- What the letters of the word under way have been, most recent letter first. -/
inductive LetterCase
  | unset
  | lower
  | upper
  deriving Repr, DecidableEq

/-- The case after one more character; only a cased letter changes it. -/
def LetterCase.next (seen : LetterCase) (c : Char) : LetterCase :=
  if isLowercase c then .lower else if isUppercase c then .upper else seen

/-- The word under way, held back to front, as a list of no or one word. -/
def finishWord (current : List Char) : List (List Char) :=
  if current.isEmpty then [] else [current.reverse]

/-- The words of the rest of a name, given the word under way and the case of its letters. -/
def wordsFrom (seen : LetterCase) (current : List Char) : List Char → List (List Char)
  | [] => finishWord current
  | c :: rest =>
    if !isLetterOrNumber c then finishWord current ++ wordsFrom .unset [] rest
    else
      let ahead := rest.head?
      if seen.next c = .lower ∧ ahead.any isUppercase then
        finishWord (c :: current) ++ wordsFrom .unset [] rest
      else if seen = .upper ∧ isUppercase c ∧ ahead.any isLowercase then
        finishWord current ++ wordsFrom .unset [c] rest
      else wordsFrom (seen.next c) (c :: current) rest

/-- The words of a name, in order; none is empty. -/
def words (name : String) : List (List Char) := wordsFrom .unset [] name.toList

/-! ## Joining words -/

/-- A word in lowercase; a capital sigma at its end takes the final form. -/
def lowerWord : List Char → List Char
  | [] => []
  | [c] => if c = 'Σ' then ['ς'] else lowerForm c
  | c :: rest => lowerForm c ++ lowerWord rest

/-- A word with its first character in uppercase and the others in lowercase. -/
def capitalize : List Char → List Char
  | [] => []
  | c :: rest => upperForm c ++ lowerWord rest

/-- The words of a name, each capitalized, written together: `PostTags` for `post_tags`. -/
def upperCamel (name : String) : String :=
  String.ofList ((words name).flatMap capitalize)

/-- As `upperCamel`, with the first word in lowercase: `postTags` for `post_tags`. -/
def lowerCamel (name : String) : String :=
  match words name with
  | [] => ""
  | first :: others => String.ofList (lowerWord first ++ others.flatMap capitalize)

/-! ## Small facts -/

@[simp] theorem finishWord_nil : finishWord [] = [] := rfl

@[simp] theorem finishWord_cons (c : Char) (current : List Char) :
    finishWord (c :: current) = [(c :: current).reverse] := rfl

@[simp] theorem words_empty : words "" = [] := rfl

@[simp] theorem upperCamel_empty : upperCamel "" = "" := rfl

@[simp] theorem lowerCamel_empty : lowerCamel "" = "" := rfl

/-- No word is empty. -/
theorem ne_nil_of_mem_wordsFrom {seen : LetterCase} {current s w : List Char}
    (h : w ∈ wordsFrom seen current s) : w ≠ [] := by
  have finish : ∀ current : List Char, ∀ w ∈ finishWord current, w ≠ [] := by
    intro current w hw
    cases current with
    | nil => simp at hw
    | cons c cs => simp only [finishWord_cons, List.mem_singleton] at hw; simp [hw]
  induction s generalizing seen current with
  | nil => exact finish _ _ h
  | cons c rest ih =>
    simp only [wordsFrom] at h
    split at h
    · exact (List.mem_append.1 h).elim (finish _ _) ih
    · split at h
      · exact (List.mem_append.1 h).elim (finish _ _) ih
      · split at h
        · exact (List.mem_append.1 h).elim (finish _ _) ih
        · exact ih h

end SchemaForge.Text
