import Mathlib.Data.List.Basic
import SchemaForge.Proofs.Text.Ascii
import SchemaForge.Text.WordCase

/-!
# Names in plain words

Most names are made of words of ASCII letters and digits that start with two letters.  Such a name
can be written in snake case (`post_tags`) or in camel case (`PostTags`), and either way its words
are found again.  So the text in camel case tells what the words were.

* `words_snake` — the words of a name in snake case;
* `upperCamel_lowerCamel_snake` — camel case survives camel case;
* `pascal_injective` — a text in camel case is written by one list of words.
-/

namespace SchemaForge.Text

/-! ## Letters and digits of ASCII -/

/-- A character of a plain word: a lowercase letter or a digit. -/
def isPlain (c : Char) : Bool := c.isLower || c.isDigit

section Characters

variable {c : Char}

theorem isPlain_iff : isPlain c = true ↔ c.isLower = true ∨ c.isDigit = true :=
  Bool.or_eq_true_iff

theorem isPlain_of_isLower (h : c.isLower = true) : isPlain c = true := isPlain_iff.2 (.inl h)

theorem toNat_lt_of_isPlain (h : isPlain c = true) : c.toNat < 0x80 := by
  rcases isPlain_iff.1 h with small | digit
  · exact toNat_lt_of_isLower small
  · exact toNat_lt_of_isDigit digit

theorem isUpper_of_isPlain (h : isPlain c = true) : c.isUpper = false := by
  rcases isPlain_iff.1 h with small | digit
  · exact (hasCapital_of_isLower small).isUpper
  · obtain ⟨-, upper, -⟩ := cases_of_isDigit digit
    exact upper

theorem isLetterOrNumber_of_isPlain (h : isPlain c = true) : isLetterOrNumber c = true := by
  rw [isLetterOrNumber_ascii (toNat_lt_of_isPlain h)]
  rcases isPlain_iff.1 h with small | digit
  · exact (hasCapital_of_isLower small).isAlphanum
  · rw [Char.isAlphanum, digit, Bool.or_true]

theorem isUppercase_of_isPlain (h : isPlain c = true) : isUppercase c = false := by
  rw [isUppercase_ascii (toNat_lt_of_isPlain h), isUpper_of_isPlain h]

theorem isLowercase_of_isLower (h : c.isLower = true) : isLowercase c = true := by
  rw [isLowercase_ascii (toNat_lt_of_isLower h), h]

theorem lowerForm_of_isPlain (h : isPlain c = true) : lowerForm c = [c] := by
  rw [lowerForm, if_pos (toNat_lt_of_isPlain h)]
  rcases isPlain_iff.1 h with small | digit
  · rw [(hasCapital_of_isLower small).toLower]
  · obtain ⟨-, -, lower, -⟩ := cases_of_isDigit digit
    rw [lower]

theorem upperForm_of_isLower (h : c.isLower = true) : upperForm c = [c.toUpper] := by
  rw [upperForm, if_pos (toNat_lt_of_isLower h)]

/-! The capital of a letter. -/

theorem isUppercase_capital (h : HasCapital c) : isUppercase c.toUpper = true := by
  rw [isUppercase_ascii h.capital_ascii, h.isUpper_capital]

theorem isLowercase_capital (h : HasCapital c) : isLowercase c.toUpper = false := by
  rw [isLowercase_ascii h.capital_ascii, h.isLower_capital]

theorem isLetterOrNumber_capital (h : HasCapital c) : isLetterOrNumber c.toUpper = true := by
  rw [isLetterOrNumber_ascii h.capital_ascii, h.isAlphanum_capital]

theorem upperForm_capital (h : HasCapital c) : upperForm c.toUpper = [c.toUpper] := by
  rw [upperForm, if_pos h.capital_ascii, h.toUpper_capital]

theorem lowerForm_capital (h : HasCapital c) : lowerForm c.toUpper = [c] := by
  rw [lowerForm, if_pos h.capital_ascii, h.toLower_capital]

end Characters

/-! ## Plain words -/

/-- A word of a plain name: two letters, and then letters and digits. -/
structure PlainWord where
  first : Char
  second : Char
  rest : List Char
  first_lower : first.isLower = true
  second_lower : second.isLower = true
  rest_plain : rest.all isPlain = true
  deriving DecidableEq

namespace PlainWord

/-- The word as it is: `tags`. -/
def small (w : PlainWord) : List Char := w.first :: w.second :: w.rest

/-- The word with a capital: `Tags`. -/
def capital (w : PlainWord) : List Char := w.first.toUpper :: w.second :: w.rest

theorem hasCapital (w : PlainWord) : HasCapital w.first := hasCapital_of_isLower w.first_lower

/-- What follows the first letter. -/
theorem all_tail (w : PlainWord) : (w.second :: w.rest).all isPlain = true := by
  rw [List.all_cons, isPlain_of_isLower w.second_lower, w.rest_plain, Bool.true_and]

theorem small_injective : Function.Injective small := by
  rintro ⟨a, b, r, ha, hb, hr⟩ ⟨a', b', r', ha', hb', hr'⟩ h
  obtain ⟨rfl, rfl, rfl⟩ : a = a' ∧ b = b' ∧ r = r' := by simpa [small] using h
  rfl

end PlainWord

variable {w : PlainWord} {ws : List PlainWord}

/-! ### The case of a word -/

/-- A word of plain characters is in lowercase already. -/
theorem lowerWord_eq_self {s : List Char} (h : s.all isPlain = true) : lowerWord s = s := by
  induction s with
  | nil => rfl
  | cons c rest ih =>
    obtain ⟨hc, hrest⟩ := Bool.and_eq_true_iff.1 h
    cases rest with
    | nil =>
      have sigma : c ≠ 'Σ' := by
        rintro rfl
        exact absurd hc (by decide)
      rw [lowerWord, if_neg sigma, lowerForm_of_isPlain hc]
    | cons d rest =>
      rw [lowerWord, lowerForm_of_isPlain hc, ih hrest, List.singleton_append]
      exact List.cons_ne_nil d rest

theorem lowerWord_small (w : PlainWord) : lowerWord w.small = w.small := by
  refine lowerWord_eq_self ?_
  rw [PlainWord.small, List.all_cons, isPlain_of_isLower w.first_lower, w.all_tail, Bool.true_and]

theorem capitalize_small (w : PlainWord) : capitalize w.small = w.capital := by
  rw [PlainWord.small, capitalize, upperForm_of_isLower w.first_lower,
    lowerWord_eq_self w.all_tail, List.singleton_append, PlainWord.capital]

theorem capitalize_capital (w : PlainWord) : capitalize w.capital = w.capital := by
  rw [PlainWord.capital, capitalize, upperForm_capital w.hasCapital,
    lowerWord_eq_self w.all_tail, List.singleton_append]

theorem lowerWord_capital (w : PlainWord) : lowerWord w.capital = w.small := by
  rw [PlainWord.capital, lowerWord, lowerForm_capital w.hasCapital,
    lowerWord_eq_self w.all_tail, List.singleton_append, PlainWord.small]
  exact List.cons_ne_nil _ _

/-! ### Finding a word -/

/-- A letter and what is plain after it are taken together, up to a capital or the end. -/
theorem wordsFrom_plain {seen : LetterCase} {current s rest : List Char} {c : Char}
    (hseen : seen.next c = .lower) (hc : isPlain c = true) (hs : s.all isPlain = true)
    (hrest : ∀ d ∈ rest.head?, isUppercase d = true) :
    wordsFrom seen current (c :: s ++ rest)
      = (current.reverse ++ c :: s) :: wordsFrom .unset [] rest := by
  induction s generalizing seen current c with
  | nil =>
    cases rest with
    | nil => simp [wordsFrom, isLetterOrNumber_of_isPlain hc, isUppercase_of_isPlain hc]
    | cons d rest =>
      simp [wordsFrom, isLetterOrNumber_of_isPlain hc, hseen, hrest d rfl]
  | cons d s ih =>
    obtain ⟨hd, hs⟩ := Bool.and_eq_true_iff.1 hs
    have stays : LetterCase.lower.next d = .lower := by
      rw [LetterCase.next, isUppercase_of_isPlain hd]
      split <;> rfl
    have step : wordsFrom seen current (c :: d :: s ++ rest)
        = wordsFrom .lower (c :: current) (d :: s ++ rest) := by
      simp [wordsFrom, isLetterOrNumber_of_isPlain hc, isUppercase_of_isPlain hc,
        isUppercase_of_isPlain hd, hseen]
    rw [step, ih stays hd hs, List.reverse_cons, List.append_assoc, List.singleton_append]

theorem wordsFrom_small {rest : List Char} (hrest : ∀ d ∈ rest.head?, isUppercase d = true) :
    wordsFrom .unset [] (w.small ++ rest) = w.small :: wordsFrom .unset [] rest := by
  refine wordsFrom_plain ?_ (isPlain_of_isLower w.first_lower) w.all_tail hrest
  rw [LetterCase.next, if_pos (isLowercase_of_isLower w.first_lower)]

theorem wordsFrom_capital {rest : List Char} (hrest : ∀ d ∈ rest.head?, isUppercase d = true) :
    wordsFrom .unset [] (w.capital ++ rest) = w.capital :: wordsFrom .unset [] rest := by
  have upper : LetterCase.unset.next w.first.toUpper = .upper := by
    rw [LetterCase.next, isLowercase_capital w.hasCapital, isUppercase_capital w.hasCapital]
    rfl
  have lower : LetterCase.upper.next w.second = .lower := by
    rw [LetterCase.next, if_pos (isLowercase_of_isLower w.second_lower)]
  have plain := isPlain_of_isLower w.second_lower
  have step : wordsFrom .unset [] (w.capital ++ rest)
      = wordsFrom .upper [w.first.toUpper] (w.second :: w.rest ++ rest) := by
    simp [PlainWord.capital, wordsFrom, isLetterOrNumber_capital w.hasCapital, upper]
  rw [step, wordsFrom_plain lower plain w.rest_plain hrest]
  rfl

/-! ## Camel case -/

/-- Words with a capital each, written together: `PostTags`. -/
def pascal (ws : List PlainWord) : String := String.ofList (ws.flatMap (·.capital))

theorem pascal_append (ws vs : List PlainWord) : pascal (ws ++ vs) = pascal ws ++ pascal vs := by
  rw [pascal, List.flatMap_append, String.ofList_append, pascal, pascal]

theorem isUppercase_of_mem_head? {c : Char} (h : c ∈ (ws.flatMap (·.capital)).head?) :
    isUppercase c = true := by
  cases ws with
  | nil => exact absurd h (by simp)
  | cons w rest =>
    obtain rfl : w.first.toUpper = c := by simpa [PlainWord.capital] using h
    exact isUppercase_capital w.hasCapital

/-- Words with a capital each are found again. -/
theorem wordsFrom_capitals (ws : List PlainWord) :
    wordsFrom .unset [] (ws.flatMap (·.capital)) = ws.map (·.capital) := by
  induction ws with
  | nil => rfl
  | cons w rest ih =>
    rw [List.flatMap_cons, wordsFrom_capital fun _ => isUppercase_of_mem_head?, ih, List.map_cons]

/-- The words of a text in camel case. -/
theorem words_pascal (ws : List PlainWord) : words (pascal ws) = ws.map (·.capital) := by
  rw [words, pascal, String.toList_ofList, wordsFrom_capitals]

/-- A text in camel case is written by one list of words. -/
theorem pascal_injective : Function.Injective pascal := by
  intro ws vs h
  have capitals : ws.map (·.capital) = vs.map (·.capital) := by
    rw [← words_pascal, h, words_pascal]
  have smalls := congrArg (List.map lowerWord) capitals
  simp only [List.map_map, Function.comp_def, lowerWord_capital] at smalls
  exact PlainWord.small_injective.list_map smalls

/-! ## Snake case -/

/-- The characters of words with underscores between them. -/
def snakeChars : List PlainWord → List Char
  | [] => []
  | [w] => w.small
  | w :: rest => w.small ++ '_' :: snakeChars rest

/-- Words with underscores between them: `post_tags`. -/
def snake (ws : List PlainWord) : String := String.ofList (snakeChars ws)

theorem snake_append_singleton (hne : ws ≠ []) (w : PlainWord) :
    snake (ws ++ [w]) = snake ws ++ String.ofList ('_' :: w.small) := by
  rw [snake, snake, ← String.ofList_append]
  congr 1
  induction ws with
  | nil => exact absurd rfl hne
  | cons v rest ih =>
    cases rest with
    | nil => rfl
    | cons u rest =>
      have ih := ih (List.cons_ne_nil u rest)
      simp only [List.cons_append, snakeChars, List.append_assoc] at ih ⊢
      rw [ih]

/-- An underscore cuts a name. -/
theorem wordsFrom_append_underscore (seen : LetterCase) (current s rest : List Char) :
    wordsFrom seen current (s ++ '_' :: rest)
      = wordsFrom seen current s ++ wordsFrom .unset [] rest := by
  have cut : isLetterOrNumber '_' = false := by decide
  have notUpper : isUppercase '_' = false := by decide
  have notLower : isLowercase '_' = false := by decide
  induction s generalizing seen current with
  | nil => simp [wordsFrom, cut]
  | cons c s ih =>
    have ahead : ∀ p : Char → Bool, p '_' = false →
        (s ++ '_' :: rest).head?.any p = s.head?.any p := by
      intro p hp
      cases s <;> simp [hp]
    simp only [List.cons_append, wordsFrom, ahead isUppercase notUpper, ahead isLowercase notLower,
      ih]
    split_ifs <;> simp only [List.append_assoc]

theorem words_append_underscore (s rest : String) :
    words (s ++ String.ofList ('_' :: rest.toList)) = words s ++ words rest := by
  rw [words, String.toList_append, String.toList_ofList, wordsFrom_append_underscore]
  rfl

/-- Behind a name with a word, an underscore starts the next word in capitals. -/
theorem lowerCamel_append_underscore {s : String} (some : words s ≠ []) (rest : String) :
    lowerCamel (s ++ String.ofList ('_' :: rest.toList)) = lowerCamel s ++ upperCamel rest := by
  obtain ⟨first, others, split⟩ := List.exists_cons_of_ne_nil some
  simp only [lowerCamel, upperCamel, words_append_underscore, split, List.cons_append,
    List.flatMap_append, ← String.ofList_append, List.append_assoc]

/-- The words of a name in snake case. -/
theorem words_snake (ws : List PlainWord) : words (snake ws) = ws.map (·.small) := by
  have one : ∀ w : PlainWord, wordsFrom .unset [] w.small = [w.small] := by
    intro w
    rw [← List.append_nil w.small, wordsFrom_small (by simp), List.append_nil]
    rfl
  rw [words, snake, String.toList_ofList]
  induction ws with
  | nil => rfl
  | cons w rest ih =>
    cases rest with
    | nil => exact one w
    | cons v rest =>
      rw [snakeChars, wordsFrom_append_underscore, one, ih]
      · rfl
      · simp

/-- A text in snake case is written by one list of words. -/
theorem snake_injective : Function.Injective snake := by
  intro ws vs h
  have smalls : ws.map (·.small) = vs.map (·.small) := by rw [← words_snake, h, words_snake]
  exact PlainWord.small_injective.list_map smalls

/-! ## From one case to the other -/

theorem flatMap_capitalize_small (ws : List PlainWord) :
    (ws.map (·.small)).flatMap capitalize = ws.flatMap (·.capital) := by
  simp only [List.flatMap_map, capitalize_small]

/-- The property of a name in snake case. -/
theorem lowerCamel_snake (w : PlainWord) (ws : List PlainWord) :
    lowerCamel (snake (w :: ws)) = String.ofList (w.small ++ ws.flatMap (·.capital)) := by
  simp only [lowerCamel, words_snake, List.map_cons, lowerWord_small, flatMap_capitalize_small]

/-- One more word at the end. -/
theorem lowerCamel_snake_append_singleton (hne : ws ≠ []) (w : PlainWord) :
    lowerCamel (snake (ws ++ [w])) = lowerCamel (snake ws) ++ String.ofList w.capital := by
  obtain ⟨v, rest, rfl⟩ := List.exists_cons_of_ne_nil hne
  rw [List.cons_append, lowerCamel_snake, lowerCamel_snake, ← String.ofList_append,
    List.flatMap_append, List.flatMap_singleton, List.append_assoc]

/-- The property of a name keeps its words. -/
theorem upperCamel_lowerCamel_snake (ws : List PlainWord) :
    upperCamel (lowerCamel (snake ws)) = pascal ws := by
  cases ws with
  | nil => rfl
  | cons w rest =>
    rw [lowerCamel_snake, upperCamel, words, String.toList_ofList,
      wordsFrom_small fun _ => isUppercase_of_mem_head?, wordsFrom_capitals, List.flatMap_cons,
      capitalize_small, List.flatMap_map, pascal, List.flatMap_cons]
    simp only [capitalize_capital]

end SchemaForge.Text
