import Mathlib.Data.List.Basic
import SchemaForge.Proofs.Text.Ascii
import SchemaForge.Text.WordCase

/-!
# The characters of camel case

Camel case takes the letters and numbers of a name, in their order, and drops every other character
(`flatten_words`).  What stands for one of them is a form of it in either case (`IsFormOf`).  A
character outside ASCII has hardly ever a form inside, and that is a letter then
(`IsFormOf.isAlpha`).

So both camel cases of a name are made of forms of its letters and numbers and start with one of the
first of them (`IsCamelOf`).  Whatever the name is, their characters in ASCII are letters and digits
(`IsCamelOf.isAlphanum`), and none of them opens a literal, breaks a line or ends a statement.
-/

namespace SchemaForge.Text

/-! ## Forms of characters -/

/-- A code point that forms may have: that of a letter of ASCII, or of a character outside of it. -/
def isFormCode (n : Nat) : Bool :=
  (0x41 ≤ n && n ≤ 0x5A) || (0x61 ≤ n && n ≤ 0x7A) || (0x80 ≤ n && n < 0xD800)
    || (0xE000 ≤ n && n < 0x110000)

/-- An entry of a table of cases leads out of ASCII, or from one character to one whose code point
forms may have. -/
def Shift.leadsToForms (s : Shift) : Bool :=
  (0x80 ≤ (s.first : Int) + s.offset && (s.last : Int) + s.offset < 0xD800)
    || (0xE000 ≤ (s.first : Int) + s.offset && (s.last : Int) + s.offset < 0x110000)
    || (s.first == s.last && isFormCode ((s.first : Int) + s.offset).toNat)

theorem lowerShifts_lead : lowerShifts.all Shift.leadsToForms = true := by decide +kernel

theorem upperShifts_lead : upperShifts.all Shift.leadsToForms = true := by decide +kernel

theorem upperExpansions_lead :
    (upperExpansions.all fun e => !e.2.isEmpty && e.2.all isFormCode) = true := by decide +kernel

theorem Shift.isFormCode_of_contains {s : Shift} (leads : s.leadsToForms = true) {n : Nat}
    (on : s.toRun.contains n = true) : isFormCode ((n : Int) + s.offset).toNat = true := by
  simp only [Run.contains, Bool.and_eq_true, decide_eq_true_eq] at on
  obtain ⟨⟨first, last⟩, -⟩ := on
  simp only [leadsToForms, Bool.or_eq_true, Bool.and_eq_true, decide_eq_true_eq, beq_iff_eq]
    at leads
  rcases leads with (⟨low, high⟩ | ⟨low, high⟩) | ⟨one, code⟩
  · simp only [isFormCode, Bool.or_eq_true, Bool.and_eq_true, decide_eq_true_eq]
    omega
  · simp only [isFormCode, Bool.or_eq_true, Bool.and_eq_true, decide_eq_true_eq]
    omega
  · obtain rfl : n = s.first := by omega
    exact code

/-- A table of cases gives code points that forms may have. -/
theorem isFormCode_of_shifted {table : List Shift}
    (lead : table.all Shift.leadsToForms = true) {n m : Nat} (h : shifted table n = some m) :
    isFormCode m = true := by
  obtain ⟨s, found, rfl⟩ := Option.map_eq_some_iff.1 h
  have leads := List.all_eq_true.1 lead s (List.mem_of_find?_eq_some found)
  exact Shift.isFormCode_of_contains leads (by simpa using List.find?_some found)

/-- A code point that forms may have is that of a letter if it is in ASCII. -/
theorem isAlpha_ofNat {n : Nat} (code : isFormCode n = true)
    (ascii : (Char.ofNat n).toNat < 0x80) : (Char.ofNat n).isAlpha = true := by
  have valid : n.isValidChar := by
    simp only [isFormCode, Bool.or_eq_true, Bool.and_eq_true, decide_eq_true_eq] at code
    unfold Nat.isValidChar
    omega
  rw [← toNat_ofNat valid] at code
  exact forall_ascii (P := fun c => isFormCode c.toNat = true → c.isAlpha = true)
    (by decide +kernel) ascii code

/-- What may stand for a character in camel case: a form of it in either case, one of which a sigma
has for the end of a word. -/
def IsFormOf (c d : Char) : Prop := d ∈ lowerForm c ∨ d ∈ upperForm c ∨ c = 'Σ' ∧ d = 'ς'

theorem lowerForm_ne_nil (c : Char) : lowerForm c ≠ [] := by
  unfold lowerForm
  split_ifs <;> simp

theorem upperForm_ne_nil (c : Char) : upperForm c ≠ [] := by
  unfold upperForm
  split_ifs
  · simp
  · split
    · rename_i codes found
      obtain ⟨front, back, split, -⟩ := List.lookup_eq_some_iff.1 found
      have entry := List.all_eq_true.1 upperExpansions_lead (c.toNat, codes) (by simp [split])
      simp only [Bool.and_eq_true, Bool.not_eq_true', List.isEmpty_eq_false_iff] at entry
      simpa using entry.1
    · simp

section Forms

variable {c d : Char}

theorem isAlpha_shifted {table : List Shift} (lead : table.all Shift.leadsToForms = true)
    (outside : ¬ c.toNat < 0x80)
    (ascii : (((shifted table c.toNat).map Char.ofNat).getD c).toNat < 0x80) :
    (((shifted table c.toNat).map Char.ofNat).getD c).isAlpha = true := by
  cases h : shifted table c.toNat with
  | none =>
    rw [h] at ascii
    exact absurd ascii outside
  | some m =>
    rw [h] at ascii
    exact isAlpha_ofNat (isFormCode_of_shifted lead h) ascii

/-- A form in ASCII of a character outside is a letter. -/
theorem IsFormOf.isAlpha (form : IsFormOf c d) (outside : ¬ c.toNat < 0x80)
    (ascii : d.toNat < 0x80) : d.isAlpha = true := by
  rcases form with lower | upper | ⟨-, rfl⟩
  · rw [lowerForm, if_neg outside] at lower
    split_ifs at lower
    · -- the dotted `İ`, whose dot is outside
      rcases List.mem_cons.1 lower with rfl | lower
      · rfl
      · obtain rfl := List.mem_singleton.1 lower
        exact absurd ascii (by decide)
    · obtain rfl := List.mem_singleton.1 lower
      exact isAlpha_shifted lowerShifts_lead outside ascii
  · rw [upperForm, if_neg outside] at upper
    split at upper
    · rename_i codes found
      obtain ⟨n, hn, rfl⟩ := List.mem_map.1 upper
      obtain ⟨front, back, split, -⟩ := List.lookup_eq_some_iff.1 found
      have entry := List.all_eq_true.1 upperExpansions_lead (c.toNat, codes) (by simp [split])
      exact isAlpha_ofNat (List.all_eq_true.1 (Bool.and_eq_true_iff.1 entry).2 n hn) ascii
    · obtain rfl := List.mem_singleton.1 upper
      exact isAlpha_shifted upperShifts_lead outside ascii
  · exact absurd ascii (by decide)

/-- The forms of a character of ASCII are those of the core library. -/
theorem IsFormOf.eq_of_ascii (form : IsFormOf c d) (ascii : c.toNat < 0x80) :
    d = c.toLower ∨ d = c.toUpper := by
  rcases form with lower | upper | ⟨rfl, -⟩
  · rw [lowerForm, if_pos ascii] at lower
    exact .inl (List.mem_singleton.1 lower)
  · rw [upperForm, if_pos ascii] at upper
    exact .inr (List.mem_singleton.1 upper)
  · exact absurd ascii (by decide)

/-- A digit has no other form. -/
theorem IsFormOf.eq_of_isDigit (form : IsFormOf c d) (digit : c.isDigit = true) : d = c := by
  obtain ⟨-, -, lower, upper⟩ := cases_of_isDigit digit
  rcases form.eq_of_ascii (toNat_lt_of_isDigit digit) with rfl | rfl
  · exact lower
  · exact upper

/-- A form in ASCII of a letter or number is a letter, or it is the digit itself. -/
theorem IsFormOf.ascii (form : IsFormOf c d) (word : isLetterOrNumber c = true)
    (ascii : d.toNat < 0x80) : d.isAlpha = true ∨ d.isDigit = true ∧ d = c := by
  by_cases outside : c.toNat < 0x80
  · rw [isLetterOrNumber_ascii outside, Char.isAlphanum, Bool.or_eq_true] at word
    rcases word with alpha | digit
    · obtain ⟨lower, upper⟩ := isAlpha_cases alpha
      rcases form.eq_of_ascii outside with rfl | rfl
      · exact .inl lower
      · exact .inl upper
    · obtain rfl := form.eq_of_isDigit digit
      exact .inr ⟨digit, rfl⟩
  · exact .inl (form.isAlpha outside ascii)

end Forms

/-! ## Words -/

theorem flatten_finishWord (current : List Char) :
    (finishWord current).flatten = current.reverse := by
  cases current <;> simp [finishWord]

theorem flatten_wordsFrom (seen : LetterCase) (current s : List Char) :
    (wordsFrom seen current s).flatten = current.reverse ++ s.filter isLetterOrNumber := by
  induction s generalizing seen current with
  | nil => rw [wordsFrom, flatten_finishWord, List.filter_nil, List.append_nil]
  | cons c rest ih =>
    rw [wordsFrom]
    cases word : isLetterOrNumber c with
    | false => simp [word, ih, flatten_finishWord]
    | true =>
      rw [List.filter_cons_of_pos word]
      simp only [Bool.not_true, Bool.false_eq_true, if_false]
      split_ifs <;> simp [ih, flatten_finishWord]

/-- Cutting a name into words keeps its letters and numbers and nothing else. -/
theorem flatten_words (s : String) : (words s).flatten = s.toList.filter isLetterOrNumber := by
  rw [words, flatten_wordsFrom, List.reverse_nil, List.nil_append]

theorem exists_form_of_mem_lowerWord {w : List Char} {d : Char} (h : d ∈ lowerWord w) :
    ∃ c ∈ w, IsFormOf c d := by
  induction w with
  | nil => exact absurd h List.not_mem_nil
  | cons c rest ih =>
    cases rest with
    | nil =>
      refine ⟨c, List.mem_singleton_self c, ?_⟩
      rw [lowerWord] at h
      split_ifs at h with sigma
      · exact .inr (.inr ⟨sigma, List.mem_singleton.1 h⟩)
      · exact .inl h
    | cons c' rest =>
      rw [lowerWord, List.mem_append] at h
      · rcases h with h | h
        · exact ⟨c, List.mem_cons_self, .inl h⟩
        · obtain ⟨a, ha, form⟩ := ih h
          exact ⟨a, List.mem_cons_of_mem c ha, form⟩
      · exact List.cons_ne_nil c' rest

theorem exists_form_of_mem_capitalize {w : List Char} {d : Char} (h : d ∈ capitalize w) :
    ∃ c ∈ w, IsFormOf c d := by
  cases w with
  | nil => exact absurd h List.not_mem_nil
  | cons c rest =>
    rw [capitalize, List.mem_append] at h
    rcases h with h | h
    · exact ⟨c, List.mem_cons_self, .inr (.inl h)⟩
    · obtain ⟨a, ha, form⟩ := exists_form_of_mem_lowerWord h
      exact ⟨a, List.mem_cons_of_mem c ha, form⟩

/-- The start of a list is a form of a character. -/
def StartsWithFormOf (c : Char) (l : List Char) : Prop := ∃ d rest, l = d :: rest ∧ IsFormOf c d

theorem StartsWithFormOf.append {c : Char} {l : List Char} (h : StartsWithFormOf c l)
    (l' : List Char) : StartsWithFormOf c (l ++ l') := by
  obtain ⟨d, rest, rfl, form⟩ := h
  exact ⟨d, rest ++ l', rfl, form⟩

theorem startsWithFormOf_lowerForm (c : Char) : StartsWithFormOf c (lowerForm c) := by
  obtain ⟨d, rest, split⟩ := List.exists_cons_of_ne_nil (lowerForm_ne_nil c)
  exact ⟨d, rest, split, .inl (split ▸ List.mem_cons_self)⟩

theorem startsWithFormOf_upperForm (c : Char) : StartsWithFormOf c (upperForm c) := by
  obtain ⟨d, rest, split⟩ := List.exists_cons_of_ne_nil (upperForm_ne_nil c)
  exact ⟨d, rest, split, .inr (.inl (split ▸ List.mem_cons_self))⟩

theorem startsWithFormOf_lowerWord (c : Char) (w : List Char) :
    StartsWithFormOf c (lowerWord (c :: w)) := by
  cases w with
  | nil =>
    rw [lowerWord]
    split_ifs with sigma
    · exact ⟨'ς', [], rfl, .inr (.inr ⟨sigma, rfl⟩)⟩
    · exact startsWithFormOf_lowerForm c
  | cons c' rest =>
    rw [lowerWord]
    · exact (startsWithFormOf_lowerForm c).append _
    · exact List.cons_ne_nil c' rest

theorem startsWithFormOf_capitalize (c : Char) (w : List Char) :
    StartsWithFormOf c (capitalize (c :: w)) :=
  (startsWithFormOf_upperForm c).append _

/-! ## Camel case -/

/-- A text is made of forms of the letters and numbers of a name and starts with one of the first of
them; it is empty if there are none. -/
structure IsCamelOf (s camel : String) : Prop where
  forms : ∀ d ∈ camel.toList, ∃ c ∈ s.toList, isLetterOrNumber c = true ∧ IsFormOf c d
  first : ∀ c, s.toList.find? isLetterOrNumber = some c → StartsWithFormOf c camel.toList
  empty : s.toList.find? isLetterOrNumber = none → camel = ""

variable {s camel : String}

/-- What is made of the words of a name, of all but the first in capitals, is a camel case. -/
theorem isCamelOf_of_words {first : List Char → List Char}
    (forms : ∀ w, ∀ d ∈ first w, ∃ c ∈ w, IsFormOf c d)
    (starts : ∀ c w, StartsWithFormOf c (first (c :: w)))
    (nothing : words s = [] → camel = "")
    (made : ∀ w ws, words s = w :: ws → camel.toList = first w ++ ws.flatMap capitalize) :
    IsCamelOf s camel := by
  have inside : ∀ w ∈ words s, ∀ c ∈ w, c ∈ s.toList ∧ isLetterOrNumber c = true := by
    intro w hw c hc
    have kept : c ∈ s.toList.filter isLetterOrNumber :=
      flatten_words s ▸ List.mem_flatten.2 ⟨w, hw, hc⟩
    exact List.mem_filter.1 kept
  have head : s.toList.find? isLetterOrNumber = (words s).flatten.head? := by
    rw [flatten_words, List.head?_filter]
  cases split : words s with
  | nil =>
    rw [split] at head
    obtain rfl := nothing split
    exact ⟨by simp, by simp [head], fun _ => rfl⟩
  | cons w ws =>
    have hcamel := made w ws split
    have hw : w ∈ wordsFrom .unset [] s.toList := by
      rw [← words, split]
      exact List.mem_cons_self
    obtain ⟨c, rest, rfl⟩ : ∃ c rest, w = c :: rest :=
      List.exists_cons_of_ne_nil (ne_nil_of_mem_wordsFrom hw)
    rw [split] at head inside
    refine ⟨?_, ?_, ?_⟩
    · intro d hd
      rw [hcamel, List.mem_append, List.mem_flatMap] at hd
      rcases hd with hd | ⟨v, hv, hd⟩
      · obtain ⟨a, ha, form⟩ := forms _ d hd
        obtain ⟨mem, word⟩ := inside _ List.mem_cons_self a ha
        exact ⟨a, mem, word, form⟩
      · obtain ⟨a, ha, form⟩ := exists_form_of_mem_capitalize hd
        obtain ⟨mem, word⟩ := inside v (List.mem_cons_of_mem _ hv) a ha
        exact ⟨a, mem, word, form⟩
    · intro a ha
      rw [head] at ha
      obtain rfl : c = a := by simpa using ha
      rw [hcamel]
      exact (starts c rest).append _
    · intro none
      rw [head] at none
      simp at none

theorem isCamelOf_lowerCamel (s : String) : IsCamelOf s (lowerCamel s) :=
  isCamelOf_of_words (fun _ _ => exists_form_of_mem_lowerWord) startsWithFormOf_lowerWord
    (fun nothing => by rw [lowerCamel, nothing])
    (fun w ws split => by rw [lowerCamel, split, String.toList_ofList])

theorem isCamelOf_upperCamel (s : String) : IsCamelOf s (upperCamel s) :=
  isCamelOf_of_words (fun _ _ => exists_form_of_mem_capitalize) startsWithFormOf_capitalize
    (fun nothing => by rw [upperCamel, nothing]; rfl)
    (fun w ws split => by rw [upperCamel, split, String.toList_ofList, List.flatMap_cons])

/-- In ASCII, camel case has letters and digits only. -/
theorem IsCamelOf.isAlphanum (h : IsCamelOf s camel) {d : Char} (hd : d ∈ camel.toList)
    (ascii : d.toNat < 0x80) : d.isAlphanum = true := by
  obtain ⟨c, -, word, form⟩ := h.forms d hd
  rw [Char.isAlphanum, Bool.or_eq_true]
  exact (form.ascii word ascii).imp_right And.left

theorem IsCamelOf.notMem (h : IsCamelOf s camel) {d : Char} (ascii : d.toNat < 0x80)
    (other : d.isAlphanum = false) : d ∉ camel.toList := by
  intro hd
  rw [h.isAlphanum hd ascii] at other
  cases other

end SchemaForge.Text
