import SchemaForge.Proofs.Text.CamelCase
import SchemaForge.Proofs.Text.FreeNames
import SchemaForge.Proofs.Text.Literals

/-!
# Identifiers

An identifier is not empty, starts with a letter, `_` or `$` and goes on with letters, digits, `_`
and `$`.  Which characters outside of ASCII are letters or digits is left open (`Alphabet`): what is
said here holds if there are none, and if there are those of Unicode.

* What may stand in an identifier may be put behind one, and nothing but an empty start makes more
  of it (`Alphabet.isIdentifier_append_iff`).  So a number behind a name, which makes it free,
  decides nothing (`Alphabet.forall_isIdentifier_freeNames_iff`).
* Camel case makes an identifier of every name whose first letter or number is no digit, as far as
  its letters are in the alphabet (`Alphabet.isIdentifier_camel_iff`).  It takes nothing away from
  the start of a name but what is neither, so `2nd-factor` stays with its `2`.
-/

namespace SchemaForge.Text

/-- Which characters are letters and which are digits: in ASCII the usual ones. -/
structure Alphabet where
  isLetter : Char → Bool
  isDigit : Char → Bool
  isLetter_ascii : ∀ c, c.toNat < 0x80 → isLetter c = c.isAlpha
  isDigit_ascii : ∀ c, c.toNat < 0x80 → isDigit c = c.isDigit

namespace Alphabet

/-- No letters and digits but those of ASCII. -/
def ascii : Alphabet := ⟨Char.isAlpha, Char.isDigit, fun _ _ => rfl, fun _ _ => rfl⟩

variable (a : Alphabet)

/-- An identifier may start with the character. -/
def starts (c : Char) : Bool := a.isLetter c || c == '_' || c == '$'

/-- An identifier may go on with the character. -/
def continues (c : Char) : Bool := a.starts c || a.isDigit c

/-- A text that is an identifier. -/
def IsIdentifier (s : String) : Prop :=
  ∃ c rest, s.toList = c :: rest ∧ a.starts c = true ∧ rest.all a.continues = true

variable {a : Alphabet} {s t : String}

theorem continues_of_starts {c : Char} (h : a.starts c = true) : a.continues c = true := by
  rw [continues, h, Bool.true_or]

theorem starts_of_isAlpha {c : Char} (h : c.isAlpha = true) : a.starts c = true := by
  rw [starts, a.isLetter_ascii c (toNat_lt_of_isAlpha h), h, Bool.true_or, Bool.true_or]

theorem continues_of_isAlphanum {c : Char} (h : c.isAlphanum = true) : a.continues c = true := by
  have ascii := toNat_lt_of_isAlphanum h
  rw [Char.isAlphanum, Bool.or_eq_true] at h
  rcases h with alpha | digit
  · exact continues_of_starts (starts_of_isAlpha alpha)
  · rw [continues, a.isDigit_ascii c ascii, digit, Bool.or_true]

/-- Letters and digits of ASCII may stand in every identifier. -/
theorem all_continues_of_isAlphanum (word : s.toList.all Char.isAlphanum = true) :
    s.toList.all a.continues = true := by
  rw [List.all_eq_true] at word ⊢
  exact fun c hc => continues_of_isAlphanum (word c hc)

/-- No identifier starts with a digit of ASCII. -/
theorem starts_of_isDigit {c : Char} (h : c.isDigit = true) : a.starts c = false := by
  have range := toNat_of_isDigit h
  have other : ∀ d : Char, d.toNat < 0x30 ∨ 0x39 < d.toNat → (c == d) = false := by
    intro d outside
    rw [beq_eq_false_iff_ne]
    rintro rfl
    omega
  rw [starts, a.isLetter_ascii c (by omega), (cases_of_isDigit h).1, other '_' (.inr (by decide)),
    other '$' (.inl (by decide))]
  rfl

/-! ## Putting texts behind an identifier -/

theorem not_isIdentifier_empty : ¬ a.IsIdentifier "" := by
  rintro ⟨c, rest, nothing, -⟩
  cases nothing

theorem not_isIdentifier_of_isDigit (first : s.toList.head?.any Char.isDigit = true) :
    ¬ a.IsIdentifier s := by
  rintro ⟨c, rest, split, start, -⟩
  rw [split, List.head?_cons, Option.any_some] at first
  rw [starts_of_isDigit first] at start
  cases start

/-- The smallest alphabet decides. -/
instance : Decidable (ascii.IsIdentifier s) :=
  decidable_of_iff
    (s.toList.head?.any ascii.starts = true ∧ s.toList.tail.all ascii.continues = true)
    (by unfold IsIdentifier; cases s.toList <;> simp)

/-- What is an identifier without other letters is one with them. -/
theorem IsIdentifier.of_ascii (h : ascii.IsIdentifier s) : a.IsIdentifier s := by
  have starts (c : Char) (hc : ascii.starts c = true) : a.starts c = true := by
    rw [Alphabet.starts, Bool.or_assoc, Bool.or_eq_true] at hc
    rcases hc with letter | sign
    · exact starts_of_isAlpha letter
    · rw [Alphabet.starts, Bool.or_assoc, sign, Bool.or_true]
  have continues (c : Char) (hc : ascii.continues c = true) : a.continues c = true := by
    rw [Alphabet.continues, Bool.or_eq_true] at hc
    rcases hc with start | digit
    · exact continues_of_starts (starts c start)
    · exact continues_of_isAlphanum (by rw [Char.isAlphanum, show c.isDigit = true from digit,
        Bool.or_true])
  obtain ⟨c, rest, split, start, all⟩ := h
  rw [List.all_eq_true] at all
  exact ⟨c, rest, split, starts c start, List.all_eq_true.2 fun d hd => continues d (all d hd)⟩

theorem IsIdentifier.all (h : a.IsIdentifier s) : s.toList.all a.continues = true := by
  obtain ⟨c, rest, split, start, others⟩ := h
  rw [split, List.all_cons, continues_of_starts start, others]
  rfl

/-- A text behind a name is of no account unless the name is empty. -/
theorem isIdentifier_append_iff (tail : t.toList.all a.continues = true) :
    a.IsIdentifier (s ++ t) ↔ a.IsIdentifier s ∨ s = "" ∧ a.IsIdentifier t := by
  unfold IsIdentifier
  rw [String.toList_append]
  cases split : s.toList with
  | nil =>
    obtain rfl := String.toList_eq_nil_iff.1 split
    simp
  | cons c rest =>
    have nonempty : s ≠ "" := by
      rintro rfl
      cases split
    simp only [List.cons_append, List.cons.injEq, nonempty, false_and, or_false]
    constructor
    · rintro ⟨_, _, ⟨rfl, rfl⟩, start, all⟩
      rw [List.all_append, Bool.and_eq_true] at all
      exact ⟨c, rest, ⟨rfl, rfl⟩, start, all.1⟩
    · rintro ⟨_, _, ⟨rfl, rfl⟩, start, all⟩
      exact ⟨c, _, ⟨rfl, rfl⟩, start, by rw [List.all_append, all, tail]; rfl⟩

theorem IsIdentifier.append (h : a.IsIdentifier s) (tail : t.toList.all a.continues = true) :
    a.IsIdentifier (s ++ t) :=
  (isIdentifier_append_iff tail).2 (.inl h)

theorem all_continues_toString (n : Nat) : (toString n).toList.all a.continues = true := by
  refine all_continues_of_isAlphanum (List.all_eq_true.2 fun c hc => ?_)
  rw [Char.isAlphanum, isDigit_of_mem_toString hc, Bool.or_true]

/-- A number is no identifier. -/
theorem not_isIdentifier_toString (n : Nat) : ¬ a.IsIdentifier (toString n) := by
  intro identifier
  refine not_isIdentifier_of_isDigit ?_ identifier
  obtain ⟨c, rest, split, -⟩ := identifier
  rw [split, List.head?_cons, Option.any_some]
  exact isDigit_of_mem_toString (n := n) (by rw [split]; exact List.mem_cons_self)

/-- A number behind a name is of no account. -/
theorem isIdentifier_freeName_iff (base : String) (used : List String) :
    a.IsIdentifier (freeName base used) ↔ a.IsIdentifier base := by
  by_cases taken : base ∈ used
  · obtain ⟨n, hn⟩ := exists_freeNumber? base used
    have free : freeName base used = base ++ toString n := by
      simp [freeName, taken, hn, numbered]
    rw [free, isIdentifier_append_iff (all_continues_toString n)]
    exact or_iff_left fun h => absurd h.2 (not_isIdentifier_toString n)
  · rw [freeName_of_notMem taken]

/-- Free names are identifiers if the names are that they are made from. -/
theorem forall_isIdentifier_freeNames_iff (bases used : List String) :
    (∀ n ∈ freeNames bases used, a.IsIdentifier n) ↔ ∀ base ∈ bases, a.IsIdentifier base := by
  induction bases generalizing used with
  | nil => simp [freeNames]
  | cons base rest ih =>
    rw [freeNames, List.forall_mem_cons, List.forall_mem_cons, isIdentifier_freeName_iff, ih]

/-! ## Camel case -/

variable {camel : String}

/-- A name whose camel case is an identifier. -/
structure CamelFits (a : Alphabet) (s camel : String) : Prop where
  /-- The first of its letters and numbers is no digit of ASCII. -/
  first : ∃ c, s.toList.find? isLetterOrNumber = some c ∧ c.isDigit = false
  /-- What camel case has outside of ASCII is in the alphabet. -/
  outside : ∀ d ∈ camel.toList, ¬ d.toNat < 0x80 → a.continues d = true
  /-- Where camel case starts outside of ASCII, it starts with a letter. -/
  outside_first : ∀ d, camel.toList.head? = some d → ¬ d.toNat < 0x80 → a.starts d = true

theorem isIdentifier_camel_iff (h : IsCamelOf s camel) :
    a.IsIdentifier camel ↔ a.CamelFits s camel := by
  constructor
  · intro identifier
    have all := identifier.all
    obtain ⟨d, rest, split, start, -⟩ := identifier
    refine ⟨?_, ?_, ?_⟩
    · cases found : s.toList.find? isLetterOrNumber with
      | none =>
        rw [h.empty found] at split
        cases split
      | some c =>
        obtain ⟨d', rest', split', form⟩ := h.first c found
        obtain ⟨rfl, -⟩ := List.cons.inj (split'.symm.trans split)
        refine ⟨c, rfl, ?_⟩
        by_contra digit
        rw [Bool.not_eq_false] at digit
        obtain rfl := form.eq_of_isDigit digit
        rw [starts_of_isDigit digit] at start
        cases start
    · intro e he _
      exact List.all_eq_true.1 all e he
    · intro e he _
      rw [split, List.head?_cons, Option.some.injEq] at he
      exact he ▸ start
  · rintro ⟨⟨c, found, letter⟩, outside, outside_first⟩
    obtain ⟨d, rest, split, form⟩ := h.first c found
    refine ⟨d, rest, split, ?_, ?_⟩
    · by_cases ascii : d.toNat < 0x80
      · rcases form.ascii (List.find?_some found) ascii with alpha | ⟨digit, rfl⟩
        · exact starts_of_isAlpha alpha
        · rw [letter] at digit
          cases digit
      · exact outside_first d (by rw [split, List.head?_cons]) ascii
    · rw [List.all_eq_true]
      intro e he
      have mem : e ∈ camel.toList := by rw [split]; exact List.mem_cons_of_mem d he
      by_cases ascii : e.toNat < 0x80
      · exact continues_of_isAlphanum (h.isAlphanum mem ascii)
      · exact outside e mem ascii

theorem isIdentifier_lowerCamel_iff (s : String) :
    a.IsIdentifier (lowerCamel s) ↔ a.CamelFits s (lowerCamel s) :=
  isIdentifier_camel_iff (isCamelOf_lowerCamel s)

theorem isIdentifier_upperCamel_iff (s : String) :
    a.IsIdentifier (upperCamel s) ↔ a.CamelFits s (upperCamel s) :=
  isIdentifier_camel_iff (isCamelOf_upperCamel s)

end Alphabet

end SchemaForge.Text
