import Mathlib.Data.List.Basic
import SchemaForge.Text.SingleQuoted

/-!
# Code with literals in it

The text of a program is code with single-quoted literals in it.  `literalsIn` reads it from the
left: outside of literals every character but a single quote is code, and a literal goes up to the
first quote that no backslash protects.

`Spells` says what a text is put together from.  Such a text reads as just the literals that went
into it, with the texts that they were made from (`Spells.literalsIn_eq`): none of them ends early
and none is left open, whatever these texts are.  A character that neither the code nor the escaping
has, a line break say, occurs in it as often as in these texts (`Spells.count_eq`).

Escaping is one pass here; it does what two replacements do one after the other, backslashes before
quotes (`escapeQuotes_eq_protect`).
-/

namespace SchemaForge.Text

/-! ## Escaping as replacements -/

/-- The characters with a backslash before each one that is the given one. -/
def protect (c : Char) (s : List Char) : List Char :=
  s.flatMap fun d => if d = c then ['\\', d] else [d]

/-- Escaping protects the backslashes and then the quotes.  The backslashes that the second step
puts in are not seen by the first. -/
theorem escapeQuotes_eq_protect (s : List Char) :
    escapeQuotes s = protect '\'' (protect '\\' s) := by
  induction s with
  | nil => rfl
  | cons c rest ih =>
    unfold protect at ih ⊢
    rw [escapeQuotes, List.flatMap_cons, List.flatMap_append, ← ih]
    by_cases backslash : c = '\\'
    · simp [backslash]
    · by_cases quote : c = '\''
      · simp [quote]
      · simp [backslash, quote]

example : protect '\\' (protect '\'' ['\'']) = ['\\', '\\', '\''] := by decide

/-- Escaping leaves all other characters as they are. -/
theorem count_escapeQuotes {b : Char} (backslash : b ≠ '\\') (quote : b ≠ '\'') (s : List Char) :
    (escapeQuotes s).count b = s.count b := by
  induction s with
  | nil => rfl
  | cons c rest ih =>
    rw [escapeQuotes]
    split_ifs with escaped
    · have other : c ≠ b := by
        rintro rfl
        exact escaped.elim backslash quote
      rw [List.count_cons_of_ne backslash.symm, List.count_cons_of_ne other, ih,
        List.count_cons_of_ne other]
    · rw [List.count_cons, List.count_cons, ih]

theorem toList_singleQuoted (s : String) :
    (singleQuoted s).toList = '\'' :: (escapeQuotes s.toList ++ ['\'']) := by
  rw [singleQuoted, String.toList_ofList, List.cons_append]

/-- The scan of a literal stops at its last character and gives back the text. -/
theorem exists_scanQuoted_singleQuoted (s : String) :
    ∃ body, (singleQuoted s).toList = '\'' :: body ∧ scanQuoted body = some (s.toList, []) :=
  ⟨escapeQuotes s.toList ++ ['\''], toList_singleQuoted s, scanQuoted_escapeQuotes s.toList []⟩

/-- Different texts have different literals. -/
theorem singleQuoted_injective : Function.Injective singleQuoted := by
  intro s t same
  obtain ⟨body, quoted, scanned⟩ := exists_scanQuoted_singleQuoted s
  obtain ⟨body', quoted', scanned'⟩ := exists_scanQuoted_singleQuoted t
  rw [same, quoted', List.cons.injEq] at quoted
  rw [← quoted.2, scanned', Option.some.injEq, Prod.mk.injEq] at scanned
  exact String.toList_inj.1 scanned.1.symm

/-! ## Reading code -/

theorem length_lt_of_scanQuoted {l s behind : List Char} (h : scanQuoted l = some (s, behind)) :
    behind.length < l.length := by
  induction l using scanQuoted.induct generalizing s with
  | case1 => cases h
  | case2 => cases h
  | case3 c rest ih =>
    rw [scanQuoted] at h
    obtain ⟨r, hr, same⟩ := Option.map_eq_some_iff.1 h
    cases same
    have shorter := ih hr
    simp only [List.length_cons]
    omega
  | case4 rest =>
    rw [scanQuoted.eq_4 _ _ (by simp) (by simp), if_pos rfl] at h
    cases h
    simp
  | case5 c rest ends escapes other ih =>
    rw [scanQuoted.eq_4 _ _ ends escapes, if_neg other] at h
    obtain ⟨r, hr, same⟩ := Option.map_eq_some_iff.1 h
    cases same
    have shorter := ih hr
    simp only [List.length_cons]
    omega

/-- The texts of the literals in code, in their order; `none` if the last one is left open. -/
def literalsIn : List Char → Option (List String)
  | [] => some []
  | c :: rest =>
    if c = '\'' then
      match _scanned : scanQuoted rest with
      | none => none
      | some (s, behind) => (literalsIn behind).map (String.ofList s :: ·)
    else literalsIn rest
  termination_by l => l.length
  decreasing_by
    · exact Nat.lt_succ_of_lt (length_lt_of_scanQuoted _scanned)
    · exact Nat.lt_succ_self rest.length

theorem literalsIn_cons_of_ne {c : Char} (other : c ≠ '\'') (rest : List Char) :
    literalsIn (c :: rest) = literalsIn rest := by
  rw [literalsIn, if_neg other]

/-- A literal is read up to its end, whatever text it was made from and whatever follows. -/
theorem literalsIn_singleQuoted (s : String) (rest : List Char) :
    literalsIn ((singleQuoted s).toList ++ rest) = (literalsIn rest).map (s :: ·) := by
  rw [toList_singleQuoted, List.cons_append, List.append_assoc, List.singleton_append, literalsIn,
    if_pos rfl]
  split
  · rename_i open'
    rw [scanQuoted_escapeQuotes] at open'
    cases open'
  · rename_i t behind scanned
    rw [scanQuoted_escapeQuotes] at scanned
    cases scanned
    rw [String.ofList_toList]

/-! ## Counting in texts -/

/-- How often a character stands in some texts. -/
def countIn (b : Char) (texts : List String) : Nat := (texts.flatMap String.toList).count b

@[simp] theorem countIn_nil (b : Char) : countIn b [] = 0 := rfl

@[simp] theorem countIn_cons (b : Char) (text : String) (texts : List String) :
    countIn b (text :: texts) = text.toList.count b + countIn b texts := by
  rw [countIn, List.flatMap_cons, List.count_append, countIn]

@[simp] theorem countIn_append (b : Char) (texts texts' : List String) :
    countIn b (texts ++ texts') = countIn b texts + countIn b texts' := by
  rw [countIn, List.flatMap_append, List.count_append, countIn, countIn]

theorem countIn_eq_zero_iff {b : Char} {texts : List String} :
    countIn b texts = 0 ↔ ∀ s ∈ texts, b ∉ s.toList := by
  simp [countIn, List.count_eq_zero]

/-! ## What a text is made of -/

/-- A text is put together from code, whose characters the condition allows, and from literals for
the given texts. -/
inductive Spells (allowed : Char → Bool) : String → List String → Prop
  | code {s : String} (plain : s.toList.all allowed = true) : Spells allowed s []
  | literal (s : String) : Spells allowed (singleQuoted s) [s]
  | append {s s' : String} {texts texts' : List String} (first : Spells allowed s texts)
      (second : Spells allowed s' texts') : Spells allowed (s ++ s') (texts ++ texts')

namespace Spells

variable {allowed : Char → Bool} {s s' : String} {texts texts' : List String}

theorem append_code (spells : Spells allowed s texts) (plain : s'.toList.all allowed = true) :
    Spells allowed (s ++ s') texts := by
  simpa using spells.append (.code plain)

theorem code_append (plain : s.toList.all allowed = true) (spells : Spells allowed s' texts) :
    Spells allowed (s ++ s') texts :=
  (Spells.code plain).append spells

/-- More characters may be allowed. -/
theorem mono {allowed' : Char → Bool} (more : ∀ c, allowed c = true → allowed' c = true)
    (spells : Spells allowed s texts) : Spells allowed' s texts := by
  induction spells with
  | code plain =>
    refine .code (List.all_eq_true.2 ?_)
    intro c hc
    exact more c (List.all_eq_true.1 plain c hc)
  | literal s => exact .literal s
  | append _ _ first second => exact first.append second

section lists

variable {α : Type} {render : α → String} {textsOf : α → List String} {l : List α}

theorem join (each : ∀ a ∈ l, Spells allowed (render a) (textsOf a)) :
    Spells allowed (String.join (l.map render)) (l.flatMap textsOf) := by
  induction l with
  | nil => exact .code rfl
  | cons a rest ih =>
    rw [List.map_cons, String.join_cons, List.flatMap_cons]
    exact (each a List.mem_cons_self).append
      (ih fun b hb => each b (List.mem_cons_of_mem a hb))

theorem intercalate {between : String} (plain : between.toList.all allowed = true)
    (each : ∀ a ∈ l, Spells allowed (render a) (textsOf a)) :
    Spells allowed (String.intercalate between (l.map render)) (l.flatMap textsOf) := by
  induction l with
  | nil => exact .code rfl
  | cons a rest ih =>
    have first := each a List.mem_cons_self
    have others := ih fun b hb => each b (List.mem_cons_of_mem a hb)
    cases rest with
    | nil => simpa [String.intercalate_singleton] using first
    | cons b rest =>
      rw [List.map_cons, List.map_cons, String.intercalate_cons_cons, List.flatMap_cons]
      exact (first.append_code plain).append others

end lists

/-- Reading finds the literals that went into a text and goes on behind it. -/
theorem literalsIn_append (code : allowed '\'' = false) (spells : Spells allowed s texts)
    (rest : List Char) : literalsIn (s.toList ++ rest) = (literalsIn rest).map (texts ++ ·) := by
  induction spells generalizing rest with
  | @code s plain =>
    have unquoted : ∀ l : List Char, l.all allowed = true →
        literalsIn (l ++ rest) = literalsIn rest := by
      intro l plain
      induction l with
      | nil => rfl
      | cons c l ih =>
        rw [List.all_cons, Bool.and_eq_true] at plain
        have other : c ≠ '\'' := by
          rintro rfl
          exact absurd plain.1 (by simp [code])
        rw [List.cons_append, literalsIn_cons_of_ne other, ih plain.2]
    simp [unquoted s.toList plain]
  | literal s => exact literalsIn_singleQuoted s rest
  | append _ _ first second =>
    rw [String.toList_append, List.append_assoc, first, second, Option.map_map]
    simp [Function.comp_def]

theorem literalsIn_eq (code : allowed '\'' = false) (spells : Spells allowed s texts) :
    literalsIn s.toList = some texts := by
  simpa [literalsIn] using spells.literalsIn_append code []

/-- What neither code nor escaping has comes from the texts of the literals. -/
theorem count_eq {b : Char} (code : allowed b = false) (backslash : b ≠ '\\') (quote : b ≠ '\'')
    (spells : Spells allowed s texts) : s.toList.count b = countIn b texts := by
  induction spells with
  | code plain =>
    rw [countIn_nil, List.count_eq_zero]
    intro hb
    exact absurd (List.all_eq_true.1 plain b hb) (by simp [code])
  | literal s =>
    rw [toList_singleQuoted, List.count_cons_of_ne quote.symm, List.count_append,
      count_escapeQuotes backslash quote]
    simp [quote.symm]
  | append _ _ first second =>
    rw [String.toList_append, List.count_append, first, second, countIn_append]

end Spells

end SchemaForge.Text
