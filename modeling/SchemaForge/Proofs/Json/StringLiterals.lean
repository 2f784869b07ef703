import Mathlib.Data.List.Basic
import Mathlib.Tactic.SplitIfs
import SchemaForge.Json.Printer
import SchemaForge.Json.Reader

/-!
# String literals and what they spell

A string is printed as a literal that the reader takes for this string, whatever its characters
(`Json.unquoted?_quoted`).  Between quotes and otherwise as it is, it spells itself only if nothing
in it has to be escaped (`Json.unquoted?_bare_iff`): reading never gives more characters than there
are, and as many only where each stands for itself (`Reader.ReadsString.length_le`,
`Reader.ReadsString.plain_of_length_eq`).
-/

namespace SchemaForge

/-- A character that stands for itself in a string literal. -/
def Json.IsPlain (c : Char) : Prop := c ≠ '"' ∧ c ≠ '\\' ∧ 0x20 ≤ c.toNat

instance (c : Char) : Decidable (Json.IsPlain c) := inferInstanceAs (Decidable (_ ∧ _))

namespace Reader

/-- Behind its opening quote a literal is read as `cs`, and `rest` is left. -/
def ReadsString (s cs rest : List Char) : Prop :=
  ∃ r : Rest s, readString s = .ok (cs, r) ∧ r.val = rest

namespace ReadsString

variable {s cs rest : List Char} {c : Char}

/-! ## How literals are read -/

theorem close (rest : List Char) : ReadsString ('"' :: rest) [] rest :=
  ⟨_, by rw [readString], rfl⟩

theorem plain (h : Json.IsPlain c) (reads : ReadsString s cs rest) :
    ReadsString (c :: s) (c :: cs) rest := by
  obtain ⟨r, read, rfl⟩ := reads
  obtain ⟨quote, backslash, visible⟩ := h
  refine ⟨r.within (Nat.le_succ _), ?_, rfl⟩
  rw [readString]
  · rw [if_neg (Nat.not_lt.2 visible), read]
  · exact quote
  · exact backslash

theorem escape {left : List Char} {r : Rest s} (h : readEscape s = .ok (c, r))
    (behind : r.val = left) (reads : ReadsString left cs rest) :
    ReadsString ('\\' :: s) (c :: cs) rest := by
  subst behind
  obtain ⟨r', read, rfl⟩ := reads
  refine ⟨r'.within ?_, ?_, rfl⟩
  · exact Nat.le_of_lt (Nat.lt_trans r.property (Nat.lt_succ_self _))
  · rw [readString, h]
    simp only [read]

/-- A string is read as its end, a character or an escape, and in no other way. -/
theorem ways (reads : ReadsString s cs rest) :
    s = '"' :: rest ∧ cs = [] ∨
      (∃ c s' cs', s = c :: s' ∧ cs = c :: cs' ∧ Json.IsPlain c ∧ ReadsString s' cs' rest) ∨
      ∃ c s' cs', ∃ r : Rest s', s = '\\' :: s' ∧ cs = c :: cs' ∧
        readEscape s' = .ok (c, r) ∧ ReadsString r.val cs' rest := by
  obtain ⟨r, read, rfl⟩ := reads
  rw [readString.eq_def] at read
  split at read
  · cases read
  · cases read
    exact .inl ⟨rfl, rfl⟩
  · split at read
    · cases read
    · rename_i s' _ c r' escaped
      split at read
      · cases read
      · rename_i read'
        cases read
        exact .inr (.inr ⟨_, _, _, _, rfl, rfl, escaped, _, read', rfl⟩)
  · rename_i c s' quote backslash
    split at read
    · cases read
    · rename_i visible
      split at read
      · cases read
      · rename_i read'
        cases read
        exact .inr (.inl ⟨_, _, _, rfl, rfl, ⟨by simpa using quote, by simpa using backslash,
          Nat.not_lt.1 visible⟩, _, read', rfl⟩)

/-! ## Lengths -/

/-- A literal has a character for each that is read, and its quote. -/
theorem length_le (reads : ReadsString s cs rest) : cs.length + 1 + rest.length ≤ s.length := by
  induction cs generalizing s with
  | nil =>
    rcases reads.ways with ⟨rfl, -⟩ | ⟨_, _, _, -, h, -⟩ | ⟨_, _, _, _, -, h, -⟩
    · simp [Nat.add_comm]
    · cases h
    · cases h
  | cons c cs ih =>
    rcases reads.ways with ⟨-, h⟩ | ⟨_, s', _, rfl, h, -, reads'⟩ | ⟨_, s', _, r, rfl, h, -, reads'⟩
    · cases h
    · cases h
      have inner := ih reads'
      simp only [List.length_cons]
      omega
    · cases h
      have inner := ih reads'
      have shorter := r.property
      simp only [List.length_cons]
      omega

/-- If a literal is not longer than that, every character in it stands for itself. -/
theorem plain_of_length_eq (reads : ReadsString s cs rest)
    (same : s.length = cs.length + 1 + rest.length) : ∀ c ∈ cs, Json.IsPlain c := by
  induction cs generalizing s with
  | nil => exact fun _ h => absurd h List.not_mem_nil
  | cons c cs ih =>
    rcases reads.ways with ⟨-, h⟩ | ⟨_, s', _, rfl, h, plain, reads'⟩ |
      ⟨_, s', _, r, rfl, h, -, reads'⟩
    · cases h
    · cases h
      simp only [List.length_cons] at same
      exact List.forall_mem_cons.2 ⟨plain, ih reads' (by omega)⟩
    · -- an escape has at least one character more than it stands for
      cases h
      have inner := reads'.length_le
      have shorter := r.property
      simp only [List.length_cons] at same
      omega

/-! ## Escaping -/

theorem hexValue?_hexDigit : ∀ n < 16, hexValue? (Json.hexDigit n) = some n := by decide

/-- The long escape of a control character is read as this character. -/
theorem readEscape_control (control : c.toNat < 0x20) (s : List Char) :
    ∃ r, readEscape ('u' :: '0' :: '0' :: Json.hexDigit (c.toNat / 16)
      :: Json.hexDigit (c.toNat % 16) :: s) = .ok (c, r) ∧ r.val = s := by
  have zero : hexValue? '0' = some 0 := rfl
  have high := hexValue?_hexDigit (c.toNat / 16) (by omega)
  have low := hexValue?_hexDigit (c.toNat % 16) (by omega)
  have value : ((0 * 16 + 0) * 16 + c.toNat / 16) * 16 + c.toNat % 16 = c.toNat := by omega
  have noLow : isLowSurrogate c.toNat = false := by
    rw [isLowSurrogate, Bool.and_eq_false_iff, decide_eq_false_iff_not]
    exact .inl (by omega)
  have noHigh : isHighSurrogate c.toNat = false := by
    rw [isHighSurrogate, Bool.and_eq_false_iff, decide_eq_false_iff_not]
    exact .inl (by omega)
  refine ⟨⟨s, by simp; omega⟩, ?_, rfl⟩
  rw [readEscape]
  simp only [hexQuad, zero, high, low, value, noLow, noHigh, Bool.false_eq_true, if_false,
    Char.ofNat_toNat]
  rfl

/-- Whatever a character is printed as is read as this character. -/
theorem escapeChar (c : Char) (reads : ReadsString s cs rest) :
    ReadsString (Json.escapeChar c ++ s) (c :: cs) rest := by
  unfold Json.escapeChar
  split_ifs with quote backslash newline carriage tab back feed control
  · subst quote
    exact .escape rfl rfl reads
  · subst backslash
    exact .escape rfl rfl reads
  · subst newline
    exact .escape rfl rfl reads
  · subst carriage
    exact .escape rfl rfl reads
  · subst tab
    exact .escape rfl rfl reads
  · subst back
    exact .escape rfl rfl reads
  · subst feed
    exact .escape rfl rfl reads
  · obtain ⟨r, read, behind⟩ := readEscape_control control s
    exact .escape read behind reads
  · exact .plain ⟨quote, backslash, Nat.not_lt.1 control⟩ reads

/-- Printed characters are read as they were, up to the quote behind them. -/
theorem flatMap_escapeChar (cs rest : List Char) :
    ReadsString (cs.flatMap Json.escapeChar ++ '"' :: rest) cs rest := by
  induction cs with
  | nil => exact .close rest
  | cons c cs ih =>
    rw [List.flatMap_cons, List.append_assoc]
    exact .escapeChar c ih

end ReadsString

end Reader

namespace Json

variable {literal s : String}

/-! ## Whole literals -/

/-- The string that a literal spells, if the text is one. -/
def unquoted? (literal : String) : Option String :=
  match literal.toList with
  | '"' :: body =>
    match Reader.readString body with
    | .ok (cs, r) => if r.val.isEmpty then some (String.ofList cs) else none
    | .error _ => none
  | _ => none

theorem unquoted?_eq_some_iff :
    unquoted? literal = some s ↔
      ∃ body, literal.toList = '"' :: body ∧ Reader.ReadsString body s.toList [] := by
  rw [unquoted?]
  constructor
  · intro h
    split at h
    · rename_i body opened
      split at h
      · rename_i cs r read
        rw [Option.ite_none_right_eq_some] at h
        obtain ⟨closed, h⟩ := h
        cases h
        rw [String.toList_ofList]
        exact ⟨body, opened, r, read, List.isEmpty_iff.1 closed⟩
      · cases h
    · cases h
  · rintro ⟨body, opened, r, read, closed⟩
    rw [opened]
    simp only [read, closed, List.isEmpty_nil, if_true, String.ofList_toList]

/-- The literal of a string spells it. -/
@[simp] theorem unquoted?_quoted (s : String) : unquoted? (quoted s) = some s := by
  refine unquoted?_eq_some_iff.2 ⟨s.toList.flatMap escapeChar ++ ['"'], ?_, ?_⟩
  · rw [quoted, String.toList_ofList, List.cons_append]
  · exact .flatMap_escapeChar s.toList []

/-- A string between quotes is its literal if nothing in it has to be escaped. -/
theorem quoted_of_plain (plain : ∀ c ∈ s.toList, IsPlain c) : quoted s = "\"" ++ s ++ "\"" := by
  have itself : ∀ c ∈ s.toList, escapeChar c = [c] := by
    intro c hc
    obtain ⟨quote, backslash, visible⟩ := plain c hc
    have other : ∀ d : Char, d.toNat < 0x20 → c ≠ d := by
      rintro d control rfl
      omega
    rw [escapeChar, if_neg quote, if_neg backslash, if_neg (other _ (by decide)),
      if_neg (other _ (by decide)), if_neg (other _ (by decide)), if_neg (other _ (by decide)),
      if_neg (other _ (by decide)), if_neg (Nat.not_lt.2 visible)]
  have kept : s.toList.flatMap escapeChar = s.toList := by
    rw [List.flatMap_congr itself, List.flatMap_singleton']
  apply String.toList_injective
  rw [quoted, kept, String.toList_ofList, String.toList_append, String.toList_append]
  rfl

/-- A string between quotes spells itself exactly if nothing in it has to be escaped. -/
theorem unquoted?_bare_iff :
    unquoted? ("\"" ++ s ++ "\"") = some s ↔ ∀ c ∈ s.toList, IsPlain c := by
  constructor
  · intro h
    obtain ⟨body, opened, reads⟩ := unquoted?_eq_some_iff.1 h
    have characters : body = s.toList ++ ['"'] := by
      rw [String.toList_append, String.toList_append] at opened
      exact (List.cons.inj opened).2.symm
    refine reads.plain_of_length_eq ?_
    rw [characters, List.length_append]
    rfl
  · intro plain
    rw [← quoted_of_plain plain, unquoted?_quoted]

/-- The letter behind a backslash is read as an escape. -/
example : unquoted? "\"a\\nb\"" = some "a\nb" ∧ unquoted? "\"a\"b\"" = none := by cbv

end Json

end SchemaForge
