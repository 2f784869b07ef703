import SchemaForge.Json.Reading

/-!
# Numerals

A numeral is the text of a JSON number cut into its parts: sign, digits before the point, digits
behind it, exponent.  `Numeral.scan` cuts a text, `Numeral.value?` gives the number.

The digits are collected into a significand of 64 bits.  A digit that does not fit any more is
dropped with all that follow it in its part: before the point each dropped digit counts as a power
of ten, behind the point none does.  A numeral without point and exponent is an integer when it
fits into 64 bits, with or without sign; minus zero is not an integer.
-/

namespace SchemaForge

-- powers stay those of the core library where another instance is in scope
attribute [local instance(2000)] instPowNat

/-- The text of a number, in parts. -/
structure Numeral where
  negative : Bool
  whole : List Nat
  fraction : Option (List Nat)
  exponent : Option Int
  deriving DecidableEq, Repr

namespace Numeral

/-! ## The value -/

/-- The largest significand. -/
def largestSignificand : Nat := 2 ^ (64 : Nat) - 1

/-- Digits appended to a significand while they fit; the number of the dropped ones with it. -/
def collect (m : Nat) : List Nat → Nat × Nat
  | [] => (m, 0)
  | d :: rest =>
    if largestSignificand < m * 10 + d then (m, rest.length + 1) else collect (m * 10 + d) rest

/-- The number that a numeral stands for, none beyond all binary64 numbers. -/
def value? (n : Numeral) : Option JsonNumber :=
  let (m, dropped) := collect 0 n.whole
  match n.fraction, n.exponent with
  | none, none =>
    if dropped = 0 ∧ !n.negative then some (.integer m)
    else if dropped = 0 ∧ 0 < m ∧ m ≤ 2 ^ (63 : Nat) then some (.integer (-m))
    else (Binary64.ofDecimal? n.negative m dropped).map .real
  | fraction, exponent =>
    let digits := fraction.getD []
    let (m, lost) := collect m digits
    let scale : Int := dropped - (digits.length - lost : Nat) + exponent.getD 0
    (Binary64.ofDecimal? n.negative m scale).map .real

/-! ## Cutting a text -/

/-- The digits at the start of a text, as numbers. -/
def leadingDigits (s : List Char) : List Nat := (s.takeWhile Char.isDigit).map (·.toNat - 48)

/-- The text behind its leading digits. -/
def afterDigits (s : List Char) : List Char := s.dropWhile Char.isDigit

/-- The number that decimal digits write. -/
def ofDigits (digits : List Nat) : Nat := digits.foldl (fun n d => n * 10 + d) 0

/-- A numeral that stops being one: at the end of the text a value is missing. -/
def breakAt (s : List Char) : Break :=
  ⟨if s.isEmpty then .endInValue else .invalidNumber, .invalidNumber, .bare⟩

/-- The digits behind a point, if a point comes next. -/
def scanFraction (s : List Char) : Except Break (Option (List Nat) × List Char) :=
  match s with
  | '.' :: rest =>
    if (leadingDigits rest).isEmpty then .error (breakAt rest)
    else .ok (some (leadingDigits rest), afterDigits rest)
  | _ => .ok (none, s)

/-- The text behind a sign, if it starts with one. -/
def afterSign : List Char → List Char
  | '+' :: rest => rest
  | '-' :: rest => rest
  | s => s

/-- The text starts with a minus sign. -/
def startsNegative (s : List Char) : Bool := s.head? == some '-'

/-- The digits of an exponent behind its `e`, with or without a sign. -/
def scanSigned (s : List Char) : Except Break (Int × List Char) :=
  let digits := leadingDigits (afterSign s)
  if digits.isEmpty then .error (breakAt (afterSign s))
  else
    let n : Int := ofDigits digits
    .ok (if startsNegative s then -n else n, afterDigits (afterSign s))

/-- The exponent, if one comes next. -/
def scanExponent (s : List Char) : Except Break (Option Int × List Char) :=
  match s with
  | 'e' :: rest => (scanSigned rest).map fun r => (some r.1, r.2)
  | 'E' :: rest => (scanSigned rest).map fun r => (some r.1, r.2)
  | _ => .ok (none, s)

/-- The digits before the point; only a lone zero may come first. -/
def scanWhole (s : List Char) : Except Break (List Nat × List Char) :=
  let digits := leadingDigits s
  if digits.isEmpty then .error (breakAt s)
  else if digits.head? = some 0 ∧ 1 < digits.length then
    .error ⟨.invalidNumber, .invalidNumber, .bare⟩
  else .ok (digits, afterDigits s)

/-- The text behind a minus sign, if it starts with one. -/
def afterMinus : List Char → List Char
  | '-' :: rest => rest
  | s => s

/-- The numeral at the start of a text and what follows it. -/
def scan (s : List Char) : Except Break (Numeral × List Char) :=
  match scanWhole (afterMinus s) with
  | .error b => .error b
  | .ok (whole, s₁) =>
    match scanFraction s₁ with
    | .error b => .error b
    | .ok (fraction, s₂) =>
      match scanExponent s₂ with
      | .error b => .error b
      | .ok (exponent, s₃) => .ok (⟨startsNegative s, whole, fraction, exponent⟩, s₃)

/-! ## Cutting takes something off -/

theorem length_afterDigits_le (s : List Char) : (afterDigits s).length ≤ s.length :=
  (List.dropWhile_sublist _).length_le

theorem length_afterDigits_lt {s : List Char} (h : (leadingDigits s).isEmpty = false) :
    (afterDigits s).length < s.length := by
  cases s with
  | nil => simp [leadingDigits] at h
  | cons c rest =>
    cases hc : c.isDigit with
    | false => simp [leadingDigits, hc] at h
    | true =>
      simp only [afterDigits, List.dropWhile_cons, hc, if_true, List.length_cons]
      exact Nat.lt_succ_of_le (length_afterDigits_le rest)

theorem length_afterSign_le (s : List Char) : (afterSign s).length ≤ s.length := by
  unfold afterSign
  split <;> simp

theorem length_afterMinus_le (s : List Char) : (afterMinus s).length ≤ s.length := by
  unfold afterMinus
  split <;> simp

theorem length_of_scanWhole {s r : List Char} {d : List Nat}
    (h : scanWhole s = .ok (d, r)) : r.length < s.length := by
  unfold scanWhole at h
  dsimp only at h
  split at h
  · cases h
  · rename_i hdigits
    split at h
    · cases h
    · cases h
      exact length_afterDigits_lt (by simpa using hdigits)

theorem length_of_scanFraction {s r : List Char} {f : Option (List Nat)}
    (h : scanFraction s = .ok (f, r)) : r.length ≤ s.length := by
  unfold scanFraction at h
  split at h
  · split at h
    · cases h
    · cases h
      exact Nat.le_succ_of_le (length_afterDigits_le _)
  · cases h
    exact Nat.le_refl _

theorem length_of_scanSigned {s r : List Char} {n : Int}
    (h : scanSigned s = .ok (n, r)) : r.length ≤ s.length := by
  unfold scanSigned at h
  dsimp only at h
  split at h
  · cases h
  · cases h
    exact Nat.le_trans (length_afterDigits_le _) (length_afterSign_le _)

theorem length_of_scanExponent {s r : List Char} {e : Option Int}
    (h : scanExponent s = .ok (e, r)) : r.length ≤ s.length := by
  have signed : ∀ {c : Char} {rest : List Char},
      (scanSigned rest).map (fun r => (some r.1, r.2)) = .ok (e, r) →
        r.length ≤ (c :: rest).length := by
    intro c rest hr
    cases hs : scanSigned rest with
    | error b => simp [hs, Except.map] at hr
    | ok p =>
      simp only [hs, Except.map, Except.ok.injEq, Prod.mk.injEq] at hr
      exact hr.2 ▸ Nat.le_succ_of_le (length_of_scanSigned hs)
  unfold scanExponent at h
  split at h
  · exact signed h
  · exact signed h
  · cases h
    exact Nat.le_refl _

/-- A numeral has at least one character. -/
theorem length_of_scan {s r : List Char} {n : Numeral} (h : scan s = .ok (n, r)) :
    r.length < s.length := by
  unfold scan at h
  split at h
  · cases h
  · rename_i hwhole
    split at h
    · cases h
    · rename_i hfraction
      split at h
      · cases h
      · rename_i hexponent
        cases h
        exact Nat.lt_of_le_of_lt (length_of_scanExponent hexponent)
          (Nat.lt_of_le_of_lt (length_of_scanFraction hfraction)
            (Nat.lt_of_lt_of_le (length_of_scanWhole hwhole) (length_afterMinus_le s)))

end Numeral

end SchemaForge
