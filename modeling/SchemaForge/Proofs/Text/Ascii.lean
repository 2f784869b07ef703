/-!
# Characters of ASCII

Letters and digits of ASCII are characters below 128, few enough to be looked at one by one
(`forall_ascii`).  So it is seen what they are in the other case: digits stay as they are
(`cases_of_isDigit`), and a small letter comes back from its capital (`hasCapital_of_isLower`).
-/

namespace SchemaForge.Text

variable {c : Char}

/-- What holds of the first 128 code points holds of every character of ASCII. -/
theorem forall_ascii {P : Char → Prop} (each : ∀ n < 0x80, P (Char.ofNat n))
    (ascii : c.toNat < 0x80) : P c := by
  have here := each c.toNat ascii
  rwa [Char.ofNat_toNat] at here

theorem toNat_ofNat {n : Nat} (valid : n.isValidChar) : (Char.ofNat n).toNat = n := by
  rw [Char.ofNat, dif_pos valid]
  rfl

/-! ## Digits -/

theorem toNat_of_isDigit (digit : c.isDigit = true) : 0x30 ≤ c.toNat ∧ c.toNat ≤ 0x39 := by
  simpa [Char.isDigit, UInt32.le_iff_toNat_le] using digit

theorem toNat_lt_of_isDigit (digit : c.isDigit = true) : c.toNat < 0x80 :=
  Nat.lt_of_le_of_lt (toNat_of_isDigit digit).2 (by decide)

/-- A digit is no letter, and the same in either case. -/
theorem cases_of_isDigit (digit : c.isDigit = true) :
    c.isAlpha = false ∧ c.isUpper = false ∧ c.toLower = c ∧ c.toUpper = c :=
  forall_ascii (P := fun c => c.isDigit = true →
      c.isAlpha = false ∧ c.isUpper = false ∧ c.toLower = c ∧ c.toUpper = c)
    (by decide +kernel) (toNat_lt_of_isDigit digit) digit

/-! ## Letters -/

theorem toNat_lt_of_isLower (small : c.isLower = true) : c.toNat < 0x80 := by
  have high := UInt32.le_iff_toNat_le.1 (of_decide_eq_true (Bool.and_eq_true_iff.1 small).2)
  exact Nat.lt_of_le_of_lt high (by decide)

theorem toNat_lt_of_isAlpha (letter : c.isAlpha = true) : c.toNat < 0x80 := by
  rcases Bool.or_eq_true_iff.1 letter with capital | small
  · have high := UInt32.le_iff_toNat_le.1 (of_decide_eq_true capital).2
    exact Nat.lt_of_le_of_lt high (by decide)
  · exact toNat_lt_of_isLower small

theorem toNat_lt_of_isAlphanum (h : c.isAlphanum = true) : c.toNat < 0x80 := by
  rcases Bool.or_eq_true_iff.1 h with letter | digit
  · exact toNat_lt_of_isAlpha letter
  · exact toNat_lt_of_isDigit digit

/-- A letter is a letter in either case. -/
theorem isAlpha_cases (letter : c.isAlpha = true) :
    c.toLower.isAlpha = true ∧ c.toUpper.isAlpha = true :=
  forall_ascii
    (P := fun c => c.isAlpha = true → c.toLower.isAlpha = true ∧ c.toUpper.isAlpha = true)
    (by decide +kernel) (toNat_lt_of_isAlpha letter) letter

/-- A small letter of ASCII beside its capital. -/
structure HasCapital (c : Char) : Prop where
  isAlphanum : c.isAlphanum = true
  isUpper : c.isUpper = false
  toLower : c.toLower = c
  capital_ascii : c.toUpper.toNat < 0x80
  isAlphanum_capital : c.toUpper.isAlphanum = true
  isUpper_capital : c.toUpper.isUpper = true
  isLower_capital : c.toUpper.isLower = false
  toUpper_capital : c.toUpper.toUpper = c.toUpper
  /-- The letter comes back from its capital. -/
  toLower_capital : c.toUpper.toLower = c

/-- Every small letter of ASCII has a capital. -/
theorem hasCapital_of_isLower (small : c.isLower = true) : HasCapital c := by
  obtain ⟨⟨word, upper, lower⟩, ⟨ascii, word', upper', lower'⟩, again, back⟩ :=
    forall_ascii (P := fun c => c.isLower = true →
        (c.isAlphanum = true ∧ c.isUpper = false ∧ c.toLower = c) ∧
        (c.toUpper.toNat < 0x80 ∧ c.toUpper.isAlphanum = true ∧ c.toUpper.isUpper = true ∧
          c.toUpper.isLower = false) ∧
        c.toUpper.toUpper = c.toUpper ∧ c.toUpper.toLower = c)
      (by decide +kernel) (toNat_lt_of_isLower small) small
  exact ⟨word, upper, lower, ascii, word', upper', lower', again, back⟩

end SchemaForge.Text
