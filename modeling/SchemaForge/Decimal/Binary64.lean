/-!
# Finite binary64 numbers

A finite double-precision number is a sign, a biased exponent and a fraction; there is no infinity
and no NaN, because no text of a number denotes one.  The value of `x` is
`significand x * 2 ^ scale x` with the sign of `x`.

Arithmetic is exact on naturals and rounded once, by `ofRatio?`: to the nearest number, a tie to
the one with the even significand, and to `none` when the result would be infinite.  Numbers are
read from decimals by `ofDecimal?`, which rounds twice: first the significand, then its product
with (or quotient by) a power of ten that is itself rounded.
-/

namespace SchemaForge

-- powers stay those of the core library where another instance is in scope
attribute [local instance(2000)] instPowNat

/-- A finite double-precision number, by the fields of its bit pattern. -/
structure Binary64 where
  negative : Bool
  exponent : Fin 2047
  fraction : Fin (2 ^ (52 : Nat))
  deriving DecidableEq, Repr

namespace Binary64

/-! ## The value -/

/-- The significand as an integer: the fraction, with the leading bit of a normal number. -/
def significand (x : Binary64) : Nat :=
  if x.exponent.val = 0 then x.fraction.val else 2 ^ (52 : Nat) + x.fraction.val

/-- The power of two that the significand is multiplied by. -/
def scale (x : Binary64) : Int := max (x.exponent.val : Int) 1 - 1075

/-- Zero of the given sign. -/
def zero (negative : Bool) : Binary64 := ⟨negative, 0, 0⟩

/-- The number is one of the two zeros. -/
def isZero (x : Binary64) : Bool := x.significand == 0

/-- The absolute value as a quotient of naturals, numerator first. -/
def ratio (x : Binary64) : Nat × Nat :=
  if 0 ≤ x.scale then (x.significand * 2 ^ x.scale.toNat, 1)
  else (x.significand, 2 ^ (-x.scale).toNat)

/-! ## Rounding -/

/-- The quotient rounded to the nearest natural, a half to the even one. -/
def roundDiv (num den : Nat) : Nat :=
  let quotient := num / den
  let rest := num % den
  if den < 2 * rest ∨ (2 * rest = den ∧ quotient % 2 = 1) then quotient + 1 else quotient

/-- `num / den` divided by `2 ^ q`, as a quotient of naturals. -/
def shiftRatio (num den : Nat) (q : Int) : Nat × Nat :=
  if 0 ≤ q then (num, den * 2 ^ q.toNat) else (num * 2 ^ (-q).toNat, den)

/-- The power of two whose multiples are the candidates for `num / den`: the quotient has 53 bits
above it, or fewer when that would be below the smallest power. -/
def gridFor (num den : Nat) : Int :=
  let estimate : Int := num.log2 - den.log2
  let r := shiftRatio num den estimate
  max (if r.2 ≤ r.1 then estimate - 52 else estimate - 53) (-1074)

/-- The number with significand `m` on the grid `2 ^ q`, for `m` up to `2 ^ 53`; `none` when its
exponent is out of range. -/
def assemble? (negative : Bool) (m : Nat) (q : Int) : Option Binary64 :=
  let (m, q) := if m = 2 ^ (53 : Nat) then (2 ^ (52 : Nat), q + 1) else (m, q)
  let biased := if m < 2 ^ (52 : Nat) then 0 else (q + 1075).toNat
  if h : biased < 2047 then some ⟨negative, ⟨biased, h⟩, Fin.ofNat (2 ^ (52 : Nat)) m⟩ else none

/-- The number nearest to `num / den`, with the given sign; `none` beyond the largest one. -/
def ofRatio? (negative : Bool) (num den : Nat) : Option Binary64 :=
  if num = 0 ∨ den = 0 then some (zero negative)
  else
    let q := gridFor num den
    let r := shiftRatio num den q
    assemble? negative (roundDiv r.1 r.2) q

/-! ## Products and quotients -/

/-- The rounded product. -/
def mul? (x y : Binary64) : Option Binary64 :=
  ofRatio? (x.negative != y.negative) (x.ratio.1 * y.ratio.1) (x.ratio.2 * y.ratio.2)

/-- The rounded quotient; dividing by zero gives zero and is not asked for. -/
def div? (x y : Binary64) : Option Binary64 :=
  ofRatio? (x.negative != y.negative) (x.ratio.1 * y.ratio.2) (x.ratio.2 * y.ratio.1)

/-! ## Reading decimals -/

/-- The largest power of ten that is multiplied or divided by in one step. -/
def largestTenPower : Nat := 308

/-- The number nearest to a power of ten. -/
def tenPower? (k : Nat) : Option Binary64 := ofRatio? false (10 ^ k) 1

/-- `x` divided by `10 ^ k`, in steps of at most `10 ^ 308`, stopping at zero. -/
def divTenPower? (x : Binary64) (k : Nat) : Option Binary64 :=
  if k ≤ largestTenPower then (tenPower? k).bind x.div?
  else if x.isZero then some x
  else do
    let step ← tenPower? largestTenPower
    let y ← x.div? step
    divTenPower? y (k - largestTenPower)
termination_by k
decreasing_by simp only [largestTenPower] at *; omega

/-- `x` multiplied by `10 ^ k`; beyond `10 ^ 308` only zero stays finite. -/
def mulTenPower? (x : Binary64) (k : Nat) : Option Binary64 :=
  if k ≤ largestTenPower then (tenPower? k).bind x.mul?
  else if x.isZero then some x
  else none

/-- The number that `m * 10 ^ e` is read as: `m` is rounded first, then its product with or
quotient by the power of ten.  `none` when that is not finite. -/
def ofDecimal? (negative : Bool) (m : Nat) (e : Int) : Option Binary64 := do
  let x ← ofRatio? negative m 1
  if 0 ≤ e then x.mulTenPower? e.toNat else x.divTenPower? (-e).toNat

end Binary64

end SchemaForge
