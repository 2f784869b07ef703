import SchemaForge.Decimal.Binary64

/-!
# The shortest decimal of a number

Among all decimals that read back as a given binary64 number, `shortest` chooses one with the
fewest digits, and among those the nearest to the number.  Two of them can be equally near:
812332859694356.25 lies halfway between the decimals that end in .2 and .3.  A `Tie` says which
one is taken then.

The numbers that round to `x` form an interval around it whose ends are halfway to its neighbours;
the ends belong to it when the significand of `x` is even.  On the grid of the decimals with `n`
digits only the two points next to `x` need a look: if any point of the grid lies in the interval,
one of these does.  Seventeen digits always suffice.
-/

namespace SchemaForge

-- powers stay those of the core library where another instance is in scope
attribute [local instance(2000)] instPowNat

/-- The value `digits * 10 ^ exponent`. -/
structure Decimal where
  digits : Nat
  exponent : Int
  deriving DecidableEq, Repr

namespace Decimal

/-- The same value without zeros at the end of the digits. -/
def normalize (d : Decimal) : Decimal :=
  if h : d.digits ≠ 0 ∧ d.digits % 10 = 0 then normalize ⟨d.digits / 10, d.exponent + 1⟩ else d
termination_by d.digits
decreasing_by omega

end Decimal

namespace Binary64

/-! ## The interval of a number -/

/-- The interval that rounds to a number, in units of `2 ^ unit`. -/
structure Interval where
  low : Nat
  mid : Nat
  high : Nat
  unit : Int
  closed : Bool

/-- The interval of `x`: the gap below a power of two is half the gap above it. -/
def interval (x : Binary64) : Interval :=
  let m := x.significand
  let narrow := x.fraction.val == 0 && 1 < x.exponent.val
  ⟨4 * m - (if narrow then 1 else 2), 4 * m, 4 * m + 2, x.scale - 2, m % 2 == 0⟩

/-- `a * 10 ^ k` and `b * 2 ^ q`, brought to one common unit. -/
def alignTenTwo (a : Nat) (k : Int) (b : Nat) (q : Int) : Nat × Nat :=
  (a * 10 ^ k.toNat * 2 ^ (-q).toNat, b * 2 ^ q.toNat * 10 ^ (-k).toNat)

/-- The decimal lies in the interval. -/
def Interval.contains (i : Interval) (d : Decimal) : Bool :=
  let (a, low) := alignTenTwo d.digits d.exponent i.low i.unit
  let (_, high) := alignTenTwo d.digits d.exponent i.high i.unit
  if i.closed then low ≤ a && a ≤ high else low < a && a < high

/-- How far the decimal is from the middle, in a unit that depends on its exponent only. -/
def Interval.distance (i : Interval) (d : Decimal) : Nat :=
  let (a, mid) := alignTenTwo d.digits d.exponent i.mid i.unit
  (a - mid) + (mid - a)

/-! ## The digits -/

/-- The number of decimal digits before the point of a quotient that is at least one, or minus the
number of zeros behind the point of a smaller one. -/
def pointPosition (num den : Nat) : Int :=
  if den ≤ num then (Nat.toDigits 10 (num / den)).length
  else 1 - (((List.range 400).find? fun j => den ≤ num * 10 ^ j).getD 0 : Nat)

/-- The candidates with `n` digits: the two grid points next to the number. -/
def candidates (x : Binary64) (n : Nat) : List Decimal :=
  let (num, den) := x.ratio
  let k := pointPosition num den - n
  let below := if 0 ≤ k then num / (den * 10 ^ k.toNat) else num * 10 ^ (-k).toNat / den
  [⟨below, k⟩, ⟨below + 1, k⟩]

/-- Which of two neighbouring decimals at the same distance is taken. -/
inductive Tie
  /-- The greater one. -/
  | up
  /-- The one whose last digit is even. -/
  | toEven
  deriving DecidableEq, Repr

/-- Of two neighbouring decimals at the same distance, the lower one is taken. -/
def Tie.takesLower (tie : Tie) (lower : Decimal) : Bool :=
  match tie with
  | up => false
  | toEven => lower.digits % 2 == 0

/-- The nearest candidate with `n` digits that rounds to the number. -/
def nearest? (x : Binary64) (tie : Tie) (n : Nat) : Option Decimal :=
  match (x.candidates n).filter x.interval.contains with
  | [a, b] =>
    let below := x.interval.distance a
    let above := x.interval.distance b
    some (if below < above || below == above && tie.takesLower a then a else b)
  | others => others.head?

/-- The decimal with the fewest digits that reads back as the number, without its sign. -/
def shortest (x : Binary64) (tie : Tie) : Decimal :=
  if x.isZero then ⟨0, 0⟩
  else (((List.range 17).findSome? fun i => x.nearest? tie (i + 1)).getD ⟨0, 0⟩).normalize

end Binary64

end SchemaForge
