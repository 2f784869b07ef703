import SchemaForge.Decimal.Shortest

/-!
# Layouts of a number

Two texts of a binary64 number, both made from its shortest digits.

* `plainText` never has an exponent and has a point only before a fraction: `1`, `-0`, `0.00005`,
  `1000000000000000000000`.  Of two decimals that are equally near it takes the greater.  Generated
  sources write default values this way.
* `markedText` always shows that the number is not an integer: `1.0`, `1e+21`, `5e-324`.  It is
  positional while the point falls at most sixteen digits after the first digit or four zeros
  before it, and the exponent has its sign otherwise.  Of two decimals that are equally near it
  takes the even one.  Diagnostics and JSON write numbers this way.
-/

namespace SchemaForge

namespace Binary64

/-- The digits of a number and where the point stands: that many digits from the left. -/
def digitsAndPoint (x : Binary64) (tie : Tie) : String × Int :=
  let d := x.shortest tie
  let text := toString d.digits
  (text, text.length + d.exponent)

/-- The sign before the digits. -/
def signText (x : Binary64) : String := if x.negative then "-" else ""

/-- A text of `n` zeros. -/
def zeros (n : Nat) : String := String.ofList (List.replicate n '0')

/-- The digits with the point inside them. -/
def splitAt (digits : String) (point : Nat) : String :=
  String.ofList (digits.toList.take point) ++ "." ++ String.ofList (digits.toList.drop point)

/-- The number without an exponent. -/
def plainText (x : Binary64) : String :=
  let (digits, point) := x.digitsAndPoint .up
  x.signText ++
    if point ≤ 0 then "0." ++ zeros (-point).toNat ++ digits
    else if point < digits.length then splitAt digits point.toNat
    else digits ++ zeros (point.toNat - digits.length)

/-- An exponent with its sign. -/
def signedExponent (e : Int) : String := (if 0 ≤ e then "+" else "") ++ toString e

/-- The exponent form: one digit before the point. -/
def exponentText (digits : String) (point : Int) : String :=
  let mantissa := if digits.length = 1 then digits else splitAt digits 1
  mantissa ++ "e" ++ signedExponent (point - 1)

/-- The number with a point or an exponent. -/
def markedText (x : Binary64) : String :=
  let (digits, point) := x.digitsAndPoint .toEven
  x.signText ++
    if digits.length ≤ point ∧ point ≤ 16 then
      digits ++ zeros (point.toNat - digits.length) ++ ".0"
    else if 0 < point ∧ point ≤ 16 then splitAt digits point.toNat
    else if -5 < point ∧ point ≤ 0 then "0." ++ zeros (-point).toNat ++ digits
    else exponentText digits point

end Binary64

end SchemaForge
