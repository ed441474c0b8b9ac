/-
**Shortest decimals.**

The shortest decimal of a magnitude is, among the decimals with the fewest digits that are read back
as that magnitude, the one nearest to it.  A decimal is read back as a magnitude when it lies in
the interval of the numbers that round to it; the ends of that interval belong to it exactly when
the significand is even.

Main definitions:

* `Decimal` — digits and a power of ten;
* `Magnitude.shortest` — the shortest decimal;
* `Decimal.text` — positional notation from `10 ^ -5` up to below `10 ^ 16`, and one digit before
  the point with a signed exponent elsewhere.
-/

import Pushdown.Number.Double
import Pushdown.Text.Basic

set_option autoImplicit false

namespace Pushdown

/-- The number `digits * 10 ^ power`. -/
structure Decimal where
  digits : Nat
  power : Int
  deriving DecidableEq, Repr

/-! ### Comparing fractions -/

/-- A non-negative fraction. -/
structure Ratio where
  num : Nat
  den : Nat

namespace Ratio

/-- The fraction `n * 2 ^ e`. -/
def ofBinary (n : Nat) (e : Int) : Ratio :=
  if 0 ≤ e then ⟨n * Nat.pow 2 e.toNat, 1⟩ else ⟨n, Nat.pow 2 (-e).toNat⟩

/-- The fraction divided by `10 ^ p`. -/
def overPower (r : Ratio) (p : Int) : Ratio :=
  if 0 ≤ p then ⟨r.num, r.den * Nat.pow 10 p.toNat⟩ else ⟨r.num * Nat.pow 10 (-p).toNat, r.den⟩

/-- Strictly smaller. -/
def lt (a b : Ratio) : Bool := decide (a.num * b.den < b.num * a.den)

/-- Smaller or equal. -/
def le (a b : Ratio) : Bool := decide (a.num * b.den ≤ b.num * a.den)

end Ratio

/-! ### The shortest decimal -/

namespace Magnitude

/-- The fraction of a magnitude. -/
def value (x : Magnitude) : Ratio := Ratio.ofBinary x.significand x.exponent

/-- The middle between a magnitude and the next smaller one. -/
def lowerEnd (x : Magnitude) : Ratio :=
  if x.significand = Magnitude.minSignificand ∧ minExponent < x.exponent then
    Ratio.ofBinary (4 * x.significand - 1) (x.exponent - 2)
  else Ratio.ofBinary (2 * x.significand - 1) (x.exponent - 1)

/-- The middle between a magnitude and the next greater one. -/
def upperEnd (x : Magnitude) : Ratio := Ratio.ofBinary (2 * x.significand + 1) (x.exponent - 1)

/-- Whether a fraction rounds to `x`. -/
def roundsTo (x : Magnitude) (r : Ratio) : Bool :=
  if x.significand % 2 = 0 then x.lowerEnd.le r && r.le x.upperEnd
  else x.lowerEnd.lt r && r.lt x.upperEnd

/-- The number of digits before the decimal point, so that the magnitude, which is not zero, is
at least `10 ^ (k - 1)` and below `10 ^ k`. -/
def wholeDigits (x : Magnitude) : Int :=
  -- The factor is the decimal logarithm of two; the guess is off by one at most.
  let guess : Int := ((x.significand.log2 : Int) + x.exponent) * 30103 / 100000 + 1
  let one : Ratio := ⟨1, 1⟩
  if (x.value.overPower (guess - 1)).lt one then guess - 1
  else if (x.value.overPower guess).lt one then guess
  else guess + 1

/-- The multiples of `10 ^ p` next to `x` that round to it, the nearer one first. -/
def gridHit? (x : Magnitude) (p : Int) : Option Nat :=
  let scaled := x.value.overPower p
  let low := scaled.num / scaled.den
  let rest := scaled.num % scaled.den
  let hit (d : Nat) : Bool := x.roundsTo (Ratio.overPower ⟨d, 1⟩ (-p))
  -- Of two equally near multiples the even one counts as nearer.
  let nearHigh := decide (scaled.den < 2 * rest) || (2 * rest == scaled.den && low % 2 == 1)
  let first := if nearHigh then low + 1 else low
  let second := if nearHigh then low else low + 1
  if hit first then some first else if hit second then some second else none

/-- A decimal without trailing zeros; `fuel` bounds their number. -/
def stripZeros : Nat → Nat → Int → Decimal
  | 0, d, p => ⟨d, p⟩
  | fuel + 1, d, p => if d % 10 = 0 then stripZeros fuel (d / 10) (p + 1) else ⟨d, p⟩

/-- The first grid, from one digit to seventeen, that has a hit. -/
def search (x : Magnitude) (whole : Int) : Nat → Nat → Decimal
  | 0, _ => ⟨0, 0⟩
  | fuel + 1, count =>
      match x.gridHit? (whole - count) with
      | some d => stripZeros 20 d (whole - count)
      | none => search x whole fuel (count + 1)

/-- The shortest decimal that rounds to the magnitude. -/
def shortest (x : Magnitude) : Decimal :=
  if x.significand = 0 then ⟨0, 0⟩ else search x x.wholeDigits 17 1

end Magnitude

/-! ### Notation -/

namespace Decimal

/-- Digits with a sign. -/
def signedText (n : Int) : Text :=
  if n < 0 then '-' :: Text.ofNat n.natAbs else '+' :: Text.ofNat n.natAbs

/-- The text of a decimal without trailing zeros: positional from `10 ^ -5` up to below `10 ^ 16`,
always with a digit on both sides of the point; elsewhere one digit, the others after the point,
and the exponent with its sign. -/
def text (d : Decimal) : Text :=
  if d.digits = 0 then "0.0".toList
  else
    let digits := Text.ofNat d.digits
    let whole : Int := digits.length + d.power
    if 0 ≤ d.power ∧ whole ≤ 16 then
      digits ++ List.replicate d.power.toNat '0' ++ ".0".toList
    else if 0 < whole ∧ whole ≤ 16 then
      digits.take whole.toNat ++ '.' :: digits.drop whole.toNat
    else if -5 < whole ∧ whole ≤ 0 then
      "0.".toList ++ List.replicate (-whole).toNat '0' ++ digits
    else
      match digits with
      | [c] => c :: 'e' :: signedText (whole - 1)
      | c :: rest => c :: '.' :: rest ++ 'e' :: signedText (whole - 1)
      | [] => []

end Decimal

/-- The text of a number of double precision. -/
def Double.text (x : Double) : Text :=
  if x.negative then '-' :: x.magnitude.shortest.text else x.magnitude.shortest.text

end Pushdown
