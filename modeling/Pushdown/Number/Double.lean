/-
**Finite numbers of double precision.**

A finite number of double precision is a sign and a magnitude `significand * 2 ^ exponent`, where
the significand has at most 53 bits and the exponent is at least -1074.  Of the many ways to write
a magnitude the one with the longest significand is taken, so equal magnitudes have equal fields.
All arithmetic is exact on natural numbers and rounds once, to the nearest magnitude and to the
even significand in the middle between two.

Main definitions:

* `Magnitude` — significand and exponent;
* `Magnitude.ofRatio?` — the magnitude nearest to a fraction, or nothing beyond the largest one;
* `Magnitude.mul?`, `Magnitude.div?` — rounded product and quotient;
* `Double` — a magnitude with a sign.
-/

set_option autoImplicit false

namespace Pushdown

/-- The integer nearest to `num / den`, the even one of two equally near. -/
def roundHalfEven (num den : Nat) : Nat :=
  let quotient := num / den
  let rest := num % den
  if 2 * rest < den then quotient
  else if den < 2 * rest then quotient + 1
  else if quotient % 2 = 0 then quotient
  else quotient + 1

/-- A finite magnitude of double precision, `significand * 2 ^ exponent`. -/
structure Magnitude where
  significand : Nat
  exponent : Int
  deriving DecidableEq, Repr

namespace Magnitude

/-- The least exponent. -/
def minExponent : Int := -1074

/-- The greatest exponent. -/
def maxExponent : Int := 971

/-- The least significand of a magnitude that fills its places: two to the power of 52. -/
def minSignificand : Nat := 0x10000000000000

/-- Nothing. -/
def zero : Magnitude := ⟨0, minExponent⟩

/-- The fraction `num / den / 2 ^ e` as numerator and denominator. -/
def shifted (num den : Nat) (e : Int) : Nat × Nat :=
  if 0 ≤ e then (num, den * Nat.pow 2 e.toNat) else (num * Nat.pow 2 (-e).toNat, den)

/-- The greatest `k` with `2 ^ k ≤ num / den`, for positive `num` and `den`. -/
def floorLog2 (num den : Nat) : Int :=
  let guess : Int := (num.log2 : Int) - (den.log2 : Int)
  let scaled := shifted num den guess
  if scaled.1 < scaled.2 then guess - 1 else guess

/-- The magnitude nearest to `num / den`, or nothing if that is beyond the largest one. -/
def ofRatio? (num den : Nat) : Option Magnitude :=
  if num = 0 then some zero
  else
    let e := max (floorLog2 num den - 52) minExponent
    let scaled := shifted num den e
    let m := roundHalfEven scaled.1 scaled.2
    -- Rounding up may carry into a 54th bit; then the significand is a power of two.
    let rounded : Magnitude :=
      if m = 2 * minSignificand then ⟨minSignificand, e + 1⟩ else ⟨m, e⟩
    if maxExponent < rounded.exponent then none else some rounded

/-- The magnitude as a fraction. -/
def toRatio (x : Magnitude) : Nat × Nat :=
  if 0 ≤ x.exponent then (x.significand * Nat.pow 2 x.exponent.toNat, 1)
  else (x.significand, Nat.pow 2 (-x.exponent).toNat)

/-- The rounded product. -/
def mul? (x y : Magnitude) : Option Magnitude :=
  ofRatio? (x.toRatio.1 * y.toRatio.1) (x.toRatio.2 * y.toRatio.2)

/-- The rounded quotient by a magnitude that is not zero. -/
def div? (x y : Magnitude) : Option Magnitude :=
  ofRatio? (x.toRatio.1 * y.toRatio.2) (x.toRatio.2 * y.toRatio.1)

/-- The magnitude nearest to a natural number. -/
def ofNat? (n : Nat) : Option Magnitude := ofRatio? n 1

end Magnitude

/-- A finite number of double precision; zero has both signs. -/
structure Double where
  negative : Bool
  magnitude : Magnitude
  deriving DecidableEq, Repr

end Pushdown
