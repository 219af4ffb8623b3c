import Expectation.Binary64.Basic

/-!
# Rounding and arithmetic

Each operation computes its exact result and rounds it once, to the nearest number and to the even
one of two that are equally near.

* `roundDiv`: a quotient rounded to a whole number, halves to even;
* `ofUnits`: the number nearest to a quotient of units;
* `sub`, `mul`, `div`, `abs`: the operations on numbers;
* `ofInt`, `ofDecimal`, `ofBinary32`: numbers from integers, decimals and single precision words;
* `floorSaturating`: the whole part of a number, kept below a bound.
-/

namespace Expectation.Binary64

/-! ## Rounding -/

/-- The quotient `n / d` rounded to the nearest whole number, a half going to the even one. -/
def roundDiv (n d : Nat) : Nat :=
  if 2 * (n % d) < d ∨ 2 * (n % d) = d ∧ n / d % 2 = 0 then n / d else n / d + 1

/-- The number nearest to `n / d` units. With `e` chosen so that the quotient has 53 bits or `e` is
zero, the rounded quotient fits below the exponent `e` in one word, and a carry out of the fraction
steps the exponent. -/
def ofUnits (negative : Bool) (n d : Nat) : Binary64 :=
  let e := (n / d).log2 - 52
  make negative (min (e <<< 52 + roundDiv n (d <<< e)) infinityMagnitude)

/-! ## Operations -/

variable (x y : Binary64)

/-- The same number with its sign bit cleared. -/
def abs : Binary64 := make false x.magnitude

/-- The same number with its sign bit flipped. -/
def neg : Binary64 := make (!x.negative) x.magnitude

/-- The difference of two numbers. Equal numbers give the positive zero, except that the negative
zero less the positive one is the negative zero. -/
def sub : Binary64 :=
  if x.isNaN || y.isNaN then nan
  else if x.isInfinite then if y.isInfinite && x.negative == y.negative then nan else x
  else if y.isInfinite then y.neg
  else
    let difference := x.units - y.units
    if difference = 0 then zero (x.negative && !y.negative)
    else ofUnits (decide (difference < 0)) difference.natAbs 1

/-- The product of two numbers. -/
def mul : Binary64 :=
  let sign := x.negative != y.negative
  if x.isNaN || y.isNaN then nan
  else if x.isInfinite then if y.isZero then nan else infinity sign
  else if y.isInfinite then if x.isZero then nan else infinity sign
  else ofUnits sign (x.absUnits * y.absUnits) unitsPerOne

/-- The quotient of two numbers. -/
def div : Binary64 :=
  let sign := x.negative != y.negative
  if x.isNaN || y.isNaN then nan
  else if x.isInfinite then if y.isInfinite then nan else infinity sign
  else if y.isInfinite then zero sign
  else if y.isZero then if x.isZero then nan else infinity sign
  else ofUnits sign (x.absUnits * unitsPerOne) y.absUnits

/-! ## Numbers from elsewhere -/

/-- The number nearest to an integer. -/
def ofInt (n : Int) : Binary64 := ofUnits (decide (n < 0)) (n.natAbs * unitsPerOne) 1

/-- The number nearest to `digits * 10 ^ exponent`. Exponents that put the decimal beyond every
number, or below half the least one, are answered without their power of ten. -/
def ofDecimal (negative : Bool) (digits : Nat) (exponent : Int) : Binary64 :=
  if digits = 0 then zero negative
  else if 310 < exponent then infinity negative
  else if exponent + digits.log2 < -330 then zero negative
  else ofUnits negative (digits * Nat.pow 10 exponent.toNat * unitsPerOne)
    (Nat.pow 10 (-exponent).toNat)

/-- The number with the value of a single precision word. A NaN keeps its sign and payload and
becomes quiet. -/
def ofBinary32 (word : UInt32) : Binary64 :=
  let sign := decide (1 <<< 31 ≤ word.toNat)
  let exponent := word.toNat / (1 <<< 23) % (1 <<< 8)
  let fraction := word.toNat % (1 <<< 23)
  if exponent = 255 then
    if fraction = 0 then infinity sign
    else make sign (infinityMagnitude + (fraction <<< 29 ||| 1 <<< 51))
  else
    let significand := if exponent = 0 then fraction else (1 <<< 23) + fraction
    ofUnits sign (significand <<< (exponent - 1) <<< 925) 1

/-! ## Whole parts -/

/-- The whole part of the absolute value, or `limit` where it would exceed it. -/
def floorSaturating (limit : Nat) : Nat :=
  if x.isFinite then min (x.absUnits / unitsPerOne) limit else limit

end Expectation.Binary64
