import Expectation.Binary64.Arithmetic

/-!
# Tolerances

The difference that an equality allows. Integers are compared in words of 128 bits, so that the
comparison is exact over all integers of 64 bits; doubles are compared with the operations of
doubles.

* `Tolerance`: an amount and how it is meant;
* `scaledFloor`: the whole part of an integer times a double, as a word;
* `Tolerance.admitsIntegers`, `Tolerance.admitsNumbers`: the two comparisons.
-/

namespace Expectation

/-- How the amount of a tolerance is meant. -/
inductive ToleranceMode where
  /-- An absolute difference. -/
  | linear
  /-- A difference in percent of the expected value. -/
  | percent
  /-- An absolute difference that applies only where a double is compared. -/
  | fallback
deriving DecidableEq

/-- The numerical difference that an equality allows. -/
structure Tolerance where
  amount : Binary64
  mode : ToleranceMode

/-- Tolerances are the same when their modes are and their amounts are numerically equal. -/
instance : BEq Tolerance := ⟨fun s t => s.amount.eq t.amount && decide (s.mode = t.mode)⟩

/-- The words in which integer differences are compared. -/
abbrev Word128 := BitVec 128

/-- The whole part of a non-negative amount, the greatest word standing for all that exceed it. -/
def wholePart (amount : Binary64) : Word128 :=
  .ofNat 128 (amount.floorSaturating (BitVec.allOnes 128).toNat)

/-- The whole part of `magnitude * |factor|`, the greatest word standing for products that do not
fit. The product with the significand is exact; the exponent then shifts it. -/
def scaledFloor (magnitude : UInt64) (factor : Binary64) : Word128 :=
  if factor.isInfinite then .allOnes 128
  else
    let exponent := max factor.exponentField 1
    let product : Word128 := .ofNat 128 magnitude.toNat * .ofNat 128 factor.significand
    if 1075 ≤ exponent then
      let shift := exponent - 1075
      if product = 0 then 0
      else if product.clz.toNat ≤ shift then .allOnes 128
      else product <<< shift
    else
      let shift := 1075 - exponent
      if shift < 128 then product >>> shift else 0

namespace Tolerance

/-- The absolute difference of two integers, as a word. -/
def differenceWord (a b : Int64) : Word128 := (BitVec.ofInt 128 a.toInt - .ofInt 128 b.toInt).abs

/-- The absolute value of an integer, as an unsigned word. -/
def absWord (n : Int64) : UInt64 := .ofNat n.toInt.natAbs

/-- The difference of two integers is within the tolerance. -/
def admitsIntegers (t : Tolerance) (expected actual : Int64) : Bool :=
  if t.amount.isNaN then false
  else
    let difference := differenceWord expected actual
    match t.mode with
    | .percent => decide (difference * 100 ≤ scaledFloor (absWord expected) t.amount)
    | .linear | .fallback =>
      Binary64.le (.zero false) t.amount && decide (difference ≤ wholePart t.amount)

/-- The difference of two doubles is within the tolerance. -/
def admitsNumbers (t : Tolerance) (expected actual : Binary64) : Bool :=
  let difference := (expected.sub actual).abs
  match t.mode with
  | .linear | .fallback => difference.le t.amount
  | .percent => difference.le ((expected.mul t.amount).div (.ofInt 100)).abs

end Tolerance

end Expectation
