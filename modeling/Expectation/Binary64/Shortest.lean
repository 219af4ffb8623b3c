import Expectation.Binary64.Basic

/-!
# The shortest decimal of a number

A finite number is a whole multiple of `10 ^ -1074`, so its decimals can be found in `Nat`. Of the
decimals that round to the number the shortest is taken, and of the shortest the nearest; a tie
goes up.

* `Decimal`: digits and a power of ten;
* `nearestOnGrid`: the multiple of a power of ten that is nearest to the number, if one rounds to it;
* `shortest`: the first grid, from the coarsest, that has such a multiple.
-/

namespace Expectation

/-- The decimal `digits * 10 ^ exponent`. -/
structure Decimal where
  digits : Nat
  exponent : Int
deriving DecidableEq

namespace Binary64

variable (x : Binary64)

/-- How many decimal digits a natural number has; none for zero. The estimate from the binary
length is at most one too small. -/
def decimalLength (n : Nat) : Nat :=
  let k := n.log2 * 30103 / 100000
  if Nat.pow 10 (k + 1) ≤ n then k + 2 else if Nat.pow 10 k ≤ n then k + 1 else k

/-- The absolute value as a multiple of `10 ^ -1074`. -/
def decimalUnits : Nat := x.absUnits * Nat.pow 5 1074

/-- A multiple of `10 ^ -1074` lies among the reals that round to the absolute value. The limits are
half way to the neighbours, the lower one being at half the distance where a power of two begins,
and belong to the numbers with an even significand. -/
def roundsFrom (n : Nat) : Bool :=
  let step := 1 <<< (x.exponentField - 1)
  let below := if x.fraction = 0 ∧ 2 ≤ x.exponentField then step else 2 * step
  let low := (4 * x.absUnits - below) * Nat.pow 5 1074
  let high := (4 * x.absUnits + 2 * step) * Nat.pow 5 1074
  if x.significand % 2 = 0 then decide (low ≤ 4 * n ∧ 4 * n ≤ high)
  else decide (low < 4 * n ∧ 4 * n < high)

/-- Of the two multiples of `10 ^ (k - 1074)` around the absolute value, the nearer one that rounds
to it. -/
def nearestOnGrid (k : Nat) : Option Decimal :=
  let grid := Nat.pow 10 k
  let n := x.decimalUnits / grid
  let decimal := fun digits : Nat => some (Decimal.mk digits ((k : Int) - 1074))
  match x.roundsFrom (n * grid), x.roundsFrom ((n + 1) * grid) with
  | true, false => decimal n
  | false, true => decimal (n + 1)
  | true, true => decimal (if 2 * (x.decimalUnits % grid) < grid then n else n + 1)
  | false, false => none

/-- The shortest decimal that rounds to the absolute value of a finite number. A candidate ends in a
zero only as the ten of the coarsest grid. -/
def shortest : Decimal :=
  let length := decimalLength x.decimalUnits
  match (List.range 17).findSome? fun n => x.nearestOnGrid (length - (n + 1)) with
  | some d => if d.digits % 10 = 0 then ⟨d.digits / 10, d.exponent + 1⟩ else d
  | none => ⟨x.decimalUnits, -1074⟩

end Binary64

end Expectation
