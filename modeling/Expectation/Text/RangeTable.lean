/-!
# Tables of character ranges

A property of characters is a list of ranges of code points in ascending order.

* `RangeTable`, `RangeTable.contains`: membership, which stops at the first range above the
  character.
-/

namespace Expectation.Text

/-- Ranges of code points, both ends included, in ascending order. -/
abbrev RangeTable := List (Nat × Nat)

/-- The code point lies in one of the ranges. -/
def RangeTable.contains : RangeTable → Nat → Bool
  | [], _ => false
  | (first, last) :: rest, n =>
    if n < first then false else decide (n ≤ last) || RangeTable.contains rest n

/-- The character lies in one of the ranges. -/
def RangeTable.holds (table : RangeTable) (c : Char) : Bool := table.contains c.toNat

end Expectation.Text
