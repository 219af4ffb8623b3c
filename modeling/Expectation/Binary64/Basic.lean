/-!
# Double precision numbers

A `Binary64` is a 64-bit word: a sign bit, an exponent field of eleven bits and a fraction of 52
bits. Everything here is a definition on that word, so that equality of numbers is equality of
words and the order and the value of a number can be reasoned about in `Nat` and `Int`.

* `Binary64`, `negative`, `magnitude`, `exponentField`, `fraction`: the word and its fields;
* `isNaN`, `isInfinite`, `isFinite`: the classes of words;
* `significand`, `units`: the exact value of a finite number, in units of `2 ^ -1074`;
* `compare?`, `le`, `lt`, `eq`: the numerical order, in which a NaN stands apart and the two zeros
  are equal.
-/

namespace Expectation

/-- A double precision number, kept as its word. -/
structure Binary64 where
  bits : UInt64
deriving DecidableEq

namespace Binary64

variable (x y : Binary64)

/-! ## Fields -/

/-- The sign bit is set. -/
def negative : Bool := decide (1 <<< 63 ≤ x.bits.toNat)

/-- The word without its sign bit; on numbers of one sign it grows with the absolute value. -/
def magnitude : Nat := x.bits.toNat % (1 <<< 63)

/-- The exponent field. -/
def exponentField : Nat := x.magnitude / (1 <<< 52)

/-- The fraction field. -/
def fraction : Nat := x.magnitude % (1 <<< 52)

/-- The magnitude of the infinities: a full exponent field and an empty fraction. -/
def infinityMagnitude : Nat := 2047 <<< 52

/-- The number with the given sign and magnitude. -/
def make (negative : Bool) (magnitude : Nat) : Binary64 :=
  ⟨UInt64.ofNat (if negative then (1 <<< 63) + magnitude else magnitude)⟩

/-- Zero of the given sign. -/
def zero (negative : Bool) : Binary64 := make negative 0

/-- Infinity of the given sign. -/
def infinity (negative : Bool) : Binary64 := make negative infinityMagnitude

/-- The quiet NaN without a payload. -/
def nan : Binary64 := make false (infinityMagnitude + (1 <<< 51))

/-! ## Classes -/

/-- Not a number: the magnitude lies above the infinities. -/
def isNaN : Bool := decide (infinityMagnitude < x.magnitude)

/-- One of the two infinities. -/
def isInfinite : Bool := decide (x.magnitude = infinityMagnitude)

/-- A number with a value. -/
def isFinite : Bool := decide (x.magnitude < infinityMagnitude)

/-- One of the two zeros. -/
def isZero : Bool := decide (x.magnitude = 0)

/-! ## The value of a finite number -/

/-- The significand: the fraction below a leading one, or without it where the exponent field is
empty, counted in steps of `2 ^ (exponentField - 1075)` or, for an empty field, of `2 ^ -1074`. -/
def significand : Nat :=
  if x.exponentField = 0 then x.fraction else (1 <<< 52) + x.fraction

/-- The absolute value of a finite number as a multiple of `2 ^ -1074`. -/
def absUnits : Nat := x.significand <<< (x.exponentField - 1)

/-- The value of a finite number as a multiple of `2 ^ -1074`. -/
def units : Int := if x.negative then -(x.absUnits : Int) else x.absUnits

/-- The number of units in one. -/
def unitsPerOne : Nat := 1 <<< 1074

/-! ## Order -/

/-- The signed magnitude, which orders all numbers but the NaNs and does not tell the zeros apart. -/
def key : Int := if x.negative then -(x.magnitude : Int) else x.magnitude

/-- The numerical order of two numbers, absent when one of them is not a number. -/
def compare? : Option Ordering :=
  if x.isNaN || y.isNaN then none else some (compare x.key y.key)

/-- Numerical equality: a NaN equals nothing and the zeros are equal. -/
def eq : Bool := x.compare? y == some .eq

/-- Numerically at most. -/
def le : Bool := !x.isNaN && !y.isNaN && decide (x.key ≤ y.key)

/-- Numerically less. -/
def lt : Bool := !x.isNaN && !y.isNaN && decide (x.key < y.key)

end Binary64

end Expectation
