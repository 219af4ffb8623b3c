import Expectation.Binary64.Shortest

/-!
# Numbers as text

The digits of a number are those of its shortest decimal; a style decides how they are set.

* `TextStyle`: the decisions of a style, with `TextStyle.precise` and `TextStyle.plain`;
* `Decimal.inPlace`, `Decimal.scientific`: the two ways to set digits;
* `Binary64.text`: a number in a style.
-/

namespace Expectation

/-- How a number is set: the decimal exponents whose digits stand in place, and whether a whole
number shows a fraction of zero. -/
structure TextStyle where
  lowest : Option Int
  highest : Option Int
  showsPoint : Bool

/-- The style of numbers in values: in place from `0.0001` up to sixteen digits before the point. -/
def TextStyle.precise : TextStyle := ⟨some (-4), some 15, true⟩

/-- The style of numbers in running text: always in place, whole numbers without a fraction. -/
def TextStyle.plain : TextStyle := ⟨none, none, false⟩

/-- The digits of a number of this decimal exponent stand in place. -/
def TextStyle.setsInPlace (style : TextStyle) (exponent : Int) : Bool :=
  style.lowest.all (decide <| · ≤ exponent) && style.highest.all (decide <| exponent ≤ ·)

namespace Decimal

variable (d : Decimal)

/-- The digits as characters. -/
def characters : List Char := Nat.toDigits 10 d.digits

/-- The power of ten of the first digit. -/
def leading : Int := d.exponent + d.characters.length - 1

/-- The digits in place, with zeros up to the point or behind it. -/
def inPlace (showsPoint : Bool) : List Char :=
  if 0 ≤ d.exponent then
    d.characters ++ List.replicate d.exponent.toNat '0' ++ if showsPoint then ['.', '0'] else []
  else if 0 ≤ d.leading then
    let whole := (d.leading + 1).toNat
    d.characters.take whole ++ '.' :: d.characters.drop whole
  else '0' :: '.' :: List.replicate (-d.leading - 1).toNat '0' ++ d.characters

/-- One digit before the point, the others behind it, and the power of ten. -/
def scientific : List Char :=
  d.characters.take 1 ++ (if d.characters.length = 1 then [] else '.' :: d.characters.drop 1) ++
    'e' :: (toString d.leading).toList

end Decimal

/-- The text of a number in a style. -/
def Binary64.text (style : TextStyle) (x : Binary64) : String :=
  if x.isNaN then "NaN"
  else
    let digits :=
      if x.isInfinite then ['i', 'n', 'f']
      else if x.isZero then '0' :: if style.showsPoint then ['.', '0'] else []
      else if style.setsInPlace x.shortest.leading then x.shortest.inPlace style.showsPoint
      else x.shortest.scientific
    String.ofList (if x.negative then '-' :: digits else digits)

end Expectation
