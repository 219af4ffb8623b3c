import Expectation.Text.CaseTables

/-!
# Lower case

The lower case of a whole text, by the full Unicode mapping. Two characters need more than a table:
the dotted capital I has a lower case of two characters, and the capital sigma has another form at
the end of a word.

* `lowerChar`: the lower case of a character on its own;
* `endsWord`: the context in which a capital sigma takes its final form;
* `lowercase`: the lower case of a text.
-/

namespace Expectation.Text

/-- The lower case of a code point that has a single one, by a table in ascending order. -/
def lowerCode : List LowerRange → Nat → Nat
  | [], n => n
  | r :: rest, n =>
    if n < r.first then n
    else if n ≤ r.last ∧ (n - r.first) % r.stride = 0 then (n + r.distance).toNat
    else lowerCode rest n

/-- The lower case of a character outside of any word. -/
def lowerChar (c : Char) : List Char :=
  if c = 'İ' then ['i', '\u0307'] else [Char.ofNat (lowerCode lowerRanges c.toNat)]

/-- The first character that case mapping does not look past has a case. -/
def meetsCased (text : List Char) : Bool :=
  (text.dropWhile caseIgnorable.holds).head?.any cased.holds

/-- A letter between `before`, nearest character first, and `after` is the last of a word of more
than one letter. -/
def endsWord (before after : List Char) : Bool := meetsCased before && !meetsCased after

/-- The lower case of a text that follows the characters `before`, nearest first. -/
def lowerAfter : List Char → List Char → List Char
  | _, [] => []
  | before, c :: rest =>
    (if c = 'Σ' then [if endsWord before rest then 'ς' else 'σ'] else lowerChar c) ++
      lowerAfter (c :: before) rest

/-- The lower case of a text. -/
def lowercase (text : List Char) : List Char := lowerAfter [] text

end Expectation.Text
