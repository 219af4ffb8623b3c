import Expectation.Text.RangeTable

/-!
# Blanks and lines

* `blanks`, `isBlank`: white space by the Unicode property White_Space;
* `lines`: the lines of a text.
-/

namespace Expectation.Text

/-- The characters with the property White_Space. -/
def blanks : RangeTable :=
  [(0x9, 0xd), (0x20, 0x20), (0x85, 0x85), (0xa0, 0xa0), (0x1680, 0x1680), (0x2000, 0x200a),
   (0x2028, 0x2029), (0x202f, 0x202f), (0x205f, 0x205f), (0x3000, 0x3000)]

/-- The text holds nothing but white space. -/
def isBlank (text : List Char) : Bool := text.all blanks.holds

/-- Adds a character to the first of some lines, opening a line where there is none. -/
def extendFirst (c : Char) : List (List Char) → List (List Char)
  | [] => [[c]]
  | line :: rest => (c :: line) :: rest

/-- The lines of a text. A line ends with a line feed, or with a carriage return and a line feed; the
last line may end with the text and is absent where it would be empty. -/
def lines : List Char → List (List Char)
  | [] => []
  | '\r' :: '\n' :: rest => [] :: lines rest
  | c :: rest => if c = '\n' then [] :: lines rest else extendFirst c (lines rest)

end Expectation.Text
