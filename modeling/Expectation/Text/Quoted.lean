import Expectation.Text.Unprintable

/-!
# Quoted text

A text in quotation marks, with every character that would not show written as an escape.

* `escape`: how a character stands between the marks;
* `quoted`: a text between its marks.
-/

namespace Expectation.Text

/-- A character between quotation marks: a named escape where there is one, and otherwise the code
point in braces where the character does not print. -/
def escape (c : Char) : List Char :=
  match c with
  | '\x00' => ['\\', '0']
  | '\t' => ['\\', 't']
  | '\r' => ['\\', 'r']
  | '\n' => ['\\', 'n']
  | '\\' => ['\\', '\\']
  | '\x22' => ['\\', '\x22']
  | c =>
    if unprintable.holds c then '\\' :: 'u' :: '\x7b' :: Nat.toDigits 16 c.toNat ++ ['\x7d'] else [c]

/-- A text in quotation marks. -/
def quoted (text : String) : String :=
  String.ofList ('\x22' :: text.toList.flatMap escape ++ ['\x22'])

end Expectation.Text
