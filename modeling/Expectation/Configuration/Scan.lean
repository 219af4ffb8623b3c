import Expectation.Configuration.Node
import Expectation.Text.Blank

/-!
# Scanning documents

What the readers of the two languages have in common.

* `Entries.insert`: entries with one more under a path;
* `isRest`, `documentLines`: what the lines of a document have in common;
* `DecimalText`: a decimal number as it is written, with its value;
* `Escapes`, `Escapes.content?`: a text between quotation marks.
-/

namespace Expectation.Configuration

/-- Replaces the node of a key that is there. -/
def Entries.replace (key : String) (node : Node) : Entries → Entries
  | [] => []
  | (k, n) :: rest => if k = key then (k, node) :: rest else (k, n) :: Entries.replace key node rest

/-- Adds an entry under a path of keys, opening sections where there are none. A key that is taken, or
that leads through a single value, is refused. -/
def Entries.insert (node : Node) : List String → Entries → Option Entries
  | [], _ => none
  | [key], entries =>
    if entries.any fun e => e.1 == key then none else some (entries ++ [(key, node)])
  | key :: path, entries =>
    match entries.lookup key with
    | none => do
      let inner ← Entries.insert node path []
      some (entries ++ [(key, .table inner)])
    | some (.table inner) => do
      let inner ← Entries.insert node path inner
      some (entries.replace key (.table inner))
    | some _ => none

/-! ## Lines -/

/-- White space within a line. -/
def isSpace (c : Char) : Bool := c = ' ' || c = '\t'

/-- The rest of a line without the white space at its beginning. -/
def skipSpace (text : List Char) : List Char := text.dropWhile isSpace

/-- Nothing but a comment is left of the line. -/
def isRest (text : List Char) : Bool :=
  match skipSpace text with
  | [] => true
  | c :: _ => c = '#'

/-- The lines of a document. A line feed ends a line, with a carriage return before it or without, and
what follows the last one is a line too. -/
def documentLines : List Char → List (List Char)
  | [] => [[]]
  | '\r' :: '\n' :: rest => [] :: documentLines rest
  | c :: rest =>
    if c = '\n' then [] :: documentLines rest else Text.extendFirst c (documentLines rest)

/-! ## Numbers -/

/-- A decimal number as it is written: the digits before and behind the point, if there is one, and the
exponent, if there is one. -/
structure DecimalText where
  whole : List Char
  fraction : Option (List Char)
  exponent : Option Int

namespace DecimalText

/-- The digits of an exponent, with a sign or without. -/
def scanExponent? (text : List Char) : Option Int :=
  let (negative, digits) := match text with
    | '-' :: rest => (true, rest)
    | '+' :: rest => (false, rest)
    | rest => (false, rest)
  if digits.isEmpty || !digits.all Char.isDigit then none
  else
    let n := Nat.ofDigitChars 10 digits 0
    some (if negative then -(n : Int) else n)

/-- Reads a decimal number without a sign. -/
def scan? (text : List Char) : Option DecimalText := do
  let whole := text.takeWhile Char.isDigit
  let (fraction, rest) := match text.dropWhile Char.isDigit with
    | '.' :: rest => (some (rest.takeWhile Char.isDigit), rest.dropWhile Char.isDigit)
    | rest => (none, rest)
  match rest with
  | [] => some ⟨whole, fraction, none⟩
  | mark :: rest =>
    if mark = 'e' ∨ mark = 'E' then do
      let exponent ← scanExponent? rest
      some ⟨whole, fraction, some exponent⟩
    else none

variable (d : DecimalText)

/-- The digits behind the point. -/
def places : List Char := d.fraction.getD []

/-- The nearest double. -/
def value (negative : Bool) : Binary64 :=
  .ofDecimal negative (Nat.ofDigitChars 10 (d.whole ++ d.places) 0)
    (d.exponent.getD 0 - d.places.length)

end DecimalText

/-- The number that digits of a base denote, if they are digits of that base. -/
def digitsOfBase? (base : Nat) (digits : List Char) : Option Nat :=
  let digit := fun c : Char =>
    if c.isDigit then c.toNat - '0'.toNat
    else if 'a' ≤ c.toLower ∧ c.toLower ≤ 'z' then c.toLower.toNat - 'a'.toNat + 10
    else base
  if digits.isEmpty || !digits.all (fun c => decide (digit c < base)) then none
  else some (digits.foldl (fun n c => base * n + digit c) 0)

/-! ## Texts between quotation marks -/

/-- The character of a code point in hexadecimal digits. -/
def codePoint? (digits : List Char) : Option Char := do
  let n ← digitsOfBase? 16 digits
  if n.isValidChar then some (Char.ofNat n) else none

/-- What may follow a backslash between quotation marks: a letter that stands for a character, or `x`,
`u` or `U` with the two, four or eight digits of a code point. -/
structure Escapes where
  letters : List (Char × Char)
  /-- Code points of two digits are known. -/
  short : Bool

/-- The content of a text up to the closing quotation mark, and what follows. -/
def Escapes.content? (e : Escapes) (reversed : List Char) : List Char → Option (List Char × List Char)
  | [] => none
  | '\x22' :: rest => some (reversed.reverse, rest)
  | '\\' :: 'x' :: a :: b :: rest => do
    if e.short then e.content? ((← codePoint? [a, b]) :: reversed) rest else none
  | '\\' :: 'u' :: a :: b :: c :: d :: rest => do
    e.content? ((← codePoint? [a, b, c, d]) :: reversed) rest
  | '\\' :: 'U' :: a :: b :: c :: d :: f :: g :: h :: i :: rest => do
    e.content? ((← codePoint? [a, b, c, d, f, g, h, i]) :: reversed) rest
  | '\\' :: letter :: rest => do
    e.content? ((← e.letters.lookup letter) :: reversed) rest
  | '\\' :: [] => none
  | c :: rest => e.content? (c :: reversed) rest

end Expectation.Configuration
