import Expectation.Value.Render

/-!
# Templates

A template is text with placeholders: a number in braces stands for the argument of that number, and
a doubled brace for a brace.

* `FormatError`: why a template cannot be filled in;
* `Segment`, `segments`: a template cut into literal characters, placeholders and, at its end, a brace
  without a partner;
* `placeholderIndex?`: the number in a placeholder;
* `formatTemplate`: the template with its arguments filled in.

Offsets count the bytes of UTF-8. Arguments are filled in as they are and not searched for braces.
-/

namespace Expectation

/-- Why a template cannot be filled in. -/
inductive FormatError where
  | missingArgument (index available : Nat)
  | invalidPlaceholder (placeholder : String) (offset : Nat)
  | unmatchedBrace (brace : Char) (offset : Nat)
deriving DecidableEq

/-- The reason in words. -/
def FormatError.message : FormatError → String
  | missingArgument index available =>
    "placeholder \x7b" ++ toString index ++ "\x7d has no matching argument (" ++
      toString available ++ " supplied)"
  | invalidPlaceholder placeholder offset =>
    "invalid placeholder `\x7b" ++ placeholder ++ "\x7d` at byte " ++ toString offset
  | unmatchedBrace brace offset =>
    "unmatched `" ++ String.ofList [brace] ++ "` at byte " ++ toString offset

/-! ## Cutting a template -/

/-- A part of a template. -/
inductive Segment where
  | literal (c : Char)
  /-- What stands in braces, and the offset of the opening one. -/
  | placeholder (content : List Char) (offset : Nat)
  /-- A brace without a partner, which ends the template. -/
  | unmatched (brace : Char) (offset : Nat)
deriving DecidableEq

/-- A placeholder that is being read: the offset of its brace and the characters since, the last one
first. -/
structure OpenPlaceholder where
  offset : Nat
  reversed : List Char

/-- Cuts the rest of a template at an offset, inside of a placeholder or not. -/
def segmentsFrom : Option OpenPlaceholder → Nat → List Char → List Segment
  | none, _, [] => []
  | none, offset, '\x7b' :: '\x7b' :: rest =>
    .literal '\x7b' :: segmentsFrom none (offset + 2) rest
  | none, offset, '\x7d' :: '\x7d' :: rest =>
    .literal '\x7d' :: segmentsFrom none (offset + 2) rest
  | none, offset, c :: rest =>
    if c = '\x7b' then segmentsFrom (some ⟨offset, []⟩) (offset + 1) rest
    else if c = '\x7d' then [.unmatched '\x7d' offset]
    else .literal c :: segmentsFrom none (offset + c.utf8Size) rest
  | some p, _, [] => [.unmatched '\x7b' p.offset]
  | some p, offset, c :: rest =>
    if c = '\x7d' then .placeholder p.reversed.reverse p.offset :: segmentsFrom none (offset + 1) rest
    else segmentsFrom (some ⟨p.offset, c :: p.reversed⟩) (offset + c.utf8Size) rest

/-- Cuts a template. -/
def segments (template : List Char) : List Segment := segmentsFrom none 0 template

/-! ## Filling in -/

/-- The number in a placeholder: decimal digits, after a plus sign or not, for a number of at most 64
bits. -/
def placeholderIndex? (content : List Char) : Option Nat :=
  let digits := if content.head? = some '+' then content.tail else content
  if digits.isEmpty || !digits.all Char.isDigit then none
  else
    let index := Nat.ofDigitChars 10 digits 0
    if index < UInt64.size then some index else none

/-- The text of a segment. -/
def Segment.fill (args : List Value) : Segment → Except FormatError (List Char)
  | literal c => .ok [c]
  | placeholder content offset =>
    match placeholderIndex? content with
    | none => .error (.invalidPlaceholder (String.ofList content) offset)
    | some index =>
      match args[index]? with
      | some v => .ok v.display.toList
      | none => .error (.missingArgument index args.length)
  | unmatched brace offset => .error (.unmatchedBrace brace offset)

/-- The text of segments in order, up to the first that has none. -/
def fillAll (args : List Value) : List Segment → Except FormatError (List Char)
  | [] => .ok []
  | s :: rest => do
    let first ← s.fill args
    let others ← fillAll args rest
    .ok (first ++ others)

/-- A template with its arguments filled in. -/
def formatTemplate (template : String) (args : List Value) : Except FormatError String :=
  (fillAll args (segments template.toList)).map String.ofList

end Expectation
