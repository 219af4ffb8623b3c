import Expectation.Value.Basic
import Expectation.Binary64.Text
import Expectation.Text.Quoted

/-!
# Values as text

Three texts of a value: one for running text, one for failure messages, whose length is limited, and
one for developers, which shows the kind of every part.

* `Value.display`: the value in running text;
* `RenderLimits`, `RenderLimits.clip`: how much of a text or list a message shows;
* `Value.render`: the value in a message;
* `Value.dump`: the value for developers.
-/

namespace Expectation

/-- Texts separated by commas. -/
def commaSeparated (parts : List String) : String := String.intercalate ", " parts

/-- A truth value in words. -/
def truthText (b : Bool) : String := if b then "true" else "false"

/-! ## Running text -/

namespace Value

mutual

/-- The value in running text: texts as they are, lists in square brackets. -/
def display : Value → String
  | null => "null"
  | bool b => truthText b
  | int n => toString n.toInt
  | float x => x.text .precise
  | text t => t.content
  | list items => "[" ++ commaSeparated (displayAll items) ++ "]"
  | object o => o.rendered
  | fault f => f.rendered
  | code _ => "<code>"

/-- Every item in running text. -/
def displayAll : List Value → List String
  | [] => []
  | v :: rest => display v :: displayAll rest

end

end Value

/-! ## Messages -/

/-- How much of a value a message shows: the characters of a text and the items of a list, zero
standing for all. -/
structure RenderLimits where
  maxTextLength : Nat
  maxItems : Nat
deriving DecidableEq

namespace RenderLimits

/-- Whole texts, and ten items of a list. -/
def default : RenderLimits := ⟨0, 10⟩

variable (limits : RenderLimits)

/-- A text within the limit: a longer one keeps its first characters, three fewer than the limit, and
ends in dots. -/
def clip (text : String) : String :=
  if limits.maxTextLength = 0 ∨ text.length ≤ limits.maxTextLength then text
  else String.ofList (text.toList.take (limits.maxTextLength - 3)) ++ "..."

/-- How many items of a list of the given length are shown. -/
def shownItems (length : Nat) : Nat :=
  if limits.maxItems = 0 then length else min limits.maxItems length

end RenderLimits

namespace Value

mutual

/-- The value in a message: texts in quotation marks, lists in angle brackets with dots for the items
that are not shown. -/
def render (limits : RenderLimits) : Value → String
  | null => "null"
  | bool b => truthText b
  | int n => toString n.toInt
  | float x => x.text .precise
  | text t => "\"" ++ limits.clip t.content ++ "\""
  | list items =>
    if items.isEmpty then "<empty>"
    else
      let shown := limits.shownItems items.length
      let parts := renderFirst limits shown items
      "< " ++ commaSeparated (if shown < items.length then parts ++ ["..."] else parts) ++ " >"
  | object o => o.rendered
  | fault f => f.rendered
  | code _ => "<code>"

/-- The first `count` items in a message. -/
def renderFirst (limits : RenderLimits) (count : Nat) : List Value → List String
  | [] => []
  | v :: rest => if count = 0 then [] else render limits v :: renderFirst limits (count - 1) rest

end

/-! ## Dumps -/

mutual

/-- The value for developers, each part with its kind. -/
def dump : Value → String
  | null => "Null"
  | bool b => "Bool(" ++ truthText b ++ ")"
  | int n => "Int(" ++ toString n.toInt ++ ")"
  | float x => "Float(" ++ x.text .precise ++ ")"
  | text t => "Str(" ++ Text.quoted t.content ++ ")"
  | list items => "List([" ++ commaSeparated (dumpAll items) ++ "])"
  | object o => "Object(" ++ o.dumped ++ ")"
  | fault f =>
    "Object(Fault \x7b kind: " ++ Text.quoted f.kind.content ++ ", message: " ++
      Text.quoted f.message.content ++ " \x7d)"
  | code _ => "Code"

/-- Every item for developers. -/
def dumpAll : List Value → List String
  | [] => []
  | v :: rest => dump v :: dumpAll rest

end

end Value

end Expectation
