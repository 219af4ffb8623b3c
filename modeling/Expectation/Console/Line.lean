import Expectation.Assertion.Event
import Expectation.Console.Style
import Expectation.Text.Blank
import Expectation.Text.Quoted

/-!
# Console lines

How the console shows an event. Literal texts are shown as they are; values by their text lose the
quotation marks at their ends.

* `Event.hasTarget`, `Event.text?`, `Event.number?`: an event as the console reads it;
* `failLine`, `signalLine` and their like: the line of each kind of event;
* `line`: the line of an event, which is empty for events that the console does not know;
* `print`: what the console prints for an event.
-/

namespace Expectation

/-! ## Fields -/

/-- A text without the quotation marks at its ends. -/
def trimQuotes (text : String) : String :=
  let trimStart := fun cs : List Char => cs.dropWhile (· = '\x22')
  String.ofList (trimStart (trimStart text.toList).reverse).reverse

/-- The text of a field that holds one. -/
def FieldValue.asText : FieldValue → Option String
  | text s => some s
  | shown s => some (trimQuotes s)
  | unsigned _ | signed _ => none

/-- The number of a field that holds one, a negative number being taken for zero. -/
def FieldValue.asNumber : FieldValue → Option UInt64
  | unsigned n => some n
  | signed n => some (if n < 0 then 0 else n.toUInt64)
  | text _ | shown _ => none

namespace Event

variable (e : Event) (name : String)

/-- The target of the event begins with a text. -/
def hasTarget (beginning : String) : Bool := beginning.toList.isPrefixOf e.target.toList

/-- The last field of the name that is read as something. -/
def read? {α : Type} (read : FieldValue → Option α) : Option α :=
  e.fields.reverse.findSome? fun (key, value) => if key = name then read value else none

/-- The text under a name. -/
def text? : Option String := e.read? name FieldValue.asText

/-- The number under a name; a missing one counts as zero. -/
def number? : UInt64 := (e.read? name FieldValue.asNumber).getD 0

end Event

namespace Console

/-! ## Lines -/

variable (elapsed : String) (e : Event)

/-- The time since the start. -/
def timestamp : String := paint .brightBlack elapsed

/-- A number of an event in a colour. -/
def paintNumber (colour : Colour) (name : String) : String :=
  paint colour (toString (e.number? name).toNat)

/-- The line of a passed assertion, shown at the last level only. -/
def passLine : String :=
  if e.level ≠ .trace then ""
  else
    timestamp elapsed ++ " " ++ paint .brightGreen "✓" ++ " assertion #" ++
      paintNumber e .brightBlack "count"

/-- A text in which an escaped line feed stands for a line feed. -/
def unescapeLineFeeds : List Char → List Char
  | '\\' :: 'n' :: rest => '\n' :: unescapeLineFeeds rest
  | c :: rest => c :: unescapeLineFeeds rest
  | [] => []

/-- The lines of a message that are not blank, each on a line of its own. -/
def messageLines (message : String) : String :=
  String.join (((Text.lines (unescapeLineFeeds message.toList)).filter (!Text.isBlank ·)).map
    fun line => "\n          " ++ paint .red (String.ofList line))

/-- The lines of a failed assertion. -/
def failLine : String :=
  timestamp elapsed ++ " " ++ bold (paint .brightRed "✗") ++ " assertion #" ++
    paintNumber e .brightYellow "count" ++ " failed │ " ++
    bold (paint .white ((e.text? "constraint").getD "?")) ++
    ((e.text? "message").map messageLines).getD ""

/-- The colour of a signal, by what stands before its first colon. -/
def signalColour (signal : String) : Colour :=
  let text := signal.toList
  let kind := if text.contains ':' then String.ofList (text.takeWhile (· ≠ ':')) else ""
  if kind = "Test passed" then .brightGreen
  else if kind = "Test ignored" then .yellow
  else if kind = "Test inconclusive" then .brightMagenta
  else .brightRed

/-- The line of a signal. -/
def signalLine : String :=
  let signal := (e.text? "signal").getD ""
  let colour := signalColour signal
  timestamp elapsed ++ " " ++ paint colour "■" ++ " " ++ paint colour signal

/-- The line of a count of assertions. -/
def countLine : String :=
  timestamp elapsed ++ " " ++ bold (paint .brightCyan "Σ") ++ " " ++
    paintNumber e .brightYellow "count" ++
    (if e.number? "count" = 1 then " assertion" else " assertions")

/-- The line of an illegal call. -/
def illegalStepLine : String :=
  timestamp elapsed ++ " " ++ bold (paint .yellow "⚠") ++ " `" ++
    paint .brightWhite ((e.text? "step").getD "?") ++ "` is not allowed " ++
    (e.text? "state").getD "here" ++ " │ token " ++ paintNumber e .brightYellow "position"

/-- The line of a resolved expression. -/
def resolveLine : String :=
  timestamp elapsed ++ " " ++ paint .brightBlue "▶" ++ " resolved │ " ++
    paintNumber e .white "tokens" ++ " tokens │ " ++ paintNumber e .white "nodes" ++ " nodes"

/-- The line of a reduction, shown at the last level only. -/
def reduceLine : String :=
  if e.level ≠ .trace then ""
  else
    timestamp elapsed ++ " " ++ paint .brightBlack "·" ++ " reduce " ++
      paint .brightBlack ((e.text? "operator").getD "?") ++ " │ " ++
      paintNumber e .brightBlack "operands" ++ " operands"

/-- The line of an event, by its name. -/
def line : String :=
  match (e.text? "event").getD "" with
  | "assert_pass" => passLine elapsed e
  | "assert_fail" => failLine elapsed e
  | "assert_signal" => signalLine elapsed e
  | "assert_count" => countLine elapsed e
  | "illegal_step" => illegalStepLine elapsed e
  | "resolve" => resolveLine elapsed e
  | "reduce" => reduceLine elapsed e
  | _ => ""

/-- What the console prints for an event: nothing for the events of strangers and for an empty line. -/
def print : String :=
  let shown := line elapsed e
  if e.hasTarget "assertforge" && !shown.isEmpty then shown ++ "\n" else ""

end Console

end Expectation
