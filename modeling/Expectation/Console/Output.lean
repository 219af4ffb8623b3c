import Expectation.Console.Line

/-!
# Console output

Which events reach the console, and what it prints once it is set up.

* `header`: the first line of the console;
* `FilterReader`: what reads the directives of filters;
* `Output`, `Output.setUp`, `Output.write`: a console that is set up at most once;
* `Filter`, `Filter.reader`, `Output.start`: the filters that the program runs with, by level and target.
-/

namespace Expectation

namespace Console

/-- The first line of the console. -/
def header : String := bold (paint .brightCyan "AssertForge v0.5.3") ++ "\n"

/-- What reads a directive into the events that pass: all of it, or as much as can be read. -/
structure FilterReader where
  read? : String → Option (Event → Bool)
  lenient : String → Event → Bool

/-- A console: the events that pass, once it is set up, and what it has printed. -/
structure Output where
  filter : Option (Event → Bool)
  printed : String

namespace Output

/-- The console before it is set up. -/
def initial : Output := ⟨none, ""⟩

/-- Sets the console up, unless it is already. The directive of the environment goes before the one that
is asked for, if it can be read. -/
def setUp (reader : FilterReader) (environment : Option String) (directive : String) (out : Output) :
    Output :=
  match out.filter with
  | some _ => out
  | none =>
    let filter := (environment.bind reader.read?).getD (reader.lenient directive)
    ⟨some filter, out.printed ++ header⟩

/-- Shows an event on a console that is set up. -/
def write (elapsed : String) (out : Output) (e : Event) : Output :=
  match out.filter with
  | some passes => if passes e then { out with printed := out.printed ++ print elapsed e } else out
  | none => out

end Output

/-! ## The program's filters -/

/-- The events of targets that begin in some way, up to a level. -/
structure Filter where
  target : String
  maximum : Option Level
deriving DecidableEq

namespace Filter

/-- The names of the last levels, in the order of the numbers that may stand for them. -/
def levelNames : List (String × Option Level) :=
  [("off", none), ("error", some .error), ("warn", some .warn), ("info", some .info),
    ("debug", some .debug), ("trace", some .trace)]

/-- The last level of a directive: a name in letters of either case, or its number. -/
def parseLevel? (text : String) : Option (Option Level) :=
  match levelNames.lookup text.toLower with
  | some maximum => some maximum
  | none => (["0", "1", "2", "3", "4", "5"].zip (levelNames.map (·.2))).lookup text

/-- The text may be the beginning of a target: ASCII letters and digits, underscores, hyphens and
colons. -/
def isTarget (text : String) : Bool :=
  !text.isEmpty && text.toList.all fun c => c.isAlphanum || ['_', '-', ':'].contains c

/-- The filter without a directive, which errors alone pass. -/
def errorsOnly : Filter := ⟨"", some .error⟩

/-- The filter of a directive: a level for every target, a target with all its levels, or a target and
its last level. -/
def parse? (directive : String) : Option Filter :=
  let word := String.ofList (directive.toList.takeWhile (· ≠ '='))
  match directive.toList.dropWhile (· ≠ '=') with
  | [] =>
    match parseLevel? word with
    | some maximum => some ⟨"", maximum⟩
    | none =>
      if word.isEmpty then some errorsOnly
      else if isTarget word then some ⟨word, some .trace⟩
      else none
  | _ :: level =>
    if !isTarget word then none
    else if level.isEmpty then some ⟨word, some .trace⟩
    else (parseLevel? (String.ofList level)).map (⟨word, ·⟩)

/-- The event passes. -/
def passes (f : Filter) (e : Event) : Bool :=
  e.hasTarget f.target && e.level.within f.maximum

/-- Reads the directives that this filter knows. Where one cannot be read, errors alone pass. -/
def reader : FilterReader where
  read? directive := (parse? directive).map passes
  lenient directive := ((parse? directive).getD errorsOnly).passes

end Filter

/-- Sets the console up with the filters of the program. -/
def Output.start : Option String → String → Output → Output := setUp Filter.reader

end Console

end Expectation
