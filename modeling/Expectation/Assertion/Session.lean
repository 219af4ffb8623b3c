import Expectation.Assertion.Classic

/-!
# Sessions

A session is a series of assertions that count on common counters: the one that all assertions of the
process share unless they are told otherwise, and one of the session's own.

* `Counters`, `Session`: the counters and the settings of a session;
* `Command`: what can be done in a session, with the `Reply` that it gives;
* `Session.perform`: what a command does.
-/

namespace Expectation

/-- The counter of the process and that of the session. -/
structure Counters where
  shared : Counter
  own : Counter

/-- How a session asserts: its settings, and whether it counts on the shared counter. -/
structure Session where
  settings : Settings
  countsShared : Bool

/-- What can be done in a session. -/
inductive Command (σ : Type) where
  /-- An assertion with the settings and the counter of the session. -/
  | assert (actual : Actual σ) (goal : Goal) (message : Message)
  /-- An assertion with default settings, on the shared counter. -/
  | assertFreely (actual : Actual σ) (goal : Goal) (message : Message)
  | check (c : Check σ)
  /-- A check that hands out the fault it judged. -/
  | checkThrows (kind : String) (code : Code)
  | raise (signal : Signal) (message : Message)
  | resolve (chain : Chain)
  /-- Reads the counter of the session. -/
  | count
  /-- Reads the counter of the session and sets it back. -/
  | reset
  /-- Reads the shared counter, sets it back and logs the count. -/
  | assertCount
  | log (event : Event)

/-- What a command answers. -/
inductive Reply where
  | passed
  | ended (error : AssertError)
  | fault (f : Fault)
  | count (n : UInt64)
  | described (text : String)
  | malformed (error : BuildError)
  | nothing

/-- What a command did: its answer, the counters and the state it left, its calls and what it logged. -/
structure Step (σ : Type) where
  reply : Reply
  counters : Counters
  state : σ
  calls : List Call
  events : List Event

namespace Session

variable {σ : Type} (session : Session) (host : Host σ)

/-- The counter that the session counts on. -/
def counter (counters : Counters) : Counter :=
  if session.countsShared then counters.shared else counters.own

/-- The counters after the session's counter has changed. -/
def withCounter (counters : Counters) (c : Counter) : Counters :=
  if session.countsShared then { counters with shared := c } else { counters with own := c }

/-- The step of an assertion. -/
def ofReport {α : Type} (reply : α → Reply) (counters : Counter → Counters) (r : Report σ α) :
    Step σ :=
  ⟨match r.result with
    | .ok a => reply a
    | .error e => .ended e,
    counters r.counter, r.state, r.calls, r.events⟩

/-- Does what a command says. -/
def perform (counters : Counters) (state : σ) (command : Command σ) : Step σ :=
  let onShared := fun c => { counters with shared := c }
  match command with
  | .assert actual goal message =>
    ofReport (fun _ => .passed) (session.withCounter counters)
      (assertThat host session.settings actual goal message (session.counter counters) state)
  | .assertFreely actual goal message =>
    ofReport (fun _ => .passed) onShared
      (assertThat host .default actual goal message counters.shared state)
  | .check c => ofReport (fun _ => .passed) onShared (c.run host counters.shared state)
  | .checkThrows kind code =>
    ofReport .fault onShared (Classic.throws kind code host counters.shared state)
  | .raise signal message =>
    let (error, events) := signal.raise message
    ⟨.ended error, counters, state, [], events⟩
  | .resolve chain =>
    ⟨match chain.resolve with
      | .ok c => .described c.display
      | .error e => .malformed e,
      counters, state, [], chain.events⟩
  | .count => ⟨.count (session.counter counters).count, counters, state, [], []⟩
  | .reset =>
    let (n, c) := (session.counter counters).readAndReset
    ⟨.count n, session.withCounter counters c, state, [], []⟩
  | .assertCount =>
    let (n, c) := counters.shared.readAndReset
    ⟨.count n, onShared c, state, [], [.counted n]⟩
  | .log event => ⟨.nothing, counters, state, [], [event]⟩

end Session

end Expectation
