/-!
# Console styles

* `Colour`: the colours of the console;
* `paint`, `bold`: text in a colour and in bold, between the escape sequences of the terminal.
-/

namespace Expectation.Console

/-- A colour of the console. -/
inductive Colour where
  | red
  | yellow
  | white
  | brightBlack
  | brightRed
  | brightGreen
  | brightYellow
  | brightBlue
  | brightMagenta
  | brightCyan
  | brightWhite
deriving DecidableEq

/-- The number of a colour in escape sequences. -/
def Colour.code : Colour → String
  | red => "31"
  | yellow => "33"
  | white => "37"
  | brightBlack => "90"
  | brightRed => "91"
  | brightGreen => "92"
  | brightYellow => "93"
  | brightBlue => "94"
  | brightMagenta => "95"
  | brightCyan => "96"
  | brightWhite => "97"

/-- The escape sequence of a number. -/
def escapeSequence (code : String) : String := "\x1b[" ++ code ++ "m"

/-- A text in a colour. -/
def paint (colour : Colour) (text : String) : String :=
  escapeSequence colour.code ++ text ++ escapeSequence "39"

/-- A text in bold. -/
def bold (text : String) : String := escapeSequence "1" ++ text ++ escapeSequence "0"

end Expectation.Console
