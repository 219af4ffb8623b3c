import Expectation.Configuration.Scan

/-!
# TOML documents

A reader for configuration files in TOML: entries, headers of sections, comments, texts, numbers,
truth values, arrays and inline sections. Each entry stands on a line of its own. Forms that go over several
lines, dates and arrays of sections are not known and refused.

* `Toml.Gathered`: the entries of a section while it is read;
* `Toml.value?`: a value at the beginning of a line's rest;
* `Toml.Reading`, `Toml.readLine`: a document that is being read, line by line;
* `Toml.parse`: the entries of a document.
-/

namespace Expectation.Configuration.Toml

/-! ## Characters -/

/-- A character of a document. Control characters other than the tab have no place in one. -/
def isDocumentChar (c : Char) : Bool := c = '\t' || decide (0x20 ≤ c.toNat ∧ c.toNat ≠ 0x7f)

/-- A character of a bare key. -/
def isKeyChar (c : Char) : Bool := c.isAlphanum || c = '_' || c = '-'

/-! ## Texts -/

/-- The escapes between quotation marks. -/
def escapes : Escapes :=
  ⟨[('b', '\x08'), ('t', '\t'), ('n', '\n'), ('f', '\x0c'), ('r', '\r'), ('\x22', '\x22'),
    ('\\', '\\')], false⟩

/-- The content of a literal text, read up to the closing mark, and what follows. -/
def literalText? (text : List Char) : Option (List Char × List Char) :=
  match text.dropWhile (· ≠ '\'') with
  | [] => none
  | _ :: rest => some (text.takeWhile (· ≠ '\''), rest)

/-! ## Numbers -/

/-- A number without its underscores, each of which stands between two digits. -/
def dropUnderscores? (isDigit : Char → Bool) : List Char → Option (List Char)
  | [] => some []
  | ['_'] => none
  | '_' :: _ :: _ => none
  | a :: '_' :: c :: rest =>
    if isDigit a && isDigit c then (dropUnderscores? isDigit (c :: rest)).map (a :: ·) else none
  | a :: rest => (dropUnderscores? isDigit rest).map (a :: ·)

/-- The digits before a point begin with a zero only where they are a zero. -/
def wellBegun (digits : List Char) : Bool :=
  match digits with
  | [] => false
  | [_] => true
  | c :: _ => c ≠ '0'

/-- An integer of 64 bits. -/
def integer? (n : Int) : Option Scalar :=
  if Int64.minValue.toInt ≤ n ∧ n ≤ Int64.maxValue.toInt then some (.ofInteger n) else none

/-- A decimal number: an integer, or a double where there is a point or an exponent. One that rounds to
the positive infinity is refused. -/
def decimal? (negative : Bool) (text : List Char) : Option Scalar := do
  let d ← DecimalText.scan? text
  if !wellBegun d.whole || d.fraction == some [] then none
  else if d.fraction.isNone && d.exponent.isNone then
    let n : Int := Nat.ofDigitChars 10 d.whole 0
    integer? (if negative then -n else n)
  else if (d.value negative).isFinite || negative then some (.ofNumber (d.value negative))
  else none

/-- An integer in digits of a base that is not ten. -/
def prefixed? (base : Nat) (digits : List Char) : Option Scalar := do
  integer? (← digitsOfBase? base (← dropUnderscores? Char.isAlphanum digits))

/-- A value that is one word. -/
def word? (word : List Char) : Option Scalar :=
  match word with
  | ['t', 'r', 'u', 'e'] | ['f', 'a', 'l', 's', 'e'] => some .other
  | '0' :: 'x' :: digits => prefixed? 16 digits
  | '0' :: 'o' :: digits => prefixed? 8 digits
  | '0' :: 'b' :: digits => prefixed? 2 digits
  | word =>
    let (negative, rest) := match word with
      | '-' :: rest => (true, rest)
      | '+' :: rest => (false, rest)
      | rest => (false, rest)
    match rest with
    | ['i', 'n', 'f'] => some (.ofNumber (.infinity negative))
    | ['n', 'a', 'n'] => some (.ofNumber .nan)
    | rest => do decimal? negative (← dropUnderscores? Char.isDigit rest)

/-! ## Entries -/

/-- Entries that are being read, and the paths of those sections among them that are complete. -/
structure Gathered where
  entries : Entries
  complete : List (List String)

namespace Gathered

/-- No entries yet. -/
def empty : Gathered := ⟨[], []⟩

/-- The path leads to a complete section or into one. -/
def isComplete (g : Gathered) (path : List String) : Bool := g.complete.any (·.isPrefixOf path)

/-- Adds an entry. A section that stands within a line is complete with it. -/
def insert (node : Node) (path : List String) (g : Gathered) : Option Gathered :=
  if g.isComplete path then none
  else do
    let entries ← g.entries.insert node path
    match node with
    | .table _ => some ⟨entries, path :: g.complete⟩
    | _ => some ⟨entries, g.complete⟩

end Gathered

/-! ## Keys and values -/

/-- A key, and what follows it. -/
def key? (text : List Char) : Option (String × List Char) :=
  match text with
  | '\x22' :: rest => (escapes.content? [] rest).map fun (content, rest) => (String.ofList content, rest)
  | '\'' :: rest => (literalText? rest).map fun (content, rest) => (String.ofList content, rest)
  | text =>
    let key := text.takeWhile isKeyChar
    if key.isEmpty then none else some (String.ofList key, text.dropWhile isKeyChar)

/-- A path of keys with points between them, and what follows it. -/
def path? : Nat → List Char → Option (List String × List Char)
  | 0, _ => none
  | fuel + 1, text => do
    let (key, rest) ← key? (skipSpace text)
    match skipSpace rest with
    | '.' :: rest => do
      let (path, rest) ← path? fuel rest
      some (key :: path, rest)
    | rest => some ([key], rest)

/-- The path of keys before a sign, and what follows the sign. -/
def pathBefore? (sign : Char) (text : List Char) : Option (List String × List Char) := do
  let (path, rest) ← path? text.length.succ text
  match rest with
  | c :: rest => if c = sign then some (path, rest) else none
  | [] => none

mutual

/-- A value, and what follows it. -/
def value? : Nat → List Char → Option (Node × List Char)
  | 0, _ => none
  | fuel + 1, text =>
    match text with
    | '\x22' :: rest => (escapes.content? [] rest).map fun (content, rest) =>
      (.scalar (.ofText (String.ofList content)), rest)
    | '\'' :: rest => (literalText? rest).map fun (content, rest) =>
      (.scalar (.ofText (String.ofList content)), rest)
    | '\x7b' :: rest =>
      match skipSpace rest with
      | '\x7d' :: rest => some (.table [], rest)
      | rest => inline? fuel .empty rest
    | '[' :: rest => items? fuel (skipSpace rest)
    | text =>
      let isWordChar := fun c => isKeyChar c || c = '+' || c = '.'
      let word := text.takeWhile isWordChar
      (word? word).map fun s => (.scalar s, text.dropWhile isWordChar)

/-- The entries of an inline section up to its closing brace, and what follows it. -/
def inline? : Nat → Gathered → List Char → Option (Node × List Char)
  | 0, _, _ => none
  | fuel + 1, gathered, text => do
    let (path, rest) ← pathBefore? '=' text
    let (node, rest) ← value? fuel (skipSpace rest)
    let gathered ← gathered.insert node path
    match skipSpace rest with
    | ',' :: rest => inline? fuel gathered rest
    | '\x7d' :: rest => some (.table gathered.entries, rest)
    | _ => none

/-- The items of an array up to its closing bracket, and what follows it. -/
def items? : Nat → List Char → Option (Node × List Char)
  | 0, _ => none
  | fuel + 1, text =>
    match text with
    | ']' :: rest => some (.sequence, rest)
    | text => do
      let (_, rest) ← value? fuel text
      match skipSpace rest with
      | ',' :: rest => items? fuel (skipSpace rest)
      | ']' :: rest => some (.sequence, rest)
      | _ => none

end

/-! ## Lines -/

/-- A document that is being read: what is gathered of it, the path of the section that is open, and the
paths of all sections that have had a header. -/
structure Reading where
  gathered : Gathered
  current : List String
  headers : List (List String)

/-- Opens a section. A section has one header, and its name stands for nothing else. -/
def openSection (path : List String) (r : Reading) : Option Reading :=
  if r.headers.contains path || r.gathered.isComplete path then none
  else
    match r.gathered.entries.insert (.table []) path with
    | some entries => some ⟨⟨entries, r.gathered.complete⟩, path, path :: r.headers⟩
    | none =>
      if r.headers.any (fun h => path.isPrefixOf h) then
        some { r with current := path, headers := path :: r.headers }
      else none

/-- Reads a line. -/
def readLine (r : Reading) (line : List Char) : Option Reading := do
  if !line.all isDocumentChar then none
  else if isRest line then some r
  else
    match skipSpace line with
    | '[' :: rest => do
      let (path, rest) ← pathBefore? ']' rest
      if isRest rest then openSection path r else none
    | text => do
      let (path, rest) ← pathBefore? '=' text
      let (node, rest) ← value? text.length.succ (skipSpace rest)
      if isRest rest then some { r with gathered := ← r.gathered.insert node (r.current ++ path) } else none

/-- The entries of a document. -/
def parse (text : String) : Option Node := do
  let r ← (documentLines text.toList).foldlM readLine ⟨.empty, [], []⟩
  some (.table r.gathered.entries)

end Expectation.Configuration.Toml
