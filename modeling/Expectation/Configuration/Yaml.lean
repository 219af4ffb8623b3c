import Expectation.Configuration.Scan

/-!
# YAML documents

A reader for configuration files in YAML: block sections by indentation, inline sections, plain and
quoted scalars and comments. Sequences are recognised and refused where a section is expected. Scalars that
go over several lines, tags, anchors and aliases are not known and refused.

* `Yaml.number?`, `Yaml.count?`, `Yaml.plainScalar`: what an unquoted word stands for;
* `Yaml.value?`: a value within a line;
* `Yaml.nodeOf?`, `Yaml.block?`: the value behind a key, and the entries of a block of lines;
* `Yaml.parse`: the document.
-/

namespace Expectation.Configuration.Yaml

/-! ## Scalars -/

/-- The finite double that a decimal without a sign denotes, which has digits before or behind its
point. -/
def finite? (negative : Bool) (word : List Char) : Option Binary64 := do
  let d ← DecimalText.scan? word
  if d.whole.isEmpty && d.places.isEmpty then none
  else if (d.value negative).isFinite then some (d.value negative)
  else none

/-- The double that a word without a sign denotes. -/
def magnitude? (negative : Bool) (word : List Char) : Option Binary64 :=
  if [".inf", ".Inf", ".INF"].contains (String.ofList word) then some (.infinity negative)
  else finite? negative word

/-- The double that a word denotes. -/
def number? (word : List Char) : Option Binary64 :=
  if [".nan", ".NaN", ".NAN"].contains (String.ofList word) then some .nan
  else
    match word with
    | '-' :: rest => magnitude? true rest
    | '+' :: rest => magnitude? false rest
    | word => magnitude? false word

/-- The count that a word denotes, with at most one plus sign in front. Decimal digits do not begin
with a zero that is not all of them. -/
def count? (word : List Char) : Option Nat :=
  let digits := match word with
    | '+' :: rest => rest
    | word => word
  match digits with
  | '0' :: 'x' :: digits => digitsOfBase? 16 digits
  | '0' :: 'o' :: digits => digitsOfBase? 8 digits
  | '0' :: 'b' :: digits => digitsOfBase? 2 digits
  | '0' :: _ :: _ => none
  | digits => digitsOfBase? 10 digits

/-- What a plain word stands for. Every word stands for itself where a text is wanted. -/
def plainScalar (word : List Char) : Scalar :=
  let text := String.ofList word
  ⟨number? word, count? word, some text, ["", "~", "null", "Null", "NULL"].contains text,
    word.isEmpty⟩

/-- The escapes between quotation marks. -/
def escapes : Escapes :=
  ⟨[('0', '\x00'), ('a', '\x07'), ('b', '\x08'), ('t', '\t'), ('\t', '\t'), ('n', '\n'),
    ('v', '\x0b'), ('f', '\x0c'), ('r', '\r'), ('e', '\x1b'), (' ', ' '), ('\x22', '\x22'),
    ('/', '/'), ('\\', '\\'), ('N', '\u0085'), ('_', '\u00a0'), ('L', '\u2028'), ('P', '\u2029')],
    true⟩

/-- The content of a text between single quotation marks, of which a doubled one stands for one, and
what follows. -/
def singleQuoted? (reversed : List Char) : List Char → Option (List Char × List Char)
  | [] => none
  | '\'' :: '\'' :: rest => singleQuoted? ('\'' :: reversed) rest
  | '\'' :: rest => some (reversed.reverse, rest)
  | c :: rest => singleQuoted? (c :: reversed) rest

/-- A text without the white space at its end. -/
def trimEnd (text : List Char) : List Char := (text.reverse.dropWhile isSpace).reverse

/-- The characters that an inline section or sequence is made of. -/
def isFlowMark (c : Char) : Bool := [',', '[', ']', '\x7b', '\x7d'].contains c

/-- The characters that have a meaning at the beginning of a plain word, and cannot begin one. -/
def isMark (c : Char) : Bool := isFlowMark c || "#&*!|>%@\x60".toList.contains c

/-- What follows ends a plain word. Within an inline section its marks do as well. -/
def isWordEnd (inline : Bool) (rest : List Char) : Bool :=
  match rest with
  | [] => true
  | c :: _ => isSpace c || inline && isFlowMark c

/-- A plain word up to a comment, to the colon behind a key, or to a mark of an inline section. -/
def plainWord (inline : Bool) : List Char → List Char
  | [] => []
  | c :: rest =>
    if inline && isFlowMark c then []
    else if c = ':' && isWordEnd inline rest then []
    else if isSpace c && rest.head? == some '#' then []
    else c :: plainWord inline rest

/-- The text begins with a character that cannot begin a plain word. A hyphen and a question mark can
where white space does not follow. -/
def beginsNoWord (text : List Char) : Bool :=
  match text with
  | [] => false
  | c :: rest => isMark c || (c = '-' || c = '?') && isWordEnd false rest

/-- The line begins an item of a sequence. -/
def isItem (text : List Char) : Bool := text.head? == some '-' && beginsNoWord text

/-- A scalar, with its text, and what follows. -/
def scalar? (inline : Bool) (text : List Char) : Option (Scalar × String × List Char) :=
  let quoted := fun (content, rest) =>
    let content := String.ofList content
    (Scalar.ofText content, content, rest)
  match text with
  | '\x22' :: rest => (escapes.content? [] rest).map quoted
  | '\'' :: rest => (singleQuoted? [] rest).map quoted
  | text =>
    let word := plainWord inline text
    if !word.isEmpty && beginsNoWord text then none
    else some (plainScalar (trimEnd word), String.ofList (trimEnd word), text.drop word.length)

/-! ## Values within a line -/

mutual

/-- A value, and what follows. -/
def value? (inline : Bool) : Nat → List Char → Option (Node × List Char)
  | 0, _ => none
  | fuel + 1, text =>
    match text with
    | '\x7b' :: rest => entries? fuel [] (skipSpace rest)
    | '[' :: rest => items? fuel (skipSpace rest)
    | text => (scalar? inline text).map fun (s, _, rest) => (.scalar s, rest)

/-- The entries of an inline section up to its closing brace, and what follows it. A key without a
colon has an empty value. -/
def entries? : Nat → Entries → List Char → Option (Node × List Char)
  | 0, _, _ => none
  | fuel + 1, entries, text =>
    match text with
    | '\x7d' :: rest => some (.table entries, rest)
    | text => do
      let (_, key, rest) ← scalar? true text
      let (node, rest) ← match skipSpace rest with
        | ':' :: rest => value? true fuel (skipSpace rest)
        | rest => some (.scalar (plainScalar []), rest)
      let entries := entries ++ [(key, node)]
      match skipSpace rest with
      | ',' :: rest => entries? fuel entries (skipSpace rest)
      | '\x7d' :: rest => some (.table entries, rest)
      | _ => none

/-- The items of an inline sequence up to its closing bracket, and what follows it. -/
def items? : Nat → List Char → Option (Node × List Char)
  | 0, _ => none
  | fuel + 1, text =>
    match text with
    | ']' :: rest => some (.sequence, rest)
    | text => do
      let (_, rest) ← value? true fuel text
      match skipSpace rest with
      | ',' :: rest => items? fuel (skipSpace rest)
      | ']' :: rest => some (.sequence, rest)
      | _ => none

end

/-- Nothing but a comment is left, behind white space. -/
def isEnd (text : List Char) : Bool :=
  match text with
  | [] => true
  | c :: _ => isSpace c && isRest text

/-- The value that is all of a line's rest. -/
def nodeAt? (text : List Char) : Option Node := do
  let (node, rest) ← value? false text.length.succ text
  if isEnd rest then some node else none

/-! ## Blocks -/

/-- A line by its indentation and what follows it. -/
abbrev Line := Nat × List Char

/-- The key at the beginning of a line, and what follows its colon. -/
def key? (text : List Char) : Option (String × List Char) := do
  let (_, key, rest) ← scalar? false text
  match skipSpace rest with
  | ':' :: rest => if isWordEnd false rest then some (key, skipSpace rest) else none
  | _ => none

/-- What stands behind a key: the rest of its line, or the deeper lines below it. These are a sequence, a
value on a single line, or a section with the given entries. -/
def nodeOf? (value : List Char) (below : List Line) (entries : Option Entries) : Option Node :=
  if isRest value then
    match below with
    | [] => some (.scalar (plainScalar []))
    | (_, line) :: more =>
      if isItem line then some .sequence
      else if more.isEmpty && (key? line).isNone then nodeAt? line
      else entries.map .table
  else if below.isEmpty then nodeAt? value
  else none

/-- The entries of lines that begin at one indentation; deeper lines belong to the entry above them. -/
def block? : List Line → Option Entries
  | [] => some []
  | (indent, text) :: rest => do
    let (key, value) ← key? text
    let below := rest.takeWhile fun line => decide (indent < line.1)
    let node ← nodeOf? value below (block? below)
    let others := rest.dropWhile fun line => decide (indent < line.1)
    if others.head?.all fun line => decide (line.1 = indent) then
      (block? others).map ((key, node) :: ·)
    else none
  termination_by lines => lines.length
  decreasing_by
    · exact Nat.lt_succ_of_le (List.takeWhile_sublist _).length_le
    · exact Nat.lt_succ_of_le (List.dropWhile_sublist _).length_le

/-- The lines of a document that hold more than a comment, by their indentation. -/
def contentLines (text : String) : List Line :=
  ((documentLines text.toList).filter fun line => !isRest line).map fun line =>
    ((line.takeWhile (· = ' ')).length, line.dropWhile (· = ' '))

/-- The lines behind the marker that a document may begin with. -/
def afterMarker : List Line → List Line
  | (0, '-' :: '-' :: '-' :: rest) :: lines =>
    if isEnd rest then lines else (0, '-' :: '-' :: '-' :: rest) :: lines
  | lines => lines

/-- The document, if it can be read. A document without content is an empty value. Tabs do not indent. -/
def parse (text : String) : Option Node :=
  let lines := afterMarker (contentLines text)
  if lines.any fun line => line.2.head? == some '\t' then none else nodeOf? [] lines (block? lines)

end Expectation.Configuration.Yaml
