import Expectation.Proofs.Message.Grammar

/-!
# Templates written from their pieces

A text with arguments in it can be written as a template: braces of the text are doubled and an argument
stands as its number in braces. The template is filled in to just that text, whatever stands next to what.

* `Piece`, with `Piece.encode` and `Piece.text`: a text or an argument, as it stands in a template and as
  it is filled in;
* `doubleBraces`: a text with its braces doubled;
* `Piece.parts`: the parts that a piece is read in;
* **`formatTemplate_encode`**: the template of some pieces, filled in.
-/

namespace Expectation

/-! ## Pieces -/

/-- A piece of a text: a text as it is, or one of so many arguments. -/
inductive Piece (available : Nat) where
  | literal (s : String)
  | argument (index : Fin available)

/-- The text with every brace doubled. -/
def doubleBraces (s : List Char) : List Char :=
  s.flatMap fun c => if c = '\x7b' ∨ c = '\x7d' then [c, c] else [c]

namespace Piece

/-- The piece as it stands in a template. -/
def encode {available : Nat} : Piece available → String
  | literal s => String.ofList (doubleBraces s.toList)
  | argument index => "\x7b" ++ toString index.val ++ "\x7d"

/-- The piece as it is filled in: the text of an argument as it is, with braces or without. -/
def text (args : List Value) : Piece args.length → String
  | literal s => s
  | argument index => (args.get index).display

end Piece

/-! ## Pieces as parts -/

section Parts

variable {available : Nat} {args : List Value}

theorem spells_toDigits {n : Nat} (h : n < UInt64.size) : Spells (Nat.toDigits 10 n) n :=
  ⟨_, .inl rfl, Nat.toDigits_ne_nil,
    fun _ hd => Nat.isDigit_of_mem_toDigits (by decide) (by decide) hd,
    Nat.ofDigitChars_ten_toDigits, h⟩

/-- The part that a character of a text is read in. -/
def Part.ofChar (c : Char) : Part available :=
  if h : c = '\x7b' ∨ c = '\x7d' then .doubled c h
  else .plain c (fun heq => h (.inl heq)) fun heq => h (.inr heq)

theorem Part.source_ofChar (c : Char) :
    (Part.ofChar c : Part available).source = if c = '\x7b' ∨ c = '\x7d' then [c, c] else [c] := by
  unfold Part.ofChar
  split <;> rfl

theorem Part.text_ofChar (c : Char) : (Part.ofChar c).text args = [c] := by
  unfold Part.ofChar
  split <;> rfl

/-- The parts that a piece is read in: one for each character of a text, and one for an argument. -/
def Piece.parts (havailable : available ≤ UInt64.size) : Piece available → List (Part available)
  | literal s => s.toList.map .ofChar
  | argument index =>
    [.placeholder (Nat.toDigits 10 index) index (spells_toDigits (index.2.trans_le havailable))]

theorem Piece.source_parts (havailable : available ≤ UInt64.size) (p : Piece available) :
    (p.parts havailable).flatMap Part.source = p.encode.toList := by
  cases p with
  | literal s =>
    rw [parts, List.flatMap_map, encode, String.toList_ofList, doubleBraces]
    exact congrArg (s.toList.flatMap ·) (funext Part.source_ofChar)
  | argument index =>
    have hindex : (toString index.val).toList = Nat.toDigits 10 index := by
      rw [Nat.toString_eq_ofList_toDigits, String.toList_ofList]
    rw [parts, List.flatMap_singleton, Part.source, encode, String.toList_append,
      String.toList_append, hindex]
    rfl

theorem Piece.text_parts (hargs : args.length ≤ UInt64.size) (p : Piece args.length) :
    (p.parts hargs).flatMap (Part.text args) = (p.text args).toList := by
  cases p with
  | literal s =>
    rw [parts, List.flatMap_map, text]
    exact (congrArg (s.toList.flatMap ·) (funext Part.text_ofChar)).trans (List.flatMap_singleton' _)
  | argument index => exact List.flatMap_singleton _ _

end Parts

/-! ## Templates -/

/-- **A template that is written from pieces** is filled in to the texts of the pieces. A list of
arguments is no longer than a machine word can tell. -/
theorem formatTemplate_encode (args : List Value) (hargs : args.length ≤ UInt64.size)
    (pieces : List (Piece args.length)) :
    formatTemplate (String.join (pieces.map Piece.encode)) args =
      .ok (String.join (pieces.map (Piece.text args))) := by
  have hsource : (String.join (pieces.map Piece.encode)).toList =
      (pieces.flatMap (Piece.parts hargs)).flatMap Part.source := by
    rw [String.toList_join, List.flatMap_map, List.flatMap_assoc]
    exact congrArg (pieces.flatMap ·) (funext fun p => (p.source_parts hargs).symm)
  have htext : (String.join (pieces.map (Piece.text args))).toList =
      (pieces.flatMap (Piece.parts hargs)).flatMap (Part.text args) := by
    rw [String.toList_join, List.flatMap_map, List.flatMap_assoc]
    exact congrArg (pieces.flatMap ·) (funext fun p => (p.text_parts hargs).symm)
  rw [formatTemplate_of_parts hsource, ← htext, String.ofList_toList]

/-- Braces on both sides of placeholders, and an argument with a placeholder in its text. -/
theorem formatTemplate_encode_adjacent :
    let args : List Value := [.text ⟨0, "\x7b1\x7d\x7d"⟩, .null]
    let pieces : List (Piece args.length) :=
      [.literal "\x7b", .argument 0, .literal "\x7d\x7b", .argument 1, .argument 0, .literal "\x7d"]
    args.length ≤ UInt64.size ∧
    String.join (pieces.map Piece.encode) =
      "\x7b\x7b\x7b0\x7d\x7d\x7d\x7b\x7b\x7b1\x7d\x7b0\x7d\x7d\x7d" ∧
    formatTemplate (String.join (pieces.map Piece.encode)) args =
      .ok "\x7b\x7b1\x7d\x7d\x7d\x7bnull\x7b1\x7d\x7d\x7d" := by
  intro args pieces
  have hargs : args.length ≤ UInt64.size := by decide
  exact ⟨hargs, by decide, formatTemplate_encode args hargs pieces⟩

end Expectation
