import Mathlib.Data.String.Basic
import Expectation.Message.Template

/-!
# The grammar of templates

A template is read from left to right in parts. What is not the beginning of a part ends the reading,
with an error that tells where.

* `Spells`: how a placeholder spells a number;
* `Part`, with its `source` and its `text`: a part of a template, as it is written and as it is filled in;
* `Stops`: what ends the reading of a template, and the error for it;
* `fillFrom_source`, `fillFrom_of_stops`: reading one part, and the end;
* `readable`: every template is parts and then nothing, or what ends the reading;
* **`formatTemplate_grammar`**: the templates that can be filled in, and the errors of all others.
-/

namespace Expectation

/-! ## Numbers in placeholders -/

/-- The text spells the number: at least one decimal digit, after a plus sign or not. The number is one
of 64 bits. -/
def Spells (content : List Char) (n : Nat) : Prop :=
  ∃ digits, (content = digits ∨ content = '+' :: digits) ∧ digits ≠ [] ∧
    (∀ d ∈ digits, d.isDigit = true) ∧ Nat.ofDigitChars 10 digits 0 = n ∧ n < UInt64.size

section Spells

variable {content digits : List Char} {n : Nat}

theorem placeholderIndex?_eq_some_iff_of_digits
    (hdigits : (if content.head? = some '+' then content.tail else content) = digits) :
    placeholderIndex? content = some n ↔
      digits ≠ [] ∧ (∀ d ∈ digits, d.isDigit = true) ∧ Nat.ofDigitChars 10 digits 0 = n ∧
        n < UInt64.size := by
  unfold placeholderIndex?
  simp only [hdigits]
  by_cases hempty : digits = []
  · simp [hempty]
  by_cases hall : ∀ d ∈ digits, d.isDigit = true
  · have hall' : digits.all Char.isDigit = true := List.all_eq_true.mpr hall
    by_cases hlt : Nat.ofDigitChars 10 digits 0 < UInt64.size
    · simp only [List.isEmpty_eq_false_iff.mpr hempty, hall', hlt, Bool.not_true, Bool.or_false,
        Bool.false_eq_true, if_false, if_true, Option.some.injEq]
      exact ⟨fun h => ⟨hempty, hall, h, h ▸ hlt⟩, fun h => h.2.2.1⟩
    · simp only [List.isEmpty_eq_false_iff.mpr hempty, hall', hlt, Bool.not_true, Bool.or_false,
        Bool.false_eq_true, if_false, reduceCtorEq, false_iff]
      exact fun h => hlt (h.2.2.1 ▸ h.2.2.2)
  · have hall' : digits.all Char.isDigit = false :=
      Bool.eq_false_iff.mpr fun h => hall (List.all_eq_true.mp h)
    simp [hall', hall]

/-- **The index of a placeholder** is the number that it spells. -/
theorem placeholderIndex?_eq_some_iff : placeholderIndex? content = some n ↔ Spells content n := by
  by_cases hplus : content.head? = some '+'
  · obtain ⟨digits, rfl⟩ := List.head?_eq_some_iff.mp hplus
    rw [placeholderIndex?_eq_some_iff_of_digits (if_pos hplus)]
    constructor
    · exact fun h => ⟨digits, .inr rfl, h⟩
    · rintro ⟨digits', rfl | heq, hne, hall, hvalue⟩
      · exact absurd (hall '+' List.mem_cons_self) (by decide)
      · exact (List.cons.inj heq).2 ▸ ⟨hne, hall, hvalue⟩
  · rw [placeholderIndex?_eq_some_iff_of_digits (if_neg hplus)]
    constructor
    · exact fun h => ⟨content, .inl rfl, h⟩
    · rintro ⟨digits, rfl | rfl, h⟩
      · exact h
      · exact absurd rfl hplus

theorem placeholderIndex?_eq_none (h : ∀ n, ¬ Spells content n) : placeholderIndex? content = none :=
  Option.eq_none_iff_forall_ne_some.mpr fun n hn => h n (placeholderIndex?_eq_some_iff.mp hn)

theorem Spells.not_mem (h : Spells content n) {brace : Char} (hbrace : brace.isDigit = false)
    (hplus : brace ≠ '+') : brace ∉ content := by
  obtain ⟨digits, rfl | rfl, -, hall, -⟩ := h
  · intro hmem
    rw [hall brace hmem] at hbrace
    exact Bool.noConfusion hbrace
  · intro hmem
    rcases List.mem_cons.mp hmem with heq | hmem
    · exact hplus heq
    · rw [hall brace hmem] at hbrace
      exact Bool.noConfusion hbrace

theorem Spells.head?_ne (h : Spells content n) : content.head? ≠ some '\x7b' := by
  intro hhead
  exact h.not_mem rfl (by decide) (List.mem_of_head? hhead)

end Spells

/-! ## Parts -/

/-- A part of a template that can be filled in with so many arguments. -/
inductive Part (available : Nat) where
  | plain (c : Char) (hopen : c ≠ '\x7b') (hclose : c ≠ '\x7d')
  | doubled (brace : Char) (h : brace = '\x7b' ∨ brace = '\x7d')
  | placeholder (content : List Char) (index : Fin available) (h : Spells content index)

namespace Part

/-- The part as it is written. -/
def source {available : Nat} : Part available → List Char
  | plain c _ _ => [c]
  | doubled brace _ => [brace, brace]
  | placeholder content _ _ => '\x7b' :: content ++ ['\x7d']

/-- The part as it is filled in. -/
def text (args : List Value) : Part args.length → List Char
  | plain c _ _ => [c]
  | doubled brace _ => [brace]
  | placeholder _ index _ => (args.get index).display.toList

end Part

/-- What ends the reading of a template at an offset, and the error for it: a brace without a partner,
a placeholder that spells no number, or one for an argument that is not there. -/
inductive Stops (available offset : Nat) : List Char → FormatError → Prop
  | opening {rest : List Char} (hclose : '\x7d' ∉ rest) (hopen : rest.head? ≠ some '\x7b') :
      Stops available offset ('\x7b' :: rest) (.unmatchedBrace '\x7b' offset)
  | closing {rest : List Char} (hclose : rest.head? ≠ some '\x7d') :
      Stops available offset ('\x7d' :: rest) (.unmatchedBrace '\x7d' offset)
  | invalid {content rest : List Char} (hclose : '\x7d' ∉ content)
      (hopen : content.head? ≠ some '\x7b') (h : ∀ n, ¬ Spells content n) :
      Stops available offset ('\x7b' :: content ++ '\x7d' :: rest)
        (.invalidPlaceholder (String.ofList content) offset)
  | missing {content rest : List Char} {index : Nat} (hspells : Spells content index)
      (h : available ≤ index) :
      Stops available offset ('\x7b' :: content ++ '\x7d' :: rest) (.missingArgument index available)

/-! ## Reading -/

/-- Fills in the rest of a template from an offset on. -/
def fillFrom (args : List Value) (offset : Nat) (template : List Char) :
    Except FormatError (List Char) :=
  fillAll args (segmentsFrom none offset template)

section Reading

variable {args : List Value} {available offset : Nat} {content rest tail : List Char}
  {p : OpenPlaceholder} {s : Segment} {e : FormatError}

theorem segmentsFrom_opening (h : rest.head? ≠ some '\x7b') :
    segmentsFrom none offset ('\x7b' :: rest) = segmentsFrom (some ⟨offset, []⟩) (offset + 1) rest := by
  cases rest with
  | nil => rfl
  | cons c rest =>
    have hc : c ≠ '\x7b' := fun heq => h (congrArg some heq)
    simp [segmentsFrom, hc]

theorem segmentsFrom_content (h : '\x7d' ∉ content) :
    segmentsFrom (some p) offset (content ++ '\x7d' :: rest) =
      .placeholder (p.reversed.reverse ++ content) p.offset ::
        segmentsFrom none (offset + String.utf8Len content + 1) rest := by
  induction content generalizing p offset with
  | nil => simp [segmentsFrom]
  | cons c content ih =>
    have hc : c ≠ '\x7d' := fun heq => h (heq ▸ List.mem_cons_self)
    rw [List.cons_append, segmentsFrom, if_neg hc, ih fun hmem => h (List.mem_cons_of_mem _ hmem),
      String.utf8Len_cons, List.reverse_cons, List.append_assoc, List.singleton_append,
      Nat.add_assoc offset, Nat.add_comm c.utf8Size]

theorem segmentsFrom_unclosed (h : '\x7d' ∉ rest) :
    segmentsFrom (some p) offset rest = [.unmatched '\x7b' p.offset] := by
  induction rest generalizing p offset with
  | nil => rfl
  | cons c rest ih =>
    have hc : c ≠ '\x7d' := fun heq => h (heq ▸ List.mem_cons_self)
    rw [segmentsFrom, if_neg hc, ih fun hmem => h (List.mem_cons_of_mem _ hmem)]

theorem fillAll_cons_of_ok {segments : List Segment} {first : List Char}
    (h : s.fill args = .ok first) :
    fillAll args (s :: segments) = (fillAll args segments).map (first ++ ·) := by
  rw [fillAll, h]
  cases fillAll args segments <;> rfl

theorem fillAll_cons_of_error {segments : List Segment} (h : s.fill args = .error e) :
    fillAll args (s :: segments) = .error e := by
  rw [fillAll, h]
  rfl

theorem fillFrom_placeholder (hclose : '\x7d' ∉ content) (hopen : content.head? ≠ some '\x7b') :
    fillFrom args offset ('\x7b' :: content ++ '\x7d' :: rest) =
      fillAll args (.placeholder content offset ::
        segmentsFrom none (offset + 1 + String.utf8Len content + 1) rest) := by
  have hhead : (content ++ '\x7d' :: rest).head? ≠ some '\x7b' := by
    cases content with
    | nil => exact fun h => absurd (Option.some.inj h) (by decide)
    | cons c content => exact hopen
  rw [fillFrom, List.cons_append, segmentsFrom_opening hhead, segmentsFrom_content hclose]
  rfl

/-- **A part is filled in** and the reading goes on behind it. -/
theorem fillFrom_source (p : Part args.length) (rest : List Char) :
    fillFrom args offset (p.source ++ rest) =
      (fillFrom args (offset + String.utf8Len p.source) rest).map (p.text args ++ ·) := by
  cases p with
  | plain c hopen hclose =>
    have hcut : segmentsFrom none offset (c :: rest) =
        .literal c :: segmentsFrom none (offset + c.utf8Size) rest := by
      simp [segmentsFrom, hopen, hclose]
    rw [Part.source, List.singleton_append, fillFrom, hcut, fillAll_cons_of_ok rfl,
      String.utf8Len_cons, String.utf8Len_nil, Nat.zero_add]
    rfl
  | doubled brace h =>
    rcases h with rfl | rfl <;> exact fillAll_cons_of_ok rfl
  | placeholder content index h =>
    have hfill : (Segment.placeholder content offset).fill args =
        .ok (args.get index).display.toList := by
      simp only [Segment.fill, placeholderIndex?_eq_some_iff.mpr h, List.getElem?_eq_getElem index.2]
      rfl
    have hlen : String.utf8Len (Part.placeholder content index h).source =
        1 + String.utf8Len content + 1 := by
      rw [Part.source, List.cons_append, String.utf8Len_cons, String.utf8Len_append, Nat.add_comm,
        ← Nat.add_assoc]
      rfl
    rw [hlen, Part.source, List.append_assoc, List.singleton_append,
      fillFrom_placeholder (h.not_mem rfl (by decide)) h.head?_ne, fillAll_cons_of_ok hfill,
      ← Nat.add_assoc, ← Nat.add_assoc]
    rfl

theorem fillFrom_parts (parts : List (Part args.length)) (tail : List Char) :
    fillFrom args offset (parts.flatMap Part.source ++ tail) =
      (fillFrom args (offset + String.utf8Len (parts.flatMap Part.source)) tail).map
        (parts.flatMap (Part.text args) ++ ·) := by
  induction parts generalizing offset with
  | nil =>
    rw [List.flatMap_nil, List.flatMap_nil, List.nil_append, String.utf8Len_nil, Nat.add_zero]
    cases fillFrom args offset tail <;> rfl
  | cons p parts ih =>
    rw [List.flatMap_cons, List.flatMap_cons, List.append_assoc, fillFrom_source, ih,
      String.utf8Len_append, Nat.add_assoc]
    cases fillFrom args _ tail <;> simp [Except.map]

/-- **What is not the beginning of a part** ends the reading with its error. -/
theorem fillFrom_of_stops (h : Stops args.length offset tail e) :
    fillFrom args offset tail = .error e := by
  cases h with
  | opening hclose hopen =>
    rw [fillFrom, segmentsFrom_opening hopen, segmentsFrom_unclosed hclose]
    rfl
  | @closing rest hclose =>
    have hcut : segmentsFrom none offset ('\x7d' :: rest) = [.unmatched '\x7d' offset] := by
      cases rest with
      | nil => rfl
      | cons c rest =>
        have hc : c ≠ '\x7d' := fun heq => hclose (congrArg some heq)
        simp [segmentsFrom, hc]
    rw [fillFrom, hcut]
    rfl
  | invalid hclose hopen h =>
    rw [fillFrom_placeholder hclose hopen]
    refine fillAll_cons_of_error ?_
    rw [Segment.fill, placeholderIndex?_eq_none h]
  | missing hspells h =>
    rw [fillFrom_placeholder (hspells.not_mem rfl (by decide)) hspells.head?_ne]
    refine fillAll_cons_of_error ?_
    simp only [Segment.fill, placeholderIndex?_eq_some_iff.mpr hspells, List.getElem?_eq_none h]

/-! ## Every template is parts and then nothing, or what ends the reading -/

/-- The template is parts, and then nothing or what ends the reading. -/
def Readable (available : Nat) (template : List Char) : Prop :=
  ∃ (parts : List (Part available)) (tail : List Char), template = parts.flatMap Part.source ++ tail ∧
    (tail = [] ∨ ∀ offset, ∃ e, Stops available offset tail e)

theorem Readable.source_append (p : Part available) (h : Readable available rest) :
    Readable available (p.source ++ rest) := by
  obtain ⟨parts, tail, rfl, htail⟩ := h
  exact ⟨p :: parts, tail, by rw [List.flatMap_cons, List.append_assoc], htail⟩

theorem Readable.of_stops (h : ∀ offset, ∃ e, Stops available offset tail e) :
    Readable available tail := ⟨[], tail, rfl, .inr h⟩

theorem Readable.opening (hopen : rest.head? ≠ some '\x7b')
    (ih : ∀ tail : List Char, tail.length < rest.length → Readable available tail) :
    Readable available ('\x7b' :: rest) := by
  by_cases hclose : '\x7d' ∈ rest
  · obtain ⟨content, tail, rfl, hcontent⟩ := List.eq_append_cons_of_mem hclose
    have htail : Readable available tail := ih tail (by simp; omega)
    by_cases hspells : ∃ n, Spells content n
    · obtain ⟨n, hn⟩ := hspells
      by_cases hlt : n < available
      · have hpart := htail.source_append (.placeholder content ⟨n, hlt⟩ hn)
        rwa [Part.source, List.append_assoc, List.singleton_append] at hpart
      · exact .of_stops fun offset => ⟨_, .missing hn (Nat.le_of_not_lt hlt)⟩
    · have hhead : content.head? ≠ some '\x7b' := by
        cases content with
        | nil => simp
        | cons c content => exact hopen
      exact .of_stops fun offset => ⟨_, .invalid hcontent hhead fun n hn => hspells ⟨n, hn⟩⟩
  · exact .of_stops fun offset => ⟨_, .opening hclose hopen⟩

theorem readable (available : Nat) (template : List Char) : Readable available template := by
  induction hlen : template.length using Nat.strongRecOn generalizing template with
  | ind n ih =>
    subst hlen
    cases template with
    | nil => exact ⟨[], [], rfl, .inl rfl⟩
    | cons c rest =>
      have ih' : ∀ tail : List Char, tail.length < (c :: rest).length → Readable available tail :=
        fun tail htail => ih tail.length htail tail rfl
      by_cases hdouble : (c = '\x7b' ∨ c = '\x7d') ∧ rest.head? = some c
      · obtain ⟨hbrace, hhead⟩ := hdouble
        obtain ⟨tail, rfl⟩ := List.head?_eq_some_iff.mp hhead
        have htail : tail.length < (c :: c :: tail).length := by
          rw [List.length_cons, List.length_cons]
          omega
        exact (ih' tail htail).source_append (.doubled c hbrace)
      · by_cases hopen : c = '\x7b'
        · subst hopen
          refine .opening (fun h => hdouble ⟨.inl rfl, h⟩) fun tail htail => ih' tail ?_
          exact htail.trans (Nat.lt_succ_self _)
        · by_cases hclose : c = '\x7d'
          · subst hclose
            exact .of_stops fun offset => ⟨_, .closing fun h => hdouble ⟨.inr rfl, h⟩⟩
          · exact (ih' rest (Nat.lt_succ_self _)).source_append (.plain c hopen hclose)

end Reading

/-! ## Templates -/

section Templates

variable {template : String} {args : List Value}

theorem formatTemplate_of_parts {parts : List (Part args.length)}
    (h : template.toList = parts.flatMap Part.source) :
    formatTemplate template args = .ok (String.ofList (parts.flatMap (Part.text args))) := by
  have hfill : fillFrom args 0 template.toList = .ok (parts.flatMap (Part.text args)) := by
    rw [h, ← List.append_nil (parts.flatMap Part.source), fillFrom_parts]
    exact congrArg Except.ok (List.append_nil _)
  exact congrArg (Except.map String.ofList) hfill

theorem formatTemplate_of_stops {parts : List (Part args.length)} {tail : List Char} {e : FormatError}
    (h : template.toList = parts.flatMap Part.source ++ tail)
    (hstops : Stops args.length (String.utf8Len (parts.flatMap Part.source)) tail e) :
    formatTemplate template args = .error e := by
  have hfill : fillFrom args 0 template.toList = .error e := by
    rw [h, fillFrom_parts, Nat.zero_add, fillFrom_of_stops hstops]
    rfl
  exact congrArg (Except.map String.ofList) hfill

/-- **The grammar of templates.** A template can be filled in just if it is a row of parts. Of every
other template the error tells what ended the reading: what stands in front of it can be filled in by
itself, and takes as many bytes as the error says. -/
theorem formatTemplate_grammar (template : String) (args : List Value) :
    ((∃ text, formatTemplate template args = .ok text) ↔
      ∃ parts : List (Part args.length), template.toList = parts.flatMap Part.source) ∧
    ∀ e, formatTemplate template args = .error e →
      ∃ (before : String) (tail : List Char), template = before ++ String.ofList tail ∧
        (∃ text, formatTemplate before args = .ok text) ∧
        Stops args.length before.utf8ByteSize tail e := by
  obtain ⟨parts, tail, htemplate, htail⟩ := readable args.length template.toList
  rcases htail with rfl | hstops
  · rw [List.append_nil] at htemplate
    have hok := formatTemplate_of_parts htemplate
    exact ⟨⟨fun _ => ⟨parts, htemplate⟩, fun _ => ⟨_, hok⟩⟩, fun e he => by
      rw [hok] at he
      cases he⟩
  · obtain ⟨e, hstops⟩ := hstops (String.utf8Len (parts.flatMap Part.source))
    have herror := formatTemplate_of_stops htemplate hstops
    refine ⟨⟨fun ⟨text, htext⟩ => ?_, fun ⟨parts, hparts⟩ => ⟨_, formatTemplate_of_parts hparts⟩⟩,
      fun e' he' => ?_⟩
    · rw [herror] at htext
      cases htext
    · rw [herror] at he'
      cases he'
      refine ⟨String.ofList (parts.flatMap Part.source), tail, ?_, ?_, ?_⟩
      · rw [← String.ofList_append, ← htemplate, String.ofList_toList]
      · exact ⟨_, formatTemplate_of_parts String.toList_ofList⟩
      · rwa [String.utf8ByteSize_ofList]

/-- An error of each kind behind a letter of two bytes and some parts. -/
theorem formatTemplate_grammar_errors :
    let args : List Value := [.null]
    let stops := fun (template : String) (e : FormatError) =>
      formatTemplate template args = .error e ∧
      ∃ (before : String) (tail : List Char), template = before ++ String.ofList tail ∧
        (∃ text, formatTemplate before args = .ok text) ∧
        Stops args.length before.utf8ByteSize tail e
    stops "\u00e9\x7b0\x7d\x7b" (.unmatchedBrace '\x7b' 5) ∧
    stops "\u00e9\x7b\x7b\x7d" (.unmatchedBrace '\x7d' 4) ∧
    stops "\u00e9\x7b+0\x7d\x7b-0\x7d\x7d" (.invalidPlaceholder "-0" 6) ∧
    stops "\u00e9\x7d\x7d\x7b1\x7d\x7b" (.missingArgument 1 1) := by
  intro args stops
  have hstops : ∀ template e, formatTemplate template args = .error e → stops template e :=
    fun template e herror => ⟨herror, (formatTemplate_grammar template args).2 e herror⟩
  exact ⟨hstops _ _ rfl, hstops _ _ rfl, hstops _ _ rfl, hstops _ _ rfl⟩

end Templates

end Expectation
