import Expectation.Proofs.Constraint.Satisfaction
import Expectation.Proofs.Text.Lowercase

/-!
# Text constraints that ignore case

Both texts are put into lower case as wholes before one is looked for in the other. The lower case of a
text that occurs in another may then differ from what the other has in this place, since capital sigmas
take their form from their neighbours. Apart from that a text constraint that ignores case accepts all
that it accepts otherwise.

* `Occurrence`, `textOccurs_iff`: where a text constraint finds its text;
* `Occurrence.lowercase`, `keepsSigmas_of_lowercase`: an occurrence in lower case;
* **`text_ignoring_case`**: when a text that is matched is matched without regard to case.
-/

namespace Expectation

open Text

/-! ## Occurrences -/

/-- The characters stand in the text between others, in the place where they are looked for. -/
structure Occurrence (position : TextPosition) (needle text before after : List Char) : Prop where
  text_eq : text = before ++ needle ++ after
  start : position = .start → before = []
  finish : position = .finish → after = []

/-- The characters of a text as they are compared. -/
def folded (ignoreCase : Bool) (s : String) : List Char :=
  if ignoreCase then lowercase s.toList else s.toList

section Occurrences

variable {needle text before after before' after' : List Char} {position : TextPosition}

theorem occursIn_iff : occursIn needle text = true ↔ needle <:+: text := by
  induction text with
  | nil => simp [occursIn]
  | cons c text ih => rw [occursIn, Bool.or_eq_true, List.isPrefixOf_iff_prefix, ih, List.infix_cons_iff]

/-- **A text constraint** asks for an occurrence. -/
theorem textOccurs_iff {expected actual : String} {ignoreCase : Bool} :
    textOccurs expected actual position ignoreCase = true ↔
      ∃ before after, Occurrence position (folded ignoreCase expected) (folded ignoreCase actual)
        before after := by
  cases position with
  | anywhere =>
    refine occursIn_iff.trans ?_
    constructor
    · rintro ⟨before, after, heq⟩
      exact ⟨before, after, heq.symm, nofun, nofun⟩
    · rintro ⟨before, after, heq, -, -⟩
      exact ⟨before, after, heq.symm⟩
  | start =>
    refine List.isPrefixOf_iff_prefix.trans ?_
    constructor
    · rintro ⟨after, heq⟩
      exact ⟨[], after, heq.symm, fun _ => rfl, nofun⟩
    · rintro ⟨before, after, heq, hstart, -⟩
      rw [hstart rfl] at heq
      exact ⟨after, heq.symm⟩
  | finish =>
    refine List.isSuffixOf_iff_suffix.trans ?_
    constructor
    · rintro ⟨before, heq⟩
      exact ⟨before, [], by rw [List.append_nil]; exact heq.symm, nofun, fun _ => rfl⟩
    · rintro ⟨before, after, heq, -, hfinish⟩
      rw [hfinish rfl, List.append_nil] at heq
      exact ⟨before, heq.symm⟩

/-! ## Lower case -/

theorem Occurrence.lowercase (h : Occurrence position needle text before after)
    (hsigmas : KeepsSigmas before.reverse needle after) :
    Occurrence position (lowercase needle) (lowercase text) (lowerWithin [] before (needle ++ after))
      (lowerWithin (needle.reverse ++ before.reverse) after []) where
  text_eq := by
    rw [h.text_eq, lowercase_append_append, lowerWithin_eq_lowercase_iff.mpr hsigmas]
  start hstart := by rw [h.start hstart, lowerWithin]
  finish hfinish := by rw [h.finish hfinish, lowerWithin]

/-- **At either end of a text** the place of an occurrence is given, so that there is one in lower case
only if the capital sigmas keep their forms. -/
theorem keepsSigmas_of_lowercase (hposition : position ≠ .anywhere)
    (h : Occurrence position needle text before after)
    (h' : Occurrence position (lowercase needle) (lowercase text) before' after') :
    KeepsSigmas before.reverse needle after := by
  rw [← lowerWithin_eq_lowercase_iff]
  have htext := h'.text_eq
  rw [h.text_eq, lowercase_append_append] at htext
  have hlength := length_lowerWithin_eq before.reverse needle after
  cases position with
  | anywhere => exact absurd rfl hposition
  | start =>
    rw [h.start rfl, h'.start rfl] at htext
    simp only [lowerWithin, List.nil_append, List.reverse_nil] at htext
    rw [h.start rfl] at hlength ⊢
    exact (List.append_inj htext hlength).1
  | finish =>
    rw [h.finish rfl, h'.finish rfl] at htext
    simp only [lowerWithin, List.append_nil] at htext
    rw [h.finish rfl] at hlength ⊢
    exact (List.append_inj' htext hlength).2

end Occurrences

/-! ## Constraints -/

section Constraint

open Constraint

variable {σ : Type}

theorem satisfied_text (host : Host σ) (s : σ) (expected : String) (position : TextPosition)
    (ignoreCase : Bool) (actual : SharedText) :
    ((text expected position ignoreCase).satisfied host (.text actual) s).result =
      textOccurs expected actual.content position ignoreCase :=
  isPass_check _ _ _

/-- **Text constraints that ignore case.** A text constraint is satisfied by an occurrence of its text.
If the capital sigmas of this text end a word in that place just where they do in the text alone, then
the constraint is satisfied when it ignores case; at either end of the actual text it is not if they
do not. In particular the constraint accepts no less when it ignores case if its text has before and
after each capital sigma a character that case mapping looks at. -/
theorem text_ignoring_case (host : Host σ) (s : σ) (expected : String) (actual : SharedText)
    (position : TextPosition) :
    let accepts := fun ignoreCase =>
      ((text expected position ignoreCase).satisfied host (.text actual) s).result
    let occurs := Occurrence position expected.toList actual.content.toList
    (accepts false = true ↔ ∃ before after, occurs before after) ∧
    (∀ before after, occurs before after →
      (KeepsSigmas before.reverse expected.toList after → accepts true = true) ∧
      (position ≠ .anywhere → accepts true = true →
        KeepsSigmas before.reverse expected.toList after)) ∧
    ((∀ l r, expected.toList = l ++ 'Σ' :: r → HasVisible l ∧ HasVisible r) →
      accepts false = true → accepts true = true) := by
  intro accepts occurs
  have haccepts : ∀ ignoreCase, accepts ignoreCase =
      textOccurs expected actual.content position ignoreCase := fun ignoreCase =>
    satisfied_text host s expected position ignoreCase actual
  have hplain : accepts false = true ↔ ∃ before after, occurs before after := by
    rw [haccepts]
    exact textOccurs_iff
  have hfolded : ∀ before after, occurs before after →
      KeepsSigmas before.reverse expected.toList after → accepts true = true := by
    intro before after hoccurs hsigmas
    rw [haccepts]
    exact textOccurs_iff.mpr ⟨_, _, hoccurs.lowercase hsigmas⟩
  refine ⟨hplain, fun before after hoccurs => ⟨hfolded before after hoccurs, ?_⟩, ?_⟩
  · intro hposition htrue
    rw [haccepts] at htrue
    obtain ⟨before', after', hlower⟩ := textOccurs_iff.mp htrue
    exact keepsSigmas_of_lowercase hposition hoccurs hlower
  · intro henclosed hfalse
    obtain ⟨before, after, hoccurs⟩ := hplain.mp hfalse
    exact hfolded before after hoccurs (keepsSigmas_of_enclosed henclosed _ _)

/-- A text that begins with another, in the same capitals, of which the last is a sigma. It ends a word
in the other text only, so that the constraint is no longer satisfied when it ignores case. -/
theorem text_ignoring_case_narrows :
    let actual : Value := .text ⟨0, "ΑΣΑ"⟩
    ((text "ΑΣ" .start false).satisfied Host.silent actual ()).result = true ∧
      ((text "ΑΣ" .start true).satisfied Host.silent actual ()).result = false := by
  decide +kernel

end Constraint

end Expectation
