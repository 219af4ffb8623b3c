import Mathlib.Data.List.Basic
import Expectation.Text.Lowercase

/-!
# Lower case in context

The lower case of a text is that of its parts, each in the context of what stands before and after it.
The context bears on the form of the capital sigmas only, and on their form only through whether they
end a word.

* `lowerWithin`, `lowercase_append_append`: the lower case of a part in its context;
* `KeepsSigmas`: the capital sigmas of a part end a word in the text just if they do in the part;
* **`lowerWithin_eq_lowercase_iff`**: just then the part has the same lower case as on its own;
* `keepsSigmas_of_enclosed`: contexts do not reach past characters that are looked at.
-/

namespace Expectation.Text

/-! ## Parts of a text -/

/-- The lower case of a character in its context. -/
def lowerSpot (before : List Char) (c : Char) (after : List Char) : List Char :=
  if c = 'Σ' then [if endsWord before after then 'ς' else 'σ'] else lowerChar c

/-- The lower case of a part of a text, between the characters `before`, nearest first, and `after`. -/
def lowerWithin (before : List Char) : List Char → List Char → List Char
  | [], _ => []
  | c :: rest, after => lowerSpot before c (rest ++ after) ++ lowerWithin (c :: before) rest after

section Parts

variable (before part rest : List Char)

theorem lowerAfter_append :
    lowerAfter before (part ++ rest) =
      lowerWithin before part rest ++ lowerAfter (part.reverse ++ before) rest := by
  induction part generalizing before with
  | nil => rfl
  | cons c part ih =>
    rw [List.cons_append, lowerAfter, ih, lowerWithin, List.reverse_cons, List.append_assoc,
      List.append_assoc]
    rfl

theorem lowerAfter_eq : lowerAfter before part = lowerWithin before part [] := by
  have happend := lowerAfter_append before part []
  rwa [List.append_nil, lowerAfter, List.append_nil] at happend

theorem lowercase_eq : lowercase part = lowerWithin [] part [] := lowerAfter_eq [] part

theorem lowercase_append_append :
    lowercase (before ++ part ++ rest) = lowerWithin [] before (part ++ rest) ++
      lowerWithin before.reverse part rest ++ lowerWithin (part.reverse ++ before.reverse) rest [] := by
  rw [lowercase, List.append_assoc, lowerAfter_append, lowerAfter_append, lowerAfter_eq,
    List.append_nil, List.append_assoc]

end Parts

/-! ## The same part in two contexts -/

section Contexts

variable {before after before' after' part : List Char}

theorem length_lowerSpot (before after before' after' : List Char) (c : Char) :
    (lowerSpot before c after).length = (lowerSpot before' c after').length := by
  unfold lowerSpot
  split <;> rfl

theorem length_lowerWithin (before after before' after' part : List Char) :
    (lowerWithin before part after).length = (lowerWithin before' part after').length := by
  induction part generalizing before before' with
  | nil => rfl
  | cons c part ih =>
    rw [lowerWithin, lowerWithin, List.length_append, List.length_append,
      length_lowerSpot before _ before' (part ++ after'), ih]

theorem lowerSpot_eq_iff {c : Char} :
    lowerSpot before c after = lowerSpot before' c after' ↔
      (c = 'Σ' → endsWord before after = endsWord before' after') := by
  unfold lowerSpot
  by_cases hc : c = 'Σ'
  · rw [if_pos hc, if_pos hc]
    cases endsWord before after <;> cases endsWord before' after' <;> simp [hc]
  · rw [if_neg hc, if_neg hc]
    exact iff_of_true rfl fun h => absurd h hc

theorem forall_places_cons {c d : Char} {rest : List Char} {P : List Char → List Char → Prop} :
    (∀ l r, c :: rest = l ++ d :: r → P l r) ↔
      (c = d → P [] rest) ∧ ∀ l r, rest = l ++ d :: r → P (c :: l) r := by
  constructor
  · intro h
    refine ⟨?_, ?_⟩
    · rintro rfl
      exact h [] rest rfl
    · rintro l r rfl
      exact h (c :: l) r rfl
  · rintro ⟨hfirst, hrest⟩ l r heq
    cases l with
    | nil =>
      obtain ⟨rfl, rfl⟩ := List.cons.inj heq
      exact hfirst rfl
    | cons b l =>
      obtain ⟨rfl, hlater⟩ := List.cons.inj heq
      exact hrest l r hlater

theorem lowerWithin_eq_iff :
    lowerWithin before part after = lowerWithin before' part after' ↔
      ∀ l r, part = l ++ 'Σ' :: r →
        endsWord (l.reverse ++ before) (r ++ after) = endsWord (l.reverse ++ before') (r ++ after') := by
  induction part generalizing before before' with
  | nil => exact iff_of_true rfl fun l r h => absurd h.symm (by simp)
  | cons c part ih =>
    have hlength := length_lowerSpot before (part ++ after) before' (part ++ after') c
    have hsplit : lowerWithin before (c :: part) after = lowerWithin before' (c :: part) after' ↔
        lowerSpot before c (part ++ after) = lowerSpot before' c (part ++ after') ∧
          lowerWithin (c :: before) part after = lowerWithin (c :: before') part after' := by
      rw [lowerWithin, lowerWithin]
      exact ⟨fun h => List.append_inj h hlength, fun ⟨h, h'⟩ => by rw [h, h']⟩
    rw [hsplit, forall_places_cons, lowerSpot_eq_iff, ih]
    simp only [List.reverse_nil, List.nil_append, List.reverse_cons, List.append_assoc,
      List.cons_append]

/-- The capital sigmas of a part that stands between `before`, nearest first, and `after` end a word
there just if they end one in the part alone. -/
def KeepsSigmas (before part after : List Char) : Prop :=
  ∀ l r, part = l ++ 'Σ' :: r → endsWord (l.reverse ++ before) (r ++ after) = endsWord l.reverse r

/-- **A part has its own lower case** in a context just if its capital sigmas have their own forms. -/
theorem lowerWithin_eq_lowercase_iff :
    lowerWithin before part after = lowercase part ↔ KeepsSigmas before part after := by
  rw [lowercase_eq, lowerWithin_eq_iff]
  simp only [List.append_nil, KeepsSigmas]

theorem length_lowerWithin_eq (before part after : List Char) :
    (lowerWithin before part after).length = (lowercase part).length := by
  rw [lowercase_eq, length_lowerWithin before after [] []]

end Contexts

/-! ## Sigmas that are enclosed -/

/-- One of the characters is not ignored in changing case, so that nothing behind it is looked at. -/
def HasVisible (text : List Char) : Prop := ∃ c ∈ text, caseIgnorable.holds c = false

theorem meetsCased_append {text : List Char} (h : HasVisible text) (more : List Char) :
    meetsCased (text ++ more) = meetsCased text := by
  induction text with
  | nil =>
    obtain ⟨c, hc, -⟩ := h
    cases hc
  | cons c text ih =>
    cases hignored : caseIgnorable.holds c with
    | false => simp [meetsCased, hignored]
    | true =>
      have hvisible : HasVisible text := by
        obtain ⟨d, hd, hfalse⟩ := h
        rcases List.mem_cons.mp hd with rfl | hd
        · exact absurd hignored (by simp [hfalse])
        · exact ⟨d, hd, hfalse⟩
      have hrest := ih hvisible
      simpa [meetsCased, hignored] using hrest

theorem hasVisible_reverse {text : List Char} (h : HasVisible text) : HasVisible text.reverse := by
  obtain ⟨c, hc, hignored⟩ := h
  exact ⟨c, List.mem_reverse.mpr hc, hignored⟩

/-- **Sigmas that are enclosed** in characters which are looked at keep their forms in every context. -/
theorem keepsSigmas_of_enclosed {part : List Char}
    (h : ∀ l r, part = l ++ 'Σ' :: r → HasVisible l ∧ HasVisible r) (before after : List Char) :
    KeepsSigmas before part after := by
  intro l r hpart
  obtain ⟨hl, hr⟩ := h l r hpart
  rw [endsWord, endsWord, meetsCased_append (hasVisible_reverse hl), meetsCased_append hr]

end Expectation.Text
