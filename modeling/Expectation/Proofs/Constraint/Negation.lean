import Mathlib.Logic.Relation
import Expectation.Proofs.Constraint.Satisfaction

/-!
# Negations pushed inward

A negation moves into a conjunction or a disjunction, and two negations cancel. Done everywhere in a
tree for as long as possible this ends, whatever is done first, in one tree, which asks the host the
same questions in the same order and comes to the same answer.

* `Pushes`: one such step, anywhere in the tree;
* `nnf`, by `pushed`: the tree in which no step is left;
* `reaches_nnf`, `isNormal_pushed`, `eq_nnf_of_reaches`: the steps from a tree lead there and nowhere else;
* `wellFounded_pushes`: they end;
* `satisfied_eq_of_pushes`: a step changes neither answers nor questions;
* **`evaluate_nnf`**: nor do all of them.
-/

namespace Expectation.Constraint

open Relation

/-! ## Steps -/

/-- One step of pushing negations inward: two that cancel, or one that moves into a combination, at the
root or below it. -/
inductive Pushes : Constraint → Constraint → Prop
  | notNot (c : Constraint) : Pushes (not (not c)) c
  | notAnd (a b : Constraint) : Pushes (not (and a b)) (or (not a) (not b))
  | notOr (a b : Constraint) : Pushes (not (or a b)) (and (not a) (not b))
  | not {c d : Constraint} (h : Pushes c d) : Pushes (not c) (not d)
  | items (q : Quantifier) {c d : Constraint} (h : Pushes c d) : Pushes (items q c) (items q d)
  | andLeft (b : Constraint) {a a' : Constraint} (h : Pushes a a') : Pushes (and a b) (and a' b)
  | andRight (a : Constraint) {b b' : Constraint} (h : Pushes b b') : Pushes (and a b) (and a b')
  | orLeft (b : Constraint) {a a' : Constraint} (h : Pushes a a') : Pushes (or a b) (or a' b)
  | orRight (a : Constraint) {b b' : Constraint} (h : Pushes b b') : Pushes (or a b) (or a b')
  | propertyIs (name : String) {c d : Constraint} (h : Pushes c d) :
      Pushes (propertyIs name c) (propertyIs name d)
  | attributeIs (name : String) {c d : Constraint} (h : Pushes c d) :
      Pushes (attributeIs name c) (attributeIs name d)
  | throwsMatching {c d : Constraint} (h : Pushes c d) : Pushes (throwsMatching c) (throwsMatching d)

/-- No step is left. -/
def IsNormal (c : Constraint) : Prop := ∀ d, ¬ Pushes c d

/-! ## The normal form -/

/-- The constraint, under a negation if there is one. -/
def signed (negated : Bool) (c : Constraint) : Constraint := if negated then not c else c

/-- The constraint with its negations pushed inward, together with one that stands before it. -/
def pushed : Bool → Constraint → Constraint
  | negated, not c => pushed (!negated) c
  | false, and a b => and (pushed false a) (pushed false b)
  | true, and a b => or (pushed true a) (pushed true b)
  | false, or a b => or (pushed false a) (pushed false b)
  | true, or a b => and (pushed true a) (pushed true b)
  | negated, items q c => signed negated (items q (pushed false c))
  | negated, propertyIs name c => signed negated (propertyIs name (pushed false c))
  | negated, attributeIs name c => signed negated (attributeIs name (pushed false c))
  | negated, throwsMatching c => signed negated (throwsMatching (pushed false c))
  | negated, c => signed negated c

/-- The constraint with its negations pushed inward as far as they go. -/
def nnf (c : Constraint) : Constraint := pushed false c

section Normal

variable {a b c d : Constraint}

theorem Pushes.signed (negated : Bool) (h : Pushes c d) :
    Pushes (signed negated c) (signed negated d) := by
  cases negated with
  | false => exact h
  | true => exact .not h

theorem reaches_and {a' b' : Constraint} (ha : ReflTransGen Pushes a a')
    (hb : ReflTransGen Pushes b b') : ReflTransGen Pushes (and a b) (and a' b') :=
  (ha.lift (and · b) fun _ _ => .andLeft b).trans (hb.lift (and a') fun _ _ => .andRight a')

theorem reaches_or {a' b' : Constraint} (ha : ReflTransGen Pushes a a')
    (hb : ReflTransGen Pushes b b') : ReflTransGen Pushes (or a b) (or a' b') :=
  (ha.lift (or · b) fun _ _ => .orLeft b).trans (hb.lift (or a') fun _ _ => .orRight a')

theorem reaches_signed (negated : Bool) {node : Constraint → Constraint}
    (hnode : ∀ {c d}, Pushes c d → Pushes (node c) (node d)) (h : ReflTransGen Pushes c d) :
    ReflTransGen Pushes (signed negated (node c)) (signed negated (node d)) :=
  h.lift (fun c => signed negated (node c)) fun _ _ h => (hnode h).signed negated

theorem reaches_pushed (negated : Bool) (c : Constraint) :
    ReflTransGen Pushes (signed negated c) (pushed negated c) := by
  induction c generalizing negated with
  | not c ih =>
    cases negated with
    | false => exact ih true
    | true => exact .head (.notNot c) (ih false)
  | and a b iha ihb =>
    cases negated with
    | false => exact reaches_and (iha false) (ihb false)
    | true => exact .head (.notAnd a b) (reaches_or (iha true) (ihb true))
  | or a b iha ihb =>
    cases negated with
    | false => exact reaches_or (iha false) (ihb false)
    | true => exact .head (.notOr a b) (reaches_and (iha true) (ihb true))
  | items q c ih => exact reaches_signed negated (.items q) (ih false)
  | propertyIs name c ih => exact reaches_signed negated (.propertyIs name) (ih false)
  | attributeIs name c ih => exact reaches_signed negated (.attributeIs name) (ih false)
  | throwsMatching c ih => exact reaches_signed negated .throwsMatching (ih false)
  | _ => exact .refl

theorem reaches_nnf (c : Constraint) : ReflTransGen Pushes c c.nnf := reaches_pushed false c

/-- The constraint is one that a negation before it acts on. -/
def takesNegation : Constraint → Bool
  | not _ | and _ _ | or _ _ => true
  | _ => false

theorem isNormal_signed (negated : Bool) (hc : c.takesNegation = false) (h : c.IsNormal) :
    (signed negated c).IsNormal := by
  cases negated with
  | false => exact h
  | true =>
    intro d hd
    cases hd with
    | notNot | notAnd | notOr => exact Bool.noConfusion hc
    | not hd => exact h _ hd

theorem isNormal_pushed (negated : Bool) (c : Constraint) : (pushed negated c).IsNormal := by
  have hand {a b : Constraint} (ha : a.IsNormal) (hb : b.IsNormal) : (and a b).IsNormal := by
    rintro d (_ | _)
    · exact ha _ ‹_›
    · exact hb _ ‹_›
  have hor {a b : Constraint} (ha : a.IsNormal) (hb : b.IsNormal) : (or a b).IsNormal := by
    rintro d (_ | _)
    · exact ha _ ‹_›
    · exact hb _ ‹_›
  induction c generalizing negated with
  | not c ih => exact ih (!negated)
  | and a b iha ihb =>
    cases negated with
    | false => exact hand (iha false) (ihb false)
    | true => exact hor (iha true) (ihb true)
  | or a b iha ihb =>
    cases negated with
    | false => exact hor (iha false) (ihb false)
    | true => exact hand (iha true) (ihb true)
  | items q c ih | propertyIs name c ih | attributeIs name c ih | throwsMatching c ih =>
    refine isNormal_signed negated rfl ?_
    rintro d (_ | _)
    exact ih false _ ‹_›
  | _ => exact isNormal_signed negated rfl nofun

theorem pushed_eq_of_pushes (h : Pushes c d) (negated : Bool) :
    pushed negated c = pushed negated d := by
  induction h generalizing negated with
  | notNot c => simp only [pushed, Bool.not_not]
  | notAnd a b | notOr a b => cases negated <;> rfl
  | andLeft b h ih | andRight a h ih | orLeft b h ih | orRight a h ih =>
    cases negated <;> simp only [pushed, ih]
  | _ => simp only [pushed, *]

/-- **The normal form** is all that a constraint can end in. -/
theorem eq_nnf_of_reaches (h : ReflTransGen Pushes c d) (hd : d.IsNormal) : d = c.nnf := by
  have heq : d.nnf = d := by
    rcases (reaches_nnf d).cases_head with heq | ⟨e, he, -⟩
    · exact heq.symm
    · exact absurd he (hd e)
  induction h using ReflTransGen.head_induction_on with
  | refl => exact heq.symm
  | head h _ ih => exact ih.trans (pushed_eq_of_pushes h false).symm

example : (not (and (not isNull) (or isTrue (items .all (not (not isNaN)))))).nnf =
    or isNull (and (not isTrue) (not (items .all isNaN))) := rfl

end Normal

/-! ## Steps end -/

/-- A size that steps decrease: a negation doubles it, so that two branches under one each are smaller
than the combination of them under one. -/
def weight : Constraint → Nat
  | not c => 2 * weight c
  | and a b | or a b => weight a + weight b + 1
  | items _ c | propertyIs _ c | attributeIs _ c | throwsMatching c => weight c + 1
  | _ => 1

section Weight

variable {c d : Constraint}

theorem one_le_weight (c : Constraint) : 1 ≤ c.weight := by
  induction c <;> simp only [weight] <;> omega

theorem weight_lt_of_pushes (h : Pushes c d) : d.weight < c.weight := by
  induction h with
  | notNot c =>
    have hpos := one_le_weight c
    simp only [weight]
    omega
  | _ => simp only [weight]; omega

/-- **Steps end**, in whatever order they are taken. -/
theorem wellFounded_pushes : WellFounded (Function.swap Pushes) :=
  Subrelation.wf (fun h => weight_lt_of_pushes h) (measure weight).wf

end Weight

/-! ## What steps keep -/

section Evaluate

variable {σ : Type} {host : Host σ} {c d : Constraint}

theorem satisfied_eq_of_pushes (h : Pushes c d) : c.satisfied host = d.satisfied host := by
  induction h with
  | notNot c =>
    funext v
    simp only [satisfied_not, bind_assoc, pure_bind, Bool.not_not, bind_pure]
  | notAnd a b | notOr a b =>
    funext v
    simp only [satisfied_not, satisfied_and, satisfied_or, bind_assoc, pure_bind]
    -- the first branch is asked on both sides, and by the same answer both ask the second one or stop
    refine bind_congr fun accepted => ?_
    cases accepted <;> simp
  | not h ih =>
    funext v
    rw [satisfied_not, satisfied_not, ih]
  | items q h ih =>
    funext v
    rw [satisfied_items, satisfied_items, ih]
  | andLeft b h ih | andRight a h ih =>
    funext v
    rw [satisfied_and, satisfied_and, ih]
  | orLeft b h ih | orRight a h ih =>
    funext v
    rw [satisfied_or, satisfied_or, ih]
  | propertyIs name h ih =>
    funext v
    rw [satisfied_propertyIs, satisfied_propertyIs, ih]
  | attributeIs name h ih =>
    funext v
    rw [satisfied_attributeIs, satisfied_attributeIs, ih]
  | throwsMatching h ih =>
    funext v
    rw [satisfied_throwsMatching, satisfied_throwsMatching, ih]

theorem satisfied_eq_of_reaches (h : ReflTransGen Pushes c d) :
    c.satisfied host = d.satisfied host := by
  induction h with
  | refl => rfl
  | tail _ h ih => exact ih.trans (satisfied_eq_of_pushes h)

/-- **Negations pushed inward** change neither the answer nor the questions: every order of steps ends,
and in one constraint, which comes to the same result by the same calls in the same order, running every
code as often, over any host and from any state of it. -/
theorem evaluate_nnf (host : Host σ) (c : Constraint) (v : Value) (s : σ) :
    (Acc (Function.swap Pushes) c ∧
      ∀ d, d = c.nnf ↔ ReflTransGen Pushes c d ∧ d.IsNormal) ∧
    (c.nnf.evaluate host v s).result.isPass = (c.evaluate host v s).result.isPass ∧
    (c.nnf.evaluate host v s).calls = (c.evaluate host v s).calls ∧
    (∀ code, (c.nnf.evaluate host v s).calls.count (.run code) =
      (c.evaluate host v s).calls.count (.run code)) ∧
    (c.nnf.evaluate host v s).state = (c.evaluate host v s).state := by
  have heq : c.nnf.satisfied host v s = c.satisfied host v s :=
    congrFun (congrFun (satisfied_eq_of_reaches (reaches_nnf c)) v).symm s
  rw [satisfied_apply, satisfied_apply, Outcome.mk.injEq] at heq
  obtain ⟨hresult, hcalls, hstate⟩ := heq
  refine ⟨⟨wellFounded_pushes.apply c, fun d => ⟨?_, fun h => eq_nnf_of_reaches h.1 h.2⟩⟩, hresult,
    hcalls, fun code => by rw [hcalls], hstate⟩
  rintro rfl
  exact ⟨reaches_nnf c, isNormal_pushed false c⟩

end Evaluate

end Expectation.Constraint
