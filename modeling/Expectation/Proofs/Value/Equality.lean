import Mathlib.Data.List.Forall2
import Expectation.Proofs.Binary64.Rounding
import Expectation.Value.Matching

/-!
# Equality of values

Matching without a tolerance is reflexive and symmetric. It is transitive but for one thing: integers
are compared exactly with each other, and rounded when they are compared with a double.

* `Value.items_induction`: induction over values, lists by their items;
* `numbersMatch_none_iff`: doubles, by `Binary64.key?`;
* `matching_self`, `matching_symm`: every value matches itself, and matching goes both ways;
* `matching_of_same`, `matching_ignoring_case`: structural identity, and matching but for case;
* `Blurred`: a value between two others that hold different integers where it holds a double;
* **`matching_nearly_equivalence`**: matching is an equivalence, but for such values.
-/

namespace Expectation

/-! ## Doubles -/

namespace Binary64

variable {x y : Binary64}

/-- The key of a number that is not a NaN. -/
def key? (x : Binary64) : Option ℤ := if x.isNaN then none else some x.key

theorem eq_iff : x.eq y = true ↔ x.isNaN = false ∧ y.isNaN = false ∧ x.key = y.key := by
  rw [eq, compare?]
  cases x.isNaN <;> cases y.isNaN <;> simp

theorem key?_ofInt (n : ℤ) : (ofInt n).key? = some (ofInt n).key := by
  rw [key?, isNaN_ofInt, if_neg Bool.false_ne_true]

theorem eq_ofInt_of_key?_eq {m n : ℤ} (hne : m ≠ n) (hm : (ofInt m).key? = x.key?)
    (hn : x.key? = (ofInt n).key?) : x = ofInt m ∧ ofInt m = ofInt n := by
  have hround : ofInt m = ofInt n := by
    have hkey := hm.trans hn
    rwa [key?_ofInt, key?_ofInt, Option.some.injEq, ← ofInt_eq_iff_key_eq] at hkey
  -- one of the two is not zero, so that their key has a single word
  have hzero : (ofInt m).key ≠ 0 := by
    by_cases hm0 : m = 0
    · rw [hround]
      exact key_ofInt_ne_zero (hm0 ▸ hne.symm)
    · exact key_ofInt_ne_zero hm0
  refine ⟨?_, hround⟩
  rw [key?_ofInt, key?] at hm
  split at hm
  · cases hm
  · exact (eq_of_key_eq (Option.some.inj hm) hzero).symm

end Binary64

theorem numbersMatch_none_iff {x y : Binary64} : numbersMatch x y none = true ↔ x.key? = y.key? := by
  have heq : numbersMatch x y none = (x.eq y || x.isNaN && y.isNaN) := by
    rw [numbersMatch]
    split
    · rename_i hfinite
      rw [Binary64.isNaN_of_isFinite hfinite, Bool.false_and, Bool.or_false]
    · rfl
  rw [heq, Bool.or_eq_true, Bool.and_eq_true, Binary64.eq_iff, Binary64.key?, Binary64.key?]
  cases x.isNaN <;> cases y.isNaN <;> simp

theorem numbersMatch_ofInt_iff {m n : ℤ} :
    numbersMatch (.ofInt m) (.ofInt n) none = true ↔ Binary64.ofInt m = Binary64.ofInt n := by
  rw [numbersMatch_none_iff, Binary64.key?_ofInt, Binary64.key?_ofInt, Option.some.injEq,
    Binary64.ofInt_eq_iff_key_eq]

/-! ## Values -/

namespace Value

@[elab_as_elim]
theorem items_induction {motive : Value → Prop}
    (list : ∀ items, (∀ v ∈ items, motive v) → motive (.list items))
    (other : ∀ v : Value, v.asList = none → motive v) (v : Value) : motive v :=
  @Value.rec motive (fun items => ∀ v ∈ items, motive v) (other null rfl) (fun b => other (bool b) rfl)
    (fun n => other (int n) rfl) (fun x => other (float x) rfl) (fun t => other (text t) rfl) list
    (fun o => other (object o) rfl) (fun f => other (fault f) rfl) (fun c => other (code c) rfl)
    (fun _ h => absurd h List.not_mem_nil)
    (fun _ _ hv hitems => List.forall_mem_cons.mpr ⟨hv, hitems⟩) v

section Lists

variable {t : Option Tolerance} {i : Bool} {vs ws : List Value}

theorem matchingItems_iff :
    matchingItems t i vs ws = true ↔ List.Forall₂ (fun v w => v.matching t i w = true) vs ws := by
  induction vs generalizing ws with
  | nil => cases ws <;> simp [matchingItems]
  | cons v vs ih => cases ws <;> simp [matchingItems, ih]

theorem sameItems_iff :
    sameItems vs ws = true ↔ List.Forall₂ (fun v w => v.same w = true) vs ws := by
  induction vs generalizing ws with
  | nil => cases ws <;> simp [sameItems]
  | cons v vs ih => cases ws <;> simp [sameItems, ih]

theorem forall₂_of_items {R S : Value → Value → Prop} (himp : ∀ v ∈ vs, ∀ w, R v w → S v w)
    (h : List.Forall₂ R vs ws) : List.Forall₂ S vs ws :=
  ((List.forall₂_and_left _ _).mpr ⟨himp, h⟩).imp fun _ w hitem => hitem.1 w hitem.2

end Lists

/-! ### Reflexivity and symmetry -/

section Matching

variable {u v w : Value} {i : Bool}

theorem textsMatch_self (s : String) (i : Bool) : textsMatch s s i = true := by
  cases i <;> simp [textsMatch]

theorem textsMatch_congr_left {s t : String} (h : textsMatch s t i = true) (r : String) :
    textsMatch s r i = textsMatch t r i := by
  cases i with
  | false =>
    obtain rfl : s = t := eq_of_beq h
    rfl
  | true =>
    have hlower : Text.lowercase s.toList = Text.lowercase t.toList := of_decide_eq_true h
    show decide (_ = _) = decide (_ = _)
    rw [hlower]

/-- **Every value matches itself**, a NaN and what is inside a list included. -/
theorem matching_self (i : Bool) (v : Value) : v.matching none i v = true := by
  induction v using items_induction with
  | list items ih => exact matchingItems_iff.mpr (List.forall₂_same.mpr ih)
  | other v hlist =>
    cases v with
    | list items => cases hlist
    | float x => exact numbersMatch_none_iff.mpr rfl
    | text t => exact textsMatch_self _ _
    | null => rfl
    | bool _ | int _ | object _ | fault _ | code _ => exact beq_self_eq_true _

theorem matching_congr_left (hlist : u.asList = none) (hnumber : u.isNumeric = false)
    (h : u.matching none i v = true) (w : Value) : u.matching none i w = v.matching none i w := by
  cases u with
  | list items => cases hlist
  | int a => cases hnumber
  | float x => cases hnumber
  | null => cases v with
    | null => rfl
    | _ => cases h
  | bool a => cases v with
    | bool b => rw [eq_of_beq h]
    | _ => cases h
  | text s => cases v with
    | text t => cases w with
      | text r => exact textsMatch_congr_left h _
      | _ => rfl
    | _ => cases h
  | object o => cases v with
    | object p => cases w with
      | object q => exact congrArg (· == q.address) (eq_of_beq h)
      | _ => rfl
    | _ => cases h
  | fault f => cases v with
    | fault g => cases w with
      | fault k => exact congrArg (· == k.address) (eq_of_beq h)
      | _ => rfl
    | _ => cases h
  | code c => cases v with
    | code d => cases w with
      | code e => exact congrArg (· == e.address) (eq_of_beq h)
      | _ => rfl
    | _ => cases h

theorem matching_symm_of_isNumeric (hnumber : v.isNumeric = true) (h : v.matching none i w = true) :
    w.matching none i v = true := by
  have hsymm : ∀ {x y : Binary64}, numbersMatch x y none = true → numbersMatch y x none = true :=
    fun h => numbersMatch_none_iff.mpr (numbersMatch_none_iff.mp h).symm
  cases v with
  | int a => cases w with
    | int b => exact BEq.comm.trans h
    | float y => exact hsymm h
    | _ => cases h
  | float x => cases w with
    | int b => exact hsymm h
    | float y => exact hsymm h
    | _ => cases h
  | _ => cases hnumber

/-- **Matching goes both ways.** -/
theorem matching_symm (h : v.matching none i w = true) : w.matching none i v = true := by
  induction v using items_induction generalizing w with
  | list items ih =>
    cases w with
    | list others =>
      have hitems := forall₂_of_items (fun v hv _ => ih v hv) (matchingItems_iff.mp h)
      exact matchingItems_iff.mpr hitems.flip
    | _ => cases h
  | other v hlist =>
    cases hnumber : v.isNumeric with
    | true => exact matching_symm_of_isNumeric hnumber h
    | false => rw [← matching_congr_left hlist hnumber h, matching_self]

end Matching

/-! ### Transitivity -/

/-- In one place, at any depth, the outer two values hold different integers that are rounded to one
double, and the one between them holds this double. -/
inductive Blurred : Value → Value → Value → Prop where
  | number {m n : Int64} (hne : m ≠ n) (h : Binary64.ofInt m.toInt = Binary64.ofInt n.toInt) :
      Blurred (int m) (float (.ofInt m.toInt)) (int n)
  | first {u v w : Value} {us vs ws : List Value} (h : Blurred u v w) :
      Blurred (list (u :: us)) (list (v :: vs)) (list (w :: ws))
  | later {u v w : Value} {us vs ws : List Value} (h : Blurred (list us) (list vs) (list ws)) :
      Blurred (list (u :: us)) (list (v :: vs)) (list (w :: ws))

mutual

/-- The integers in a value, at any depth. -/
def integers : Value → List Int64
  | int n => [n]
  | list items => integersOf items
  | _ => []

/-- The integers in the items of a list. -/
def integersOf : List Value → List Int64
  | [] => []
  | v :: vs => integers v ++ integersOf vs

end

section Blurred

variable {u v w : Value} {us vs ws : List Value}

theorem not_blurred_nil : ¬ Blurred (list []) (list vs) (list ws) := nofun

theorem blurred_cons_iff :
    Blurred (list (u :: us)) (list (v :: vs)) (list (w :: ws)) ↔
      Blurred u v w ∨ Blurred (list us) (list vs) (list ws) := by
  constructor
  · rintro (_ | h | h)
    · exact .inl h
    · exact .inr h
  · rintro (h | h)
    · exact .first h
    · exact .later h

theorem Blurred.exists_integers (h : Blurred u v w) :
    ∃ m ∈ u.integers, ∃ n ∈ w.integers, m ≠ n ∧
      2 ^ 53 ≤ m.toInt.natAbs ∧ 2 ^ 53 ≤ n.toInt.natAbs := by
  induction h with
  | @number m n hne h =>
    have hint : m.toInt ≠ n.toInt := fun heq => hne (Int64.toInt_inj.mp heq)
    exact ⟨m, by simp [integers], n, by simp [integers], hne,
      Binary64.two_pow_le_natAbs_of_ofInt_eq hint h⟩
  | first _ ih =>
    obtain ⟨m, hm, n, hn, hrest⟩ := ih
    exact ⟨m, List.mem_append_left _ hm, n, List.mem_append_left _ hn, hrest⟩
  | later _ ih =>
    obtain ⟨m, hm, n, hn, hrest⟩ := ih
    exact ⟨m, List.mem_append_right _ hm, n, List.mem_append_right _ hn, hrest⟩

theorem numbersMatch_trans {x y z : Binary64} (h : numbersMatch x y none = true)
    (h' : numbersMatch y z none = true) : numbersMatch x z none = true :=
  numbersMatch_none_iff.mpr ((numbersMatch_none_iff.mp h).trans (numbersMatch_none_iff.mp h'))

theorem matchingItems_trans_iff
    (ih : ∀ u ∈ us, ∀ v w : Value, u.matching none false v = true → v.matching none false w = true →
      (u.matching none false w = true ↔ ¬ Blurred u v w))
    (h : matchingItems none false us vs = true) (h' : matchingItems none false vs ws = true) :
    matchingItems none false us ws = true ↔ ¬ Blurred (list us) (list vs) (list ws) := by
  induction us generalizing vs ws with
  | nil =>
    cases vs with
    | nil => exact iff_of_true h' not_blurred_nil
    | cons => cases h
  | cons u us ihus =>
    cases vs with
    | nil => cases h
    | cons v vs =>
      cases ws with
      | nil => cases h'
      | cons w ws =>
        simp only [matchingItems, Bool.and_eq_true] at h h' ⊢
        rw [blurred_cons_iff, not_or, ih u List.mem_cons_self v w h.1 h'.1,
          ihus (fun u hu => ih u (List.mem_cons_of_mem _ hu)) h.2 h'.2]

theorem matching_trans_iff_of_isNumeric (hnumber : u.isNumeric = true)
    (h : u.matching none false v = true) (h' : v.matching none false w = true) :
    u.matching none false w = true ↔ ¬ Blurred u v w := by
  cases u with
  | int a => cases v with
    | int b =>
      obtain rfl : a = b := eq_of_beq h
      exact iff_of_true h' nofun
    | float y => cases w with
      | int c =>
        refine ⟨fun hac => ?_, fun hblurred => ?_⟩
        · rintro ⟨hne, -⟩
          exact hne (eq_of_beq hac)
        · refine beq_iff_eq.mpr (by_contra fun hne => hblurred ?_)
          have hint : a.toInt ≠ c.toInt := fun heq => hne (Int64.toInt_inj.mp heq)
          obtain ⟨rfl, hround⟩ := Binary64.eq_ofInt_of_key?_eq hint (numbersMatch_none_iff.mp h)
            (numbersMatch_none_iff.mp h')
          exact .number hne hround
      | float z => exact iff_of_true (numbersMatch_trans h h') nofun
      | _ => cases h'
    | _ => cases h
  | float x => cases v with
    | int b => cases w with
      | int c =>
        obtain rfl : b = c := eq_of_beq h'
        exact iff_of_true h nofun
      | float z => exact iff_of_true (numbersMatch_trans h h') nofun
      | _ => cases h'
    | float y => cases w with
      | int c => exact iff_of_true (numbersMatch_trans h h') nofun
      | float z => exact iff_of_true (numbersMatch_trans h h') nofun
      | _ => cases h'
    | _ => cases h
  | _ => cases hnumber

/-- **Matching is transitive** unless the value between blurs what the others differ in. -/
theorem matching_trans_iff (h : u.matching none false v = true) (h' : v.matching none false w = true) :
    u.matching none false w = true ↔ ¬ Blurred u v w := by
  induction u using items_induction generalizing v w with
  | list items ih =>
    cases v with
    | list others =>
      cases w with
      | list more => exact matchingItems_trans_iff (fun u hu v w => ih u hu) h h'
      | _ => cases h'
    | _ => cases h
  | other u hlist =>
    cases hnumber : u.isNumeric with
    | true => exact matching_trans_iff_of_isNumeric hnumber h h'
    | false =>
      have hblurred : ¬ Blurred u v w := by
        rintro (_ | _ | _)
        · cases hnumber
        · cases hlist
        · cases hlist
      exact iff_of_true ((matching_congr_left hlist hnumber h w).trans h') hblurred

/-- **Matching is an equivalence, but for rounding.** Every value matches itself, and matching goes
both ways. When a value matches another and this a third, the first matches the third unless in one
place they hold different integers, of at least `2 ^ 53` in absolute value, and the second holds
there the double to which both are rounded. -/
theorem matching_nearly_equivalence :
    (∀ v : Value, v.matching none false v = true) ∧
    (∀ v w : Value, v.matching none false w = true → w.matching none false v = true) ∧
    (∀ u v w : Value, u.matching none false v = true → v.matching none false w = true →
      (u.matching none false w = true ↔ ¬ Blurred u v w)) ∧
    ∀ u v w : Value, Blurred u v w → ∃ m ∈ u.integers, ∃ n ∈ w.integers, m ≠ n ∧
      2 ^ 53 ≤ m.toInt.natAbs ∧ 2 ^ 53 ≤ n.toInt.natAbs :=
  ⟨matching_self false, fun _ _ => matching_symm, fun _ _ _ => matching_trans_iff,
    fun _ _ _ => Blurred.exists_integers⟩

/-- Two neighbouring integers of 54 bits match one double and not each other. -/
theorem matching_not_transitive :
    (int 9007199254740992).matching none false (float (.ofInt 9007199254740992)) = true ∧
    (float (.ofInt 9007199254740992)).matching none false (int 9007199254740993) = true ∧
    (int 9007199254740992).matching none false (int 9007199254740993) = false := by
  decide +kernel

end Blurred

/-! ### Weaker equalities -/

section Weaker

variable {u v : Value}

/-- **Structural identity is a matching**: it tells apart numbers of different types or bits that match,
and nothing that does not. -/
theorem matching_of_same (h : u.same v = true) : u.matching none false v = true := by
  induction u using items_induction generalizing v with
  | list items ih =>
    cases v with
    | list others =>
      exact matchingItems_iff.mpr (forall₂_of_items (fun u hu _ => ih u hu) (sameItems_iff.mp h))
    | _ => cases h
  | other u hlist =>
    cases u with
    | list items => cases hlist
    | float x =>
      cases v with
      | float y =>
        obtain rfl : x = y := of_decide_eq_true h
        exact matching_self _ _
      | _ => cases h
    | _ => cases v <;> first | exact h | cases h

/-- **A matching is one that ignores case**, under any tolerance. -/
theorem matching_ignoring_case {t : Option Tolerance} (h : u.matching t false v = true) :
    u.matching t true v = true := by
  induction u using items_induction generalizing v with
  | list items ih =>
    cases v with
    | list others =>
      exact matchingItems_iff.mpr
        (forall₂_of_items (fun u hu _ => ih u hu) (matchingItems_iff.mp h))
    | _ => cases h
  | other u hlist =>
    cases u with
    | list items => cases hlist
    | text s =>
      cases v with
      | text r =>
        have heq : s.content = r.content := eq_of_beq h
        rw [matching, heq, textsMatch_self]
      | _ => cases h
    | _ => cases v <;> exact h

/-- **One instance is structurally identical** to itself. -/
theorem same_of_sameInstance (h : u.sameInstance v = true) : u.same v = true := by
  cases u with
  | text s =>
    cases v with
    | text r =>
      obtain rfl : s = r := of_decide_eq_true h
      exact beq_self_eq_true s.content
    | _ => cases h
  | list items => cases h
  | _ => cases v <;> exact h

end Weaker

end Value

end Expectation
