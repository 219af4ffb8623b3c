import Expectation.Proofs.Constraint.Expected
import Expectation.Proofs.Constraint.Satisfaction
import Expectation.Proofs.Token.Content
import Expectation.Proofs.Value.Fallback

/-!
# Fallback tolerances without doubles

A fallback tolerance gets into every equality of a tree that has no tolerance of its own, and stays there
while the tree is evaluated. If no double takes part it has no effect on the verdict, and the failure it
leads to is the same up to the tolerance itself.

* `Constraint.bare`: the equalities without a tolerance;
* `Constraint.withDefault`: a tolerance for them, of which a fallback is one;
* `Failure.withFallback`, `Verdict.withFallback`: what a failure names, with the fallback;
* `Outcome.map`, `Trial.bind_map`: trials with the same calls, whose results correspond;
* `Inspects`: the values that testing comes to;
* `Doubleless`: no double takes part;
* **`evaluate_withFallback`**: the verdict with and without the fallback.
-/

namespace Expectation

/-! ## Trees and failures with a fallback -/

namespace Constraint

/-- The expected value of an equality without a tolerance. -/
def bareExpected? : Constraint → Option Value
  | equal e none _ => some e
  | _ => none

/-- The expected values of the equalities in the tree that have no tolerance, from left to right. -/
def bare (c : Constraint) : List Value := c.leaves.filterMap bareExpected?

/-- Gives every bare equality the tolerance. -/
def withDefault (t : Option Tolerance) : Constraint → Constraint
  | equal e none i => equal e t i
  | not c => not (withDefault t c)
  | items q c => items q (withDefault t c)
  | and a b => and (withDefault t a) (withDefault t b)
  | or a b => or (withDefault t a) (withDefault t b)
  | propertyIs s c => propertyIs s (withDefault t c)
  | attributeIs s c => attributeIs s (withDefault t c)
  | throwsMatching c => throwsMatching (withDefault t c)
  | c => c

section Bare

variable {amount : Binary64} {t : Option Tolerance} (a b c : Constraint)

theorem bare_and : (and a b).bare = a.bare ++ b.bare := List.filterMap_append

theorem bare_or : (or a b).bare = a.bare ++ b.bare := List.filterMap_append

theorem withDefault_none : c.withDefault none = c := by
  induction c with
  | equal e t i => cases t <;> rfl
  | _ => simp only [withDefault, *]

theorem withDefault_fallback : c.withDefault (some ⟨amount, .fallback⟩) = c.withFallback amount := by
  induction c with
  | equal e t i => cases t <;> rfl
  | _ => simp only [withDefault, withFallback, *]

variable {c} in
theorem withDefault_of_bare_eq_nil (h : c.bare = []) : c.withDefault t = c := by
  induction c with
  | equal e own i =>
    cases own with
    | none => cases h
    | some own => rfl
  | and a b iha ihb =>
    rw [bare_and, List.append_eq_nil_iff] at h
    rw [withDefault, iha h.1, ihb h.2]
  | or a b iha ihb =>
    rw [bare_or, List.append_eq_nil_iff] at h
    rw [withDefault, iha h.1, ihb h.2]
  | not c ih | items _ c ih | propertyIs _ c ih | attributeIs _ c ih | throwsMatching c ih =>
    rw [withDefault, ih h]
  | _ => rfl

end Bare

end Constraint

/-- The failure in the tree with the fallback: at the same place, for what was seen there. -/
def Failure.withFallback (amount : Binary64) (f : Failure) : Failure :=
  ⟨f.trail, f.frames.map (.withFallback amount), f.blamed.withFallback amount, f.observed⟩

/-- The verdict in the tree with the fallback. -/
def Verdict.withFallback (amount : Binary64) : Verdict → Verdict
  | pass => pass
  | fail f => fail (f.withFallback amount)

section Verdict

variable (amount : Binary64) (c frame : Constraint) (v : Value) (verdict : Verdict)

@[simp] theorem isPass_withFallback : (verdict.withFallback amount).isPass = verdict.isPass := by
  cases verdict <;> rfl

theorem withFallback_check (accepted : Bool) :
    (c.check accepted v).withFallback amount = (c.withFallback amount).check accepted v := by
  cases accepted <;> rfl

theorem withFallback_along (turn : Turn) :
    (verdict.along turn).withFallback amount = (verdict.withFallback amount).along turn := by
  cases verdict <;> rfl

theorem withFallback_within :
    (verdict.within frame).withFallback amount =
      (verdict.withFallback amount).within (frame.withFallback amount) := by
  cases verdict with
  | pass => rfl
  | fail f => simp [Verdict.within, Verdict.withFallback, Failure.withFallback]

variable {c verdict} in
theorem Verdict.Settles.withFallback_eq (h : verdict.Settles c) (hc : c.withFallback amount = c) :
    verdict.withFallback amount = verdict := by
  cases verdict with
  | pass => rfl
  | fail f =>
    obtain ⟨seen, rfl⟩ := h f rfl
    rw [Verdict.withFallback, Failure.withFallback, hc, List.map_nil]

end Verdict

/-! ## Corresponding trials -/

/-- The outcome with another result. -/
def Outcome.map {σ α β : Type} (f : α → β) (o : Outcome σ α) : Outcome σ β :=
  ⟨f o.result, o.calls, o.state⟩

namespace Trial

variable {σ α α' β β' : Type} {s : σ}

theorem bind_map {t : Trial σ α} {t' : Trial σ α'} {g : α → Trial σ β} {g' : α' → Trial σ β'}
    {f : α → α'} {k : β → β'} (h : t' s = (t s).map f)
    (hg : g' (f (t s).result) (t s).state = (g (t s).result (t s).state).map k) :
    (t' >>= g') s = ((t >>= g) s).map k := by
  rw [bind_apply, bind_apply, h]
  show Outcome.mk (g' (f (t s).result) (t s).state).result _ _ = _
  simp only [Outcome.map, hg]

theorem bind_map_of_eq {t t' : Trial σ α} {g : α → Trial σ β} {g' : α → Trial σ β'} {k : β → β'}
    (h : t' s = t s) (hg : g' (t s).result (t s).state = (g (t s).result (t s).state).map k) :
    (t' >>= g') s = ((t >>= g) s).map k :=
  bind_map (f := id) h hg

variable {I : σ → Prop} {p q : α → Trial σ Bool}

theorem anyM_congr (hq : ∀ a s, I s → I (q a s).state) {members : List α}
    (h : ∀ a ∈ members, ∀ s, I s → p a s = q a s) (hs : I s) : members.anyM p s = members.anyM q s := by
  induction members generalizing s with
  | nil => rfl
  | cons a members ih =>
    rw [List.anyM, List.anyM, bind_apply, bind_apply, h a List.mem_cons_self s hs]
    have hrest := ih (fun b hb => h b (List.mem_cons_of_mem a hb)) (hq a s hs)
    cases (q a s).result with
    | true => rfl
    | false => simp only [hrest]

theorem allM_congr (hq : ∀ a s, I s → I (q a s).state) {members : List α}
    (h : ∀ a ∈ members, ∀ s, I s → p a s = q a s) (hs : I s) : members.allM p s = members.allM q s := by
  induction members generalizing s with
  | nil => rfl
  | cons a members ih =>
    rw [List.allM, List.allM, bind_apply, bind_apply, h a List.mem_cons_self s hs]
    have hrest := ih (fun b hb => h b (List.mem_cons_of_mem a hb)) (hq a s hs)
    cases (q a s).result with
    | true => simp only [hrest]
    | false => rfl

end Trial

section Evaluate

variable {σ : Type} {host : Host σ} {c frame inner a b : Constraint} {v w found : Value} {s s' : σ}

theorem Quantifier.over_congr {I : σ → Prop} {p p' : Value → Trial σ Bool} (q : Quantifier)
    (hp : ∀ v s, I s → I (p v s).state) {members : List Value}
    (h : ∀ v ∈ members, ∀ s, I s → p' v s = p v s) (hs : I s) :
    q.over p' members s = q.over p members s := by
  cases q with
  | all => exact Trial.allM_congr hp h hs
  | some => exact Trial.anyM_congr hp h hs
  | none =>
    show (members.anyM p' >>= _) s = (members.anyM p >>= _) s
    rw [Trial.bind_apply, Trial.bind_apply, Trial.anyM_congr hp h hs]

theorem evaluate_items_list (q : Quantifier) (members : List Value) :
    (Constraint.items q inner).evaluate host (.list members) = (do
      pure ((Constraint.items q inner).check (← q.over (inner.satisfied host) members)
        (.list members))) := by
  cases q with
  | all | some => rfl
  | none => rw [Constraint.evaluate, Quantifier.over, bind_assoc]; rfl

/-! ## Tests without doubles -/

/-- The value is one that testing against the tree comes to: the tested value, items of lists, and what
contexts derive in the states that questions lead to. -/
inductive Inspects (host : Host σ) (s : σ) : Constraint → Value → Value → Prop
  | here (c : Constraint) (v : Value) : Inspects host s c v v
  | not {c : Constraint} {v w : Value} (h : Inspects host s c v w) : Inspects host s (.not c) v w
  | item (q : Quantifier) {c : Constraint} {members : List Value} {v w : Value} (hmem : v ∈ members)
      (h : Inspects host s c v w) : Inspects host s (.items q c) (.list members) w
  | andLeft (b : Constraint) {a : Constraint} {v w : Value} (h : Inspects host s a v w) :
      Inspects host s (.and a b) v w
  | andRight (a : Constraint) {b : Constraint} {v w : Value} (h : Inspects host s b v w) :
      Inspects host s (.and a b) v w
  | orLeft (b : Constraint) {a : Constraint} {v w : Value} (h : Inspects host s a v w) :
      Inspects host s (.or a b) v w
  | orRight (a : Constraint) {b : Constraint} {v w : Value} (h : Inspects host s b v w) :
      Inspects host s (.or a b) v w
  | within {frame inner : Constraint} {v found w : Value} {s' : σ}
      (henc : Constraint.Encloses frame inner) (hs : host.Reaches s s')
      (hfound : derived? host s' frame v = some found) (h : Inspects host s inner found w) :
      Inspects host s frame v w

theorem Inspects.of_reaches (hs : host.Reaches s s') (h : Inspects host s' c v w) :
    Inspects host s c v w := by
  induction h with
  | here c v => exact .here c v
  | not _ ih => exact .not ih
  | item q hmem _ ih => exact .item q hmem ih
  | andLeft b _ ih => exact .andLeft b ih
  | andRight a _ ih => exact .andRight a ih
  | orLeft b _ ih => exact .orLeft b ih
  | orRight a _ ih => exact .orRight a ih
  | within henc hs' hfound _ ih => exact .within henc (hs.trans hs') hfound ih

/-- No double takes part when the value is tested: there is none in what equalities without a tolerance
expect, and none in the values that testing comes to. -/
structure Doubleless (host : Host σ) (s : σ) (c : Constraint) (v : Value) : Prop where
  expected : ∀ e ∈ c.bare, e.doubles = []
  inspected : ∀ w, Inspects host s c v w → w.doubles = []

theorem Constraint.Encloses.inner_eq (ha : Constraint.Encloses frame a)
    (hb : Constraint.Encloses frame b) : a = b := by
  cases ha <;> cases hb <;> rfl

namespace Doubleless

theorem of_reaches (h : Doubleless host s c v) (hs : host.Reaches s s') : Doubleless host s' c v :=
  ⟨h.expected, fun w hw => h.inspected w (hw.of_reaches hs)⟩

theorem of_not (h : Doubleless host s c.not v) : Doubleless host s c v :=
  ⟨h.expected, fun w hw => h.inspected w (.not hw)⟩

theorem of_items {q : Quantifier} {members : List Value}
    (h : Doubleless host s (.items q c) (.list members)) (hmem : v ∈ members) : Doubleless host s c v :=
  ⟨h.expected, fun w hw => h.inspected w (.item q hmem hw)⟩

theorem and_left (h : Doubleless host s (.and a b) v) : Doubleless host s a v :=
  ⟨fun e he => h.expected e (Constraint.bare_and a b ▸ List.mem_append_left _ he),
    fun w hw => h.inspected w (.andLeft b hw)⟩

theorem and_right (h : Doubleless host s (.and a b) v) : Doubleless host s b v :=
  ⟨fun e he => h.expected e (Constraint.bare_and a b ▸ List.mem_append_right _ he),
    fun w hw => h.inspected w (.andRight a hw)⟩

theorem or_left (h : Doubleless host s (.or a b) v) : Doubleless host s a v :=
  ⟨fun e he => h.expected e (Constraint.bare_or a b ▸ List.mem_append_left _ he),
    fun w hw => h.inspected w (.orLeft b hw)⟩

theorem or_right (h : Doubleless host s (.or a b) v) : Doubleless host s b v :=
  ⟨fun e he => h.expected e (Constraint.bare_or a b ▸ List.mem_append_right _ he),
    fun w hw => h.inspected w (.orRight a hw)⟩

theorem of_within (h : Doubleless host s frame v) (henc : Constraint.Encloses frame inner)
    (hfound : derived? host s frame v = some found) (hs : host.Reaches s s') :
    Doubleless host s' inner found where
  expected := by cases henc <;> exact h.expected
  inspected w hw := h.inspected w (.within henc .start hfound (hw.of_reaches hs))

theorem equal {e : Value} (t : Option Tolerance) (i : Bool) (he : e.doubles = []) (hv : v.doubles = []) :
    Doubleless host s (.equal e t i) v where
  expected := by cases t <;> simp [Constraint.bare, Constraint.leaves, Constraint.bareExpected?, he]
  inspected w hw := by
    cases hw with
    | here => exact hv
    | within henc => cases henc

theorem within (henc : Constraint.Encloses frame inner) (hv : v.doubles = [])
    (h : ∀ s' found, host.Reaches s s' → derived? host s' frame v = some found →
      Doubleless host s inner found) (hinner : ∀ e ∈ inner.bare, e.doubles = []) :
    Doubleless host s frame v where
  expected := by cases henc <;> exact hinner
  inspected w hw := by
    cases hw with
    | within henc' hs hfound hw =>
      obtain rfl := henc.inner_eq henc'
      exact (h _ _ hs hfound).inspected w hw
    | here => exact hv
    | _ => cases henc

end Doubleless

/-! ## Verdicts -/

section Tree

variable {amount : Binary64}

theorem evaluate_eq_map_of_settles (hc : c.handsOn = false) (hsame : c.withFallback amount = c) :
    c.evaluate host v s = (c.evaluate host v s).map (.withFallback amount) := by
  have hsettles : (c.evaluate host v s).result.Settles c := settles_evaluate hc
  rw [Outcome.map, hsettles.withFallback_eq amount hsame]

theorem satisfied_eq_of_evaluate
    (h : (c.withFallback amount).evaluate host v s = (c.evaluate host v s).map (.withFallback amount)) :
    (c.withFallback amount).satisfied host v s = c.satisfied host v s := by
  rw [Constraint.satisfied_apply, Constraint.satisfied_apply, h]
  simp only [Outcome.map, isPass_withFallback]

theorem within_eq_map (frame : Constraint)
    (h : (inner.withFallback amount).evaluate host v s =
      (inner.evaluate host v s).map (.withFallback amount)) :
    (do pure ((← (inner.withFallback amount).evaluate host v).within (frame.withFallback amount)) :
        Trial σ Verdict) s =
      ((do pure ((← inner.evaluate host v).within frame) : Trial σ Verdict) s).map
        (.withFallback amount) := by
  refine Trial.bind_map h ?_
  rw [← withFallback_within]
  rfl

/-- **The tree with the fallback** comes to the corresponding verdict by the same calls, if no double
takes part. -/
theorem evaluate_withFallback_eq (h : Doubleless host s c v) :
    (c.withFallback amount).evaluate host v s =
      (c.evaluate host v s).map (.withFallback amount) := by
  -- along with the value the state is general: a test starts in the state that earlier ones left
  induction c generalizing v s with
  | equal e t i =>
    have haccepts : ((Constraint.equal e t i).withFallback amount).accepts v =
        (Constraint.equal e t i).accepts v := by
      cases t with
      | some t => rfl
      | none =>
        exact Value.matching_fallback amount i (h.expected e (.head _)) (h.inspected v (.here _ v))
    show Outcome.mk (((Constraint.equal e t i).withFallback amount).check _ v) [] s = _
    rw [haccepts, ← withFallback_check]
    rfl
  | not inner ih =>
    refine Trial.bind_map (ih h.of_not) ?_
    rw [isPass_withFallback, ← Constraint.withFallback, ← withFallback_check]
    rfl
  | items q inner ih =>
    cases v with
    | list members =>
      -- how many members are tested, and in which states, is the same as long as the tests agree
      have hmember : ∀ v ∈ members, ∀ s', host.Reaches s s' →
          (inner.withFallback amount).satisfied host v s' = inner.satisfied host v s' :=
        fun v hv s' hs => satisfied_eq_of_evaluate (ih ((h.of_items hv).of_reaches hs))
      have hreaches : ∀ v s', host.Reaches s s' → host.Reaches s (inner.satisfied host v s').state :=
        fun v s' hs => hs.trans (Constraint.satisfied_apply .. ▸ reaches_evaluate host v s' inner)
      rw [Constraint.withFallback, evaluate_items_list, evaluate_items_list]
      refine Trial.bind_map_of_eq (q.over_congr hreaches hmember .start) ?_
      show Outcome.mk (((Constraint.items q inner).withFallback amount).check _ _) [] _ = _
      rw [← withFallback_check]
      rfl
    | _ => rfl
  | and a b iha ihb =>
    refine Trial.bind_map (iha h.and_left) ?_
    cases (a.evaluate host v s).result with
    | pass =>
      refine Trial.bind_map (ihb (h.and_right.of_reaches (reaches_evaluate host v s a))) ?_
      rw [← withFallback_along]
      rfl
    | fail f => rfl
  | or a b iha ihb =>
    refine Trial.bind_map (iha h.or_left) ?_
    cases (a.evaluate host v s).result with
    | pass => rfl
    | fail f =>
      refine Trial.bind_map (ihb (h.or_right.of_reaches (reaches_evaluate host v s a))) ?_
      rw [isPass_withFallback, ← Constraint.withFallback, ← withFallback_check]
      rfl
  | propertyIs name inner ih =>
    refine Trial.bind_map_of_eq rfl ?_
    cases hfound : (v.property? host name s).result with
    | some found =>
      exact within_eq_map (.propertyIs name inner)
        (ih (h.of_within (.propertyIs name inner) hfound (reaches_property? host v name s)))
    | none => rfl
  | attributeIs name inner ih =>
    refine Trial.bind_map_of_eq rfl ?_
    cases hfound : (v.attribute? host name s).result with
    | some found =>
      exact within_eq_map (.attributeIs name inner)
        (ih (h.of_within (.attributeIs name inner) hfound (reaches_attribute? host v name s)))
    | none => rfl
  | throwsMatching inner ih =>
    cases v with
    | code code =>
      refine Trial.bind_map_of_eq rfl ?_
      cases hrun : (host.raised code s).result with
      | some fault =>
        have hfound : derived? host s inner.throwsMatching (.code code) = some (.fault fault) :=
          congrArg (Option.map Value.fault) hrun
        exact within_eq_map (.throwsMatching inner)
          (ih (h.of_within (.throwsMatching inner) hfound (.run .start code)))
      | none => rfl
    | _ => rfl
  | _ => exact evaluate_eq_map_of_settles rfl rfl

/-- **A fallback where no double takes part** changes neither the verdict nor what is asked of the host. A
failure is at the same place for the same reason, and names the same nodes but for the fallback. -/
theorem evaluate_withFallback (amount : Binary64) (h : Doubleless host s c v) :
    let plain := c.evaluate host v s
    let tolerant := (c.withFallback amount).evaluate host v s
    tolerant.result.isPass = plain.result.isPass ∧
    (∀ f, plain.result = .fail f → ∃ g, tolerant.result = .fail g ∧ g.trail = f.trail ∧
      g.observed = f.observed ∧ g.blamed = f.blamed.withFallback amount ∧
      g.frames = f.frames.map (.withFallback amount)) ∧
    tolerant.calls = plain.calls ∧ tolerant.state = plain.state := by
  intro plain tolerant
  have heq : tolerant = plain.map (.withFallback amount) := evaluate_withFallback_eq h
  rw [heq]
  refine ⟨isPass_withFallback amount plain.result, fun f hf => ?_, rfl, rfl⟩
  exact ⟨f.withFallback amount, congrArg (Verdict.withFallback amount) hf, rfl, rfl, rfl, rfl⟩

end Tree

end Evaluate

/-- A property of an object, the fault of its code and the length of what this says: an integer, which the
fallback does not let pass. -/
theorem evaluate_withFallback_length :
    let host := Host.counting ⟨0⟩ ⟨1, ⟨2, "Refusal"⟩, ⟨3, "no entry"⟩⟩
    let length : Constraint := .propertyIs "length" (.equal (.int 5) none false)
    let c : Constraint := .propertyIs "enter" (.throwsMatching (.propertyIs "message" length))
    let v : Value := .object ⟨4, "Door", "<Door>", "Door"⟩
    let tolerant := (c.withFallback (.ofInt 3)).evaluate host v 0
    Doubleless host 0 c v ∧ ∃ g, tolerant.result = .fail g ∧
      g.trail = [.inner, .inner, .inner, .inner] := by
  intro host length c v tolerant
  have hbare : ∀ e ∈ [Value.int 5], e.doubles = [] := List.forall_mem_singleton.mpr rfl
  have h : Doubleless host 0 c v := by
    refine .within (.propertyIs ..) rfl (fun _ code _ hcode => ?_) hbare
    obtain rfl := Option.some.inj hcode
    refine .within (.throwsMatching _) rfl (fun _ fault _ hfault => ?_) hbare
    obtain rfl := Option.some.inj hfault
    refine .within (.propertyIs ..) rfl (fun _ message _ hmessage => ?_) hbare
    obtain rfl := Option.some.inj hmessage
    refine .within (.propertyIs ..) rfl (fun _ count _ hcount => ?_) hbare
    obtain rfl := Option.some.inj hcount
    exact .equal none false rfl rfl
  obtain ⟨-, hfail, -⟩ := evaluate_withFallback (.ofInt 3) h
  obtain ⟨g, hg, htrail, -⟩ := hfail _ rfl
  exact ⟨h, g, hg, htrail⟩

end Expectation
