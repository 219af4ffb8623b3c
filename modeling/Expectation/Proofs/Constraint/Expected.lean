import Expectation.Constraint.Report
import Expectation.Proofs.Constraint.Blame

/-!
# The expected side of a report

What a report says was expected is the description of a part of the tree: the contexts that evaluation
went through, around the node to blame. Of a conjunction that it went through nothing shows but the branch
that failed.

* `withInner`, `inContexts`: contexts around a constraint, with `describe_inContexts`;
* `residual`: the part of the tree that rejects the value;
* `handsOn`, `settles_evaluate`: the nodes that hand on a verdict from below, and all others;
* `Arises`, `arises_of_evaluate`: how failures come about;
* `Traces`, `traces_of_evaluate`: a failure tells the way to the node to blame, and this part;
* **`expectedText_of_evaluate_eq_fail`**: its report describes it.
-/

namespace Expectation

/-! ## Contexts -/

namespace Constraint

/-- The context with another inner constraint. -/
def withInner : Constraint → Constraint → Constraint
  | propertyIs name _, inner => propertyIs name inner
  | attributeIs name _, inner => attributeIs name inner
  | throwsMatching _, inner => throwsMatching inner
  | _, inner => inner

/-- Contexts around a constraint, the outermost first. -/
def inContexts (frames : List Constraint) (c : Constraint) : Constraint := frames.foldr withInner c

theorem describe_withInner (limits : RenderLimits) (frame inner : Constraint) :
    (frame.withInner inner).describe limits = frame.contextPhrase ++ inner.describe limits := by
  cases frame with
  | propertyIs | attributeIs | throwsMatching => rfl
  | _ => exact (String.empty_append).symm

theorem describe_inContexts (limits : RenderLimits) (frames : List Constraint) (c : Constraint) :
    (inContexts frames c).describe limits =
      String.join (frames.map contextPhrase) ++ c.describe limits := by
  induction frames with
  | nil => exact (String.empty_append).symm
  | cons frame frames ih =>
    calc ((frame.withInner (inContexts frames c)).describe limits)
        = frame.contextPhrase ++ (String.join (frames.map contextPhrase) ++ c.describe limits) := by
          rw [describe_withInner, ih]
      _ = String.join ((frame :: frames).map contextPhrase) ++ c.describe limits := by
          rw [List.map_cons, String.join_cons, String.append_assoc]

/-- The first constraint is a context of the second one. -/
inductive Encloses : Constraint → Constraint → Prop
  | propertyIs (name : String) (inner : Constraint) : Encloses (propertyIs name inner) inner
  | attributeIs (name : String) (inner : Constraint) : Encloses (attributeIs name inner) inner
  | throwsMatching (inner : Constraint) : Encloses (throwsMatching inner) inner

section Descend

variable {c d inner frame : Constraint} {turn : Turn} {trail : List Turn} {frames : List Constraint}

theorem Encloses.withInner_eq (h : Encloses frame inner) : frame.withInner inner = frame := by
  cases h <;> rfl

theorem Encloses.descend?_inner (h : Encloses frame inner) (trail : List Turn) :
    frame.descend? (.inner :: trail) = (inner.descend? trail).map fun p => (p.1, frame :: p.2) := by
  cases h <;> rfl

theorem descend?_cons_cases (h : c.descend? (turn :: trail) = some (d, frames)) :
    (∃ a b, c = and a b) ∨ ∃ inner passed, Encloses c inner ∧ turn = .inner ∧
      inner.descend? trail = some (d, passed) ∧ frames = c :: passed := by
  have hcontext {frame inner : Constraint} {trail' : List Turn} (henc : Encloses frame inner)
      (hturn : turn :: trail = .inner :: trail')
      (hmap : (inner.descend? trail').map (fun p => (p.1, frame :: p.2)) = some (d, frames)) :
      ∃ inner passed, Encloses frame inner ∧ turn = .inner ∧
        inner.descend? trail = some (d, passed) ∧ frames = frame :: passed := by
    obtain ⟨rfl, rfl⟩ := List.cons.inj hturn
    obtain ⟨⟨e, passed⟩, hinner, heq⟩ := Option.map_eq_some_iff.mp hmap
    obtain ⟨rfl, rfl⟩ := Prod.mk.inj heq
    exact ⟨inner, passed, henc, rfl, hinner, rfl⟩
  unfold descend? at h
  split at h
  case h_1 heq => cases heq
  case h_2 | h_3 => exact .inl ⟨_, _, rfl⟩
  case h_4 heq => exact .inr (hcontext (.propertyIs _ _) heq h)
  case h_5 heq => exact .inr (hcontext (.attributeIs _ _) heq h)
  case h_6 heq => exact .inr (hcontext (.throwsMatching _) heq h)
  case h_7 => cases h

theorem inContexts_of_descend? (hdescend : c.descend? trail = some (d, frames))
    (hand : ∀ way, way <+: trail → ∀ a b passed, c.descend? way ≠ some (and a b, passed)) :
    inContexts frames d = c := by
  induction trail generalizing c frames with
  | nil =>
    have heq : (c, []) = (d, frames) := by cases c <;> exact Option.some.inj hdescend
    obtain ⟨rfl, rfl⟩ := Prod.mk.inj heq
    rfl
  | cons turn trail ih =>
    rcases descend?_cons_cases hdescend with ⟨a, b, rfl⟩ | ⟨inner, passed, henc, rfl, hinner, rfl⟩
    · exact absurd rfl (hand [] List.nil_prefix a b [])
    · have hrest : inContexts passed d = inner := by
        refine ih hinner fun way hway a b frames hway' => ?_
        refine hand (.inner :: way) (List.cons_prefix_cons.mpr ⟨rfl, hway⟩) a b (c :: frames) ?_
        rw [henc.descend?_inner, hway']
        rfl
      calc c.withInner (inContexts passed d) = c.withInner inner := by rw [hrest]
        _ = c := henc.withInner_eq

end Descend

end Constraint

theorem Failure.expectedText_eq_describe (limits : RenderLimits) (f : Failure) :
    f.expectedText limits = (f.blamed.inContexts f.frames.reverse).describe limits :=
  (Constraint.describe_inContexts limits f.frames.reverse f.blamed).symm

/-! ## The rejecting part -/

section Residual

variable {σ : Type} (host : Host σ)

namespace Constraint

/-- The part of the tree that rejects the value: in place of a conjunction its failing branch, the right
one if the left one passes, inside the contexts that derive a value to go on with. Other nodes, and
contexts that derive none, stay as they are. -/
def residual (c : Constraint) (v : Value) (s : σ) : Constraint :=
  match c with
  | and left right =>
    let first := left.evaluate host v s
    if first.result.isPass then right.residual v first.state else left.residual v s
  | propertyIs name inner =>
    let looked := v.property? host name s
    match looked.result with
    | some found => propertyIs name (inner.residual found looked.state)
    | none => propertyIs name inner
  | attributeIs name inner =>
    let looked := v.attribute? host name s
    match looked.result with
    | some found => attributeIs name (inner.residual found looked.state)
    | none => attributeIs name inner
  | throwsMatching inner =>
    match v with
    | .code code =>
      let ran := host.raised code s
      match ran.result with
      | some fault => throwsMatching (inner.residual (.fault fault) ran.state)
      | none => throwsMatching inner
    | _ => throwsMatching inner
  | c => c

/-- The node can hand on the verdict of a node below. -/
def handsOn : Constraint → Bool
  | and _ _ | propertyIs _ _ | attributeIs _ _ | throwsMatching _ => true
  | _ => false

end Constraint

variable {host} {c frame inner : Constraint} {v found : Value} {s s' : σ} {f : Failure}
  {verdict : Verdict}

/-- The verdict blames the node if it is no pass. -/
def Verdict.Settles (c : Constraint) (verdict : Verdict) : Prop :=
  ∀ f, verdict = .fail f → ∃ seen, f = ⟨[], [], c, seen⟩

theorem Verdict.Settles.of_pass (h : verdict = .pass) : verdict.Settles c :=
  fun _ hfail => Verdict.noConfusion (h.symm.trans hfail)

theorem Verdict.Settles.of_blame {seen : Observed} (h : verdict = c.blame seen) : verdict.Settles c :=
  fun _ hfail => ⟨seen, (Verdict.fail.inj (h.symm.trans hfail)).symm⟩

theorem Verdict.Settles.of_check {accepted : Bool} (h : verdict = c.check accepted v) :
    verdict.Settles c :=
  fun _ hfail => ⟨_, (eq_of_check_eq_fail (h.symm.trans hfail)).2⟩

theorem settles_evaluate (hc : c.handsOn = false) : (c.evaluate host v s).result.Settles c := by
  cases c with
  | isEmpty =>
    cases v with
    | text t => exact .of_check rfl
    | list members =>
      cases members with
      | nil => exact .of_pass rfl
      | cons item rest => exact .of_blame rfl
    | _ => exact .of_blame rfl
  | throws =>
    cases v with
    | code code =>
      cases hrun : (host.raised code s).result with
      | some fault => exact .of_pass (Trial.result_bind hrun _)
      | none => exact .of_blame (Trial.result_bind hrun _)
    | _ => exact .of_blame rfl
  | throwsNothing =>
    cases v with
    | code code =>
      cases hrun : (host.raised code s).result with
      | some fault => exact .of_blame (Trial.result_bind hrun _)
      | none => exact .of_pass (Trial.result_bind hrun _)
    | _ => exact .of_blame rfl
  | items q inner =>
    cases v with
    | list members => cases q <;> exact .of_check rfl
    | _ => exact .of_blame rfl
  | or a b =>
    cases ha : (a.evaluate host v s).result with
    | pass => exact .of_pass (Trial.result_bind ha _)
    | fail f => exact .of_check (Trial.result_bind ha _)
  | and | propertyIs | attributeIs | throwsMatching => exact Bool.noConfusion hc
  | _ => exact .of_check rfl

/-! ## The way to the blamed node -/

open Constraint

/-- How a failure comes about: a node blames itself, or hands on the failure of a branch or of the
constraint inside it. -/
inductive Arises (host : Host σ) : Constraint → Value → σ → Failure → Prop
  | here {c : Constraint} {v : Value} {s : σ} {seen : Observed}
      (hblame : (c.evaluate host v s).result = c.blame seen) (hresidual : c.residual host v s = c) :
      Arises host c v s ⟨[], [], c, seen⟩
  | left {a b : Constraint} {v : Value} {s : σ} {g : Failure}
      (hleft : (a.evaluate host v s).result.isPass = false) (h : Arises host a v s g) :
      Arises host (and a b) v s ⟨.left :: g.trail, g.frames, g.blamed, g.observed⟩
  /-- The right branch is tested in the state that the left one leaves. -/
  | right {a b : Constraint} {v : Value} {s : σ} {g : Failure}
      (hleft : (a.evaluate host v s).result.isPass = true)
      (h : Arises host b v (a.evaluate host v s).state g) :
      Arises host (and a b) v s ⟨.right :: g.trail, g.frames, g.blamed, g.observed⟩
  | within {frame inner : Constraint} {v found : Value} {s s' : σ} {g : Failure}
      (henc : Encloses frame inner)
      (hresidual : frame.residual host v s = frame.withInner (inner.residual host found s'))
      (h : Arises host inner found s' g) :
      Arises host frame v s ⟨.inner :: g.trail, g.frames ++ [frame], g.blamed, g.observed⟩

theorem Arises.of_settles (hsettles : (c.evaluate host v s).result.Settles c)
    (hresidual : c.residual host v s = c) (hfail : (c.evaluate host v s).result = .fail f) :
    Arises host c v s f := by
  obtain ⟨seen, rfl⟩ := hsettles f hfail
  exact .here hfail hresidual

theorem Arises.of_within (henc : Encloses frame inner)
    (ih : ∀ {v s f}, (inner.evaluate host v s).result = .fail f → Arises host inner v s f)
    (hresidual : frame.residual host v s = frame.withInner (inner.residual host found s'))
    (hfail : (inner.evaluate host found s').result.within frame = .fail f) :
    Arises host frame v s f := by
  obtain ⟨g, hg, rfl⟩ := Verdict.exists_of_within_eq_fail hfail
  exact .within henc hresidual (ih hg)

/-- **Failures come about** in these ways only, from whatever state and over whatever host. -/
theorem arises_of_evaluate (hfail : (c.evaluate host v s).result = .fail f) : Arises host c v s f := by
  induction c generalizing v s f with
  | and a b iha ihb =>
    cases ha : (a.evaluate host v s).result with
    | pass =>
      obtain ⟨g, hg, rfl⟩ :=
        Verdict.exists_of_along_eq_fail ((Trial.result_bind ha _).symm.trans hfail)
      exact .right (congrArg Verdict.isPass ha) (ihb hg)
    | fail g =>
      have hleft : (Verdict.fail g).along .left = .fail f := (Trial.result_bind ha _).symm.trans hfail
      obtain rfl := Verdict.fail.inj hleft
      exact .left (congrArg Verdict.isPass ha) (iha ha)
  | propertyIs name inner ih =>
    cases hfound : (v.property? host name s).result with
    | some found =>
      exact .of_within (.propertyIs name inner) ih
        (by simp only [Constraint.residual, hfound, withInner])
        ((Trial.result_bind hfound _).symm.trans hfail)
    | none =>
      exact .of_settles (.of_blame (Trial.result_bind hfound _))
        (by simp only [Constraint.residual, hfound]) hfail
  | attributeIs name inner ih =>
    cases hfound : (v.attribute? host name s).result with
    | some found =>
      exact .of_within (.attributeIs name inner) ih
        (by simp only [Constraint.residual, hfound, withInner])
        ((Trial.result_bind hfound _).symm.trans hfail)
    | none =>
      exact .of_settles (.of_blame (Trial.result_bind hfound _))
        (by simp only [Constraint.residual, hfound]) hfail
  | throwsMatching inner ih =>
    cases v with
    | code code =>
      cases hrun : (host.raised code s).result with
      | some fault =>
        exact .of_within (.throwsMatching inner) ih
          (by simp only [Constraint.residual, hrun, withInner])
          ((Trial.result_bind hrun _).symm.trans hfail)
      | none =>
        exact .of_settles (.of_blame (Trial.result_bind hrun _))
          (by simp only [Constraint.residual, hrun]) hfail
    | _ => exact .of_settles (.of_blame rfl) rfl hfail
  | _ => exact .of_settles (settles_evaluate rfl) rfl hfail

/-- The failure tells the way through the tree, which ends at the blamed node, and what the evaluation
left of the tree are the contexts on this way around that node. -/
structure Traces (host : Host σ) (c : Constraint) (v : Value) (s : σ) (f : Failure) : Prop where
  descend : c.descend? f.trail = some (f.blamed, f.frames.reverse)
  residual : c.residual host v s = f.blamed.inContexts f.frames.reverse

/-- **A failure tells its way**, from whatever state and over whatever host. -/
theorem traces_of_evaluate (hfail : (c.evaluate host v s).result = .fail f) : Traces host c v s f := by
  have harises := arises_of_evaluate hfail
  clear hfail
  induction harises with
  | @here c v s seen hblame hresidual => exact ⟨by cases c <;> rfl, hresidual⟩
  | left hleft _ ih =>
    exact ⟨ih.descend, by rw [Constraint.residual, hleft, if_neg Bool.false_ne_true, ih.residual]⟩
  | right hleft _ ih =>
    exact ⟨ih.descend, by rw [Constraint.residual, hleft, if_pos rfl, ih.residual]⟩
  | within henc hresidual _ ih =>
    refine ⟨?_, ?_⟩
    · rw [henc.descend?_inner, ih.descend, List.reverse_append]
      rfl
    · rw [hresidual, ih.residual, List.reverse_append]
      rfl

/-- **The expected side of a report** is the description of what evaluation left of the tree: the contexts
on the way to the blamed node, around that node, with the failing branch in place of each conjunction. If
there was no conjunction on the way it is the description of the whole tree. -/
theorem expectedText_of_evaluate_eq_fail (limits : RenderLimits)
    (hfail : (c.evaluate host v s).result = .fail f) :
    f.expectedText limits = (c.residual host v s).describe limits ∧
    c.descend? f.trail = some (f.blamed, f.frames.reverse) ∧
    c.residual host v s = f.blamed.inContexts f.frames.reverse ∧
    ((∀ way, way <+: f.trail → ∀ a b passed, c.descend? way ≠ some (.and a b, passed)) →
      f.expectedText limits = c.describe limits) := by
  have h := traces_of_evaluate hfail
  refine ⟨by rw [h.residual, f.expectedText_eq_describe], h.descend, h.residual, fun hand => ?_⟩
  rw [f.expectedText_eq_describe, inContexts_of_descend? h.descend hand]

end Residual

/-- Conjunctions before, between and below two contexts, and the same contexts without them. -/
theorem expectedText_between_contexts :
    let fault : Fault := ⟨1, ⟨2, "Refusal"⟩, ⟨3, "no entry"⟩⟩
    let host := Host.counting ⟨0⟩ fault
    let v : Value := .object ⟨4, "Door", "<Door>", "Door"⟩
    let blamed : Constraint := .or .isNull .isTrue
    let raises : Constraint := .throwsMatching (.and (.not .isNull) blamed)
    let enter : Constraint := .propertyIs "enter" (.and (.not .isTrue) raises)
    let c : Constraint := .and (.not .isNull) enter
    let plain : Constraint := .propertyIs "enter" (.throwsMatching blamed)
    let f : Failure := ⟨[.right, .inner, .right, .inner, .right], [raises, enter], blamed,
      .value (.fault fault)⟩
    let g : Failure := ⟨[.inner, .inner], [.throwsMatching blamed, plain], blamed,
      .value (.fault fault)⟩
    plain.describe .default = "property enter fault null or true" ∧
    ((c.evaluate host v 0).result = .fail f ∧ c.residual host v 0 = plain ∧
      f.expectedText .default = plain.describe .default) ∧
    ((plain.evaluate host v 0).result = .fail g ∧
      g.expectedText .default = plain.describe .default) := by
  intro fault host v blamed raises enter c plain f g
  have hf : (c.evaluate host v 0).result = .fail f := rfl
  have hg : (plain.evaluate host v 0).result = .fail g := rfl
  obtain ⟨htext, -, hresidual, -⟩ := expectedText_of_evaluate_eq_fail .default hf
  obtain ⟨-, -, -, hwhole⟩ := expectedText_of_evaluate_eq_fail .default hg
  refine ⟨rfl, ⟨hf, hresidual, htext⟩, hg, hwhole fun way hway a b passed h => ?_⟩
  rcases List.prefix_cons_iff.mp hway with rfl | ⟨rest, rfl, hrest⟩
  · exact Constraint.noConfusion (Prod.mk.inj (Option.some.inj h)).1
  rcases List.prefix_cons_iff.mp hrest with rfl | ⟨last, rfl, hlast⟩
  · cases h
  obtain rfl := List.prefix_nil.mp hlast
  cases h

end Expectation
