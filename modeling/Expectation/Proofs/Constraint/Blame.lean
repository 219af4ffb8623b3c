import Expectation.Proofs.Host.Simulation

/-!
# The blamed constraint

A failure names a node of the tree, the contexts it was reached through and what it saw. Over a steady
host the value that the node was tested on can be had again by following these contexts.

* `Constraint.descend?`: the node at the end of a trail, and the contexts on the way;
* `derived?`, `follow?`: the value that contexts derive;
* `Observes`: what a node saw when it rejected a value;
* `Blames`: a failure that is right about a tree and a value, with `Blames.here` for a node that is to
  blame itself and `Blames.left`, `Blames.right`, `Blames.within` for the way up;
* `Blames.of_evaluate`: failures of evaluation over a host without states;
* **`blames_of_evaluate_eq_fail`**: failures of evaluation over a steady host.
-/

namespace Expectation

namespace Constraint

/-- The node at the end of a trail that passes through branches of `and` and through contexts, with the
contexts that it passes, the outermost first. -/
def descend? : Constraint → List Turn → Option (Constraint × List Constraint)
  | c, [] => some (c, [])
  | and a _, .left :: trail => a.descend? trail
  | and _ b, .right :: trail => b.descend? trail
  | propertyIs name c, .inner :: trail =>
    (c.descend? trail).map fun p => (p.1, propertyIs name c :: p.2)
  | attributeIs name c, .inner :: trail =>
    (c.descend? trail).map fun p => (p.1, attributeIs name c :: p.2)
  | throwsMatching c, .inner :: trail =>
    (c.descend? trail).map fun p => (p.1, throwsMatching c :: p.2)
  | _, _ => none

end Constraint

section Derived

variable {σ : Type} (host : Host σ) (s : σ)

/-- The value that a context derives from a value: a property, an attribute or the fault that code
raises. -/
def derived? : Constraint → Value → Option Value
  | .propertyIs name _, v => (v.property? host name s).result
  | .attributeIs name _, v => (v.attribute? host name s).result
  | .throwsMatching _, .code code => (host.run code s).1.map .fault
  | _, _ => none

/-- The value that contexts derive from a value one after the other, the outermost first. -/
def follow? : List Constraint → Value → Option Value
  | [], v => some v
  | frame :: frames, v => (derived? host s frame v).bind (follow? frames)

/-- The rejection of the value shows the value itself. -/
def seesValue : Constraint → Value → Bool
  | .isEmpty, .list _ => false
  | .throws, .code _ | .throwsNothing, .code _ | .throwsMatching _, .code _ => false
  | _, _ => true

/-- What a node saw when it rejected a value. -/
inductive Observes : Constraint → Value → Observed → Prop
  | value {c : Constraint} {v : Value} (h : seesValue c v = true) : Observes c v (.value v)
  | counted (members : List Value) (h : 1 ≤ members.length) :
      Observes .isEmpty (.list members) (.counted (.list members) members.length)
  | noFault {code : Code} (h : (host.run code s).1 = none) :
      Observes .throws (.code code) .noFault
  | noFaultMatching (inner : Constraint) {code : Code} (h : (host.run code s).1 = none) :
      Observes (.throwsMatching inner) (.code code) .noFault
  | raised {code : Code} {fault : Fault} (h : (host.run code s).1 = some fault) :
      Observes .throwsNothing (.code code) (.value (.fault fault))

/-- The failure is right about the tree and the value: its trail leads to the blamed node through the
contexts that are its frames, they derive the given value, and this the node rejects. -/
structure Blames (c : Constraint) (v : Value) (f : Failure) (w : Value) : Prop where
  descend : c.descend? f.trail = some (f.blamed, f.frames.reverse)
  ne_and : ∀ a b, f.blamed ≠ .and a b
  follow : follow? host s f.frames.reverse v = some w
  rejects : (f.blamed.evaluate host w s).result.isPass = false
  observes : Observes host s f.blamed w f.observed

end Derived

/-! ## Failures on their way up -/

namespace Blames

variable {σ : Type} {host : Host σ} {s : σ} {c inner : Constraint} {v w found : Value} {f : Failure}

theorem here {seen : Observed} (hand : ∀ a b, c ≠ .and a b)
    (hfail : (c.evaluate host v s).result = c.blame seen) (hseen : Observes host s c v seen) :
    Blames host s c v ⟨[], [], c, seen⟩ v where
  descend := by cases c <;> rfl
  ne_and := hand
  follow := rfl
  rejects := by
    rw [hfail]
    rfl
  observes := hseen

theorem left (right : Constraint) (h : Blames host s c v f w) :
    Blames host s (.and c right) v ⟨.left :: f.trail, f.frames, f.blamed, f.observed⟩ w :=
  ⟨h.descend, h.ne_and, h.follow, h.rejects, h.observes⟩

theorem right (left : Constraint) (h : Blames host s c v f w) :
    Blames host s (.and left c) v ⟨.right :: f.trail, f.frames, f.blamed, f.observed⟩ w :=
  ⟨h.descend, h.ne_and, h.follow, h.rejects, h.observes⟩

theorem within {frame : Constraint} (h : Blames host s inner found f w)
    (hframe : ∀ trail, frame.descend? (.inner :: trail) =
      (inner.descend? trail).map fun p => (p.1, frame :: p.2))
    (hfound : derived? host s frame v = some found) :
    Blames host s frame v ⟨.inner :: f.trail, f.frames ++ [frame], f.blamed, f.observed⟩ w where
  descend := by
    rw [hframe, h.descend, List.reverse_append]
    rfl
  ne_and := h.ne_and
  follow := by
    rw [List.reverse_append, List.reverse_singleton, List.singleton_append, follow?, hfound]
    exact h.follow
  rejects := h.rejects
  observes := h.observes

end Blames

/-! ## Verdicts on their way up -/

theorem Trial.result_bind {σ α β : Type} {t : Trial σ α} {s : σ} {a : α} (h : (t s).result = a)
    (g : α → Trial σ β) : ((t >>= g) s).result = (g a (t s).state).result := by
  rw [Trial.bind_apply, h]

section Verdict

variable {c frame : Constraint} {v : Value} {f : Failure} {verdict : Verdict}

theorem eq_of_check_eq_fail {accepted : Bool} (h : c.check accepted v = .fail f) :
    accepted = false ∧ f = ⟨[], [], c, .value v⟩ := by
  cases accepted with
  | true => exact Verdict.noConfusion h
  | false => exact ⟨rfl, (Verdict.fail.inj h).symm⟩

theorem Verdict.exists_of_along_eq_fail {turn : Turn} (h : verdict.along turn = .fail f) :
    ∃ g, verdict = .fail g ∧ f = ⟨turn :: g.trail, g.frames, g.blamed, g.observed⟩ := by
  cases verdict with
  | pass => exact Verdict.noConfusion h
  | fail g => exact ⟨g, rfl, (Verdict.fail.inj h).symm⟩

theorem Verdict.exists_of_within_eq_fail (h : verdict.within frame = .fail f) :
    ∃ g, verdict = .fail g ∧
      f = ⟨.inner :: g.trail, g.frames ++ [frame], g.blamed, g.observed⟩ := by
  cases verdict with
  | pass => exact Verdict.noConfusion h
  | fail g => exact ⟨g, rfl, (Verdict.fail.inj h).symm⟩

end Verdict

/-! ## Evaluation over hosts without states -/

namespace Blames

variable {host : Host Unit} {c inner : Constraint} {v found : Value} {f : Failure}

theorem of_check {accepted : Bool} (hand : ∀ a b, c ≠ .and a b) (hsees : seesValue c v = true)
    (hresult : (c.evaluate host v ()).result = c.check accepted v)
    (hfail : (c.evaluate host v ()).result = .fail f) : ∃ w, Blames host () c v f w := by
  obtain ⟨rfl, rfl⟩ := eq_of_check_eq_fail (hresult.symm.trans hfail)
  exact ⟨v, .here hand hfail (.value hsees)⟩

theorem of_blame {seen : Observed} (hand : ∀ a b, c ≠ .and a b)
    (hseen : Observes host () c v seen) (hresult : (c.evaluate host v ()).result = c.blame seen)
    (hfail : (c.evaluate host v ()).result = .fail f) : ∃ w, Blames host () c v f w := by
  obtain rfl := Verdict.fail.inj (hresult.symm.trans hfail)
  exact ⟨v, .here hand hfail hseen⟩

theorem of_within {frame : Constraint}
    (ih : ∀ {v f}, (inner.evaluate host v ()).result = .fail f → ∃ w, Blames host () inner v f w)
    (hframe : ∀ trail, frame.descend? (.inner :: trail) =
      (inner.descend? trail).map fun p => (p.1, frame :: p.2))
    (hfound : derived? host () frame v = some found)
    (hfail : ((inner.evaluate host found ()).result).within frame = .fail f) :
    ∃ w, Blames host () frame v f w := by
  obtain ⟨g, hg, rfl⟩ := Verdict.exists_of_within_eq_fail hfail
  obtain ⟨w, hw⟩ := ih hg
  exact ⟨w, hw.within hframe hfound⟩

theorem of_evaluate (hfail : (c.evaluate host v ()).result = .fail f) :
    ∃ w, Blames host () c v f w := by
  induction c generalizing v f with
  | isEmpty =>
    cases v with
    | text t => exact of_check nofun rfl rfl hfail
    | list members =>
      cases members with
      | nil => exact Verdict.noConfusion hfail
      | cons item rest => exact of_blame nofun (.counted _ (by simp)) rfl hfail
    | _ => exact of_blame nofun (.value rfl) rfl hfail
  | throws =>
    cases v with
    | code code =>
      cases hrun : (host.raised code ()).result with
      | some fault =>
        have hpass : (Constraint.throws.evaluate host (.code code) ()).result = .pass :=
          Trial.result_bind hrun _
        exact Verdict.noConfusion (hpass.symm.trans hfail)
      | none => exact of_blame nofun (.noFault hrun) (Trial.result_bind hrun _) hfail
    | _ => exact of_blame nofun (.value rfl) rfl hfail
  | throwsNothing =>
    cases v with
    | code code =>
      cases hrun : (host.raised code ()).result with
      | some fault => exact of_blame nofun (.raised hrun) (Trial.result_bind hrun _) hfail
      | none =>
        have hpass : (Constraint.throwsNothing.evaluate host (.code code) ()).result = .pass :=
          Trial.result_bind hrun _
        exact Verdict.noConfusion (hpass.symm.trans hfail)
    | _ => exact of_blame nofun (.value rfl) rfl hfail
  | not inner ih => exact of_check nofun rfl rfl hfail
  | items q inner ih =>
    cases v with
    | list members => cases q <;> exact of_check nofun rfl rfl hfail
    | _ => exact of_blame nofun (.value rfl) rfl hfail
  | and a b iha ihb =>
    cases ha : (a.evaluate host v ()).result with
    | pass =>
      have hb : ((b.evaluate host v ()).result).along .right = .fail f :=
        (Trial.result_bind ha _).symm.trans hfail
      obtain ⟨g, hg, rfl⟩ := Verdict.exists_of_along_eq_fail hb
      obtain ⟨w, hw⟩ := ihb hg
      exact ⟨w, hw.right a⟩
    | fail g =>
      have hleft : (Verdict.fail g).along .left = .fail f :=
        (Trial.result_bind ha _).symm.trans hfail
      obtain rfl := Verdict.fail.inj hleft
      obtain ⟨w, hw⟩ := iha ha
      exact ⟨w, hw.left b⟩
  | or a b iha ihb =>
    cases ha : (a.evaluate host v ()).result with
    | pass =>
      have hpass : ((a.or b).evaluate host v ()).result = .pass := Trial.result_bind ha _
      exact Verdict.noConfusion (hpass.symm.trans hfail)
    | fail g => exact of_check nofun rfl (Trial.result_bind ha _) hfail
  | propertyIs name inner ih =>
    cases hfound : (v.property? host name ()).result with
    | some found =>
      exact of_within ih (fun _ => rfl) hfound ((Trial.result_bind hfound _).symm.trans hfail)
    | none => exact of_blame nofun (.value rfl) (Trial.result_bind hfound _) hfail
  | attributeIs name inner ih =>
    cases hfound : (v.attribute? host name ()).result with
    | some found =>
      exact of_within ih (fun _ => rfl) hfound ((Trial.result_bind hfound _).symm.trans hfail)
    | none => exact of_blame nofun (.value rfl) (Trial.result_bind hfound _) hfail
  | throwsMatching inner ih =>
    cases v with
    | code code =>
      cases hrun : (host.raised code ()).result with
      | some fault =>
        have hfound : derived? host () inner.throwsMatching (.code code) = some (.fault fault) :=
          congrArg (Option.map Value.fault) hrun
        exact of_within ih (fun _ => rfl) hfound
          ((Trial.result_bind hrun _).symm.trans hfail)
      | none =>
        exact of_blame nofun (.noFaultMatching inner hrun) (Trial.result_bind hrun _) hfail
    | _ => exact of_blame nofun (.value rfl) rfl hfail
  | _ => exact of_check nofun rfl rfl hfail

end Blames

/-! ## Evaluation over steady hosts -/

section Steady

variable {σ : Type} {host : Host σ} {s : σ} {c : Constraint} {v w : Value} {f : Failure}

theorem derived?_frozen (frame : Constraint) (v : Value) :
    derived? (host.frozen s) () frame v = derived? host s frame v := by
  cases frame with
  | propertyIs | attributeIs | throwsMatching => cases v <;> rfl
  | _ => rfl

theorem follow?_frozen (frames : List Constraint) (v : Value) :
    follow? (host.frozen s) () frames v = follow? host s frames v := by
  induction frames generalizing v with
  | nil => rfl
  | cons frame frames ih =>
    rw [follow?, follow?, derived?_frozen]
    exact congrArg _ (funext ih)

theorem Observes.of_frozen {seen : Observed} (h : Observes (host.frozen s) () c v seen) :
    Observes host s c v seen := by
  cases h with
  | value h => exact .value h
  | counted members h => exact .counted members h
  | noFault h => exact .noFault h
  | noFaultMatching inner h => exact .noFaultMatching inner h
  | raised h => exact .raised h

theorem Blames.of_frozen (hsteady : host.Steady s) (h : Blames (host.frozen s) () c v f w) :
    Blames host s c v f w where
  descend := h.descend
  ne_and := h.ne_and
  follow := by
    rw [← follow?_frozen]
    exact h.follow
  rejects := by
    rw [hsteady.result_evaluate .start]
    exact h.rejects
  observes := h.observes.of_frozen

/-- **Blame is right**: over a steady host, a failure of evaluation leads to a node that is no
conjunction, and in every state that questions lead to its frames derive from the tested value one
value, which the node rejects for what the failure shows. -/
theorem blames_of_evaluate_eq_fail (hsteady : host.Steady s)
    (hfail : (c.evaluate host v s).result = .fail f) :
    ∃ w, ∀ s', host.Reaches s s' → Blames host s' c v f w := by
  rw [hsteady.result_evaluate .start] at hfail
  obtain ⟨w, hw⟩ := Blames.of_evaluate hfail
  refine ⟨w, fun s' hs => ?_⟩
  rw [← hsteady.frozen_eq hs] at hw
  exact hw.of_frozen (hsteady.of_reaches hs)

end Steady

/-- A host that counts the questions: each object has the code as each of its properties, and the
code raises the fault. -/
def Host.counting (code : Code) (fault : Fault) : Host Nat where
  propertyOf _ _ n := (some (.code code), n + 1)
  attributeOf _ _ n := (none, n + 1)
  instanceOf _ _ n := (false, n + 1)
  assignableFrom _ _ n := (false, n + 1)
  run _ n := (some fault, n + 1)

theorem Host.steady_counting (code : Code) (fault : Fault) (n : Nat) :
    (Host.counting code fault).Steady n :=
  ⟨fun _ _ _ _ => rfl, fun _ _ _ _ => rfl, fun _ _ _ _ => rfl, fun _ _ _ _ => rfl, fun _ _ _ => rfl⟩

/-- Behind the right branch of a conjunction, a property and the fault of its code. -/
theorem blames_right_within_within :
    let host := Host.counting ⟨0⟩ ⟨1, ⟨2, "Refusal"⟩, ⟨3, "no entry"⟩⟩
    let raises : Constraint := .throwsMatching (.or .isNull .isTrue)
    let c : Constraint := .and (.not .isNull) (.propertyIs "enter" raises)
    let v : Value := .object ⟨4, "Door", "<Door>", "Door"⟩
    let f : Failure := ⟨[.right, .inner, .inner], [raises, .propertyIs "enter" raises],
      .or .isNull .isTrue, .value (.fault ⟨1, ⟨2, "Refusal"⟩, ⟨3, "no entry"⟩⟩)⟩
    host.Steady 0 ∧ (c.evaluate host v 0).result = .fail f ∧
      ∃ w, ∀ n, host.Reaches 0 n → Blames host n c v f w := by
  intro host raises c v f
  have hsteady : host.Steady 0 := Host.steady_counting ..
  have hfail : (c.evaluate host v 0).result = .fail f := rfl
  exact ⟨hsteady, hfail, blames_of_evaluate_eq_fail hsteady hfail⟩

end Expectation
