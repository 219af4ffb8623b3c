import Expectation.Proofs.Assertion.Verdict
import Expectation.Proofs.Constraint.Fallback

/-!
# The default tolerance in failure texts

The default tolerance is described with every equality that it gets into, whether or not doubles are
compared there. So where no double takes part an assertion ends as it does without the default tolerance,
but the text of a rejection may be longer.

* `length_describe_withFallback`: a description with the fallback is longer by one tolerance for each
  equality without one;
* `Failure.report_withFallback_eq_iff`: a text stays the same if the blamed node has no such equality;
* **`assertThat_defaultTolerance`**: assertions with and without the default tolerance.
-/

namespace Expectation

/-! ## Descriptions -/

namespace Constraint

variable (amount : Binary64) (limits : RenderLimits) (c : Constraint)

theorem contextPhrase_withFallback : (c.withFallback amount).contextPhrase = c.contextPhrase := by
  cases c <;> rfl

/-- **A description with the fallback** is longer by one tolerance for each bare equality. -/
theorem length_describe_withFallback :
    ((c.withFallback amount).describe limits).length =
      (c.describe limits).length +
        c.bare.length * (Tolerance.mk amount .fallback).describe.length := by
  induction c with
  | equal e t i =>
    cases t with
    | none =>
      have hone : (equal e none i).bare.length = 1 := rfl
      simp only [withFallback, Option.getD_none, describe, String.length_append, hone,
        String.length_empty]
      omega
    | some t => simp [withFallback, bare, leaves, bareExpected?]
  | and a b iha ihb =>
    simp only [withFallback, describe, String.length_append, iha, ihb, bare_and, List.length_append,
      Nat.add_mul]
    omega
  | or a b iha ihb =>
    simp only [withFallback, describe, String.length_append, iha, ihb, bare_or, List.length_append,
      Nat.add_mul]
    omega
  | not c ih =>
    simp only [withFallback, describe, String.length_append, ih, Nat.add_assoc]
    rfl
  | items q c ih =>
    simp only [withFallback, describe, String.length_append, ih, Nat.add_assoc]
    rfl
  | propertyIs s c ih | attributeIs s c ih | throwsMatching c ih =>
    simp only [withFallback, describe, contextPhrase, String.length_append, ih, Nat.add_assoc]
    rfl
  | _ => simp [withFallback, bare, leaves, bareExpected?]

end Constraint

theorem Tolerance.length_describe_pos (amount : Binary64) :
    0 < (Tolerance.mk amount .fallback).describe.length := by
  have heq : (Tolerance.mk amount .fallback).describe = " +/- " ++ amount.text .precise := rfl
  rw [heq, String.length_append]
  exact Nat.add_pos_left (by decide) _

/-! ## Failure texts -/

namespace Failure

variable (amount : Binary64) (limits : RenderLimits) (text : String) (f : Failure)

theorem expectedText_withFallback :
    (f.withFallback amount).expectedText limits =
      String.join (f.frames.reverse.map Constraint.contextPhrase) ++
        (f.blamed.withFallback amount).describe limits := by
  have hphrases : (f.withFallback amount).frames.reverse.map Constraint.contextPhrase =
      f.frames.reverse.map Constraint.contextPhrase := by
    rw [withFallback, ← List.map_reverse, List.map_map]
    exact List.map_congr_left fun c _ => c.contextPhrase_withFallback amount
  rw [expectedText, hphrases]
  rfl

/-- **The text of a failure with the fallback** is longer by one tolerance for each bare equality in the
blamed node. -/
theorem length_report_withFallback :
    ((f.withFallback amount).report limits text).length =
      (f.report limits text).length +
        f.blamed.bare.length * (Tolerance.mk amount .fallback).describe.length := by
  have hseen : (f.withFallback amount).seenText limits = f.seenText limits := rfl
  simp only [report, lines, expectedText_withFallback, hseen, String.length_append,
    Constraint.length_describe_withFallback]
  simp only [expectedText, String.length_append]
  omega

theorem report_withFallback_eq_iff :
    (f.withFallback amount).report limits text = f.report limits text ↔ f.blamed.bare = [] := by
  constructor
  · intro h
    have hlength := length_report_withFallback amount limits text f
    rw [h, left_eq_add, Nat.mul_eq_zero] at hlength
    have hpos := Tolerance.length_describe_pos amount
    exact List.eq_nil_of_length_eq_zero (hlength.resolve_right (by omega))
  · intro h
    rw [report, lines, expectedText_withFallback, ← Constraint.withDefault_fallback,
      Constraint.withDefault_of_bare_eq_nil h]
    rfl

end Failure

/-! ## Assertions -/

section Assertion

variable {σ : Type} {host : Host σ} {actual : Actual σ} {goal : Goal} {message : Message} {c : Constraint}
  {counter : Counter} {s : σ} {limits : RenderLimits} {amount : Binary64}

theorem conclude_withFallback_eq_iff (count : UInt64) (verdict : Verdict) :
    (conclude ⟨limits, some amount⟩ message count (c.withFallback amount)
        (verdict.withFallback amount)).1 = (conclude ⟨limits, none⟩ message count c verdict).1 ↔
      ∀ f text, verdict = .fail f → message.render = .ok text → f.blamed.bare = [] := by
  cases verdict with
  | pass => exact iff_of_true rfl nofun
  | fail f =>
    cases hrender : message.render with
    | error e =>
      refine iff_of_true ?_ nofun
      rw [Verdict.withFallback, conclude, conclude, hrender]
    | ok text =>
      rw [Verdict.withFallback, conclude_fail hrender, conclude_fail hrender, Except.error.injEq,
        AssertError.failed.injEq, Failure.report_withFallback_eq_iff]
      constructor
      · rintro h _ _ ⟨⟩ ⟨⟩
        exact h
      · exact fun h => h f text rfl rfl

/-- **The default tolerance where no double takes part** changes neither what an assertion asks of the
host nor whether it passes. It ends as without the default tolerance, unless a rejection with a text blames
a node that has a bare equality: then the default tolerance stands in the text, in the description of that
node. -/
theorem assertThat_defaultTolerance (actual : Actual σ) (counter : Counter) (s : σ)
    (limits : RenderLimits) (amount : Binary64) (message : Message) (hgoal : goal.resolve = .ok c)
    (h : Doubleless host (actual.compute counter.increment s).state c
      (actual.compute counter.increment s).result) :
    let computed := actual.compute counter.increment s
    let verdict := (c.evaluate host computed.result computed.state).result
    let plain := assertThat host ⟨limits, none⟩ actual goal message counter s
    let tolerant := assertThat host ⟨limits, some amount⟩ actual goal message counter s
    (tolerant.counter = plain.counter ∧ tolerant.state = plain.state ∧ tolerant.calls = plain.calls) ∧
    (tolerant.result = .ok () ↔ plain.result = .ok ()) ∧
    (tolerant.result = plain.result ↔
      ∀ f text, verdict = .fail f → message.render = .ok text → f.blamed.bare = []) ∧
    ∀ f text, verdict = .fail f → message.render = .ok text →
      plain.result = .error (.failed (f.report limits text)) ∧
      tolerant.result = .error (.failed ((f.withFallback amount).report limits text)) := by
  intro computed verdict plain tolerant
  have hevaluate : (c.withFallback amount).evaluate host computed.result computed.state =
      (c.evaluate host computed.result computed.state).map (.withFallback amount) :=
    evaluate_withFallback_eq h
  obtain ⟨hresult, hcounter, hstate, hcalls⟩ : plain.result =
      (conclude ⟨limits, none⟩ message counter.increment.count c verdict).1 ∧ _ :=
    assertThat_of_resolve _ hgoal
  obtain ⟨hresult', hcounter', hstate', hcalls'⟩ : tolerant.result = _ ∧ _ :=
    assertThat_of_resolve _ hgoal
  rw [Settings.prepare, hevaluate] at hresult' hstate' hcalls'
  change tolerant.result = (conclude ⟨limits, some amount⟩ message counter.increment.count
    (c.withFallback amount) (verdict.withFallback amount)).1 at hresult'
  refine ⟨⟨hcounter'.trans hcounter.symm, hstate'.trans hstate.symm, hcalls'.trans hcalls.symm⟩,
    ?_, ?_, ?_⟩
  · rw [hresult, hresult', conclude_eq_ok_iff, conclude_eq_ok_iff, isPass_withFallback]
  · rw [hresult, hresult']
    exact conclude_withFallback_eq_iff _ verdict
  · intro f text hfail hrender
    rw [hresult, hresult', hfail]
    exact ⟨conclude_fail hrender, conclude_fail hrender⟩

/-- A length that is not the expected one, in an assertion with a message. -/
theorem assertThat_defaultTolerance_length :
    let goal : Goal := .chain (.ofWords [.property "length", .equalTo (.int 5)])
    let c : Constraint := .propertyIs "length" (.equal (.int 5) none false)
    let v : Value := .text ⟨1, "entrance"⟩
    let message := Message.ofText "short"
    (goal.resolve = .ok c ∧ Doubleless Host.silent () c v) ∧
    (assertThat Host.silent ⟨.default, none⟩ (.value v) goal message .zero ()).result =
      .error (.failed "  short\n  Expected: property length 5\n  But was:  8\n") ∧
    (assertThat Host.silent ⟨.default, some (.ofInt 3)⟩ (.value v) goal message .zero ()).result =
      .error (.failed "  short\n  Expected: property length 5 +/- 3.0\n  But was:  8\n") := by
  intro goal c v message
  have hgoal : goal.resolve = .ok c := rfl
  have h : Doubleless Host.silent () c v := by
    refine .within (.propertyIs ..) rfl (fun _ count _ hcount => ?_) (List.forall_mem_singleton.mpr rfl)
    obtain rfl := Option.some.inj hcount
    exact .equal none false rfl rfl
  obtain ⟨-, -, -, hreports⟩ := assertThat_defaultTolerance (.value v) .zero () .default (.ofInt 3)
    message hgoal h
  obtain ⟨hplain, htolerant⟩ := hreports _ _ rfl rfl
  refine ⟨⟨hgoal, h⟩, hplain.trans (by decide +kernel), htolerant.trans (by decide +kernel)⟩

/-- An integer that is not the expected one, under a default tolerance and without it: no double takes
part, but the texts differ. -/
theorem defaultTolerance_described_without_doubles :
    let c : Constraint := .equal (.int 5) none false
    let v : Value := .int 6
    let run := fun tolerance => (assertThat Host.silent ⟨.default, tolerance⟩ (.value v) (.constraint c)
      .none .zero ()).result
    Doubleless Host.silent () c v ∧
    ((Binary64.ofInt 2).isFinite = true ∧ Binary64.le (.zero false) (.ofInt 2) = true) ∧
    run none = .error (.failed "  Expected: 5\n  But was:  6\n") ∧
    run (some (.ofInt 2)) = .error (.failed "  Expected: 5 +/- 2.0\n  But was:  6\n") := by
  refine ⟨.equal none false rfl rfl, ?_⟩
  decide +kernel

end Assertion

end Expectation
