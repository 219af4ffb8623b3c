import Expectation.Proofs.Assertion.Verdict
import Expectation.Proofs.Constraint.Expected
import Expectation.Value.Run

/-!
# The fault that was judged

`Classic.throws` judges code over a host that keeps what the code raised, and hands out what was kept. The
code is run once, so that this is the fault that was judged, even where another run would raise another one.

* `Host.running`: a host by the runs of its code;
* `Constraint.verdictOnKind`, `evaluate_throwsMatching_instanceOf`: the verdict on what a run raised;
* `Classic.judged`, `throws_eq`: the fault handed out, or the rejection;
* **`throws_judged_fault`**: the end of a judged run.
-/

namespace Expectation

variable {σ : Type}

/-- The host whose code runs as given. -/
def Host.running (host : Host σ) (runs : Code → σ → Run σ) : Host σ :=
  { host with run := fun code s => (runs code s).answer }

theorem Run.fault?_eq_some_iff {run : Run σ} {f : Fault} :
    run.fault? = some f ↔
      run.ending = .returned f ∨
        ∃ payload, run.ending = .panicked payload ∧ f = .ofPanic run.address payload := by
  obtain ⟨ending, address, state⟩ := run
  cases ending with
  | completed => exact iff_of_false nofun (by rintro (h | ⟨_, h, _⟩) <;> cases h)
  | returned g => simp [fault?]
  | panicked payload => simp [fault?, eq_comm]

/-! ## Verdicts -/

namespace Constraint

/-- The verdict on code of which a fault of the kind is expected, by what it raised. -/
def verdictOnKind (kind : String) : Option Fault → Verdict
  | some f =>
    ((instanceOf kind).check (f.kind.content == kind) (.fault f)).within (throwsMatching (instanceOf kind))
  | none => (throwsMatching (instanceOf kind)).blame .noFault

theorem evaluate_throwsMatching_instanceOf (host : Host σ) (kind : String) (code : Code) (s : σ) :
    (throwsMatching (instanceOf kind)).evaluate host (.code code) s =
      ⟨verdictOnKind kind (host.run code s).1, [.run code], (host.run code s).2⟩ := by
  have hraised : host.raised code s = ⟨(host.run code s).1, [.run code], (host.run code s).2⟩ := rfl
  rw [evaluate, Trial.bind_apply, hraised]
  cases (host.run code s).1 <;> rfl

end Constraint

/-! ## Faults handed out -/

namespace Classic

variable {kind : String} {raised : Option Fault} {f : Fault}

/-- The rejection of code of which a fault of the kind was expected. -/
def notRaised (kind seen : String) : AssertError :=
  .failed ("  Expected: fault instance of <" ++ kind ++ ">\n  But was:  " ++ seen ++ "\n")

/-- What is handed out for code that raised this. -/
def judged (kind : String) : Option Fault → Except AssertError Fault
  | some f => if f.kind.content = kind then .ok f else .error (notRaised kind f.rendered)
  | none => .error (notRaised kind "no fault")

theorem judged_eq_ok_iff : judged kind raised = .ok f ↔ raised = some f ∧ f.kind.content = kind := by
  cases raised with
  | none => exact iff_of_false nofun (nofun ∘ And.left)
  | some g =>
    rw [judged, Option.some.injEq]
    split
    next h => exact ⟨fun hg => by cases hg; exact ⟨rfl, h⟩, fun ⟨hg, _⟩ => congrArg _ hg⟩
    next h => exact iff_of_false nofun fun ⟨hg, hf⟩ => h (hg ▸ hf)

theorem report_eq_notRaised {failure : Failure} {seen : String}
    (hexpected : failure.blamed.inContexts failure.frames.reverse = .throwsMatching (.instanceOf kind))
    (hseen : failure.seenText .default = seen) :
    .failed (failure.report .default "") = notRaised kind seen := by
  refine congrArg AssertError.failed (String.toList_injective ?_)
  simp [Failure.report, Failure.lines, noteLine, expectedLabel, seenLabel, hseen,
    failure.expectedText_eq_describe, hexpected, Constraint.describe, Constraint.contextPhrase, predicate,
    typePhrase]

theorem ending_verdictOnKind (kind : String) (raised : Option Fault) (placeholder : Fault) :
    ((Constraint.verdictOnKind kind raised).ending.map fun _ => raised.getD placeholder) =
      judged kind raised := by
  cases raised with
  | none => exact congrArg Except.error (report_eq_notRaised rfl rfl)
  | some f =>
    rw [judged, Constraint.verdictOnKind]
    split
    next h => rw [beq_iff_eq.mpr h]; rfl
    next h => rw [beq_eq_false_iff_ne.mpr h]; exact congrArg Except.error (report_eq_notRaised rfl rfl)

theorem throws_eq (kind : String) (code : Code) (host : Host σ) (counter : Counter) (s : σ) :
    let raised := (host.run code s).1
    let report := throws kind code host counter s
    let recording := (throwsKind kind code).run host.recording counter (s, none)
    report.result = judged kind raised ∧ report.counter = counter.increment ∧ report.calls = [.run code] ∧
      report.state = (host.run code s).2 ∧ recording.state.2 = raised := by
  intro raised report recording
  have hresolve : (Chain.ofWords (Chain.faultOfKind kind)).resolve =
      .ok (.throwsMatching (.instanceOf kind)) := rfl
  obtain ⟨hresult, hcounter, hcalls, hstate⟩ : recording.result = _ ∧ _ := Check.run_of_resolve hresolve rfl
  rw [Constraint.evaluate_throwsMatching_instanceOf] at hresult hcalls hstate
  have hkept : recording.state.2 = raised := (congrArg Prod.snd hstate).trans Option.or_none
  refine ⟨?_, hcounter, hcalls, congrArg Prod.fst hstate, hkept⟩
  show recording.result.map (fun _ => recording.state.2.getD (.placeholder kind)) = _
  rw [hresult, hkept]
  exact ending_verdictOnKind kind raised (.placeholder kind)

/-- **The fault that was judged.** Code is run once and counts as one assertion. If it raised a fault of the
kind, by returning it or by breaking off, that fault is handed out, and it is the one that was kept. Otherwise
the code is rejected, for no fault or for the one that it raised. -/
theorem throws_judged_fault (host : Host σ) (runs : Code → σ → Run σ) (kind : String) (code : Code)
    (counter : Counter) (s : σ) :
    let judging := host.running runs
    let run := runs code s
    let report := throws kind code judging counter s
    let kept := ((throwsKind kind code).run judging.recording counter (s, none)).state.2
    (report.calls = [.run code] ∧ report.state = run.state ∧ report.counter = counter.increment) ∧
    (∀ f, report.result = .ok f ↔
      f.kind.content = kind ∧
        (run.ending = .returned f ∨
          ∃ payload, run.ending = .panicked payload ∧ f = .ofPanic run.address payload)) ∧
    (∀ f, report.result = .ok f → kept = some f) ∧
    (run.ending = .completed → report.result = .error (notRaised kind "no fault")) ∧
    ∀ f, run.fault? = some f → f.kind.content ≠ kind →
      report.result = .error (notRaised kind f.rendered) := by
  intro judging run report kept
  obtain ⟨hresult, hcounter, hcalls, hstate, hkept⟩ := throws_eq kind code judging counter s
  have hresult : report.result = judged kind run.fault? := hresult
  refine ⟨⟨hcalls, hstate, hcounter⟩, fun f => ?_, fun f hf => ?_, fun hend => ?_, fun f hraised hne => ?_⟩
  · rw [hresult, judged_eq_ok_iff, Run.fault?_eq_some_iff, and_comm]
  · rw [hresult, judged_eq_ok_iff] at hf
    exact hkept.trans hf.1
  · rw [hresult, Run.fault?, hend, judged]
  · rw [hresult, hraised, judged, if_neg hne]

/-- Code that breaks off at its first run only. -/
theorem throws_judged_fault_once :
    let runs : Code → Nat → Run Nat := fun _ n =>
      ⟨if n = 0 then .panicked (some "unreachable state") else .completed, 10, n + 1⟩
    let judging := (Host.counting ⟨0⟩ ⟨1, ⟨2, "Refusal"⟩, ⟨3, "no entry"⟩⟩).running runs
    (throws "panic" ⟨0⟩ judging .zero 0).result = .ok (.ofPanic 10 (some "unreachable state")) ∧
      (throws "panic" ⟨0⟩ judging .zero 1).result = .error (notRaised "panic" "no fault") := by
  intro runs judging
  obtain ⟨-, hok, -⟩ := throws_judged_fault (Host.counting ⟨0⟩ _) runs "panic" ⟨0⟩ .zero 0
  obtain ⟨-, -, -, hnone, -⟩ := throws_judged_fault (Host.counting ⟨0⟩ _) runs "panic" ⟨0⟩ .zero 1
  exact ⟨(hok _).mpr ⟨rfl, .inr ⟨_, rfl, rfl⟩⟩, hnone rfl⟩

end Classic

end Expectation
