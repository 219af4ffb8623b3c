import Expectation.Proofs.Assertion.Equality

/-!
# Verdicts without messages

An assertion comes to its verdict before it looks at its message or at the limits of failure texts. What
it finds until then it keeps, whatever it has to say about a rejection.

* `Judgement`, `judge`: what an assertion finds;
* `Judgement.tell`, **`assertThat_eq_tell`**: what it then says;
* `Judgement.result_tell_eq_ok_iff` and its like: which ends depend on the message;
* **`assertThat_independent`**: assertions with different messages and limits.
-/

namespace Expectation

variable {σ : Type}

/-! ## Judgements -/

/-- What an assertion finds before it says anything. -/
structure Judgement (σ : Type) where
  /-- The tested constraint and its verdict, if the goal resolves. -/
  found : Except BuildError (Constraint × Verdict)
  counter : Counter
  state : σ
  calls : List Call

/-- The judgement of an assertion under a default tolerance. -/
def judge (host : Host σ) (tolerance : Option Binary64) (actual : Actual σ) (goal : Goal)
    (counter : Counter) (state : σ) : Judgement σ :=
  match goal.resolve with
  | .error e => ⟨.error e, counter, state, []⟩
  | .ok c =>
    -- the limits have no part in the preparation
    let prepared := Settings.prepare ⟨.default, tolerance⟩ c
    let computed := actual.compute counter.increment state
    let outcome := prepared.evaluate host computed.result computed.state
    ⟨.ok (prepared, outcome.result), counter.increment, outcome.state, computed.calls ++ outcome.calls⟩

namespace Judgement

/-- The value was tested and rejected. -/
def Rejects (j : Judgement σ) : Prop := ∃ c f, j.found = .ok (c, .fail f)

/-- The report of a judgement. -/
def tell (limits : RenderLimits) (message : Message) (goal : Goal) (j : Judgement σ) : Report σ Unit :=
  match j.found with
  | .error e => ⟨.error (.malformed e), j.counter, j.state, j.calls, goal.events⟩
  | .ok (c, verdict) =>
    let (result, logged) := conclude ⟨limits, none⟩ message j.counter.count c verdict
    ⟨result, j.counter, j.state, j.calls, goal.events ++ logged⟩

section Tell

variable (limits limits' : RenderLimits) (message message' : Message) (goal : Goal) (j : Judgement σ)

@[simp] theorem counter_tell : (j.tell limits message goal).counter = j.counter := by
  unfold tell
  split <;> rfl

@[simp] theorem state_tell : (j.tell limits message goal).state = j.state := by
  unfold tell
  split <;> rfl

@[simp] theorem calls_tell : (j.tell limits message goal).calls = j.calls := by
  unfold tell
  split <;> rfl

theorem result_tell_eq_ok_iff :
    (j.tell limits message goal).result = .ok () ↔ ∃ c, j.found = .ok (c, .pass) := by
  obtain ⟨found, counter, state, calls⟩ := j
  match found with
  | .error e => exact iff_of_false nofun nofun
  | .ok (c, .pass) => exact iff_of_true rfl ⟨c, rfl⟩
  | .ok (c, .fail f) =>
    show (conclude ⟨limits, none⟩ message counter.count c (.fail f)).1 = _ ↔ _
    exact conclude_eq_ok_iff.trans (iff_of_false Bool.false_ne_true nofun)

theorem result_tell_eq_malformed_iff (e : BuildError) :
    (j.tell limits message goal).result = .error (.malformed e) ↔ j.found = .error e := by
  obtain ⟨found, counter, state, calls⟩ := j
  match found with
  | .error e' =>
    show Except.error (AssertError.malformed e') = _ ↔ _
    simp
  | .ok (c, .pass) => exact iff_of_false nofun nofun
  | .ok (c, .fail f) =>
    show (conclude ⟨limits, none⟩ message counter.count c (.fail f)).1 = _ ↔ _
    cases hrender : message.render <;> simp [conclude, hrender]

theorem result_tell_eq_format_iff (e : FormatError) :
    (j.tell limits message goal).result = .error (.format e) ↔
      j.Rejects ∧ message.render = .error e := by
  obtain ⟨found, counter, state, calls⟩ := j
  match found with
  | .error e' => exact iff_of_false nofun fun ⟨⟨c, f, h⟩, _⟩ => nomatch h
  | .ok (c, .pass) => exact iff_of_false nofun fun ⟨⟨c, f, h⟩, _⟩ => nomatch h
  | .ok (c, .fail f) =>
    show (conclude ⟨limits, none⟩ message counter.count c (.fail f)).1 = _ ↔ _
    cases hrender : message.render with
    | error e' => simp [conclude, hrender, Rejects]
    | ok text => simp [conclude, hrender]

theorem tell_eq_of_not_rejects (h : ¬j.Rejects) :
    j.tell limits message goal = j.tell limits' message' goal := by
  obtain ⟨found, counter, state, calls⟩ := j
  match found with
  | .error e => rfl
  | .ok (c, .pass) => rfl
  | .ok (c, .fail f) => exact absurd ⟨c, f, rfl⟩ h

end Tell

end Judgement

/-! ## Assertions -/

/-- **An assertion** judges, and then says what it found. -/
theorem assertThat_eq_tell (host : Host σ) (limits : RenderLimits) (tolerance : Option Binary64)
    (actual : Actual σ) (goal : Goal) (message : Message) (counter : Counter) (s : σ) :
    assertThat host ⟨limits, tolerance⟩ actual goal message counter s =
      (judge host tolerance actual goal counter s).tell limits message goal := by
  unfold assertThat judge
  cases goal.resolve <;> rfl

theorem rejects_judge_iff {host : Host σ} {tolerance : Option Binary64} {actual : Actual σ} {goal : Goal}
    {counter : Counter} {s : σ} :
    (judge host tolerance actual goal counter s).Rejects ↔
      ∃ c f, goal.resolve = .ok c ∧
        (let computed := actual.compute counter.increment s
        let prepared := Settings.prepare ⟨.default, tolerance⟩ c
        (prepared.evaluate host computed.result computed.state).result = .fail f) := by
  unfold judge
  cases goal.resolve with
  | error e => exact iff_of_false (fun ⟨c, f, h⟩ => nomatch h) fun ⟨c, f, h, _⟩ => nomatch h
  | ok c =>
    constructor
    · rintro ⟨d, f, h⟩
      exact ⟨c, f, rfl, (Prod.mk.inj (Except.ok.inj h)).2⟩
    · rintro ⟨d, f, ⟨⟩, h⟩
      exact ⟨_, f, congrArg (fun verdict => Except.ok (_, verdict)) h⟩

/-- **Messages and limits have no say in a verdict.** Assertions that differ in them only pass together
and count, ask and leave the host alike. If the goal does not resolve, both say so with the same error. The
message is looked at only for a rejected value: otherwise the reports are the same, and an assertion ends
with an error of the message just if the value was rejected and its own message cannot be filled in. -/
theorem assertThat_independent (host : Host σ) (tolerance : Option Binary64) (actual : Actual σ)
    (goal : Goal) (counter : Counter) (s : σ) (limits limits' : RenderLimits)
    (message message' : Message) :
    let report := assertThat host ⟨limits, tolerance⟩ actual goal message counter s
    let report' := assertThat host ⟨limits', tolerance⟩ actual goal message' counter s
    (report.result = .ok () ↔ report'.result = .ok ()) ∧
    (report.counter = report'.counter ∧ report.calls = report'.calls ∧ report.state = report'.state) ∧
    (∀ e, report.result = .error (.malformed e) ↔ report'.result = .error (.malformed e)) ∧
    (report.result = .ok () → report = report') ∧
    (∀ e, report.result = .error (.malformed e) → report = report') ∧
    ∀ e, report.result = .error (.format e) ↔ message.render = .error e ∧
      ∃ c f, goal.resolve = .ok c ∧
        (let computed := actual.compute counter.increment s
        let prepared := Settings.prepare ⟨limits, tolerance⟩ c
        (prepared.evaluate host computed.result computed.state).result = .fail f) := by
  intro report report'
  let j := judge host tolerance actual goal counter s
  have hreport : report = j.tell limits message goal := assertThat_eq_tell ..
  have hreport' : report' = j.tell limits' message' goal := assertThat_eq_tell ..
  have hsame (h : ¬j.Rejects) : report = report' := by
    rw [hreport, hreport']
    exact j.tell_eq_of_not_rejects _ _ _ _ _ h
  refine ⟨?_, ?_, fun e => ?_, fun hok => hsame ?_, fun e he => hsame ?_, fun e => ?_⟩
  · rw [hreport, hreport', j.result_tell_eq_ok_iff, j.result_tell_eq_ok_iff]
  · simp [hreport, hreport']
  · rw [hreport, hreport', j.result_tell_eq_malformed_iff, j.result_tell_eq_malformed_iff]
  · rw [hreport, j.result_tell_eq_ok_iff] at hok
    obtain ⟨c, hc⟩ := hok
    rintro ⟨d, f, h⟩
    cases hc.symm.trans h
  · rw [hreport, j.result_tell_eq_malformed_iff] at he
    rintro ⟨d, f, h⟩
    cases he.symm.trans h
  · rw [hreport, j.result_tell_eq_format_iff, and_comm]
    exact and_congr_right fun _ => rejects_judge_iff

/-- A message that refers to an argument it does not have. -/
example :
    let assertOne := fun expected : Value => assertThat Host.silent .default (.value (.int 1))
      (.constraint (.equal expected none false)) ⟨some "\x7b3\x7d", [.int 1]⟩ .zero ()
    (assertOne (.int 1)).result = .ok () ∧
      (assertOne (.int 2)).result = .error (.format (.missingArgument 3 1)) := by
  decide +kernel

end Expectation
