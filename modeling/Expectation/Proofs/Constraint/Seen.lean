import Expectation.Proofs.Constraint.Expected
import Expectation.Proofs.Value.Truncation

/-!
# The seen side of a report

What a report says was seen is what the blamed node saw when it rejected a value by itself, shown within the
limits. A node that wants an empty value tells the number of the items of a list, and the limits leave this
number alone.

* `Failure.Rejects`, **`rejects_of_evaluate`**: the blamed node rejected a value by itself;
* `Value.countNote`, `describe_of_isEmpty`: what a node that wants an empty value sees;
* **`rendering_within_limits`**: values and numbers of items in reports.
-/

namespace Expectation

variable {σ : Type} {host : Host σ} {c : Constraint} {v : Value} {s : σ} {f : Failure}

/-! ## Rejections -/

/-- In some state the blamed node rejects some value by itself, for what the failure shows. -/
def Failure.Rejects (host : Host σ) (f : Failure) : Prop :=
  ∃ v s, (f.blamed.evaluate host v s).result = f.blamed.blame f.observed

/-- **The blamed node** rejected a value by itself, over whatever host: a failure keeps the node and what it
saw on its way up. -/
theorem rejects_of_evaluate (hfail : (c.evaluate host v s).result = .fail f) : f.Rejects host := by
  have harises := arises_of_evaluate hfail
  clear hfail
  induction harises with
  | @here c v s seen hblame => exact ⟨v, s, hblame⟩
  | left _ _ ih | right _ _ ih | within _ _ _ ih =>
    obtain ⟨w, t, hreject⟩ := ih
    exact ⟨w, t, hreject⟩

/-! ## Empty values -/

/-- The number of items after a list, and nothing after other values. -/
def Value.countNote : Value → String
  | list items => countPhrase items.length
  | _ => ""

theorem describe_of_isEmpty (limits : RenderLimits) {seen : Observed}
    (h : (Constraint.isEmpty.evaluate host v s).result = Constraint.isEmpty.blame seen) :
    seen.describe limits = v.render limits ++ v.countNote := by
  -- everything but a list with items is checked as it is
  have hchecked (hcheck : (Constraint.isEmpty.evaluate host v s).result =
      Constraint.isEmpty.check (Constraint.isEmpty.accepts v) v) (hnote : v.countNote = "") :
      seen.describe limits = v.render limits ++ v.countNote := by
    have hseen : seen = .value v :=
      congrArg Failure.observed (eq_of_check_eq_fail (hcheck.symm.trans h)).2
    rw [hseen, hnote, String.append_empty, Observed.describe]
  cases v with
  | list items =>
    cases items with
    | nil => exact Verdict.noConfusion h
    | cons item rest =>
      have hseen : Observed.counted (.list (item :: rest)) (item :: rest).length = seen :=
        congrArg Failure.observed (Verdict.fail.inj h)
      rw [← hseen, Observed.describe, Value.countNote]
  | _ => exact hchecked rfl rfl

/-- **Rendering within limits** is rendering without limits once texts and lists are cut at every depth. So
values whose parts are all within the limits keep their text, no text is left with more characters than its
limit or the dots, the items of a list keep their order, and where a list should have been empty the number
of all its items is told. -/
theorem rendering_within_limits (limits : RenderLimits) (host : Host σ) :
    (∀ v : Value, v.render limits = (v.truncate limits).render .off) ∧
    (∀ v : Value, (∀ part, Value.Part part v → part.Fits limits) → v.render limits = v.render .off) ∧
    (0 < limits.maxTextLength → ∀ (v : Value) (t : SharedText), Value.Part (.text t) (v.truncate limits) →
      t.content.length ≤ max limits.maxTextLength 3) ∧
    (∀ items, items ≠ [] →
      (Value.list items).render limits =
        "< " ++ commaSeparated
          (if RenderLimits.Exceeds limits.maxItems items.length then
            (items.take limits.maxItems).map (Value.render limits) ++ ["..."]
          else items.map (Value.render limits)) ++ " >") ∧
    (∀ items s f, (Constraint.isEmpty.evaluate host (.list items) s).result = .fail f →
      f.seenText limits = (Value.list items).render limits ++ countPhrase items.length) ∧
    ∀ (c : Constraint) v s (f : Failure), (c.evaluate host v s).result = .fail f → f.blamed = .isEmpty →
      ∃ w t, (Constraint.isEmpty.evaluate host w t).result.isPass = false ∧
        f.seenText limits = w.render limits ++ w.countNote := by
  refine ⟨fun v => (v.render_truncate limits).symm, fun v h => ?_, fun hlimit _ _ =>
    Value.length_le_of_part_truncate hlimit, fun items => Value.render_list limits, fun items s f hfail => ?_,
    fun c v s f hfail hblamed => ?_⟩
  · rw [← v.render_truncate limits, Value.truncate_of_fits h]
  · obtain ⟨seen, rfl⟩ := settles_evaluate rfl f hfail
    exact describe_of_isEmpty limits hfail
  · obtain ⟨w, t, hreject⟩ := rejects_of_evaluate hfail
    rw [hblamed] at hreject
    exact ⟨w, t, by rw [hreject]; rfl, describe_of_isEmpty limits hreject⟩

/-- Three items under limits of four characters and two items: a text is left with four characters, and the
number of items is still three. -/
theorem rendering_within_limits_three :
    let host := Host.counting ⟨0⟩ ⟨1, ⟨2, "Refusal"⟩, ⟨3, "no entry"⟩⟩
    let limits : RenderLimits := ⟨4, 2⟩
    let items : List Value := [.text ⟨0, "abcdef"⟩, .list [.null, .null, .null], .null]
    let left : SharedText := ⟨0, "a..."⟩
    let f : Failure := ⟨[], [], .isEmpty, .counted (.list items) 3⟩
    (0 < limits.maxTextLength ∧ Value.Part (.text left) ((Value.list items).truncate limits)) ∧
    left.content.length ≤ 4 ∧
    (Constraint.isEmpty.evaluate host (.list items) 0).result = .fail f ∧
    f.seenText limits = "< \"a...\", < null, null, ... >, ... > (3 elements)" := by
  intro host limits items left f
  obtain ⟨-, -, htexts, -, hcount, -⟩ := rendering_within_limits limits host
  have hlimit : 0 < limits.maxTextLength := by decide
  have hpart : Value.Part (.text left) ((Value.list items).truncate limits) :=
    .item List.mem_cons_self (.self _)
  have hfail : (Constraint.isEmpty.evaluate host (.list items) 0).result = .fail f := rfl
  have hphrase : countPhrase items.length = " (3 elements)" := by decide +kernel
  refine ⟨⟨hlimit, hpart⟩, htexts hlimit _ _ hpart, hfail, ?_⟩
  rw [hcount items 0 f hfail, hphrase]
  rfl

end Expectation
