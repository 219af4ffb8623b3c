import Expectation.Proofs.Constraint.Blame
import Expectation.Proofs.Constraint.Fallback
import Expectation.Proofs.Token.Descent

/-!
# Operands joined by one connective

Operands that are all joined by `and`, or all by `or`, are tested from left to right up to the first one
that decides. The others are not tested, so that the host is asked nothing on their behalf.

* `Connective.stream`, `Connective.tree`, `resolve_stream`: the operands joined, and their tree;
* `inTurn`: the outcomes of constraints that are tested one after the other;
* `Connective.decides`, `Connective.report`: when an operand decides, and what is then reported;
* `evaluate_apply_of_decides`, `evaluate_apply_of_not_decides`: one connective;
* `Connective.StopsAt`, **`stopsAt_tree`**: all of them;
* **`evaluate_joined`**: what the tree reports, and what it asks of the host.
-/

namespace Expectation

/-! ## Joined operands -/

namespace Connective

variable (k : Connective) (c d : Constraint) (cs : List Constraint)

/-- Operands with the connective between every two. -/
def stream : List Token := .operand c :: cs.flatMap fun d => [.operator (.connective k), .operand d]

/-- The tree of joined operands, which groups to the left. -/
def tree : Constraint := cs.foldl k.apply c

theorem tree_append_singleton : k.tree c (cs ++ [d]) = k.apply (k.tree c cs) d := by
  rw [tree, List.foldl_append]
  rfl

end Connective

section Streams

variable {tokens : List Token} {c : Constraint} {cs : List Constraint}

theorem reads_and_tree (h : Reads .conjunction tokens c
    (cs.flatMap fun d => [.operator (.connective .and), .operand d])) :
    Reads .conjunction tokens (Connective.and.tree c cs) [] := by
  induction cs generalizing c with
  | nil => exact h
  | cons d cs ih => exact ih (.and h (.operand d _))

theorem reads_or_tree (h : Reads .disjunction tokens c
    (cs.flatMap fun d => [.operator (.connective .or), .operand d])) :
    Reads .disjunction tokens (Connective.or.tree c cs) [] := by
  induction cs generalizing c with
  | nil => exact h
  | cons d cs ih => exact ih (.or h (.conjunction (.operand d _)))

theorem resolve_stream (k : Connective) (c : Constraint) (cs : List Constraint) :
    resolve (k.stream c cs) = .ok (k.tree c cs) := by
  let rest : List Token := cs.flatMap fun d => [.operator (.connective k), .operand d]
  have hfirst : Reads .conjunction (k.stream c cs) c rest := .conjunction (.operand c rest)
  cases k with
  | and => exact (Reads.disjunction (reads_and_tree hfirst)).resolve
  | or => exact (reads_or_tree (.disjunction hfirst)).resolve

end Streams

/-! ## One after the other -/

section InTurn

variable {σ : Type} (host : Host σ) (v : Value)

/-- The outcomes of the constraints when each is tested in the state that the one before it left. -/
def inTurn : List Constraint → σ → List (Outcome σ Verdict)
  | [], _ => []
  | c :: cs, s => c.evaluate host v s :: inTurn cs (c.evaluate host v s).state

/-- The state that the last of them leaves. -/
def stateAfter (cs : List Constraint) (s : σ) : σ :=
  cs.foldl (fun s c => (c.evaluate host v s).state) s

theorem inTurn_append (cs ds : List Constraint) (s : σ) :
    inTurn host v (cs ++ ds) s =
      inTurn host v cs s ++ inTurn host v ds (stateAfter host v cs s) := by
  induction cs generalizing s with
  | nil => rfl
  | cons c cs ih =>
    rw [List.cons_append, inTurn, ih, inTurn, List.cons_append]
    rfl

theorem stateAfter_append_singleton (cs : List Constraint) (d : Constraint) (s : σ) :
    stateAfter host v (cs ++ [d]) s = (d.evaluate host v (stateAfter host v cs s)).state :=
  List.foldl_append

end InTurn

/-! ## One connective -/

namespace Connective

/-- The verdict of an operand makes the others superfluous. -/
def decides : Connective → Verdict → Bool
  | and, verdict => !verdict.isPass
  | or, verdict => verdict.isPass

/-- What the tree reports of the verdict that decides: `and` hands it on, `or` blames itself. -/
def report (k : Connective) (tree : Constraint) (v : Value) (turn : Turn) (verdict : Verdict) : Verdict :=
  match k with
  | and => verdict.along turn
  | or => tree.check verdict.isPass v

@[simp] theorem isPass_report (k : Connective) (tree : Constraint) (v : Value) (turn : Turn)
    (verdict : Verdict) : (k.report tree v turn verdict).isPass = verdict.isPass := by
  cases k with
  | and => exact Verdict.isPass_along turn verdict
  | or => exact Constraint.isPass_check tree v verdict.isPass

end Connective

section Evaluate

variable {σ : Type} {host : Host σ} {k : Connective} {a b : Constraint} {v : Value} {s : σ}

theorem evaluate_apply_of_decides (h : k.decides (a.evaluate host v s).result = true) :
    (k.apply a b).evaluate host v s =
      (a.evaluate host v s).map (k.report (k.apply a b) v .left) := by
  cases k with
  | and =>
    show (a.evaluate host v >>= _) s = _
    cases hverdict : (a.evaluate host v s).result with
    | pass => rw [hverdict] at h; cases h
    | fail f =>
      rw [Trial.bind_apply, hverdict, Outcome.map, hverdict]
      exact congrArg (Outcome.mk _ · _) (List.append_nil _)
  | or =>
    show (a.evaluate host v >>= _) s = _
    cases hverdict : (a.evaluate host v s).result with
    | pass =>
      rw [Trial.bind_apply, hverdict, Outcome.map, hverdict]
      exact congrArg (Outcome.mk _ · _) (List.append_nil _)
    | fail f => rw [hverdict] at h; cases h

theorem evaluate_apply_of_not_decides (h : k.decides (a.evaluate host v s).result = false) :
    (k.apply a b).evaluate host v s =
      ⟨k.report (k.apply a b) v .right (b.evaluate host v (a.evaluate host v s).state).result,
        (a.evaluate host v s).calls ++ (b.evaluate host v (a.evaluate host v s).state).calls,
        (b.evaluate host v (a.evaluate host v s).state).state⟩ := by
  cases k with
  | and =>
    show (a.evaluate host v >>= _) s = _
    cases hverdict : (a.evaluate host v s).result with
    | pass =>
      rw [Trial.bind_apply, hverdict]
      show Outcome.mk _ (_ ++ (_ ++ [])) _ = _
      rw [List.append_nil]
      rfl
    | fail f => rw [hverdict] at h; cases h
  | or =>
    show (a.evaluate host v >>= _) s = _
    cases hverdict : (a.evaluate host v s).result with
    | pass => rw [hverdict] at h; cases h
    | fail f =>
      rw [Trial.bind_apply, hverdict]
      show Outcome.mk _ (_ ++ (_ ++ [])) _ = _
      rw [List.append_nil]
      rfl

end Evaluate

/-! ## All operands -/

/-- The tree stops at one of the operands. Those before it do not decide, and it does unless it is the
last of all. What the tree asks is what they ask in order, and it leaves the host as the last of them
does. -/
structure Connective.StopsAt {σ : Type} (k : Connective) (host : Host σ) (v : Value) (s : σ)
    (tree : Constraint) (earlier : List Constraint) (d : Constraint) (later : List Constraint) :
    Prop where
  undecided : ∀ o ∈ inTurn host v earlier s, k.decides o.result = false
  decided : k.decides (d.evaluate host v (stateAfter host v earlier s)).result = true ∨ later = []
  calls : (tree.evaluate host v s).calls = (inTurn host v earlier s).flatMap Outcome.calls ++
    (d.evaluate host v (stateAfter host v earlier s)).calls
  state : (tree.evaluate host v s).state = (d.evaluate host v (stateAfter host v earlier s)).state
  isPass : (tree.evaluate host v s).result.isPass =
    (d.evaluate host v (stateAfter host v earlier s)).result.isPass

section Sequence

variable {σ : Type} {host : Host σ} {v : Value} {s : σ} {k : Connective} {tree d e : Constraint}
  {earlier later : List Constraint}

theorem Connective.decides_congr {verdict verdict' : Verdict} (k : Connective)
    (h : verdict.isPass = verdict'.isPass) : k.decides verdict = k.decides verdict' := by
  cases k with
  | and => exact congrArg Bool.not h
  | or => exact h

namespace Connective.StopsAt

theorem decides_eq (h : k.StopsAt host v s tree earlier d later) :
    k.decides (tree.evaluate host v s).result =
      k.decides (d.evaluate host v (stateAfter host v earlier s)).result :=
  k.decides_congr h.isPass

theorem append_of_decides (h : k.StopsAt host v s tree earlier d later)
    (hdecides : k.decides (tree.evaluate host v s).result = true) :
    k.StopsAt host v s (k.apply tree e) earlier d (later ++ [e]) := by
  have heq := evaluate_apply_of_decides (b := e) hdecides
  refine ⟨h.undecided, .inl (h.decides_eq ▸ hdecides), ?_, ?_, ?_⟩
  · rw [heq]
    exact h.calls
  · rw [heq]
    exact h.state
  · rw [heq]
    exact (isPass_report ..).trans h.isPass

theorem append_of_not_decides (h : k.StopsAt host v s tree earlier d [])
    (hdecides : k.decides (tree.evaluate host v s).result = false) :
    k.StopsAt host v s (k.apply tree e) (earlier ++ [d]) e [] := by
  have heq := evaluate_apply_of_not_decides (b := e) hdecides
  have hturn : inTurn host v (earlier ++ [d]) s =
      inTurn host v earlier s ++ [d.evaluate host v (stateAfter host v earlier s)] :=
    inTurn_append host v earlier [d] s
  have hstate : stateAfter host v (earlier ++ [d]) s = (tree.evaluate host v s).state := by
    rw [stateAfter_append_singleton, h.state]
  refine ⟨?_, .inr rfl, ?_, ?_, ?_⟩
  · rw [hturn, List.forall_mem_append, List.forall_mem_singleton]
    exact ⟨h.undecided, h.decides_eq ▸ hdecides⟩
  · rw [heq, hstate, hturn, List.flatMap_append, List.flatMap_singleton, ← h.calls]
  · rw [heq, hstate]
  · rw [heq, hstate]
    exact isPass_report ..

end Connective.StopsAt

/-- **Joined operands** are tested up to the one that decides. In a conjunction its verdict is handed
on. -/
theorem stopsAt_tree (host : Host σ) (v : Value) (s : σ) (k : Connective) (c : Constraint)
    (cs : List Constraint) :
    ∃ earlier d later, c :: cs = earlier ++ d :: later ∧
      k.StopsAt host v s (k.tree c cs) earlier d later ∧
      (k = .and → ∃ trail, (k.tree c cs).descend? trail = some (d, []) ∧
        ((k.tree c cs).evaluate host v s).result =
          trail.foldr Verdict.along (d.evaluate host v (stateAfter host v earlier s)).result) := by
  induction cs using List.reverseRecOn with
  | nil =>
    refine ⟨[], c, [], rfl, ⟨nofun, .inr rfl, rfl, rfl, rfl⟩, fun _ => ⟨[], ?_, rfl⟩⟩
    cases c <;> rfl
  | append_singleton cs e ih =>
    obtain ⟨earlier, d, later, hsplit, hstops, hreport⟩ := ih
    rw [k.tree_append_singleton]
    cases hdecides : k.decides ((k.tree c cs).evaluate host v s).result with
    | true =>
      refine ⟨earlier, d, later ++ [e], ?_, hstops.append_of_decides hdecides, ?_⟩
      · rw [← List.cons_append, hsplit, List.append_assoc, List.cons_append]
      · rintro rfl
        obtain ⟨trail, hdescend, hresult⟩ := hreport rfl
        refine ⟨.left :: trail, hdescend, ?_⟩
        rw [evaluate_apply_of_decides hdecides, List.foldr_cons, ← hresult]
        rfl
    | false =>
      -- so far none decides, so that the last of them has been tested
      obtain rfl : later = [] := hstops.decided.resolve_left (by simp [← hstops.decides_eq, hdecides])
      refine ⟨earlier ++ [d], e, [], ?_, hstops.append_of_not_decides hdecides, ?_⟩
      · rw [← List.cons_append, hsplit]
      · rintro rfl
        refine ⟨[.right], by cases e <;> rfl, ?_⟩
        rw [evaluate_apply_of_not_decides hdecides, stateAfter_append_singleton, hstops.state]
        rfl

theorem Connective.StopsAt.decides_iff (h : k.StopsAt host v s tree earlier d later) :
    k.decides (tree.evaluate host v s).result = true ↔
      ∃ o ∈ inTurn host v (earlier ++ d :: later) s, k.decides o.result = true := by
  rw [h.decides_eq, inTurn_append, inTurn]
  constructor
  · exact fun hdecides => ⟨_, List.mem_append_right _ List.mem_cons_self, hdecides⟩
  · rintro ⟨o, ho, hdecides⟩
    rcases List.mem_append.mp ho with ho | ho
    · exact absurd hdecides (by simp [h.undecided o ho])
    · rcases List.mem_cons.mp ho with rfl | ho
      · exact hdecides
      · -- an operand comes after this one, so that this one decides
        refine h.decided.resolve_right fun hnil => ?_
        rw [hnil, inTurn] at ho
        cases ho

theorem foldr_along_fail (trail : List Turn) (f : Failure) :
    trail.foldr Verdict.along (.fail f) = .fail ⟨trail ++ f.trail, f.frames, f.blamed, f.observed⟩ := by
  induction trail with
  | nil => rfl
  | cons turn trail ih => rw [List.foldr_cons, ih, Verdict.along, List.cons_append]

theorem result_or_of_isPass_eq_false {a b : Constraint}
    (h : ((Constraint.or a b).evaluate host v s).result.isPass = false) :
    ((Constraint.or a b).evaluate host v s).result = (Constraint.or a b).blame (.value v) := by
  have hcheck : ∃ accepted, ((Constraint.or a b).evaluate host v s).result =
      (Constraint.or a b).check accepted v := by
    change ∃ accepted, ((Connective.or.apply a b).evaluate host v s).result = _
    cases hdecides : Connective.or.decides (a.evaluate host v s).result with
    | true => exact ⟨_, by rw [evaluate_apply_of_decides hdecides]; rfl⟩
    | false => exact ⟨_, by rw [evaluate_apply_of_not_decides hdecides]; rfl⟩
  obtain ⟨accepted, haccepted⟩ := hcheck
  rw [haccepted, Constraint.isPass_check] at h
  rw [haccepted, h]
  rfl

theorem result_tree_or_of_isPass_eq_false {c : Constraint} {cs : List Constraint} (hne : cs ≠ [])
    (h : ((Connective.or.tree c cs).evaluate host v s).result.isPass = false) :
    ((Connective.or.tree c cs).evaluate host v s).result =
      (Connective.or.tree c cs).blame (.value v) := by
  obtain ⟨ds, e, rfl⟩ := (List.eq_nil_or_concat' cs).resolve_left hne
  rw [Connective.tree_append_singleton] at h ⊢
  exact result_or_of_isPass_eq_false h

/-- **Operands joined by one connective** are tested from left to right. A conjunction passes just if all
of them do, stops at the first that fails and reports its failure as it is. A disjunction passes just if
one of them does and stops at the first that passes; if none does, it blames itself for the value. Either
asks the host what the operands up to this one ask, in order, and nothing else. -/
theorem evaluate_joined (host : Host σ) (c : Constraint) (cs : List Constraint) (v : Value) (s : σ) :
    (let tree := Connective.and.tree c cs
      let outcome := tree.evaluate host v s
      resolve (Connective.and.stream c cs) = .ok tree ∧
      (outcome.result.isPass = true ↔ ∀ o ∈ inTurn host v (c :: cs) s, o.result.isPass = true) ∧
      ∃ earlier d later, c :: cs = earlier ++ d :: later ∧
        Connective.and.StopsAt host v s tree earlier d later ∧
        ∀ f, (d.evaluate host v (stateAfter host v earlier s)).result = .fail f →
          ∃ trail, tree.descend? trail = some (d, []) ∧
            outcome.result = .fail ⟨trail ++ f.trail, f.frames, f.blamed, f.observed⟩) ∧
    (let tree := Connective.or.tree c cs
      let outcome := tree.evaluate host v s
      resolve (Connective.or.stream c cs) = .ok tree ∧
      (outcome.result.isPass = true ↔ ∃ o ∈ inTurn host v (c :: cs) s, o.result.isPass = true) ∧
      (∃ earlier d later, c :: cs = earlier ++ d :: later ∧
        Connective.or.StopsAt host v s tree earlier d later) ∧
      (outcome.result.isPass = false → cs ≠ [] → outcome.result = tree.blame (.value v))) := by
  constructor
  · intro tree outcome
    obtain ⟨earlier, d, later, hsplit, hstops, hreport⟩ := stopsAt_tree host v s .and c cs
    refine ⟨resolve_stream .and c cs, ?_, earlier, d, later, hsplit, hstops, fun f hf => ?_⟩
    · have hiff := not_congr hstops.decides_iff
      rw [hsplit]
      simpa [Connective.decides] using hiff
    · obtain ⟨trail, hdescend, hresult⟩ := hreport rfl
      exact ⟨trail, hdescend, by rw [← foldr_along_fail, ← hf]; exact hresult⟩
  · intro tree outcome
    obtain ⟨earlier, d, later, hsplit, hstops, -⟩ := stopsAt_tree host v s .or c cs
    refine ⟨resolve_stream .or c cs, ?_, ⟨earlier, d, later, hsplit, hstops⟩,
      fun hfail hne => result_tree_or_of_isPass_eq_false hne hfail⟩
    rw [hsplit]
    exact hstops.decides_iff

end Sequence

end Expectation
