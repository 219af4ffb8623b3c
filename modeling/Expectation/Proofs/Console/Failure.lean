import Expectation.Assertion.Basic
import Expectation.Proofs.Console.Printing
import Expectation.Proofs.Constraint.Satisfaction

/-!
# Failed assertions on the console

The console shows a failed assertion by a headline with the description of its constraint and, below it, the
lines of the failure text. It reads both texts as if they might be quoted and escaped, which they are not, so
that quotation marks at the ends get lost and a backslash before an n begins a new line.

* `Console.headline`, `Console.shownLines`, `Console.indented`: the parts of what is printed;
* `Console.faithful`: a failed assertion with both texts as they are;
* `unescapeLineFeeds_eq_self_iff`: the texts without an escaped line feed;
* `Console.print_failed`: what is printed instead;
* **`failure_shown_faithfully`**: where the two are the same;
* `description_shown_without_quotation_marks`: where they are not.
-/

namespace Expectation

namespace Console

/-- The headline of a failed assertion. -/
def headline (elapsed : String) (count : UInt64) (description : String) : String :=
  timestamp elapsed ++ " " ++ bold (paint .brightRed "✗") ++ " assertion #" ++
    paint .brightYellow (toString count.toNat) ++ " failed │ " ++ bold (paint .white description)

/-- The lines of a text that are not blank. -/
def shownLines (text : List Char) : List (List Char) := (Text.lines text).filter (!Text.isBlank ·)

/-- Lines one below the other, each on a line of its own. -/
def indented (lines : List (List Char)) : String :=
  String.join (lines.map fun line => "\n          " ++ paint .red (String.ofList line))

/-- What is printed where both texts are shown as they are: the headline with the whole description, and
the lines of the text that are not blank. -/
def faithful (elapsed : String) (count : UInt64) (description text : String) : String :=
  headline elapsed count description ++ indented (shownLines text.toList) ++ "\n"

/-! ## Escaped line feeds -/

theorem count_quotation_unescapeLineFeeds (text : List Char) :
    (unescapeLineFeeds text).count '\x22' = text.count '\x22' := by
  fun_induction unescapeLineFeeds text with
  | case1 rest ih => simp [ih]
  | case2 c rest _ ih => rw [List.count_cons, List.count_cons, ih]
  | case3 => rfl

theorem unescapeLineFeeds_eq_self_or (text : List Char) :
    unescapeLineFeeds text = text ∨ (unescapeLineFeeds text).count '\\' < text.count '\\' := by
  fun_induction unescapeLineFeeds text with
  | case1 rest ih =>
    right
    obtain heq | hlt := ih
    · simp [heq]
    · simp
      omega
  | case2 c rest _ ih =>
    obtain heq | hlt := ih
    · exact .inl (by rw [heq])
    · right
      rw [List.count_cons, List.count_cons]
      omega
  | case3 => exact .inl rfl

theorem unescapeLineFeeds_eq_self_iff (text : List Char) :
    unescapeLineFeeds text = text ↔ ¬ ['\\', 'n'] <:+: text := by
  fun_induction unescapeLineFeeds text with
  | case1 rest ih =>
    refine iff_of_false (by simp) (not_not_intro ?_)
    exact (List.prefix_append ['\\', 'n'] rest).isInfix
  | case2 c rest hpair ih =>
    have hprefix : ¬ ['\\', 'n'] <+: c :: rest := by
      rintro ⟨tail, htail⟩
      obtain ⟨rfl, rfl⟩ := List.cons.inj htail
      exact hpair _ rfl rfl
    rw [List.infix_cons_iff, or_iff_right hprefix, ← ih, List.cons_inj_right]
  | case3 => exact iff_of_true rfl (by simp)

/-! ## Characters of lines -/

section Count

variable {c : Char}

theorem flatten_extendFirst (a : Char) (lines : List (List Char)) :
    (Text.extendFirst a lines).flatten = a :: lines.flatten := by
  cases lines <;> rfl

theorem count_lines (hfeed : c ≠ '\n') (hreturn : c ≠ '\r') (text : List Char) :
    (Text.lines text).flatten.count c = text.count c := by
  fun_induction Text.lines text with
  | case1 => rfl
  | case2 rest ih => simp [ih, hfeed.symm, hreturn.symm]
  | case3 rest _ ih => simp [ih, hfeed.symm]
  | case4 a rest _ _ ih => rw [flatten_extendFirst, List.count_cons, List.count_cons, ih]

theorem count_filter_blank (hblank : Text.blanks.holds c = false) (lines : List (List Char)) :
    (lines.filter (!Text.isBlank ·)).flatten.count c = lines.flatten.count c := by
  induction lines with
  | nil => rfl
  | cons line rest ih =>
    rw [List.filter_cons, List.flatten_cons, List.count_append, ← ih]
    cases h : Text.isBlank line with
    | false => simp
    | true =>
      have hmem : c ∉ line := fun hc => by
        rw [Text.isBlank, List.all_eq_true] at h
        exact Bool.noConfusion (hblank.symm.trans (h c hc))
      simp [List.count_eq_zero_of_not_mem hmem]

theorem count_paint (colour : Colour) (text : String)
    (h : c ∉ (escapeSequence colour.code).toList ∧ c ∉ (escapeSequence "39").toList) :
    (paint colour text).toList.count c = text.toList.count c := by
  rw [paint, String.toList_append, String.toList_append, List.count_append, List.count_append,
    List.count_eq_zero_of_not_mem h.1, List.count_eq_zero_of_not_mem h.2, Nat.zero_add, Nat.add_zero]

theorem count_indented (hmargin : c ∉ "\n          ".toList)
    (h : c ∉ (escapeSequence Colour.red.code).toList ∧ c ∉ (escapeSequence "39").toList)
    (lines : List (List Char)) : (indented lines).toList.count c = lines.flatten.count c := by
  rw [indented, String.toList_join]
  induction lines with
  | nil => rfl
  | cons line rest ih =>
    rw [List.map_cons, List.flatMap_cons, List.count_append, ih, String.toList_append, List.count_append,
      List.count_eq_zero_of_not_mem hmargin, count_paint _ _ h, String.toList_ofList, Nat.zero_add,
      List.flatten_cons, List.count_append]

theorem count_headline (elapsed : String) (count : UInt64) (description : String) :
    (headline elapsed count description).toList.count c =
      (headline elapsed count "").toList.count c + description.toList.count c := by
  simp only [headline, bold, paint, String.toList_append, List.count_append, String.toList_empty,
    List.count_nil]
  omega

theorem count_headline_append (elapsed : String) (count : UInt64) (description : String)
    (text : List Char) (h : c = '\x22' ∨ c = '\\') :
    (headline elapsed count description ++ indented (shownLines text) ++ "\n").toList.count c =
      (headline elapsed count "" ++ "\n").toList.count c + description.toList.count c + text.count c := by
  have hindented : (indented (shownLines text)).toList.count c = text.count c := by
    obtain rfl | rfl := h
    all_goals
      rw [count_indented (by decide) (by decide), shownLines, count_filter_blank (by decide),
        count_lines (by decide) (by decide)]
  rw [String.toList_append, String.toList_append, List.count_append, List.count_append, hindented,
    count_headline, String.toList_append, List.count_append]
  omega

end Count

/-! ## Printed failures -/

section Printed

variable (elapsed : String) (count : UInt64) (description text : String)

theorem print_failed :
    print elapsed (.failed count description text) =
      headline elapsed count (trimQuotes description) ++
        indented (shownLines (unescapeLineFeeds (trimQuotes text).toList)) ++ "\n" := by
  have hevent : (Event.failed count description text).text? "event" = some "assert_fail" := rfl
  have hconstraint : (Event.failed count description text).text? "constraint" =
      some (trimQuotes description) := rfl
  have hmessage : (Event.failed count description text).text? "message" = some (trimQuotes text) := rfl
  have hcount : (Event.failed count description text).number? "count" = count := rfl
  have hline : line elapsed (.failed count description text) = headline elapsed count
      (trimQuotes description) ++ messageLines (trimQuotes text) := by
    rw [line, hevent]
    show failLine elapsed (.failed count description text) = _
    rw [failLine, paintNumber, hconstraint, hmessage, hcount, Option.getD_some, Option.map_some,
      Option.getD_some, headline]
  refine print_of_line (Event.hasTarget_ofPart ..) hline ?_
  simp [headline, bold, escapeSequence]

/-- **A failed assertion is printed as it is** just if no quotation mark stands at an end of its
description or its text, and no backslash before an n in the text. -/
theorem print_failed_eq_faithful_iff :
    print elapsed (.failed count description text) = faithful elapsed count description text ↔
      Unquoted description ∧ Unquoted text ∧ ¬ ['\\', 'n'] <:+: text.toList := by
  rw [print_failed, faithful, ← trimQuotes_eq_self_iff, ← trimQuotes_eq_self_iff,
    ← unescapeLineFeeds_eq_self_iff]
  constructor
  · intro h
    -- what is lost is missing among the characters that are printed
    have hmarks := congrArg (fun printed => printed.toList.count '\x22') h
    have hbackslashes := congrArg (fun printed => printed.toList.count '\\') h
    simp only [count_headline_append _ _ _ _ (.inl rfl), count_headline_append _ _ _ _ (.inr rfl)]
      at hmarks hbackslashes
    rw [count_quotation_unescapeLineFeeds] at hmarks
    have hdescription := count_trimQuotes_le description
    have htext := count_trimQuotes_le text
    have htrimmed : trimQuotes text = text := (trimQuotes_eq_self_iff_count text).mpr (by omega)
    refine ⟨(trimQuotes_eq_self_iff_count description).mpr (by omega), htrimmed, ?_⟩
    rw [htrimmed, count_trimQuotes_of_ne description (by decide)] at hbackslashes
    obtain heq | hlt := unescapeLineFeeds_eq_self_or text.toList
    · exact heq
    · omega
  · rintro ⟨hdescription, htext, hescapes⟩
    rw [hdescription, htext, hescapes]

end Printed

end Console

/-! ## Failures of assertions -/

section Assertion

open Console

theorem unquoted_report (limits : RenderLimits) (f : Failure) (note : String) :
    Unquoted (f.report limits note) := by
  obtain ⟨front, hfront⟩ : ∃ front, (f.report limits note).toList = ' ' :: front := by
    rw [Failure.report, String.toList_append, Failure.lines, noteLine]
    split
    · simp [expectedLabel]
    · simp
  obtain ⟨back, hback⟩ : ∃ back, (f.report limits note).toList = back ++ ['\n'] := by
    rw [Failure.report, Failure.lines, ← String.append_assoc, String.toList_append]
    exact ⟨_, rfl⟩
  constructor
  · rw [hfront, List.head?_cons]
    decide
  · rw [hback, List.getLast?_concat]
    decide

variable {σ : Type} {host : Host σ} {settings : Settings} {actual : Actual σ} {goal : Goal}
  {message : Message} {counter : Counter} {s : σ} {text : String}

theorem logged_of_conclude_eq_failed {count : UInt64} {c : Constraint} {verdict : Verdict}
    (h : (conclude settings message count c verdict).1 = .error (.failed text)) :
    (conclude settings message count c verdict).2 = [.failed count c.display text] ∧ Unquoted text := by
  cases verdict with
  | pass => cases h
  | fail f =>
    rw [conclude] at h ⊢
    cases hrender : message.render with
    | error e =>
      rw [hrender] at h
      cases h
    | ok note =>
      rw [hrender] at h
      cases h
      exact ⟨rfl, unquoted_report ..⟩

theorem events_of_failed
    (h : (assertThat host settings actual goal message counter s).result = .error (.failed text)) :
    ∃ c, goal.resolve = .ok c ∧
      (assertThat host settings actual goal message counter s).events =
        goal.events ++ [.failed counter.increment.count (settings.prepare c).display text] ∧
      Unquoted text := by
  unfold assertThat at h ⊢
  cases hgoal : goal.resolve with
  | error e =>
    rw [hgoal] at h
    cases h
  | ok c =>
    rw [hgoal] at h
    obtain ⟨hlogged, htext⟩ := logged_of_conclude_eq_failed h
    exact ⟨c, rfl, congrArg (goal.events ++ ·) hlogged, htext⟩

/-- **A failed assertion** is printed with a headline that holds its description, and below it the lines of
its text that are not blank, except that both texts are read as if they were quoted and the text as if it
were escaped. This shows them as they are just if no quotation mark stands at their ends and no backslash
before an n in the text. Where an assertion rejects its value, it is logged with the description of its
constraint and the text of its error, which has no quotation marks at its ends. -/
theorem failure_shown_faithfully (elapsed : String) (count : UInt64) (description text : String)
    (host : Host σ) (settings : Settings) (actual : Actual σ) (goal : Goal) (message : Message)
    (counter : Counter) (s : σ) :
    let report := assertThat host settings actual goal message counter s
    (print elapsed (.failed count description text) =
        headline elapsed count (trimQuotes description) ++
          indented (shownLines (unescapeLineFeeds (trimQuotes text).toList)) ++ "\n" ∧
      (print elapsed (.failed count description text) = faithful elapsed count description text ↔
        Unquoted description ∧ Unquoted text ∧ ¬ ['\\', 'n'] <:+: text.toList)) ∧
    (report.result = .error (.failed text) → ∃ c, goal.resolve = .ok c ∧
      let n := counter.increment.count
      let shown := (settings.prepare c).display
      report.events = goal.events ++ [.failed n shown text] ∧
      (print elapsed (.failed n shown text) = faithful elapsed n shown text ↔
        Unquoted shown ∧ ¬ ['\\', 'n'] <:+: text.toList)) := by
  intro report
  refine ⟨⟨print_failed .., print_failed_eq_faithful_iff ..⟩, fun hfailed => ?_⟩
  obtain ⟨c, hgoal, hevents, htext⟩ := events_of_failed hfailed
  refine ⟨c, hgoal, hevents, ?_⟩
  rw [print_failed_eq_faithful_iff, and_iff_right htext]

/-- A rejection whose description holds quotation marks, but not at its ends. -/
theorem failure_shown_faithfully_within :
    let goal : Goal := .constraint (.or (.not (.equal (.text ⟨1, "a"⟩) none false)) .isNull)
    let text := "  Expected: not \"a\" or null\n  But was:  \"a\"\n"
    let report := assertThat Host.silent .default (.value (.text ⟨2, "a"⟩)) goal .none .zero ()
    let event := Event.failed 1 "not \"a\" or null" text
    report.result = .error (.failed text) ∧ report.events = [event] ∧
    print "0.5s" event = faithful "0.5s" 1 "not \"a\" or null" text := by
  intro goal text report event
  have hfailed : report.result = .error (.failed text) := by decide +kernel
  obtain ⟨-, hreport⟩ := failure_shown_faithfully "0.5s" 1 "" text Host.silent .default
    (.value (.text ⟨2, "a"⟩)) goal .none .zero ()
  obtain ⟨c, hgoal, hevents, hiff⟩ := hreport hfailed
  obtain rfl := Except.ok.inj hgoal
  have hdescription : (Settings.default.prepare
      (.or (.not (.equal (.text ⟨1, "a"⟩) none false)) .isNull)).display = "not \"a\" or null" := by
    decide +kernel
  rw [hdescription] at hevents hiff
  exact ⟨hfailed, hevents, hiff.mpr ⟨⟨by decide +kernel, by decide +kernel⟩, by decide +kernel⟩⟩

/-- A rejection whose description is a quoted text, and whose text holds a backslash before an n: the
headline does not hold the description, and a line of the text is broken in two. -/
theorem description_shown_without_quotation_marks :
    let c : Constraint := .equal (.text ⟨1, "abc"⟩) none false
    let report := assertThat Host.silent .default (.value (.text ⟨2, "a\\nb"⟩)) (.constraint c) .none .zero ()
    let text := "  Expected: \"abc\"\n  But was:  \"a\\nb\"\n"
    let event := Event.failed 1 "\"abc\"" text
    let shown := headline "  0.000s" 1 "abc"
    (report.result = .error (.failed text) ∧ c.display = "\"abc\"" ∧ report.events = [event]) ∧
    print "  0.000s" event =
      shown ++ indented ["  Expected: \"abc\"".toList, "  But was:  \"a".toList, "b\"".toList] ++ "\n" ∧
    ¬ "\"abc\"".toList <:+: shown.toList ∧
    print "  0.000s" event ≠ faithful "  0.000s" 1 "\"abc\"" text := by
  intro c report text event shown
  have hdescription : trimQuotes "\"abc\"" = "abc" := by decide +kernel
  have hlines : shownLines (unescapeLineFeeds (trimQuotes text).toList) =
      ["  Expected: \"abc\"".toList, "  But was:  \"a".toList, "b\"".toList] := by
    decide +kernel
  have hprinted : print "  0.000s" event = _ := print_failed ..
  rw [hdescription, hlines] at hprinted
  refine ⟨⟨by decide +kernel, by decide +kernel, by decide +kernel⟩, hprinted, fun hinfix => ?_,
    fun hfaithful => ?_⟩
  · -- no quotation mark is left in the headline
    have hmark : '\x22' ∈ shown.toList := hinfix.subset (by decide)
    simp only [shown, headline, timestamp, bold, paint, escapeSequence, String.toList_append] at hmark
    revert hmark
    decide +kernel
  · obtain ⟨hfront, -⟩ := ((print_failed_eq_faithful_iff ..).mp hfaithful).1
    exact hfront (by decide +kernel)

end Assertion

end Expectation
