import Mathlib.Data.List.Infix
import Expectation.Assertion.Basic
import Expectation.Proofs.Console.Printing

/-!
# Signals on the console

The console shows each kind of signal in a colour of its own. It reads the kind off the heading of the text,
and the text of a plain failure, which has no heading, may begin with that of another kind.

* `Signal.colour`, `Signal.colour_injective`: the colours of the kinds;
* `Signal.HasHeading`, `Signal.taken`: the heading of a kind, and the kind that a text is taken for;
* `Signal.apparent`, `Signal.taken_trimQuotes_display`: the kind that a signal is taken for;
* `Console.print_signalled`: the printed line;
* **`signal_shown_in_colour`**: where a signal is shown in the colour of its kind;
* `failure_shown_as_pass`: a failure that is not.
-/

namespace Expectation

/-! ## Headings -/

theorem beforeColon_eq_iff (text : List Char) {heading : List Char} (hne : heading ≠ [])
    (hcolon : ':' ∉ heading) :
    (if text.contains ':' then String.ofList (text.takeWhile (· ≠ ':')) else "") = String.ofList heading ↔
      heading ++ [':'] <+: text := by
  constructor
  · intro h
    split at h
    · rename_i hcontains
      have hbefore : text.takeWhile (· ≠ ':') = heading := String.ofList_injective h
      obtain ⟨rest, hrest⟩ : ∃ rest, text.dropWhile (· ≠ ':') = ':' :: rest := by
        cases hdrop : text.dropWhile (· ≠ ':') with
        | nil =>
          have hall := List.dropWhile_eq_nil_iff.mp hdrop ':' (List.contains_iff_mem.mp hcontains)
          simp at hall
        | cons c rest =>
          have hhead := List.head?_dropWhile_not (· ≠ ':') text
          rw [hdrop] at hhead
          simp at hhead
          exact ⟨rest, by rw [hhead]⟩
      refine ⟨rest, ?_⟩
      rw [List.append_assoc, List.singleton_append, ← hrest, ← hbefore, List.takeWhile_append_dropWhile]
    · exact absurd (String.ofList_injective h).symm hne
  · rintro ⟨rest, rfl⟩
    have hbefore : ∀ c ∈ heading, decide (c ≠ ':') = true := fun c hc =>
      decide_eq_true fun heq => hcolon (heq ▸ hc)
    rw [List.append_assoc, List.takeWhile_append_of_pos hbefore]
    simp

namespace Signal

/-- The colour that tells a kind of signal. -/
def colour : Signal → Console.Colour
  | pass => .brightGreen
  | fail => .brightRed
  | ignore => .yellow
  | inconclusive => .brightMagenta

theorem colour_injective : Function.Injective colour := by
  intro s t
  cases s <;> cases t <;> decide

/-- What stands before the colon of a signal's text. A plain failure has no such heading. -/
def heading : Signal → String
  | pass => "Test passed"
  | fail => ""
  | ignore => "Test ignored"
  | inconclusive => "Test inconclusive"

/-- The text begins with the heading of the signal. -/
def HasHeading (s : Signal) (text : List Char) : Prop := s.heading.toList ++ [':'] <+: text

instance (s : Signal) (text : List Char) : Decidable (s.HasHeading text) :=
  inferInstanceAs (Decidable (_ <+: _))

/-- The kind of signal that a text is taken for. -/
def taken (text : List Char) : Signal :=
  if pass.HasHeading text then pass
  else if ignore.HasHeading text then ignore
  else if inconclusive.HasHeading text then inconclusive
  else fail

/-- The kind that a signal with the text is taken for. -/
def apparent (s : Signal) (text : String) : Signal :=
  if s = fail then taken (text.toList.dropWhile (· = '\x22')) else s

variable {s t : Signal} {text : List Char}

theorem HasHeading.eq (hs : s ≠ fail) (ht : t ≠ fail) (h : s.HasHeading text) (h' : t.HasHeading text) :
    s = t := by
  have hprefix : s.heading.toList ++ [':'] <+: t.heading.toList ++ [':'] ∨
      t.heading.toList ++ [':'] <+: s.heading.toList ++ [':'] :=
    List.prefix_or_prefix_of_prefix h h'
  revert hs ht hprefix
  cases s <;> cases t <;> decide

theorem taken_eq_iff (hs : s ≠ fail) : taken text = s ↔ s.HasHeading text := by
  constructor
  · rintro rfl
    unfold taken at hs ⊢
    split_ifs at hs ⊢ with hpass hignore hinconclusive
    · exact hpass
    · exact hignore
    · exact hinconclusive
    · exact absurd rfl hs
  · intro h
    unfold taken
    split_ifs with hpass hignore hinconclusive
    · exact hpass.eq (by decide) hs h
    · exact hignore.eq (by decide) hs h
    · exact hinconclusive.eq (by decide) hs h
    · cases s with
      | pass => exact absurd h hpass
      | fail => exact absurd rfl hs
      | ignore => exact absurd h hignore
      | inconclusive => exact absurd h hinconclusive

theorem taken_eq_fail_iff : taken text = fail ↔ ∀ s, s ≠ fail → ¬ s.HasHeading text := by
  constructor
  · intro h s hs hheading
    exact hs ((taken_eq_iff hs).mpr hheading ▸ h)
  · intro h
    by_contra hs
    exact h _ hs ((taken_eq_iff hs).mp rfl)

theorem hasHeading_trimQuotes_iff (s : Signal) (text : String) :
    s.HasHeading (trimQuotes text).toList ↔ s.HasHeading (text.toList.dropWhile (· = '\x22')) := by
  rw [toList_trimQuotes, HasHeading, HasHeading]
  refine ⟨fun h => h.trans (List.rdropWhile_prefix _ _), fun h => ?_⟩
  generalize text.toList.dropWhile (· = '\x22') = marked at h ⊢
  induction marked using List.reverseRecOn with
  | nil => exact h
  | append_singleton front c ih =>
    rw [List.rdropWhile_concat]
    split
    · rename_i hmark
      obtain rfl := of_decide_eq_true hmark
      obtain heq | hfront := List.prefix_concat_iff.mp h
      · exact absurd (List.append_inj_right' heq rfl) (by decide)
      · exact ih hfront
    · exact h

theorem taken_trimQuotes (text : String) :
    taken (trimQuotes text).toList = taken (text.toList.dropWhile (· = '\x22')) := by
  simp only [taken, hasHeading_trimQuotes_iff]

theorem toList_display {s : Signal} (hs : s ≠ fail) (text : String) :
    (s.error text).display.toList = s.heading.toList ++ [':'] ++ ' ' :: text.toList := by
  cases s with
  | fail => exact absurd rfl hs
  | pass | ignore | inconclusive => exact String.toList_append

/-- **The kind that is read off** the text of a signal is its own, unless it is a plain failure. -/
theorem taken_trimQuotes_display (s : Signal) (text : String) :
    taken (trimQuotes (s.error text).display).toList = s.apparent text := by
  rw [taken_trimQuotes, apparent]
  split
  · rename_i hs
    rw [hs]
    rfl
  · rename_i hs
    rw [taken_eq_iff hs, toList_display hs]
    have hletter : ∃ rest, s.heading.toList ++ [':'] ++ ' ' :: text.toList = 'T' :: rest := by
      cases s with
      | fail => exact absurd rfl hs
      | pass | ignore | inconclusive => exact ⟨_, rfl⟩
    obtain ⟨rest, hrest⟩ := hletter
    rw [hrest, List.dropWhile_cons_of_neg (by decide), ← hrest]
    exact List.prefix_append _ _

theorem apparent_eq_self_iff (s : Signal) (text : String) :
    s.apparent text = s ↔ (s = fail → ∀ other, other ≠ fail →
      ¬ other.HasHeading (text.toList.dropWhile (· = '\x22'))) := by
  rw [apparent]
  split
  · rename_i hs
    rw [hs, taken_eq_fail_iff]
    exact ⟨fun h _ => h, fun h => h rfl⟩
  · rename_i hs
    exact iff_of_true rfl fun h => absurd h hs

end Signal

/-! ## Printed signals -/

namespace Console

/-- The line of a signal in a colour. -/
def signalIn (elapsed : String) (colour : Colour) (text : String) : String :=
  timestamp elapsed ++ " " ++ paint colour "■" ++ " " ++ paint colour text

theorem signalColour_eq (text : String) : signalColour text = (Signal.taken text.toList).colour := by
  have hkind (s : Signal) (hne : s.heading.toList ≠ []) (hcolon : ':' ∉ s.heading.toList) :=
    beforeColon_eq_iff text.toList hne hcolon
  have hpass := hkind .pass (by decide) (by decide)
  have hignore := hkind .ignore (by decide) (by decide)
  have hinconclusive := hkind .inconclusive (by decide) (by decide)
  rw [String.ofList_toList] at hpass hignore hinconclusive
  rw [Signal.taken, apply_ite Signal.colour, apply_ite Signal.colour, apply_ite Signal.colour]
  exact if_congr hpass rfl (if_congr hignore rfl (if_congr hinconclusive rfl rfl))

theorem print_signalled (elapsed text : String) :
    print elapsed (.signalled text) =
      signalIn elapsed (Signal.taken (trimQuotes text).toList).colour (trimQuotes text) ++ "\n" := by
  have hevent : (Event.signalled text).text? "event" = some "assert_signal" := rfl
  have hsignal : (Event.signalled text).text? "signal" = some (trimQuotes text) := rfl
  have hline : line elapsed (.signalled text) =
      signalIn elapsed (Signal.taken (trimQuotes text).toList).colour (trimQuotes text) := by
    rw [line, hevent]
    show signalLine elapsed (.signalled text) = _
    rw [signalLine, hsignal, Option.getD_some, signalColour_eq]
    rfl
  refine print_of_line (Event.hasTarget_ofPart ..) hline ?_
  simp [signalIn, paint, escapeSequence]

end Console

/-- **A signal is shown in the colour of its kind** whatever its text, except for a plain failure whose text,
quotation marks at its beginning aside, begins with the heading of another kind. Such a failure is shown in
the colour of that kind. No two kinds have the same colour. -/
theorem signal_shown_in_colour (elapsed : String) (signal : Signal) {message : Message} {text : String}
    (h : message.render = .ok text) :
    (∃ event, (signal.raise message).2 = [event] ∧
      Console.print elapsed event =
        Console.signalIn elapsed (signal.apparent text).colour
          (trimQuotes (signal.error text).display) ++ "\n") ∧
    ((signal.apparent text).colour = signal.colour ↔
      (signal = .fail → ∀ other : Signal, other ≠ .fail →
        ¬ other.HasHeading (text.toList.dropWhile (· = '\x22')))) ∧
    Function.Injective Signal.colour := by
  have hevents : (signal.raise message).2 = [.signalled (signal.error text).display] := by
    rw [Signal.raise, h]
  refine ⟨⟨_, hevents, ?_⟩, ?_, Signal.colour_injective⟩
  · rw [Console.print_signalled, Signal.taken_trimQuotes_display]
  · rw [Signal.colour_injective.eq_iff, Signal.apparent_eq_self_iff]

/-- A failure whose text mentions the heading of another kind, but does not begin with it. -/
theorem signal_shown_in_colour_red :
    let message : Message := ⟨some "\"{0}\": Test passed: no", [.text ⟨1, "login"⟩]⟩
    let text := "\"login\": Test passed: no"
    message.render = .ok text ∧
    (∃ event, (Signal.fail.raise message).2 = [event] ∧
      Console.print "0.5s" event =
        Console.signalIn "0.5s" .brightRed "login\": Test passed: no" ++ "\n") := by
  intro message text
  have hrender : message.render = .ok text := by decide +kernel
  obtain ⟨⟨event, hevents, hprinted⟩, -, -⟩ := signal_shown_in_colour "0.5s" .fail hrender
  have happarent : Signal.fail.apparent text = .fail := by decide +kernel
  have htrimmed : trimQuotes (Signal.fail.error text).display = "login\": Test passed: no" := by
    decide +kernel
  rw [happarent, htrimmed] at hprinted
  exact ⟨hrender, event, hevents, hprinted⟩

/-- A failure that is logged and shown just like a test that passed. -/
theorem failure_shown_as_pass :
    let message := Message.ofText "Test passed: all checks"
    let event := Event.signalled "Test passed: all checks"
    (message.render = .ok "Test passed: all checks" ∧
      Signal.fail.raise message = (.failed "Test passed: all checks", [event]) ∧
      (Signal.pass.raise (.ofText "all checks")).2 = [event]) ∧
    Console.print "  0.000s" event =
      Console.signalIn "  0.000s" Signal.pass.colour "Test passed: all checks" ++ "\n" ∧
    Console.print "  0.000s" event ≠
      Console.signalIn "  0.000s" Signal.fail.colour "Test passed: all checks" ++ "\n" := by
  intro message event
  have htrimmed : trimQuotes "Test passed: all checks" = "Test passed: all checks" := by decide +kernel
  have htaken : Signal.taken "Test passed: all checks".toList = .pass := by decide +kernel
  have hprinted : Console.print "  0.000s" event =
      Console.signalIn "  0.000s" Signal.pass.colour "Test passed: all checks" ++ "\n" := by
    rw [Console.print_signalled, htrimmed, htaken]
  refine ⟨⟨rfl, rfl, by decide +kernel⟩, hprinted, ?_⟩
  rw [hprinted]
  decide +kernel

end Expectation
