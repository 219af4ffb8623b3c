import Expectation.Configuration.Basic
import Expectation.Proofs.Configuration.Document
import Expectation.Proofs.Value.Fallback

/-!
# Loading documents

The same document leads to the same configuration in both languages, or is refused for the same reason.

* `InRange`, `validated_eq_ok_iff`, `of_validated_eq_ok`: the tolerances that are in range, and that loaded
  ones are;
* `Document.Outcome`, `Document.outcome_validated`: what loading a document leads to;
* **`ofText_of_written`**: the outcome is that in both languages, and only configurations that are in range
  are loaded.
-/

namespace Expectation.Configuration

variable {c : Configuration} {d : Document} {x : Binary64}

/-! ## Ranges -/

/-- A tolerance is in range when it is finite and not negative. -/
def InRange (x : Binary64) : Prop := x.isFinite = true ∧ 0 ≤ x.value

theorem validTolerance_iff : validTolerance x = true ↔ InRange x := by
  rw [validTolerance, Bool.and_eq_true, Bool.not_eq_true']
  refine and_congr_right fun hfinite => ?_
  have hnan := Binary64.isNaN_of_isFinite hfinite
  have hzero : (Binary64.zero false).isNaN = false := by decide
  have hvalue := x.natCast_le_value_iff hnan 0
  rw [Nat.cast_zero, zero_mul, and_iff_left (Nat.zero_le _)] at hvalue
  rw [hvalue, Binary64.le, Binary64.lt, hnan, hzero]
  simp

theorem filter_validTolerance (h : ∀ x ∈ c.defaultTolerance, InRange x) :
    c.defaultTolerance.filter (!validTolerance ·) = none := by
  rw [Option.filter_eq_none_iff]
  intro x hx
  simpa using validTolerance_iff.mpr (h x hx)

theorem validate_of_not_inRange (h : c.defaultTolerance = some x) (hx : ¬ InRange x) :
    c.validate = .error (.invalid
      ("default_tolerance must be a finite, non-negative number, got " ++ x.text .plain)) := by
  have hinvalid : validTolerance x = false := by
    rwa [← Bool.not_eq_true, validTolerance_iff]
  have hfilter : c.defaultTolerance.filter (!validTolerance ·) = some x := by simp [h, hinvalid]
  rw [validate, hfilter]

/-- What loading the document leads to: the default configuration with its entries replaced, unless the
tolerance or the filter is out of range, of which the tolerance comes first. -/
inductive Document.Outcome (d : Document) : Except ConfigurationError Configuration → Prop
  | loaded (htolerance : ∀ v ∈ d.tolerance, InRange v.value)
      (hfilter : Text.isBlank d.configuration.filter.toList = false) : Outcome d (.ok d.configuration)
  | tolerance {v : Amount} (h : d.tolerance = some v) (hv : ¬ InRange v.value) :
      Outcome d (.error (.invalid
        ("default_tolerance must be a finite, non-negative number, got " ++ v.value.text .plain)))
  | filter (htolerance : ∀ v ∈ d.tolerance, InRange v.value)
      (hfilter : Text.isBlank d.configuration.filter.toList = true) :
      Outcome d (.error (.invalid "console.filter must not be empty"))

theorem validated_eq_ok_iff {loaded : Configuration} :
    c.validated = .ok loaded ↔ c.validate = .ok () ∧ c = loaded := by
  rw [validated]
  cases c.validate with
  | error e => exact ⟨nofun, fun h => nomatch h.1⟩
  | ok u => exact ⟨fun h => ⟨rfl, Except.ok.inj h⟩, fun h => congrArg Except.ok h.2⟩

theorem of_validated_eq_ok {loaded : Configuration} (h : c.validated = .ok loaded) :
    loaded.validate = .ok () ∧ ∀ x ∈ loaded.settings.defaultTolerance, InRange x := by
  obtain ⟨hvalid, rfl⟩ := validated_eq_ok_iff.mp h
  refine ⟨hvalid, fun x hx => ?_⟩
  by_contra hrange
  rw [validate_of_not_inRange hx hrange] at hvalid
  cases hvalid

theorem Document.defaultTolerance_configuration :
    d.configuration.defaultTolerance = d.tolerance.map Amount.value := by
  obtain ⟨_ | v, _ | ⟨_ | length, _ | items⟩, _ | _ | filter⟩ := d <;> rfl

/-- **A document leads** to its configuration or to what is out of range in it. -/
theorem Document.outcome_validated (d : Document) : d.Outcome d.configuration.validated := by
  have htolerances := d.defaultTolerance_configuration
  by_cases htolerance : ∀ v ∈ d.tolerance, InRange v.value
  · have hrange : ∀ x ∈ d.configuration.defaultTolerance, InRange x := by
      rw [htolerances]
      intro x hx
      obtain ⟨v, hv, rfl⟩ := Option.map_eq_some_iff.mp hx
      exact htolerance v hv
    rw [validated, validate, filter_validTolerance hrange]
    cases hfilter : Text.isBlank d.configuration.filter.toList with
    | false => exact .loaded htolerance hfilter
    | true => exact .filter htolerance hfilter
  · simp only [not_forall] at htolerance
    obtain ⟨v, hv, hrange⟩ := htolerance
    have hx : d.configuration.defaultTolerance = some v.value := by rw [htolerances, hv, Option.map_some]
    rw [validated, validate_of_not_inRange hx hrange]
    exact .tolerance hv hrange

/-! ## Loading -/

/-- **Loading a document** leads to its outcome, in whatever language it is written, if the parser follows the
standards of the languages; and with every parser, what is loaded from any text is in range. -/
theorem ofText_of_written {parse : Parser} {standard : Standard} (hparse : parse.Follows standard) :
    (∀ d : Document, ∃ outcome, d.Outcome outcome ∧
      ∀ (language : Language) (text : String), standard language d text →
        ofText parse language text = outcome) ∧
    ∀ (parse : Parser) (language : Language) (text : String) (c : Configuration),
      ofText parse language text = .ok c →
        c.validate = .ok () ∧ ∀ x ∈ c.settings.defaultTolerance, x.isFinite = true ∧ 0 ≤ x.value := by
  refine ⟨fun d => ⟨_, d.outcome_validated, fun language text hwritten => ?_⟩, ?_⟩
  · obtain ⟨node, hnode, hpresents⟩ := hparse language d text hwritten
    rw [ofText, hnode, Option.bind_some, ofNode?_of_presents hpresents]
  · intro parse language text c h
    rw [ofText] at h
    split at h
    next read hread => exact of_validated_eq_ok h
    next => cases h

/-- The program's parser on a document without one of its entries, which two texts hold among entries of other
names. -/
theorem ofText_of_written_partial :
    let d : Document := ⟨some (.integer 2), some ⟨none, some 3⟩, some (some "info")⟩
    let inToml := "default_tolerance = 2 # two\n[render]\nmax_items = 3\n[a.b]\nx = 1\n[console]\nfilter = \"info\""
    let inYaml := "a: 3\nconsole:\n  filter: info\ndefault_tolerance: 2\nrender: \x7bmax_items: 3\x7d"
    let standard : Standard := fun language document text =>
      document = d ∧ text = match language with | .toml => inToml | .yaml => inYaml
    Language.parse.Follows standard ∧
    ∃ outcome, d.Outcome outcome ∧ load .toml inToml = outcome ∧ load .yaml inYaml = outcome := by
  intro d inToml inYaml standard
  have hparse : Language.parse.Follows standard := by
    rintro language _ _ ⟨rfl, rfl⟩
    cases language with
    | toml =>
      refine ⟨.table [("default_tolerance", .scalar (.ofInteger 2)),
        ("render", .table [("max_items", .scalar (.ofInteger 3))]),
        ("a", .table [("b", .table [("x", .scalar (.ofInteger 1))])]),
        ("console", .table [("filter", .scalar (.ofText "info"))])], by decide +kernel, ?_⟩
      exact ⟨_, .table (by decide), .some ⟨_, rfl, rfl, rfl⟩,
        .some ⟨_, .table (by decide), .none, .some ⟨_, rfl, rfl⟩⟩,
        .some ⟨_, .table (by decide), .some ⟨_, rfl, rfl⟩⟩⟩
    | yaml =>
      have hnumber : (Yaml.plainScalar ['2']).number = some (.ofInt 2) := by decide +kernel
      refine ⟨.table [("a", .scalar (Yaml.plainScalar ['3'])),
        ("console", .table [("filter", .scalar (Yaml.plainScalar "info".toList))]),
        ("default_tolerance", .scalar (Yaml.plainScalar ['2'])),
        ("render", .table [("max_items", .scalar (Yaml.plainScalar ['3']))])], by decide +kernel, ?_⟩
      exact ⟨_, .table (by decide), .some ⟨_, rfl, by decide, hnumber⟩,
        .some ⟨_, .table (by decide), .none, .some ⟨_, rfl, by decide⟩⟩,
        .some ⟨_, .table (by decide), .some ⟨_, rfl, by decide⟩⟩⟩
  obtain ⟨outcome, houtcome, hload⟩ := (ofText_of_written hparse).1 d
  exact ⟨hparse, outcome, houtcome, hload .toml inToml ⟨rfl, rfl⟩, hload .yaml inYaml ⟨rfl, rfl⟩⟩

end Expectation.Configuration
