import Mathlib.Data.List.DropRight
import Expectation.Console.Line

/-!
# Printing on the console

What the console does to each event: it takes the quotation marks off the ends of a text that it is shown,
whether they belong to the text or not, and prints a line that is not empty.

* `Unquoted`: a text without quotation marks at its ends;
* `exists_quotation_marks`: what is taken off;
* `trimQuotes_eq_self_iff`, `trimQuotes_eq_self_iff_count`: the texts that stay as they are;
* `Console.print_of_line`: the printed line.
-/

namespace Expectation

/-! ## Quotation marks -/

section Marks

/-- The text has no quotation mark at either end. -/
def Unquoted (text : String) : Prop :=
  text.toList.head? ≠ some '\x22' ∧ text.toList.getLast? ≠ some '\x22'

variable (text : String)

theorem toList_trimQuotes :
    (trimQuotes text).toList = (text.toList.dropWhile (· = '\x22')).rdropWhile (· = '\x22') :=
  String.toList_ofList

theorem exists_quotation_marks : ∃ m n,
    text.toList = List.replicate m '\x22' ++ (trimQuotes text).toList ++ List.replicate n '\x22' := by
  have hmarks (marks : List Char) (h : ∀ c ∈ marks, decide (c = '\x22') = true) :
      marks = List.replicate marks.length '\x22' :=
    List.eq_replicate_of_mem fun c hc => of_decide_eq_true (h c hc)
  have hfront := hmarks _ fun _ => List.mem_takeWhile_imp (p := (· = '\x22')) (l := text.toList)
  have hback := hmarks _ fun _ => List.mem_rtakeWhile_imp (p := (· = '\x22'))
    (l := text.toList.dropWhile (· = '\x22'))
  refine ⟨(text.toList.takeWhile (· = '\x22')).length,
    ((text.toList.dropWhile (· = '\x22')).rtakeWhile (· = '\x22')).length, ?_⟩
  rw [← hfront, ← hback, toList_trimQuotes, List.append_assoc, List.rdropWhile_append_rtakeWhile,
    List.takeWhile_append_dropWhile]

theorem count_trimQuotes_of_ne {c : Char} (h : c ≠ '\x22') :
    (trimQuotes text).toList.count c = text.toList.count c := by
  obtain ⟨m, n, hmarks⟩ := exists_quotation_marks text
  rw [hmarks, List.count_append, List.count_append, List.count_replicate, List.count_replicate]
  simp [h.symm]

theorem count_trimQuotes_le :
    (trimQuotes text).toList.count '\x22' ≤ text.toList.count '\x22' := by
  obtain ⟨m, n, hmarks⟩ := exists_quotation_marks text
  rw [hmarks, List.count_append, List.count_append]
  omega

theorem trimQuotes_eq_self_iff_count :
    trimQuotes text = text ↔ (trimQuotes text).toList.count '\x22' = text.toList.count '\x22' := by
  refine ⟨fun h => by rw [h], fun h => ?_⟩
  obtain ⟨m, n, hmarks⟩ := exists_quotation_marks text
  have hcount := congrArg (List.count '\x22') hmarks
  rw [List.count_append, List.count_append, List.count_replicate_self, List.count_replicate_self] at hcount
  obtain ⟨rfl, rfl⟩ : m = 0 ∧ n = 0 := by omega
  rw [← String.toList_inj, hmarks]
  simp

theorem trimQuotes_eq_self_iff : trimQuotes text = text ↔ Unquoted text := by
  have hhead : text.toList.dropWhile (· = '\x22') = text.toList ↔ text.toList.head? ≠ some '\x22' := by
    rw [List.dropWhile_eq_self_iff]
    cases text.toList <;> simp
  have hlast : text.toList.rdropWhile (· = '\x22') = text.toList ↔
      text.toList.getLast? ≠ some '\x22' := by
    rw [List.rdropWhile_eq_self_iff]
    refine ⟨fun h hmark => ?_, fun h hne hmark => ?_⟩
    · have hne : text.toList ≠ [] := fun hnil => by simp [hnil] at hmark
      exact h hne (decide_eq_true ((List.getLast_eq_iff_getLast?_eq_some hne).mpr hmark))
    · exact h ((List.getLast_eq_iff_getLast?_eq_some hne).mp (of_decide_eq_true hmark))
  rw [← String.toList_inj, toList_trimQuotes, Unquoted, ← hhead, ← hlast]
  constructor
  · intro h
    have hle := (List.rdropWhile_prefix (· = '\x22') (text.toList.dropWhile (· = '\x22'))).length_le
    rw [h] at hle
    have hfront := (List.dropWhile_sublist (· = '\x22')).eq_of_length_le hle
    exact ⟨hfront, by rw [hfront] at h; exact h⟩
  · rintro ⟨hfront, hback⟩
    rw [hfront, hback]

end Marks

/-! ## Lines -/

theorem Event.hasTarget_ofPart (level : Level) (part name : String)
    (fields : List (String × FieldValue)) :
    (ofPart level part name fields).hasTarget "assertforge" = true := by
  rw [hasTarget, ofPart, String.toList_append]
  rfl

theorem Console.print_of_line {elapsed shown : String} {e : Event}
    (htarget : e.hasTarget "assertforge" = true) (h : line elapsed e = shown) (hne : shown ≠ "") :
    print elapsed e = shown ++ "\n" := by
  have hempty : shown.isEmpty = false := by
    rw [Bool.eq_false_iff, ne_eq, String.isEmpty_iff]
    exact hne
  rw [print, htarget, h, hempty]
  rfl

end Expectation
