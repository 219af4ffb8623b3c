import Expectation.Proofs.Value.Equality
import Expectation.Value.Render

/-!
# Truncation of values

Rendering a value within limits is cutting its texts and lists, at every depth, and rendering what is left
without limits.

* `RenderLimits.off`, `RenderLimits.Exceeds`: no limits, and numbers over a limit;
* `Value.truncate`: the value with its texts and lists cut;
* `render_list`: the shown items of a list in their order;
* **`render_truncate`**: rendering what is left;
* `Value.Part`, `Value.Fits`: what a value is made of, and parts within the limits;
* `truncate_of_fits`, `length_le_of_part_truncate`: values that are left as they are, and the texts that are
  left.
-/

namespace Expectation

namespace RenderLimits

/-- Whole texts and whole lists. -/
def off : RenderLimits := ⟨0, 0⟩

/-- The number is over the limit. Zero is no limit. -/
def Exceeds (limit n : Nat) : Prop := 0 < limit ∧ limit < n

instance (limit n : Nat) : Decidable (Exceeds limit n) := inferInstanceAs (Decidable (_ ∧ _))

theorem not_exceeds_zero (n : Nat) : ¬ Exceeds 0 n := fun h => lt_irrefl 0 h.1

theorem not_exceeds_of_le {limit n : Nat} (h : n ≤ limit) : ¬ Exceeds limit n :=
  fun hover => h.not_gt hover.2

end RenderLimits

open RenderLimits

/-! ## Cutting -/

/-- A text that is over the limit keeps its first characters, three fewer than the limit, before dots. -/
def cutText (limit : Nat) (text : String) : String :=
  if Exceeds limit text.length then String.ofList (text.toList.take (limit - 3) ++ ['.', '.', '.']) else text

namespace Value

/-- What stands for the items that are left out. -/
def dots : Value := .object ⟨0, "...", "...", "..."⟩

/-- A list that is over the limit keeps its first items, before dots. -/
def cutItems (limit : Nat) (items : List Value) : List Value :=
  if Exceeds limit items.length then items.take limit ++ [dots] else items

mutual

/-- The value with its texts and lists cut, at every depth. -/
def truncate (limits : RenderLimits) : Value → Value
  | text t => text ⟨t.address, cutText limits.maxTextLength t.content⟩
  | list items => list (cutItems limits.maxItems (truncateAll limits items))
  | v => v

/-- Every item with its texts and lists cut. -/
def truncateAll (limits : RenderLimits) : List Value → List Value
  | [] => []
  | v :: rest => truncate limits v :: truncateAll limits rest

end

theorem truncateAll_eq_map (limits : RenderLimits) (items : List Value) :
    truncateAll limits items = items.map (truncate limits) := by
  induction items with
  | nil => rfl
  | cons v rest ih => rw [truncateAll, ih, List.map_cons]

end Value

/-! ## Rendering -/

section Rendering

variable (limits : RenderLimits)

theorem RenderLimits.clip_eq (text : String) : limits.clip text = cutText limits.maxTextLength text := by
  have hguard : (limits.maxTextLength = 0 ∨ text.length ≤ limits.maxTextLength) ↔
      ¬ Exceeds limits.maxTextLength text.length := by
    rw [Exceeds]
    omega
  rw [clip, cutText]
  by_cases h : Exceeds limits.maxTextLength text.length
  · rw [if_neg (fun hc => hguard.mp hc h), if_pos h, String.ofList_append]
  · rw [if_pos (hguard.mpr h), if_neg h]

namespace Value

theorem renderFirst_eq (count : Nat) (items : List Value) :
    renderFirst limits count items = (items.take count).map (render limits) := by
  induction items generalizing count with
  | nil => rw [renderFirst, List.take_nil, List.map_nil]
  | cons v rest ih =>
    cases count with
    | zero => rfl
    | succ count =>
      rw [renderFirst, if_neg count.succ_ne_zero, Nat.add_sub_cancel, ih, List.take_succ_cons, List.map_cons]

/-- **The items of a list** are shown in their order: the first ones before dots if the list is over the
limit, and all of them otherwise. -/
theorem render_list {items : List Value} (h : items ≠ []) :
    (list items).render limits =
      "< " ++ commaSeparated
        (if Exceeds limits.maxItems items.length then
          (items.take limits.maxItems).map (render limits) ++ ["..."]
        else items.map (render limits)) ++ " >" := by
  rw [render, if_neg (mt List.isEmpty_iff.mp h)]
  simp only [renderFirst_eq]
  by_cases hover : Exceeds limits.maxItems items.length
  · obtain ⟨hpos, hlt⟩ := hover
    have hshown : limits.shownItems items.length = limits.maxItems := by
      rw [shownItems, if_neg hpos.ne', Nat.min_eq_left hlt.le]
    rw [hshown, if_pos hlt, if_pos ⟨hpos, hlt⟩]
  · have hshown : limits.shownItems items.length = items.length := by
      rw [Exceeds] at hover
      unfold shownItems
      split <;> omega
    rw [hshown, if_neg (lt_irrefl _), if_neg hover, List.take_length]

theorem render_list_off {items : List Value} (h : items ≠ []) :
    (list items).render .off = "< " ++ commaSeparated (items.map (render .off)) ++ " >" := by
  have hoff : ¬ Exceeds off.maxItems items.length := not_exceeds_zero _
  rw [render_list .off h, if_neg hoff]

theorem cutItems_nil (limit : Nat) : cutItems limit [] = [] := if_neg (not_exceeds_of_le limit.zero_le)

theorem cutItems_ne_nil {limit : Nat} {items : List Value} (h : items ≠ []) :
    cutItems limit items ≠ [] := by
  rw [cutItems]
  split
  · exact List.append_ne_nil_of_right_ne_nil _ (List.cons_ne_nil _ _)
  · exact h

/-- **Rendering is rendering what is left**, without limits. -/
theorem render_truncate (v : Value) : (v.truncate limits).render .off = v.render limits := by
  induction v using items_induction with
  | list items ih =>
    by_cases hitems : items = []
    · subst hitems
      rw [truncate, truncateAll, cutItems_nil]
      rfl
    have hleft : items.map (truncate limits) ≠ [] := mt List.map_eq_nil_iff.mp hitems
    -- the items that are left are rendered as they are within the limits
    have hmap (shown : List Value) (hshown : shown ⊆ items) :
        (shown.map (truncate limits)).map (render .off) = shown.map (render limits) := by
      rw [List.map_map]
      exact List.map_congr_left fun v hv => ih v (hshown hv)
    rw [truncate, truncateAll_eq_map, render_list_off (cutItems_ne_nil hleft), render_list limits hitems,
      cutItems, List.length_map]
    split
    · rw [List.map_append, ← List.map_take, hmap _ (List.take_subset _ _)]
      rfl
    · rw [hmap _ (List.Subset.refl _)]
  | other v hlist =>
    cases v with
    | list items => cases hlist
    | text t =>
      rw [truncate, render, render, clip_eq, clip_eq]
      rw [cutText, off, if_neg (not_exceeds_zero _)]
    | _ => rfl

/-- A text and a list over the limits, in a list that is over them too. -/
example : (list [text ⟨0, "abcdef"⟩, list [null, null, null], null]).render ⟨4, 2⟩ =
    "< \"a...\", < null, null, ... >, ... >" := by rfl

end Value

end Rendering

/-! ## Parts -/

namespace Value

/-- The first value is the second or lies in it, at whatever depth. -/
inductive Part : Value → Value → Prop
  | self (v : Value) : Part v v
  | item {part v : Value} {items : List Value} (hitem : v ∈ items) (h : Part part v) : Part part (list items)

/-- The value itself is within the limits. -/
def Fits (limits : RenderLimits) : Value → Prop
  | text t => ¬ Exceeds limits.maxTextLength t.content.length
  | list items => ¬ Exceeds limits.maxItems items.length
  | _ => True

variable {limits : RenderLimits} {v : Value}

theorem truncate_of_fits (h : ∀ part, Part part v → part.Fits limits) : v.truncate limits = v := by
  induction v using items_induction with
  | list items ih =>
    have hitems : items.map (truncate limits) = items :=
      (List.map_congr_left fun v hv => ih v hv fun part hpart => h part (.item hv hpart)).trans
        (List.map_id items)
    rw [truncate, truncateAll_eq_map, hitems, cutItems, if_neg (h _ (.self _))]
  | other v hlist =>
    cases v with
    | list items => cases hlist
    | text t => rw [truncate, cutText, if_neg (h _ (.self _))]
    | _ => rfl

theorem length_cutText_le {limit : Nat} (hlimit : 0 < limit) (text : String) :
    (cutText limit text).length ≤ max limit 3 := by
  rw [cutText]
  split
  · rw [String.length_ofList, List.length_append, List.length_take]
    simp only [List.length_cons, List.length_nil]
    omega
  · rename_i h
    rw [Exceeds] at h
    omega

/-- **The texts that are left** are no longer than the limit, or than the dots. -/
theorem length_le_of_part_truncate (hlimit : 0 < limits.maxTextLength) {t : SharedText}
    (h : Part (text t) (v.truncate limits)) : t.content.length ≤ max limits.maxTextLength 3 := by
  induction v using items_induction with
  | list items ih =>
    rw [truncate, truncateAll_eq_map, cutItems] at h
    have hleft (w : Value) (hw : w ∈ items.map (truncate limits)) (hpart : Part (text t) w) :
        t.content.length ≤ max limits.maxTextLength 3 := by
      obtain ⟨v, hv, rfl⟩ := List.mem_map.mp hw
      exact ih v hv hpart
    cases h with
    | item hitem hpart =>
      split at hitem
      · rcases List.mem_append.mp hitem with hshown | hdots
        · exact hleft _ (List.mem_of_mem_take hshown) hpart
        · rw [List.mem_singleton.mp hdots] at hpart
          cases hpart
      · exact hleft _ hitem hpart
  | other v hlist =>
    cases v with
    | list items => cases hlist
    | text u =>
      cases h with
      | self => exact length_cutText_le hlimit _
    | _ => cases h

end Value

end Expectation
