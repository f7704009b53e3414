import Mathlib.Data.List.Flatten
import Mathlib.Data.List.Infix

/-
This file gives the rules for a channel that loses and repeats items but never reorders them.
-/

namespace Machinery.Delivery

variable {Item Source : Type} {sent more received : List Item} {times : Nat}

/-- The received items are among the sent ones in their order, and each is repeated at most so many times. -/
def AtMost (times : Nat) (sent received : List Item) : Prop :=
  received.Sublist (sent.flatMap (List.replicate times))

theorem AtMost.mem (bounded : AtMost times sent received) {item : Item} (inside : item ∈ received) : item ∈ sent := by
  obtain ⟨source, known, copied⟩ := List.mem_flatMap.mp (bounded.subset inside)
  rw [List.eq_of_mem_replicate copied]
  exact known

/-- A channel loses what is taken out behind it. -/
theorem AtMost.shrink (bounded : AtMost times sent more) (fewer : received.Sublist more) :
    AtMost times sent received := fewer.trans bounded

/-- More sent items allow the same received ones. -/
theorem AtMost.mono (bounded : AtMost times sent received) (grows : sent.Sublist more) :
    AtMost times more received :=
  bounded.trans (grows.flatMap _)

/-- Parts of the pieces, one after the other, are a part of the joined pieces. -/
theorem flatMap_range_sublist {pieces : List (List Item)} {part : Nat → List Item}
    (inside : ∀ index, (part index).Sublist ((pieces[index]?).getD [])) (count : Nat) :
    ((List.range count).flatMap part).Sublist pieces.flatten := by
  have taken : ((List.range count).flatMap part).Sublist (pieces.take count).flatten := by
    induction count with
    | zero => exact List.nil_sublist _
    | succ count ih =>
        rw [List.range_succ, List.flatMap_append, List.flatMap_singleton, List.take_add_one, List.flatten_append]
        refine ih.append ?_
        have last := inside count
        cases piece : pieces[count]? with
        | none => simpa [piece] using last
        | some found => simpa [piece] using last
  exact taken.trans (List.Sublist.flatten (List.take_sublist count pieces))

/-- Items with one key are the same item when the keys of the list are distinct. -/
theorem eq_of_filterMap {Key : Type} {key : Item → Option Key} {items : List Item} (distinct : (items.filterMap key).Nodup)
    {first second : Item} (inside : first ∈ items) (inside' : second ∈ items) {own : Key}
    (mine : key first = some own) (same : key second = some own) : first = second := by
  induction items with
  | nil => cases inside
  | cons item rest ih =>
      have later : (rest.filterMap key).Nodup := distinct.sublist ((List.sublist_cons_self item rest).filterMap key)
      have absent {other : Item} (behind : other ∈ rest) (held : key item = some own) : key other ≠ some own := by
        intro clash
        rw [List.filterMap_cons_some held, List.nodup_cons] at distinct
        exact distinct.1 (List.mem_filterMap.mpr ⟨other, behind, clash⟩)
      rcases List.mem_cons.mp inside with rfl | behind
      · rcases List.mem_cons.mp inside' with rfl | behind'
        · rfl
        · exact absurd same (absent behind' mine)
      · rcases List.mem_cons.mp inside' with rfl | behind'
        · exact absurd mine (absent behind same)
        · exact ih later behind behind'

end Machinery.Delivery
