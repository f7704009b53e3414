import Mathlib.Data.Finset.Card

/-
This file gives the majorities of a finite set.
-/

namespace Machinery

variable {Member : Type} [DecidableEq Member] {members part other : Finset Member}

/-- These are more than half of the members. -/
structure Majority (members part : Finset Member) : Prop where
  inside : part ⊆ members
  many : members.card < 2 * part.card

/-- Two majorities share a member. -/
theorem Majority.meet (first : Majority members part) (second : Majority members other) :
    ∃ member ∈ part, member ∈ other := by
  have enough : members.card < part.card + other.card := by
    have half := first.many
    have rest := second.many
    omega
  obtain ⟨member, shared⟩ := Finset.inter_nonempty_of_card_lt_card_add_card first.inside second.inside enough
  exact ⟨member, Finset.mem_inter.mp shared⟩

end Machinery
