import Mathlib.Data.List.Infix

/-
This file gives the rules for events that depend on the events before them.
-/

namespace Machinery.Trace

variable {Event : Type} {rule other : List Event → Event → Prop}

/-- Each event of the trace obeys the rule after the events before it. -/
def Obeys (rule : List Event → Event → Prop) (trace : List Event) : Prop :=
  ∀ before event after, trace = before ++ event :: after → rule before event

@[simp] theorem obeys_nil : Obeys rule [] := by
  intro before event after split
  simp at split

/-- A trace obeys a rule when its first event does and its rest does after that event. -/
theorem obeys_cons {event : Event} {rest : List Event} :
    Obeys rule (event :: rest) ↔
      rule [] event ∧ Obeys (fun before => rule (event :: before)) rest := by
  constructor
  · intro obeys
    refine ⟨obeys [] event rest rfl, ?_⟩
    intro before later after split
    exact obeys (event :: before) later after (by rw [split, List.cons_append])
  · intro ⟨first, others⟩ before later after split
    cases before with
    | nil =>
        rw [List.nil_append, List.cons.injEq] at split
        rw [← split.1]
        exact first
    | cons head before =>
        rw [List.cons_append, List.cons.injEq] at split
        rw [← split.1]
        exact others before later after split.2

/-- A joined trace obeys a rule when its second part does after the first part. -/
theorem obeys_append {first second : List Event} :
    Obeys rule (first ++ second) ↔
      Obeys rule first ∧ Obeys (fun before => rule (first ++ before)) second := by
  induction first generalizing rule with
  | nil => simp
  | cons event rest ih =>
      rw [List.cons_append, obeys_cons, obeys_cons, ih, and_assoc]
      rfl

theorem obeys_concat {trace : List Event} {event : Event} :
    Obeys rule (trace ++ [event]) ↔ Obeys rule trace ∧ rule trace event := by
  rw [obeys_append, obeys_cons, List.append_nil]
  simp

theorem Obeys.of_append {first second : List Event} (obeys : Obeys rule (first ++ second)) :
    Obeys rule first := (obeys_append.mp obeys).1

theorem Obeys.shrink {first second : List Event} (obeys : Obeys rule second)
    (grows : first <+: second) : Obeys rule first := by
  obtain ⟨added, rfl⟩ := grows
  exact obeys.of_append

/-- A trace of events that satisfy the rule after any history extends an obedient trace. -/
theorem Obeys.append {first second : List Event} (obeys : Obeys rule first)
    (free : ∀ event ∈ second, ∀ before, rule before event) : Obeys rule (first ++ second) := by
  rw [obeys_append]
  refine ⟨obeys, ?_⟩
  intro before event after split
  exact free event (by rw [split]; simp) (first ++ before)

instance Obeys.decidable : (rule : List Event → Event → Prop) →
    [∀ before event, Decidable (rule before event)] → (trace : List Event) →
    Decidable (Obeys rule trace)
  | _, _, [] => isTrue obeys_nil
  | rule, _, event :: rest =>
      have := Obeys.decidable (fun before => rule (event :: before)) rest
      decidable_of_iff _ obeys_cons.symm

end Machinery.Trace
