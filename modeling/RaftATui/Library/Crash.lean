import Mathlib.Data.List.Infix

/-
This file gives the rules for a condition that has to hold at each point where a sequence of writes can stop.
-/

namespace Machinery.Crash

variable {State Op : Type} {run : State → Op → State} {good : State → Prop}

/-- The condition holds after each initial part of the operations. -/
def Throughout (run : State → Op → State) (good : State → Prop) (state : State) (ops : List Op) : Prop :=
  ∀ done, done <+: ops → good (done.foldl run state)

@[simp] theorem throughout_nil {state : State} : Throughout run good state [] ↔ good state := by
  constructor
  · exact fun holds => holds [] List.prefix_rfl
  · intro begins done initial
    rw [List.prefix_nil.mp initial]
    exact begins

/-- A sequence passes its first state and then the points after its first operation. -/
theorem throughout_cons {state : State} {op : Op} {rest : List Op} :
    Throughout run good state (op :: rest) ↔ good state ∧ Throughout run good (run state op) rest := by
  constructor
  · intro holds
    refine ⟨holds [] (List.nil_prefix), fun done initial => ?_⟩
    exact holds (op :: done) (List.cons_prefix_cons.mpr ⟨rfl, initial⟩)
  · intro ⟨begins, later⟩ done initial
    cases done with
    | nil => exact begins
    | cons head done =>
        obtain ⟨same, initial⟩ := List.cons_prefix_cons.mp initial
        rw [same]
        exact later done initial

theorem throughout_append {state : State} {first second : List Op} :
    Throughout run good state (first ++ second) ↔
      Throughout run good state first ∧ Throughout run good (first.foldl run state) second := by
  induction first generalizing state with
  | nil =>
      rw [List.nil_append, throughout_nil, List.foldl_nil]
      exact ⟨fun holds => ⟨holds [] List.nil_prefix, holds⟩, And.right⟩
  | cons op rest ih =>
      rw [List.cons_append, throughout_cons, throughout_cons, ih, List.foldl_cons, and_assoc]

/-- Fewer operations have fewer points. -/
theorem Throughout.shrink {state : State} {ops done : List Op} (holds : Throughout run good state ops)
    (initial : done <+: ops) : Throughout run good state done := fun earlier part =>
  holds earlier (part.trans initial)

theorem Throughout.final {state : State} {ops : List Op} (holds : Throughout run good state ops) :
    good (ops.foldl run state) := holds ops List.prefix_rfl

theorem Throughout.weaken {state : State} {ops : List Op} {weaker : State → Prop}
    (holds : Throughout run good state ops) (follows : ∀ state, good state → weaker state) :
    Throughout run weaker state ops := fun done initial => follows _ (holds done initial)

theorem Throughout.and {state : State} {ops : List Op} {other : State → Prop}
    (holds : Throughout run good state ops) (also : Throughout run other state ops) :
    Throughout run (fun state => good state ∧ other state) state ops := fun done initial =>
  ⟨holds done initial, also done initial⟩

/-- A condition that each operation keeps holds at every point. -/
theorem throughout_of_kept {state : State} {ops : List Op} (begins : good state)
    (kept : ∀ op ∈ ops, ∀ state, good state → good (run state op)) : Throughout run good state ops := by
  induction ops generalizing state with
  | nil => exact throughout_nil.mpr begins
  | cons op rest ih =>
      refine throughout_cons.mpr ⟨begins, ih (kept op List.mem_cons_self state begins) ?_⟩
      exact fun later inside => kept later (List.mem_cons_of_mem op inside)

/-- Operations that keep one view of the state keep that view altogether. -/
theorem foldl_keeps {View : Type} {view : State → View} {ops : List Op}
    (kept : ∀ op ∈ ops, ∀ state, view (run state op) = view state) (state : State) :
    view (ops.foldl run state) = view state := by
  have points := @throughout_of_kept _ _ run (fun later => view later = view state) state ops rfl
    fun op inside later same => (kept op inside later).trans same
  exact points.final

section Flush

variable {flushes : Op → Prop} {done first second : List Op}

/-- No operation waits for a flush. -/
def Flushed (flushes : Op → Prop) (ops : List Op) : Prop := ∀ op ∈ ops.getLast?, flushes op

@[simp] theorem flushed_nil : Flushed flushes [] := by simp [Flushed]

@[simp] theorem flushed_concat {op : Op} : Flushed flushes (first ++ [op]) ↔ flushes op := by simp [Flushed]

/-- A crash leaves an initial part of the operations, with everything up to each completed flush. -/
structure Survives (flushes : Op → Prop) (done issued : List Op) : Prop where
  initial : done <+: issued
  flushed : ∀ earlier op rest, issued = earlier ++ op :: rest → flushes op → earlier ++ [op] <+: done

theorem survives_all (issued : List Op) : Survives flushes issued issued := by
  refine ⟨List.prefix_rfl, fun earlier op rest split _ => ⟨rest, ?_⟩⟩
  rw [split, List.append_assoc]
  rfl

/-- Flushed operations survive. -/
theorem Survives.flushes_kept (survives : Survives flushes done (first ++ second)) (settled : Flushed flushes first) :
    first <+: done := by
  rcases List.eq_nil_or_concat first with rfl | ⟨earlier, op, rfl⟩
  · exact List.nil_prefix
  · rw [List.concat_eq_append] at survives settled ⊢
    exact survives.flushed earlier op second (by simp) (flushed_concat.mp settled)

end Flush

end Machinery.Crash
