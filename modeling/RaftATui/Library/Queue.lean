import Mathlib.Data.List.Basic

/-
This file gives a channel that hands its items out in the order of the sends.
-/

namespace Machinery

/-- The channel remembers what its receiver took. -/
structure Queue (Item : Type) where
  received : List Item
  waiting : List Item

namespace Queue

variable {Item : Type}

def empty : Queue Item := ⟨[], []⟩

/-- These are the items that ever entered the channel. -/
def sent (queue : Queue Item) : List Item := queue.received ++ queue.waiting

def sendAll (items : List Item) (queue : Queue Item) : Queue Item := { queue with waiting := queue.waiting ++ items }

def receive (queue : Queue Item) : Option (Item × Queue Item) :=
  match queue.waiting with
  | [] => none
  | item :: rest => some (item, ⟨queue.received ++ [item], rest⟩)

@[simp] theorem sent_sendAll (items : List Item) (queue : Queue Item) :
    (queue.sendAll items).sent = queue.sent ++ items := (List.append_assoc _ _ _).symm

/-- A receive moves the first waiting item. -/
theorem receive_eq_some {queue after : Queue Item} {item : Item} (received : queue.receive = some (item, after)) :
    after.received = queue.received ++ [item] ∧ after.sent = queue.sent := by
  unfold receive at received
  split at received
  · cases received
  · next rest waiting =>
      cases received
      exact ⟨rfl, by rw [sent, sent, waiting, List.append_assoc, List.singleton_append]⟩

end Queue

end Machinery
