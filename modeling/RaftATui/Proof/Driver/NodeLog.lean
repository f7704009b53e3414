import RaftATui.Proof.Driver.Moves
import RaftATui.Proof.Driver.Sourced
import RaftATui.Proof.Storage.MemLog

namespace RaftATui
open Machinery

/-- The log of a node is what raft has not handed out yet and what the storage holds. -/
structure LogView (X : Externals) where
  /-- These are raft's own entries, which a ready will hand to the storage. -/
  unstable : X.Raft → List Entry
  /-- A received snapshot waits for its ready. -/
  waits : X.Raft → Bool
  memory : X.Mem → MemContents

variable {X : Externals} {view : LogView X} {entry : Entry}

namespace LogView

/-- The storage holds the entry. -/
def Stored (view : LogView X) (entry : Entry) : RaftStorage X.Mem → Prop
  | .memory inner _ => entry ∈ (view.memory inner).log
  | .disk storage => storage.getEntry entry.index = some entry

/-- A log in memory has no gap. -/
def Sound (view : LogView X) : RaftStorage X.Mem → Prop
  | .memory inner _ => (view.memory inner).Tidy
  | .disk _ => True

def InLog (view : LogView X) (driver : Driver X) (entry : Entry) : Prop :=
  entry ∈ view.unstable driver.raft ∨ view.Stored entry driver.store

/-- These are the entries of the log. -/
def listing (view : LogView X) (driver : Driver X) : List Entry :=
  view.unstable driver.raft ++ match driver.store with
    | .memory inner _ => (view.memory inner).log
    | .disk storage => storage.db.entriesTree.toList.map Prod.snd

/-- An entry of the log is listed. -/
theorem InLog.listed {driver : Driver X} (inside : view.InLog driver entry) : entry ∈ view.listing driver := by
  rcases inside with own | stored
  · exact List.mem_append_left _ own
  · refine List.mem_append_right _ ?_
    cases backend : driver.store with
    | memory inner applied => exact (backend ▸ stored : view.Stored entry (.memory inner applied))
    | disk storage =>
        have found : storage.getEntry entry.index = some entry :=
          (backend ▸ stored : view.Stored entry (.disk storage))
        exact List.mem_map.mpr ⟨_, Std.ExtTreeMap.mem_toList_iff_getElem?_eq_some.mpr found, rfl⟩

end LogView

namespace Driver

open Attempt (Within Keeps Triple)

section Store

variable {call : StoreCall}

end Store

section Ready

variable {disk : Bool} {rd : Ready} {kept : Prop}

/-- The log has no gap, and the entry is where the place says, as long as it is kept. -/
structure Holds (view : LogView X) (disk : Bool) (kept : Prop) (place : Driver X → Prop) (driver : Driver X) : Prop where
  sound : view.Sound driver.store
  backend : driver.store.db?.isSome = disk
  inside : kept → place driver

/-- The storage has the entry, or raft still has it and the ready carries it. -/
def Carried (view : LogView X) (rd : Ready) (entry : Entry) (driver : Driver X) : Prop :=
  view.Stored entry driver.store ∨ (entry ∈ view.unstable driver.raft ∧ entry ∈ rd.entries)

def Rests (view : LogView X) (entry : Entry) (driver : Driver X) : Prop := view.Stored entry driver.store

/-- What holds of a storage holds of each driver with this storage. -/
theorem Holds.store {place : Driver X → Prop} {before after : Driver X} (holds : Holds view disk kept place before)
    (store : after.store = before.store) (same : place before → place after) : Holds view disk kept place after :=
  ⟨store ▸ holds.sound, store ▸ holds.backend, fun keep => same (holds.inside keep)⟩

/-- At the end of a ready a resting entry is in the log. -/
theorem Holds.ends {driver : Driver X} (holds : Holds view disk kept (Rests view entry) driver) :
    Holds view disk kept (view.InLog · entry) driver := ⟨holds.sound, holds.backend, fun keep => Or.inr (holds.inside keep)⟩

/-- In a ready a carried entry is in the log. -/
theorem Holds.waits {driver : Driver X} (holds : Holds view disk kept (Carried view rd entry) driver) :
    Holds view disk kept (view.InLog · entry) driver :=
  ⟨holds.sound, holds.backend, fun keep => (holds.inside keep).elim Or.inr fun own => Or.inl own.1⟩

end Ready

section Actions

/-- These moves keep raft's own entries. -/
def Retains (view : LogView X) (before after : Driver X) : Prop :=
  view.unstable before.raft ⊆ view.unstable after.raft

instance retainsPreorder (view : LogView X) : IsPreorder (Driver X) (Retains view) where
  refl _ := List.Subset.refl _
  trans _ _ _ first second := List.Subset.trans first second

end Actions

end Driver

end RaftATui
