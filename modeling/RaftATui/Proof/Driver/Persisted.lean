import RaftATui.Proof.Driver.Frame
import RaftATui.Proof.Storage.Persisted

namespace RaftATui
open Machinery

namespace Driver

open Attempt (Within Fixes Maps)

variable {X : Externals} {Error Value : Type}

/-- This is the state that a restarted raft would read from the storage. -/
def persisted (driver : Driver X) : HardState × ConfState := driver.store.initialState X.mem

/-- The journal of the sled calls is no part of the stored state. -/
theorem initialState_clearJournal (storage : RaftStorage X.Mem) :
    storage.clearJournal.initialState X.mem = storage.initialState X.mem := by
  cases storage <;> rfl

/-- A storage call that keeps the initial state keeps the persisted state. -/
theorem withStore_fixes {call : Attempt (RaftStorage X.Mem) RaftError Value}
    (fixes : Fixes (RaftStorage.initialState X.mem) call) : Fixes persisted (withStore call) :=
  fun driver => (fixes driver.store.clearJournal).trans (initialState_clearJournal driver.store)

/-- A storage call changes the persisted state as it changes the initial state. -/
theorem withStore_maps {change : HardState × ConfState → HardState × ConfState}
    {call : Attempt (RaftStorage X.Mem) RaftError Value}
    (maps : Maps (RaftStorage.initialState X.mem) change call) :
    Maps persisted change (withStore call) := by
  intro driver value final done
  simp only [withStore, Prod.mk.injEq] at done
  have step : _ = change _ := maps driver.store.clearJournal value _ (Prod.ext done.1 rfl)
  rw [initialState_clearJournal] at step
  rw [← done.2]
  exact step

/-- The applied index is no part of the persisted state. -/
theorem setAppliedIndex_persisted (index : Nat) :
    Fixes persisted (setAppliedIndex index : Attempt (Driver X) RaftLoopError Unit) :=
  Within.relabel _ (withStore_fixes (RaftStorage.setAppliedIndex_fixes index))

/-- A normal entry writes the applied index only. -/
theorem applyNormalEntry_persisted (entry : Entry) :
    Fixes persisted (applyNormalEntry entry : Attempt (Driver X) RaftLoopError Unit) := by
  have command : Fixes persisted
      (applyKvCommand entry : Attempt (Driver X) RaftLoopError (Except String Unit)) := fun _ => rfl
  refine Within.bind command fun result => Within.bind ?_ fun _ => setAppliedIndex_persisted entry.index
  exact fun driver => congrArg (RaftStorage.initialState X.mem)
    (reportApplied_reports entry result driver).store

/-- A normal entry leaves raft alone. -/
theorem applyNormalEntry_raft (entry : Entry) :
    Fixes Driver.raft (applyNormalEntry entry : Attempt (Driver X) RaftLoopError Unit) := by
  have command : Fixes Driver.raft
      (applyKvCommand entry : Attempt (Driver X) RaftLoopError (Except String Unit)) := fun _ => rfl
  refine Within.bind command fun result => Within.bind ?_ fun _ => ?_
  · exact fun driver => (reportApplied_reports entry result driver).raft
  · exact fun driver => (setAppliedIndex_stores entry.index driver).raft

/-- An accepted change ends up in the storage. -/
theorem persistConfState_maps (laws : MemLaws X.mem) (entry : Entry) (cs : ConfState) :
    Maps persisted (fun state => (state.1, cs))
      (persistConfState entry cs : Attempt (Driver X) RaftLoopError Unit) :=
  Maps.bind (Attempt.Reaches.relabel _ (withStore_maps (RaftStorage.setConfState_maps laws cs)))
    fun _ => Fixes.maps (setAppliedIndex_persisted entry.index)

end Driver

end RaftATui
