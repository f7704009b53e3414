import RaftATui.Construction.RaftStorage
import RaftATui.Proof.Storage.Script

namespace RaftATui
open Machinery
open Attempt (Within Fixes)

namespace DiskStorage

/-- A script of sled calls never touches the cached applied index. -/
theorem script_applied (ops : List SledOp) : Fixes DiskStorage.appliedIndex (script ops) := by
  intro storage
  obtain ⟨_, _, _, _, _, applied, _⟩ := script_run ops storage
  exact applied

end DiskStorage

namespace RaftStorage

variable {Mem : Type} {mem : MemStorageApi Mem}

/-- A call keeps the applied index when its disk arm runs a script. -/
theorem both_applied {onMemory : Mem → Except RaftError Unit × Mem}
    {onDisk : Attempt DiskStorage RaftError Unit}
    (code : ∀ storage, ∃ ops, onDisk storage = DiskStorage.script ops storage) :
    Fixes appliedIndex (both onMemory onDisk) := by
  intro storage
  cases storage with
  | memory inner applied => rfl
  | disk storage =>
      obtain ⟨ops, same⟩ := code storage
      change (onDisk storage).2.appliedIndex = storage.appliedIndex
      rw [same]
      exact DiskStorage.script_applied ops storage

/-- An append keeps the applied index. -/
theorem append_applied (entries : List Entry) : Fixes appliedIndex (append mem entries) :=
  both_applied fun storage => ⟨_, congrFun (DiskStorage.append_eq_script entries) storage⟩

/-- A stored hard state keeps the applied index. -/
theorem setHardstate_applied (hs : HardState) : Fixes appliedIndex (setHardstate mem hs) :=
  both_applied fun storage => ⟨_, congrFun (DiskStorage.setHardstate_eq_script hs) storage⟩

/-- A stored configuration keeps the applied index. -/
theorem setConfState_applied (cs : ConfState) : Fixes appliedIndex (setConfState mem cs) :=
  both_applied fun storage => ⟨_, congrFun (DiskStorage.setConfState_eq_script cs) storage⟩

/-- An installed snapshot keeps the applied index. -/
theorem applySnapshot_applied (snapshot : Snapshot) : Fixes appliedIndex (applySnapshot mem snapshot) :=
  both_applied fun storage => ⟨_, DiskStorage.applySnapshot_eq_script snapshot storage⟩

/-- The new applied index is visible even when its write fails. -/
theorem setAppliedIndex_applied (index : Nat) :
    Within (fun _ after => after.appliedIndex = index)
      (setAppliedIndex index : Attempt (RaftStorage Mem) RaftError Unit) := by
  intro storage
  cases storage with
  | memory inner applied => rfl
  | disk storage =>
      change (DiskStorage.setAppliedIndex index storage).2.appliedIndex = index
      rw [DiskStorage.setAppliedIndex_eq_script]
      exact DiskStorage.script_applied _ { storage with appliedIndex := index }

end RaftStorage

end RaftATui
