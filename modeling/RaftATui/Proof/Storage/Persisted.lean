import RaftATui.Construction.MemStorage
import RaftATui.Proof.Storage.Script

namespace RaftATui
open Machinery
open Attempt (Within Fixes Maps)

/-- These sled calls write a hard state or a configuration. -/
def SledOp.writesState : SledOp → Bool
  | .insertHardstate _ | .insertConfstate _ => true
  | _ => false

/-- This is the state that raft reads from a database when it starts. -/
def Db.initialState (db : Db) : HardState × ConfState :=
  (db.metaTree.hardstate.getD .default, db.metaTree.confstate.getD .default)

/-- Sled calls that write no state keep the initial state. -/
theorem Db.initialState_replay {ops : List SledOp} (free : ∀ op ∈ ops, op.writesState = false) (db : Db) :
    (db.replay ops).initialState = db.initialState := by
  apply Db.replay_keeps Db.initialState
  intro op inside state
  have calm := free op inside
  cases op <;> first | rfl | cases calm

/-- These are the laws of raft-rs's `MemStorage` for the state that it starts from. -/
structure MemLaws {Mem : Type} (mem : MemStorageApi Mem) : Prop where
  setHardstate : ∀ hs inner, mem.initialState (mem.setHardstate hs inner) = (hs, (mem.initialState inner).2)
  setConfState : ∀ cs inner, mem.initialState (mem.setConfState cs inner) = ((mem.initialState inner).1, cs)
  append : ∀ batch inner, mem.initialState (mem.append batch inner).2 = mem.initialState inner

/-- The memory storage keeps its state as the laws say. -/
theorem MemStorage.laws (encodedLen : Entry → Nat) : MemLaws (MemStorage.api encodedLen) where
  setHardstate _ _ := rfl
  setConfState _ _ := rfl
  append batch inner := by
    simp only [MemStorage.api, MemStorage.append]
    split
    · rfl
    · split <;> rfl

namespace DiskStorage

/-- A script without state writes leaves the initial state as it is, whatever its outcome is. -/
theorem script_fixes {ops : List SledOp} (free : ∀ op ∈ ops, op.writesState = false) :
    Fixes DiskStorage.initialState (script ops) := by
  intro storage
  obtain ⟨done, rest, split, db, _⟩ := script_run ops storage
  have calm : ∀ op ∈ done, op.writesState = false := fun op inside =>
    free op (by rw [split]; exact List.mem_append_left _ inside)
  change (script ops storage).2.db.initialState = storage.db.initialState
  rw [db, Db.initialState_replay calm]

theorem append_fixes (entries : List Entry) : Fixes DiskStorage.initialState (append entries) := by
  rw [append_eq_script]
  exact script_fixes (forall_appendOps (fun _ _ => rfl) rfl)

/-- A compact keeps the initial state. -/
theorem compact_fixes (compactIndex : Nat) :
    Fixes DiskStorage.initialState (compact compactIndex) := by
  intro storage
  rw [compact_eq_script]
  exact script_fixes (forall_compactOps rfl (fun _ _ _ => rfl) fun _ => rfl) storage

theorem setAppliedIndex_fixes (index : Nat) : Fixes DiskStorage.initialState (setAppliedIndex index) := by
  intro storage
  rw [setAppliedIndex_eq_script]
  exact script_fixes (by simp [SledOp.writesState]) { storage with appliedIndex := index }

theorem setHardstate_maps (hs : HardState) :
    Maps DiskStorage.initialState (fun state => (hs, state.2)) (setHardstate hs) := by
  intro storage _ next done
  rw [setHardstate_eq_script] at done
  change next.db.initialState = (hs, storage.db.initialState.2)
  rw [(script_ok done).1]
  rfl

theorem setConfState_maps (cs : ConfState) :
    Maps DiskStorage.initialState (fun state => (state.1, cs)) (setConfState cs) := by
  intro storage _ next done
  rw [setConfState_eq_script] at done
  change next.db.initialState = (storage.db.initialState.1, cs)
  rw [(script_ok done).1]
  rfl

end DiskStorage

namespace RaftStorage

variable {Mem : Type} {mem : MemStorageApi Mem}

theorem setAppliedIndex_fixes (index : Nat) :
    Fixes (initialState mem) (setAppliedIndex index : Attempt (RaftStorage Mem) RaftError Unit) := by
  intro storage
  cases storage with
  | memory inner appliedIndex => rfl
  | disk storage => exact DiskStorage.setAppliedIndex_fixes index storage

theorem append_fixes (laws : MemLaws mem) (entries : List Entry) :
    Fixes (initialState mem) (append mem entries) := by
  intro storage
  cases storage with
  | memory inner appliedIndex => exact laws.append entries inner
  | disk storage => exact DiskStorage.append_fixes entries storage

/-- A call whose arms both change the initial state in one way changes it in this way. -/
theorem both_maps {change : HardState × ConfState → HardState × ConfState}
    {onMemory : Mem → Except RaftError Unit × Mem} {onDisk : Attempt DiskStorage RaftError Unit}
    (memory : ∀ inner, mem.initialState (onMemory inner).2 = change (mem.initialState inner))
    (disk : Maps DiskStorage.initialState change onDisk) :
    Maps (initialState mem) change (both onMemory onDisk) := by
  intro storage value next done
  cases storage with
  | memory inner appliedIndex =>
      simp only [both, Prod.mk.injEq] at done
      rw [← done.2]
      exact memory inner
  | disk storage =>
      simp only [both, Prod.mk.injEq] at done
      rw [← done.2]
      exact disk storage value _ (Prod.ext done.1 rfl)

theorem setHardstate_maps (laws : MemLaws mem) (hs : HardState) :
    Maps (initialState mem) (fun state => (hs, state.2)) (setHardstate mem hs) :=
  both_maps (laws.setHardstate hs) (DiskStorage.setHardstate_maps hs)

theorem setConfState_maps (laws : MemLaws mem) (cs : ConfState) :
    Maps (initialState mem) (fun state => (state.1, cs)) (setConfState mem cs) :=
  both_maps (laws.setConfState cs) (DiskStorage.setConfState_maps cs)

end RaftStorage

end RaftATui
