import RaftATui.Construction.Driver.RaftNode
import RaftATui.Proof.Storage.CrashPoints

namespace RaftATui
open Machinery
open Machinery.Crash (Throughout throughout_of_kept)

/-- This is the directory of the disk backend. -/
def RaftStorage.db? {Mem : Type} : RaftStorage Mem → Option Db
  | .memory _ _ => none
  | .disk storage => some storage.db

/-- The initial state is read from the directory. -/
theorem RaftStorage.initialState_of_db {Mem : Type} (mem : MemStorageApi Mem) {store : RaftStorage Mem}
    {db : Db} (disk : store.db? = some db) : store.initialState mem = db.initialState := by
  cases store with
  | memory inner appliedIndex => cases disk
  | disk storage =>
      cases disk
      rfl

/-- A written configuration has voters. -/
def SledOp.votes : SledOp → Bool
  | .insertConfstate cs => !cs.voters.isEmpty
  | _ => true

namespace Db

/-- A directory of a node that took part starts raft, and it has a snapshot record and voters. -/
structure Sound (db : Db) : Prop where
  startable : db.Startable
  record : ∃ snapshot, db.snapshotsTree = some snapshot
  voters : db.initialState.2.voters ≠ []

/-- Raft writes no configuration without voters. -/
def Voting (ops : List SledOp) : Prop := ∀ op ∈ ops, op.votes = true

instance (ops : List SledOp) : Decidable (Voting ops) :=
  inferInstanceAs (Decidable (∀ op ∈ ops, op.votes = true))

variable {db : Db} {ops : List SledOp}

/-- No sled call removes the snapshot record. -/
theorem record_replay (record : ∃ snapshot, db.snapshotsTree = some snapshot) (ops : List SledOp) :
    ∃ snapshot, (db.replay ops).snapshotsTree = some snapshot := by
  have points : Throughout Db.run (fun later => ∃ snapshot, later.snapshotsTree = some snapshot) db ops := by
    refine throughout_of_kept record fun op _ later stored => ?_
    cases op with
    | insertSnapshot snapshot => exact ⟨snapshot, rfl⟩
    | _ => exact stored
  exact points.final

/-- A voting script keeps some voters stored. -/
theorem voters_replay (voters : db.initialState.2.voters ≠ []) (voting : Voting ops) :
    (db.replay ops).initialState.2.voters ≠ [] := by
  have points : Throughout Db.run (fun later => later.initialState.2.voters ≠ []) db ops := by
    refine throughout_of_kept voters fun op inside later stored => ?_
    cases op with
    | insertConfstate cs =>
        have votes : (!cs.voters.isEmpty) = true := voting _ inside
        have filled : cs.voters ≠ [] := by simpa using votes
        exact filled
    | _ => exact stored
  exact points.final

/-- This is the snapshot record of a new node. -/
def bootSnapshot (peers : List Nat) : Snapshot := ⟨[], ⟨{ voters := peers }, 0, 0⟩⟩

/-- These are the sled calls of the first start. -/
def bootOps (peers : List Nat) : List SledOp := DiskStorage.snapshotOps (bootSnapshot peers) []

/-- The first start of a node has stopped somewhere. -/
structure Booting (peers : List Nat) (db : Db) : Prop where
  entries : db.entriesTree = ∅
  hard : db.metaTree.hardstate = none
  record : db.snapshotsTree = some (bootSnapshot peers) ∨
    (db.snapshotsTree = none ∧ db.metaTree.confstate = none)

/-- A new directory is one that boots. -/
theorem booting_new (peers : List Nat) : Booting peers Db.new := ⟨rfl, rfl, Or.inr ⟨rfl, rfl⟩⟩

/-- A directory boots at each point of its first start. -/
theorem Booting.replay {peers : List Nat} {done : List SledOp} (booting : Booting peers db)
    (initial : done <+: bootOps peers) : Booting peers (db.replay done) := by
  cases done with
  | nil => exact booting
  | cons op done =>
      obtain ⟨first, initial⟩ := List.cons_prefix_cons.mp initial
      rw [first, Db.replay_cons]
      have recorded : Throughout Db.run (fun later => later.entriesTree = ∅ ∧
          later.metaTree.hardstate = none ∧ later.snapshotsTree = some (bootSnapshot peers))
          (db.run (.insertSnapshot (bootSnapshot peers)))
          [.insertConfstate { voters := peers }, .flush .snapshotsTree, .flush .metaTree,
            .flush .entriesTree] := by
        refine throughout_of_kept ⟨booting.entries, booting.hard, rfl⟩ fun op inside later stored => ?_
        simp only [List.mem_cons, List.not_mem_nil, or_false] at inside
        rcases inside with rfl | rfl | rfl | rfl <;> exact stored
      obtain ⟨entries, hard, record⟩ := recorded done initial
      exact ⟨entries, hard, Or.inl record⟩

/-- A first start that wrote its voters leaves a sound directory behind. -/
theorem Booting.sound {peers : List Nat} (booting : Booting peers db)
    (voters : db.initialState.2.voters ≠ []) : Sound db := by
  have record : db.snapshotsTree = some (bootSnapshot peers) := by
    rcases booting.record with record | ⟨_, none⟩
    · exact record
    · exact absurd (by simp [initialState, none, ConfState.default]) voters
  have rooted : Rooted (bootSnapshot peers) db := ⟨record, Or.inl (by simp [booting.entries])⟩
  have fresh : db.hardState = .default := by simp [hardState, initialState, booting.hard]
  exact ⟨rooted.startable_iff.mpr fun stored => absurd fresh stored, ⟨_, record⟩, voters⟩

end Db

namespace RaftStorage

section Start

variable {confState : ConfState} {storage : DiskStorage}

/-- A directory with voters is left alone. -/
theorem initializeDisk_of_voters (voters : storage.db.initialState.2.voters ≠ []) :
    initializeDisk confState storage = (.ok (), storage) := by
  have asked : storage.initialState.2.voters.isEmpty = false :=
    Bool.eq_false_iff.mpr fun none => voters (List.isEmpty_iff.mp none)
  simp only [initializeDisk, Attempt.get_bind, asked]
  rfl

/-- A directory without voters gets the snapshot at index 0. -/
theorem initializeDisk_of_empty (empty : storage.db.initialState.2.voters = []) :
    initializeDisk confState storage =
      (.ok (), (DiskStorage.applySnapshot ⟨[], ⟨confState, 0, 0⟩⟩ storage).2) := by
  have asked : storage.initialState.2.voters.isEmpty = true := List.isEmpty_iff.mpr empty
  simp only [initializeDisk, Attempt.get_bind, asked, if_true]
  rfl

end Start

/-- A start keeps a directory with voters. Without voters it writes the first configuration. -/
theorem initializeDisk_db (confState : ConfState) (storage : DiskStorage) :
    ∃ done, done <+: DiskStorage.snapshotOps ⟨[], ⟨confState, 0, 0⟩⟩ storage.db.entriesTree.keys ∧
      (initializeDisk confState storage).2.db = storage.db.replay done ∧
      (storage.db.initialState.2.voters ≠ [] → done = []) := by
  by_cases empty : storage.db.initialState.2.voters = []
  · obtain ⟨done, rest, split, final, _⟩ := DiskStorage.script_run
      (DiskStorage.snapshotOps ⟨[], ⟨confState, 0, 0⟩⟩ storage.db.entriesTree.keys) storage
    refine ⟨done, ⟨rest, split.symm⟩, ?_, fun filled => absurd empty filled⟩
    rw [← final, ← DiskStorage.applySnapshot_eq_script, initializeDisk_of_empty empty]
  · refine ⟨[], List.nil_prefix, ?_, fun _ => rfl⟩
    rw [initializeDisk_of_voters empty]
    rfl

end RaftStorage

namespace RaftNode

variable {Mem : Type} {peers : List Nat}

/-- A restart on a directory with voters keeps its content. -/
theorem newStore_db (mem : MemStorageApi Mem) {db : Db} (voters : db.initialState.2.voters ≠ []) (faults : List Bool) :
    (newStore mem peers (.newWithDisk db faults)).db? = some db := by
  obtain ⟨done, _, final, kept⟩ := RaftStorage.initializeDisk_db { voters := peers } (DiskStorage.openDb db faults)
  rw [kept voters] at final
  exact congrArg some final

/-- A start after any part of the first start is sound when it has voters. -/
theorem newStore_boot (mem : MemStorageApi Mem) {done : List SledOp} (initial : done <+: Db.bootOps peers)
    (faults : List Bool) :
    ∃ db, (newStore mem peers (.newWithDisk (Db.new.replay done) faults)).db? = some db ∧
      (db.initialState.2.voters ≠ [] → db.Sound) := by
  have booting := (Db.booting_new peers).replay initial
  obtain ⟨more, later, final, _⟩ :=
    RaftStorage.initializeDisk_db { voters := peers } (DiskStorage.openDb (Db.new.replay done) faults)
  have none : (DiskStorage.openDb (Db.new.replay done) faults).db.entriesTree.keys = [] := by
    change (Db.new.replay done).entriesTree.keys = []
    rw [booting.entries]
    rfl
  rw [none] at later
  exact ⟨_, congrArg some final, fun voters => (booting.replay later).sound voters⟩

end RaftNode

end RaftATui
