import RaftATui.Construction.MemStorage
import RaftATui.Proof.Storage.Compaction

namespace RaftATui
open Machinery

/-- The snapshot is older than the stored one. -/
def Stale (storage : DiskStorage) (snapshot : Snapshot) : Prop :=
  ∃ old, storage.getLatestSnapshot = some old ∧ snapshot.metadata.index < old.metadata.index

/-- The stored entries are contiguous from the begin of the log on. -/
def Gapless (storage : DiskStorage) : Prop :=
  ∀ key ∈ storage.db.entriesTree, ∀ index, storage.logStart ≤ index → index ≤ key →
    index ∈ storage.db.entriesTree

/-- The call returned an error and changed nothing. -/
structure Rejected (before : DiskStorage) (result : Except RaftError Unit × DiskStorage) : Prop where
  error : ∃ error, result.1 = .error error
  db : result.2.db = before.db
  applied : result.2.appliedIndex = before.appliedIndex

/-- An install rejects a stale snapshot, and it neither moves the first index back nor opens a gap. -/
structure Guards (before : DiskStorage) (snapshot : Snapshot) (result : Except RaftError Unit × DiskStorage) :
    Prop where
  rejects : Stale before snapshot → Rejected before result
  first : ∀ build, ∃ first later, before.firstIndex build = some first ∧ result.2.firstIndex build = some later ∧
    first ≤ later
  gapless : Gapless result.2

/-- The property holds of each install of a run, whatever its outcome is. -/
def EachInstall (property : DiskStorage → Snapshot → Except RaftError Unit × DiskStorage → Prop) :
    DiskStorage → List Snapshot → Prop
  | _, [] => True
  | storage, snapshot :: rest =>
      property storage snapshot (DiskStorage.applySnapshot snapshot storage) ∧
        EachInstall property (DiskStorage.applySnapshot snapshot storage).2 rest

/-- The first sled call of the install, which writes the record, fails. -/
def RecordFails (storage : DiskStorage) : Prop := storage.faults.headD false = true

/-- An index follows the stored snapshot and the written one, and the written one is not older. -/
structure Advances (before : DiskStorage) (snapshot : Snapshot) : Prop where
  addable : ∀ old, before.getLatestSnapshot = some old → old.metadata.index + 1 < UInt64.size
  writes : ¬ RecordFails before → ¬ Stale before snapshot ∧ snapshot.metadata.index + 1 < UInt64.size

section Part

variable {db : Db} {snapshot : Snapshot} {done : List SledOp} {keys : List Nat}

/-- The calls behind the record only remove entries that the snapshot covers. -/
theorem snapshotOps_tail (snapshot : Snapshot) (keys : List Nat) :
    ∃ later, DiskStorage.snapshotOps snapshot keys = .insertSnapshot snapshot :: later ∧
      ∀ op ∈ later, ∀ db : Db, (db.run op).snapshotsTree = db.snapshotsTree ∧
        ∀ key, snapshot.metadata.index < key → (db.run op).entriesTree[key]? = db.entriesTree[key]? := by
  refine ⟨.insertConfstate snapshot.metadata.confState :: (DiskStorage.scanOps keys ++
    DiskStorage.removeOps keys snapshot.metadata.index ++
    [TreeName.snapshotsTree, .metaTree, .entriesTree].map .flush), rfl, ?_⟩
  rw [List.forall_mem_cons]
  refine ⟨fun _ => ⟨rfl, fun _ _ => rfl⟩, DiskStorage.forall_removals ?_ ?_ ?_⟩
  · exact fun _ => ⟨rfl, fun _ _ => rfl⟩
  · intro key _ covered db
    refine ⟨rfl, fun other above => ?_⟩
    have distinct : key ≠ other := by omega
    exact (OrderedTree.getElem?_erase key other).trans (if_neg distinct)
  · exact fun _ _ => ⟨rfl, fun _ _ => rfl⟩

/-- Each part of an install that wrote the record keeps the entries above the snapshot. -/
theorem replay_snapshotPart (part : done <+: DiskStorage.snapshotOps snapshot keys) (began : done ≠ []) (db : Db) :
    (db.replay done).snapshotsTree = some snapshot ∧
      ∀ key, snapshot.metadata.index < key → (db.replay done).entriesTree[key]? = db.entriesTree[key]? := by
  obtain ⟨later, split, calm⟩ := snapshotOps_tail snapshot keys
  rw [split] at part
  cases done with
  | nil => exact absurd rfl began
  | cons op done =>
      obtain ⟨rfl, inner⟩ := List.cons_prefix_cons.mp part
      rw [Db.replay_cons]
      constructor
      · exact Db.replay_keeps Db.snapshotsTree (fun op inside state => (calm op (inner.subset inside) state).1) _
      · intro key above
        exact Db.replay_keeps (fun state => state.entriesTree[key]?)
          (fun op inside state => (calm op (inner.subset inside) state).2 key above) _

end Part

namespace DiskStorage

variable {storage : DiskStorage} {snapshot old : Snapshot}

/-- An install whose record write fails changes nothing. -/
theorem applySnapshot_rejects (fails : RecordFails storage) :
    Rejected storage (applySnapshot snapshot storage) := by
  have stopped : applySnapshot snapshot storage =
      (.error (.store .other), { storage with faults := storage.faults.tail }) :=
    Attempt.bind_error _ (if_pos fails)
  rw [stopped]
  exact ⟨⟨_, rfl⟩, rfl, rfl⟩

/-- Every other install has written the record, whatever its outcome is. -/
theorem applySnapshot_part (writes : ¬ RecordFails storage) :
    ∃ done, done <+: snapshotOps snapshot storage.db.entriesTree.keys ∧ done ≠ [] ∧
      (applySnapshot snapshot storage).2.db = storage.db.replay done := by
  obtain ⟨later, split, _⟩ := snapshotOps_tail snapshot storage.db.entriesTree.keys
  have completed : sled (.insertSnapshot snapshot) storage = (.ok (), { storage with
      db := storage.db.run (.insertSnapshot snapshot)
      faults := storage.faults.tail
      journal := storage.journal ++ [.insertSnapshot snapshot] }) := if_neg writes
  obtain ⟨done, rest, same, content, _⟩ := script_run later { storage with
      db := storage.db.run (.insertSnapshot snapshot)
      faults := storage.faults.tail
      journal := storage.journal ++ [.insertSnapshot snapshot] }
  refine ⟨.insertSnapshot snapshot :: done, ?_, by simp, ?_⟩
  · rw [split, same]
    exact ⟨rest, rfl⟩
  · rw [applySnapshot_eq_script, split, script_cons, Attempt.bind_ok _ completed, content]
    rfl

/-- A stale snapshot is rejected exactly when its record is not written. -/
theorem rejected_iff (stale : Stale storage snapshot) :
    Rejected storage (applySnapshot snapshot storage) ↔ RecordFails storage := by
  refine ⟨fun rejected => ?_, applySnapshot_rejects⟩
  by_contra writes
  obtain ⟨old, stored, below⟩ := stale
  obtain ⟨done, part, began, content⟩ := applySnapshot_part writes
  have record := (replay_snapshotPart part began storage.db).1
  rw [← content, rejected.db] at record
  have same : old = snapshot := Option.some.inj (stored.symm.trans record)
  rw [same] at below
  exact absurd below (Nat.lt_irrefl _)

/-- An install that advances keeps the first index and the log behind it. -/
theorem applySnapshot_guards (stored : storage.getLatestSnapshot = some old) (gapless : Gapless storage)
    (advances : Advances storage snapshot) :
    Guards storage snapshot (applySnapshot snapshot storage) ∧
      ∃ latest, (applySnapshot snapshot storage).2.getLatestSnapshot = some latest := by
  have start : storage.logStart = old.metadata.index + 1 := logStart_of_snapshot stored
  have first (build : Build) : storage.firstIndex build = some (old.metadata.index + 1) :=
    (firstIndex_of_snapshot stored build).trans (Build.succ_eq_some_iff.mpr (advances.addable old stored))
  by_cases fails : RecordFails storage
  · have rejected : Rejected storage (applySnapshot snapshot storage) := applySnapshot_rejects fails
    have kept : (applySnapshot snapshot storage).2.getLatestSnapshot = some old := by
      rw [getLatestSnapshot, rejected.db]
      exact stored
    have begins : (applySnapshot snapshot storage).2.logStart = storage.logStart := by
      rw [logStart_of_snapshot kept, start]
    refine ⟨⟨fun _ => rejected, fun build => ⟨_, _, first build, ?_, Nat.le_refl _⟩, ?_⟩, old, kept⟩
    · exact (firstIndex_of_snapshot kept build).trans (Build.succ_eq_some_iff.mpr (advances.addable old stored))
    · unfold Gapless
      rw [begins, rejected.db]
      exact gapless
  · obtain ⟨fresh, addable⟩ := advances.writes fails
    have newer : old.metadata.index ≤ snapshot.metadata.index :=
      Nat.le_of_not_lt fun below => fresh ⟨old, stored, below⟩
    obtain ⟨done, part, began, content⟩ := applySnapshot_part fails
    obtain ⟨record, above⟩ := replay_snapshotPart part began storage.db
    rw [← content] at record above
    have moved : (applySnapshot snapshot storage).2.logStart = snapshot.metadata.index + 1 :=
      logStart_of_snapshot record
    have same (key : Nat) (behind : snapshot.metadata.index < key) :
        key ∈ (applySnapshot snapshot storage).2.db.entriesTree ↔ key ∈ storage.db.entriesTree := by
      rw [OrderedTree.mem_iff_getElem?, OrderedTree.mem_iff_getElem?, above key behind]
    refine ⟨⟨fun stale => absurd stale fresh, fun build => ⟨_, _, first build, ?_, Nat.succ_le_succ newer⟩, ?_⟩,
      snapshot, record⟩
    · exact (firstIndex_of_snapshot record build).trans (Build.succ_eq_some_iff.mpr addable)
    · intro key listed index reached below
      rw [moved] at reached
      rw [same key (by omega)] at listed
      rw [same index (by omega)]
      exact gapless key listed index (by omega) below

/-- Only an install that advances guards the log. -/
theorem advances_of_guards (guards : Guards storage snapshot (applySnapshot snapshot storage)) :
    Advances storage snapshot := by
  -- A debug build returns a first index only when its addition does not overflow.
  obtain ⟨_, _, begins, ends, _⟩ := guards.first .debug
  constructor
  case addable =>
    intro record found
    exact Build.fits_of_succ ((firstIndex_of_snapshot found .debug).symm.trans begins)
  case writes =>
    intro writes
    obtain ⟨done, part, began, content⟩ := applySnapshot_part writes
    have record := (replay_snapshotPart part began storage.db).1
    rw [← content] at record
    refine ⟨fun stale => writes ((rejected_iff stale).mp (guards.rejects stale)), ?_⟩
    exact Build.fits_of_succ ((firstIndex_of_snapshot record .debug).symm.trans ends)

end DiskStorage

/-- A run of installs guards the log exactly when each install advances or fails to write its record. -/
theorem eachInstall_guards_iff {storage : DiskStorage} {old : Snapshot}
    (stored : storage.getLatestSnapshot = some old) (gapless : Gapless storage) (snapshots : List Snapshot) :
    EachInstall Guards storage snapshots ↔
      EachInstall (fun before snapshot _ => Advances before snapshot) storage snapshots := by
  induction snapshots generalizing storage old with
  | nil => exact Iff.rfl
  | cons snapshot rest ih =>
      constructor
      · intro ⟨guards, later⟩
        have advances := DiskStorage.advances_of_guards guards
        obtain ⟨_, latest, record⟩ := DiskStorage.applySnapshot_guards stored gapless advances
        exact ⟨advances, (ih record guards.gapless).mp later⟩
      · intro ⟨advances, later⟩
        obtain ⟨guards, latest, record⟩ := DiskStorage.applySnapshot_guards stored gapless advances
        exact ⟨guards, (ih record guards.gapless).mpr later⟩

/-- Its first two of three entries are covered by the stored snapshot. -/
def twoCovered (faults : List Bool) : DiskStorage :=
  { (DiskStorage.applySnapshot (snapshotAtTwo 1) threeStored).2 with faults := faults }

def snapshotAtOne : Snapshot := ⟨[], { confState := { voters := [1] }, index := 1, term := 1 }⟩

/-- The log of the example has no gaps. -/
theorem twoCovered_gapless (faults : List Bool) : Gapless (twoCovered faults) := by
  have only : ∀ key ∈ (twoCovered []).db.entriesTree.keys, key = 3 := by decide
  intro key stored index reached below
  have same := only key (Std.ExtTreeMap.mem_keys.mpr stored)
  have first : (twoCovered faults).logStart = 3 := rfl
  have here : index = key := by omega
  rw [here]
  exact stored

/-- The write of a stale record fails, and a newer snapshot is installed. -/
theorem eachInstall_guards_two :
    EachInstall Guards (twoCovered [true]) [snapshotAtOne, snapshotAtTwo 1] := by
  refine (eachInstall_guards_iff rfl (twoCovered_gapless [true]) [snapshotAtOne, snapshotAtTwo 1]).mpr ?_
  have addable {storage : DiskStorage} (record : storage.getLatestSnapshot = some (snapshotAtTwo 1)) (old : Snapshot)
      (stored : storage.getLatestSnapshot = some old) : old.metadata.index + 1 < UInt64.size := by
    obtain rfl := Option.some.inj (record.symm.trans stored)
    decide
  refine ⟨⟨addable rfl, fun writes => absurd rfl writes⟩, ⟨addable rfl, fun _ => ⟨?_, by decide⟩⟩, trivial⟩
  rintro ⟨old, stored, below⟩
  have record : (DiskStorage.applySnapshot snapshotAtOne (twoCovered [true])).2.getLatestSnapshot =
      some (snapshotAtTwo 1) := rfl
  obtain rfl := Option.some.inj (record.symm.trans stored)
  exact absurd below (Nat.lt_irrefl _)

/-- The disk installs a snapshot that raft-rs's `MemStorage` refuses, and the second entry is lost. -/
theorem applySnapshot_takes_stale :
    Stale (twoCovered []) snapshotAtOne ∧ Gapless (twoCovered []) ∧
      (DiskStorage.applySnapshot snapshotAtOne (twoCovered [])).1 = .ok () ∧
      (twoCovered []).firstIndex .release = some 3 ∧
      (DiskStorage.applySnapshot snapshotAtOne (twoCovered [])).2.firstIndex .release = some 2 ∧
      ¬ Gapless (DiskStorage.applySnapshot snapshotAtOne (twoCovered [])).2 ∧
      ¬ EachInstall Guards (twoCovered []) [snapshotAtOne] ∧
      (MemStorage.applySnapshot snapshotAtOne
        ⟨.default, .default, [plainEntry 1 3], (snapshotAtTwo 1).metadata⟩).1 =
          .error (.store .snapshotOutOfDate) := by
  have opens : ¬ Gapless (DiskStorage.applySnapshot snapshotAtOne (twoCovered [])).2 := by
    intro gapless
    have listed : 3 ∈ (DiskStorage.applySnapshot snapshotAtOne (twoCovered [])).2.db.entriesTree := by decide
    have missing : 2 ∉ (DiskStorage.applySnapshot snapshotAtOne (twoCovered [])).2.db.entriesTree := by decide
    exact missing (gapless 3 listed 2 (by decide) (by decide))
  refine ⟨⟨_, rfl, by decide⟩, twoCovered_gapless [], rfl, rfl, rfl, opens, ?_, rfl⟩
  exact fun each => opens each.1.gapless

end RaftATui
