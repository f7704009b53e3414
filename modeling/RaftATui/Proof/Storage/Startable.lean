import RaftATui.Library.Crash
import RaftATui.Proof.Storage.Persisted
import RaftATui.Proof.Storage.SnapshotSuffix

namespace RaftATui
open Machinery

namespace Db

/-- The log begins behind the snapshot or else with the first stored entry. -/
def logStart (db : Db) : Nat := (DiskStorage.openDb db []).logStart

def lastIndex (db : Db) : Nat := (DiskStorage.openDb db []).lastIndex

/-- This is the stored hard state. -/
def hardState (db : Db) : HardState := db.initialState.1

/-- Raft starts on a directory with a complete index range and a commit index inside it. -/
def Startable (db : Db) : Prop :=
  db.logStart ≤ db.lastIndex + 1 ∧
    (db.hardState ≠ .default → db.logStart - 1 ≤ db.hardState.commit ∧ db.hardState.commit ≤ db.lastIndex)

instance (db : Db) : Decidable db.Startable := inferInstanceAs (Decidable (_ ∧ _))

/-- The log follows a stored snapshot, or it is empty. -/
structure Rooted (snapshot : Snapshot) (db : Db) : Prop where
  record : db.snapshotsTree = some snapshot
  reaches : (∀ key, key ∉ db.entriesTree) ∨ ∃ key ∈ db.entriesTree, snapshot.metadata.index ≤ key

/-- These are the parts of the content that decide whether raft starts. -/
def core (db : Db) : EntriesTree × Option Snapshot × Option HardState :=
  (db.entriesTree, db.snapshotsTree, db.metaTree.hardstate)

variable {db other : Db} {snapshot : Snapshot}

/-- Equal cores have equal entries, snapshots and hard states. -/
theorem core_eq (same : db.core = other.core) : db.entriesTree = other.entriesTree ∧
    db.snapshotsTree = other.snapshotsTree ∧ db.hardState = other.hardState := by
  obtain ⟨entries, record, hard⟩ : db.entriesTree = other.entriesTree ∧
      db.snapshotsTree = other.snapshotsTree ∧ db.metaTree.hardstate = other.metaTree.hardstate := by
    simpa [core] using same
  exact ⟨entries, record, by rw [hardState, hardState, initialState, initialState, hard]⟩

/-- The start of the log is read from the core. -/
theorem logStart_congr (same : db.core = other.core) : db.logStart = other.logStart := by
  obtain ⟨entries, record, _⟩ := core_eq same
  simp only [logStart, DiskStorage.logStart, DiskStorage.getLatestSnapshot, DiskStorage.openDb,
    entries, record]

/-- The last index is read from the core. -/
theorem lastIndex_congr (same : db.core = other.core) : db.lastIndex = other.lastIndex := by
  obtain ⟨entries, record, _⟩ := core_eq same
  simp only [lastIndex, DiskStorage.lastIndex, DiskStorage.getLatestSnapshot, DiskStorage.openDb,
    entries, record]

/-- Raft starts from a directory according to its core. -/
theorem startable_congr (same : db.core = other.core) : db.Startable ↔ other.Startable := by
  rw [Startable, Startable, logStart_congr same, lastIndex_congr same, (core_eq same).2.2]

/-- A rooted log is read from the core. -/
theorem rooted_congr (same : db.core = other.core) (rooted : Rooted snapshot db) : Rooted snapshot other := by
  obtain ⟨entries, record, _⟩ := core_eq same
  exact ⟨record ▸ rooted.record, entries ▸ rooted.reaches⟩

/-- No stored key is above the last index. -/
theorem le_lastIndex {key : Nat} (stored : key ∈ db.entriesTree) : key ≤ db.lastIndex := by
  have bound : key ≤ (DiskStorage.openDb db []).lastIndex := DiskStorage.le_lastIndex stored
  exact bound

/-- The last index of a filled log is stored. -/
theorem lastIndex_mem {key : Nat} (stored : key ∈ db.entriesTree) : db.lastIndex ∈ db.entriesTree := by
  rcases DiskStorage.lastIndex_cases (DiskStorage.openDb db []) with ⟨member, _⟩ | empty
  · exact member
  · exact absurd stored (empty key)

/-- A log with a snapshot starts behind it. -/
theorem logStart_of_snapshot (record : db.snapshotsTree = some snapshot) :
    db.logStart = snapshot.metadata.index + 1 := by
  have first : (DiskStorage.openDb db []).logStart = snapshot.metadata.index + 1 :=
    DiskStorage.logStart_of_snapshot record
  exact first

/-- Without entries the last index is that of the snapshot. -/
theorem lastIndex_of_empty (record : db.snapshotsTree = some snapshot)
    (empty : ∀ key, key ∉ db.entriesTree) : db.lastIndex = snapshot.metadata.index := by
  have last : (DiskStorage.openDb db []).lastIndex = _ := DiskStorage.lastIndex_of_empty empty
  rw [lastIndex, last]
  simp [DiskStorage.openDb, record]

/-- A rooted log ends at or behind its snapshot. -/
theorem Rooted.le_lastIndex (rooted : Rooted snapshot db) : snapshot.metadata.index ≤ db.lastIndex := by
  rcases rooted.reaches with empty | ⟨key, stored, above⟩
  · exact Nat.le_of_eq (lastIndex_of_empty rooted.record empty).symm
  · exact Nat.le_trans above (Db.le_lastIndex stored)

/-- A rooted log starts raft when the commit index lies between the snapshot and the last entry. -/
theorem Rooted.startable_iff (rooted : Rooted snapshot db) : db.Startable ↔
    (db.hardState ≠ .default →
      snapshot.metadata.index ≤ db.hardState.commit ∧ db.hardState.commit ≤ db.lastIndex) := by
  have first := logStart_of_snapshot rooted.record
  have last := rooted.le_lastIndex
  rw [Startable, first, Nat.add_sub_cancel]
  exact ⟨And.right, fun bounds => ⟨by omega, bounds⟩⟩

/-- A directory that raft starts from is rooted. -/
theorem rooted_of_startable (record : db.snapshotsTree = some snapshot) (startable : db.Startable) :
    Rooted snapshot db := by
  refine ⟨record, ?_⟩
  have range := startable.1
  rw [logStart_of_snapshot record] at range
  by_cases stored : ∃ key, key ∈ db.entriesTree
  · obtain ⟨key, stored⟩ := stored
    exact Or.inr ⟨db.lastIndex, lastIndex_mem stored, by omega⟩
  · exact Or.inl (not_exists.mp stored)

/-- An insert adds its own key. -/
theorem mem_insertEntry {key query : Nat} {entry : Entry} :
    query ∈ (db.run (.insertEntry key entry)).entriesTree ↔ key = query ∨ query ∈ db.entriesTree := by
  change query ∈ db.entriesTree.insert key entry ↔ _
  rw [Std.ExtTreeMap.mem_insert, Std.LawfulEqOrd.compare_eq_iff_eq]

/-- A remove drops its own key. -/
theorem mem_removeEntry {key query : Nat} :
    query ∈ (db.run (.removeEntry key)).entriesTree ↔ key ≠ query ∧ query ∈ db.entriesTree := by
  change query ∈ db.entriesTree.erase key ↔ _
  rw [Std.ExtTreeMap.mem_erase, ne_eq, Std.LawfulEqOrd.compare_eq_iff_eq]

/-- An entry behind the snapshot extends a rooted log. -/
theorem Rooted.insertEntry (rooted : Rooted snapshot db) {entry : Entry}
    (above : snapshot.metadata.index ≤ entry.index) :
    Rooted snapshot (db.run (.insertEntry entry.index entry)) ∧
      db.lastIndex ≤ (db.run (.insertEntry entry.index entry)).lastIndex := by
  have added : entry.index ∈ (db.run (.insertEntry entry.index entry)).entriesTree :=
    mem_insertEntry.mpr (Or.inl rfl)
  refine ⟨⟨rooted.record, Or.inr ⟨entry.index, added, above⟩⟩, ?_⟩
  rcases rooted.reaches with empty | ⟨key, stored, _⟩
  · rw [lastIndex_of_empty rooted.record empty]
    exact Nat.le_trans above (Db.le_lastIndex added)
  · exact Db.le_lastIndex (mem_insertEntry.mpr (Or.inr (lastIndex_mem stored)))

end Db

/-- These sled calls leave the log, the snapshot and the hard state as they are. -/
def SledOp.marks : SledOp → Bool
  | .insertConfstate _ | .insertAppliedIndex _ | .iterNext | .flush _ => true
  | _ => false

/-- A mark keeps the core. -/
theorem Db.core_run {op : SledOp} (marks : op.marks = true) (db : Db) : (db.run op).core = db.core := by
  cases op <;> first | rfl | cases marks

/-- Every call but one leaves the hard state as it is. -/
def SledOp.keepsHard : SledOp → Bool
  | .insertHardstate _ => false
  | _ => true

/-- Only an inserted hard state changes the stored one. -/
theorem Db.hardState_run {op : SledOp} (keeps : op.keepsHard = true) (db : Db) :
    (db.run op).hardState = db.hardState := by
  cases op <;> first | rfl | cases keeps

/-- Marks keep the core. -/
theorem Db.core_replay {ops : List SledOp} (marks : ∀ op ∈ ops, op.marks = true) (db : Db) :
    (db.replay ops).core = db.core :=
  Db.replay_keeps Db.core (fun op inside => Db.core_run (marks op inside)) db

end RaftATui
