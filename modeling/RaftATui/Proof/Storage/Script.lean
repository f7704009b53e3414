import RaftATui.Library.Crash
import RaftATui.Construction.DiskStorage

namespace RaftATui
open Machinery

/-- This function replays completed sled calls on a database. -/
def Db.replay (db : Db) (ops : List SledOp) : Db := ops.foldl Db.run db

@[simp] theorem Db.replay_nil (db : Db) : db.replay [] = db := rfl

@[simp] theorem Db.replay_cons (db : Db) (op : SledOp) (ops : List SledOp) :
    db.replay (op :: ops) = (db.run op).replay ops := rfl

@[simp] theorem Db.replay_append (db : Db) (first second : List SledOp) :
    db.replay (first ++ second) = (db.replay first).replay second := List.foldl_append

/-- Sled calls that keep one view of a database keep it altogether. -/
theorem Db.replay_keeps {View : Type} (view : Db → View) {ops : List SledOp}
    (kept : ∀ op ∈ ops, ∀ state : Db, view (state.run op) = view state) (db : Db) :
    view (db.replay ops) = view db := Crash.foldl_keeps kept db

namespace DiskStorage

/-- A script is a fixed list of sled calls that stops at the first failure. -/
def script (ops : List SledOp) : Attempt DiskStorage RaftError Unit := Attempt.forEach sled ops

/-- A script makes its first call first. -/
theorem script_cons (op : SledOp) (ops : List SledOp) :
    script (op :: ops) = sled op >>= fun _ => script ops := rfl

/-- Two scripts run one after the other. -/
theorem script_append (first second : List SledOp) :
    script (first ++ second) = script first >>= fun _ => script second :=
  Attempt.forEach_append sled first second

/-- A loop of one call for each item is a script. -/
theorem script_map {Item : Type} (make : Item → SledOp) (items : List Item) :
    Attempt.forEach (fun item => sled (make item)) items = script (items.map make) :=
  (Attempt.forEach_map sled make items).symm

/-- A script of one call is the call. -/
theorem script_single (op : SledOp) : script [op] = sled op := Attempt.bind_pure_unit (sled op)

/-- These are the sled calls of `append`. -/
def appendOps (entries : List Entry) : List SledOp :=
  entries.map (fun entry => .insertEntry entry.index entry) ++ [.flush .entriesTree]

/-- These are the sled calls of one pass over the stored keys. -/
def scanOps (keys : List Nat) : List SledOp := keys.map fun _ => .iterNext

def removeOps (keys : List Nat) (index : Nat) : List SledOp :=
  (keys.filter (· ≤ index)).map .removeEntry

/-- These are the sled calls of `apply_snapshot` on a tree with the given keys. -/
def snapshotOps (snapshot : Snapshot) (keys : List Nat) : List SledOp :=
  [.insertSnapshot snapshot, .insertConfstate snapshot.metadata.confState] ++ scanOps keys ++
    removeOps keys snapshot.metadata.index ++
    [.flush .snapshotsTree, .flush .metaTree, .flush .entriesTree]

/-- These are the sled calls of `compact` on a tree with the given keys. -/
def compactOps (index : Nat) (keys : List Nat) : List SledOp :=
  scanOps keys ++ removeOps keys index ++ [.flush .entriesTree]

section Calls

variable {property : SledOp → Prop}

/-- An append makes inserts and one flush. -/
theorem forall_appendOps {entries : List Entry}
    (inserts : ∀ entry ∈ entries, property (.insertEntry entry.index entry))
    (flushed : property (.flush .entriesTree)) : ∀ op ∈ appendOps entries, property op := by
  rw [appendOps, List.forall_mem_append, List.forall_mem_map, List.forall_mem_singleton]
  exact ⟨inserts, flushed⟩

/-- Behind a scan only covered keys are removed. -/
theorem forall_removals {keys : List Nat} {index : Nat} {flushes : List TreeName} (scans : property .iterNext)
    (removes : ∀ key ∈ keys, key ≤ index → property (.removeEntry key))
    (flushed : ∀ tree, property (.flush tree)) :
    ∀ op ∈ scanOps keys ++ removeOps keys index ++ flushes.map .flush, property op := by
  simp only [scanOps, removeOps, List.forall_mem_append, List.forall_mem_map, List.mem_filter, decide_eq_true_eq]
  exact ⟨⟨fun _ _ => scans, fun key ⟨stored, covered⟩ => removes key stored covered⟩, fun tree _ => flushed tree⟩

/-- A compact scans, removes covered keys and flushes. -/
theorem forall_compactOps {keys : List Nat} {index : Nat} (scans : property .iterNext)
    (removes : ∀ key ∈ keys, key ≤ index → property (.removeEntry key))
    (flushed : ∀ tree, property (.flush tree)) : ∀ op ∈ compactOps index keys, property op :=
  @forall_removals property keys index [.entriesTree] scans removes flushed

/-- An installed snapshot writes, scans, removes covered keys and flushes. -/
theorem forall_snapshotOps {snapshot : Snapshot} {keys : List Nat} (records : property (.insertSnapshot snapshot))
    (configures : property (.insertConfstate snapshot.metadata.confState)) (scans : property .iterNext)
    (removes : ∀ key ∈ keys, key ≤ snapshot.metadata.index → property (.removeEntry key))
    (flushed : ∀ tree, property (.flush tree)) : ∀ op ∈ snapshotOps snapshot keys, property op := by
  refine List.forall_mem_cons.mpr ⟨records, List.forall_mem_cons.mpr ⟨configures, ?_⟩⟩
  exact @forall_removals property keys snapshot.metadata.index [.snapshotsTree, .metaTree, .entriesTree]
    scans removes flushed

end Calls

/-- An append is the script of its sled calls. -/
theorem append_eq_script (entries : List Entry) : append entries = script (appendOps entries) := by
  rw [append, appendOps, script_append, script_single, script_map]

/-- A stored hard state is the script of its sled calls. -/
theorem setHardstate_eq_script (hs : HardState) :
    setHardstate hs = script [.insertHardstate hs, .flush .metaTree] := by
  rw [script_cons, script_single]
  rfl

/-- A stored configuration is the script of its sled calls. -/
theorem setConfState_eq_script (cs : ConfState) :
    setConfState cs = script [.insertConfstate cs, .flush .metaTree] := by
  rw [script_cons, script_single]
  rfl

/-- The field is set before the script of the stored index runs. -/
theorem setAppliedIndex_eq_script (index : Nat) (storage : DiskStorage) :
    setAppliedIndex index storage =
      script [.insertAppliedIndex index, .flush .metaTree] { storage with appliedIndex := index } := by
  rw [script_cons, script_single]
  rfl

/-- A script completes a prefix of its calls. It succeeds exactly when it completes them all. -/
theorem script_run (ops : List SledOp) (storage : DiskStorage) :
    ∃ done rest, ops = done ++ rest ∧ (script ops storage).2.db = storage.db.replay done ∧
      (script ops storage).2.journal = storage.journal ++ done ∧
      (script ops storage).2.appliedIndex = storage.appliedIndex ∧
      ((script ops storage).1 = .ok () ↔ rest = []) := by
  induction ops generalizing storage with
  | nil => exact ⟨[], [], rfl, rfl, (List.append_nil _).symm, rfl, by simp [script]⟩
  | cons op ops ih =>
      rw [script_cons]
      by_cases fault : storage.faults.headD false = true
      · have failed : sled op storage =
            (.error (.store .other), { storage with faults := storage.faults.tail }) := if_pos fault
        rw [Attempt.bind_error _ failed]
        exact ⟨[], op :: ops, rfl, rfl, (List.append_nil _).symm, rfl, by simp⟩
      · have completed : sled op storage = (.ok (), { storage with
            db := storage.db.run op
            faults := storage.faults.tail
            journal := storage.journal ++ [op] }) := if_neg fault
        rw [Attempt.bind_ok _ completed]
        obtain ⟨done, rest, split, db, journal, applied, success⟩ := ih { storage with
            db := storage.db.run op
            faults := storage.faults.tail
            journal := storage.journal ++ [op] }
        refine ⟨op :: done, rest, by rw [split, List.cons_append], db, ?_, applied, success⟩
        rw [journal]
        simp

/-- This is the number of calls in front of the first failure, when there is one. -/
def firstFault (storage : DiskStorage) : Nat := storage.faults.idxOf true

/-- A failed script stopped at the first failure. -/
theorem script_error {ops : List SledOp} {storage : DiskStorage} {error : RaftError}
    (failed : (script ops storage).1 = .error error) :
    true ∈ storage.faults ∧ storage.firstFault < ops.length ∧
      (script ops storage).2.db = storage.db.replay (ops.take storage.firstFault) := by
  induction ops generalizing storage with
  | nil => cases failed
  | cons op ops ih =>
      rw [script_cons] at failed ⊢
      rcases faults : storage.faults with _ | ⟨_ | _, later⟩
      · have completed : sled op storage = (.ok (), { storage with
            db := storage.db.run op
            faults := []
            journal := storage.journal ++ [op] }) := by simp [sled, faults]
        rw [Attempt.bind_ok _ completed] at failed
        cases (ih failed).1
      · have completed : sled op storage = (.ok (), { storage with
            db := storage.db.run op
            faults := later
            journal := storage.journal ++ [op] }) := by simp [sled, faults]
        have place : storage.firstFault = later.idxOf true + 1 := by simp [firstFault, faults]
        rw [Attempt.bind_ok _ completed] at failed ⊢
        obtain ⟨inside, before, content⟩ := ih failed
        rw [place]
        exact ⟨List.mem_cons_of_mem _ inside, Nat.succ_lt_succ before, content⟩
      · have stopped : sled op storage = (.error (.store .other), { storage with faults := later }) := by
          simp [sled, faults]
        have place : storage.firstFault = 0 := by simp [firstFault, faults]
        rw [Attempt.bind_error _ stopped, place]
        exact ⟨List.mem_cons_self, Nat.succ_pos _, rfl⟩

/-- A successful script replays all of its calls. -/
theorem script_ok {ops : List SledOp} {storage next : DiskStorage}
    (success : script ops storage = (.ok (), next)) :
    next.db = storage.db.replay ops ∧ next.journal = storage.journal ++ ops ∧
      next.appliedIndex = storage.appliedIndex := by
  obtain ⟨done, rest, split, db, journal, applied, whole⟩ := script_run ops storage
  rw [success] at db journal applied whole
  have complete : rest = [] := whole.mp rfl
  subst complete
  rw [List.append_nil] at split
  subst split
  exact ⟨db, journal, applied⟩

/-- A pass over the keys changes nothing and selects the keys up to the index. -/
theorem keysUpTo_bind_eq_script {Value : Type} (index : Nat) (storage : DiskStorage)
    (next : List Nat → Attempt DiskStorage RaftError Value) :
    (keysUpTo index >>= next) storage =
      (script (scanOps storage.db.entriesTree.keys) >>= fun _ =>
        next (storage.db.entriesTree.keys.filter (· ≤ index))) storage := by
  rw [keysUpTo, Attempt.bind_assoc, Attempt.get_bind, Attempt.bind_assoc, scanOps, ← script_map]
  rfl

/-- An installed snapshot is the script of its sled calls. -/
theorem applySnapshot_eq_script (snapshot : Snapshot) (storage : DiskStorage) :
    applySnapshot snapshot storage =
      script (snapshotOps snapshot storage.db.entriesTree.keys) storage := by
  let records : List SledOp :=
    [.insertSnapshot snapshot, .insertConfstate snapshot.metadata.confState]
  let rest (keys : List Nat) : Attempt DiskStorage RaftError Unit :=
    script (removeOps keys snapshot.metadata.index) >>= fun _ =>
      script [.flush .snapshotsTree, .flush .metaTree, .flush .entriesTree]
  have code : applySnapshot snapshot = script records >>= fun _ =>
      keysUpTo snapshot.metadata.index >>= fun toRemove =>
        script (toRemove.map .removeEntry) >>= fun _ =>
          script [.flush .snapshotsTree, .flush .metaTree, .flush .entriesTree] := by
    simp only [records, applySnapshot, script_cons, Attempt.bind_assoc, ← script_map]
    simp [script]
  have listed (keys : List Nat) : script (snapshotOps snapshot keys) =
      script records >>= fun _ => script (scanOps keys) >>= fun _ => rest keys := by
    simp only [snapshotOps, List.append_assoc, script_append, records, rest]
  rw [code, listed]
  apply Attempt.bind_congr_ok
  intro _ middle recorded
  -- The two records leave the entries tree as it is, so the scan sees the old keys.
  have same : middle.db.entriesTree = storage.db.entriesTree := by
    rw [(script_ok recorded).1]
    rfl
  rw [keysUpTo_bind_eq_script, same]
  rfl

/-- A compact is the script of its sled calls. -/
theorem compact_eq_script (index : Nat) (storage : DiskStorage) :
    compact index storage = script (compactOps index storage.db.entriesTree.keys) storage := by
  rw [compact, keysUpTo_bind_eq_script, compactOps, List.append_assoc, script_append, script_append,
    script_single, removeOps, ← script_map]

end DiskStorage

end RaftATui
