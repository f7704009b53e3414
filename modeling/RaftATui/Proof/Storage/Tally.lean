import RaftATui.Proof.Storage.CrashPoints
import RaftATui.Proof.Storage.Persisted

namespace RaftATui
open Machinery

/-- This is the applied index that a directory records. -/
def Db.applied (db : Db) : Nat := db.metaTree.appliedIndex.getD 0

def SledOp.writesApplied : SledOp → Bool
  | .insertAppliedIndex _ => true
  | _ => false

/-- Sled calls that write no applied index keep it. -/
theorem Db.applied_replay {ops : List SledOp} (free : ∀ op ∈ ops, op.writesApplied = false) (db : Db) :
    (db.replay ops).applied = db.applied := by
  apply Db.replay_keeps Db.applied
  intro op inside state
  have calm := free op inside
  cases op <;> first | rfl | cases calm

/-- The tally lists the written applied indices and the log indices at which the stored configuration changed. -/
structure Tally where
  conf : ConfState
  changed : Bool
  changes : List Nat
  writes : List Nat
  deriving DecidableEq

/-- A configuration belongs to the applied index that is written after it. -/
def Tally.step (tally : Tally) : SledOp → Tally
  | .insertConfstate cs => { tally with conf := cs, changed := tally.changed || cs != tally.conf }
  | .insertAppliedIndex index => { tally with
      changed := false
      changes := if tally.changed then tally.changes ++ [index] else tally.changes
      writes := tally.writes ++ [index] }
  | _ => tally

/-- The last written applied index is zero on a new directory. -/
def Tally.last (tally : Tally) : Nat := tally.writes.getLastD 0

/-- This is the tally of a history that begins with a configuration. -/
def tally (conf : ConfState) (history : List SledOp) : Tally := history.foldl Tally.step ⟨conf, false, [], []⟩

/-- The applied index never goes back, and the configuration changes at ascending log indices. -/
structure Tally.Steadfast (tally : Tally) : Prop where
  writes : tally.writes.Pairwise (· ≤ ·)
  changes : tally.changes.Pairwise (· < ·)

instance (tally : Tally) : Decidable tally.Steadfast :=
  decidable_of_iff (tally.writes.Pairwise (· ≤ ·) ∧ tally.changes.Pairwise (· < ·))
    ⟨fun both => ⟨both.1, both.2⟩, fun both => ⟨both.1, both.2⟩⟩

/-- The tally reads these sled calls only. -/
def SledOp.tallied : SledOp → Bool
  | .insertConfstate _ | .insertAppliedIndex _ => true
  | _ => false

namespace Tally

variable {ops : List SledOp} {db : Db}

/-- Calls that are not tallied keep the tally. -/
theorem foldl_silent (silent : ∀ op ∈ ops, op.tallied = false) (tally : Tally) :
    ops.foldl step tally = tally := by
  induction ops with
  | nil => rfl
  | cons op rest ih =>
      have same : tally.step op = tally := by
        have calm := silent op List.mem_cons_self
        cases op <;> first | rfl | cases calm
      rw [List.foldl_cons, same, ih fun later inside => silent later (List.mem_cons_of_mem op inside)]

/-- The tally knows the configuration and the applied index of the directory. -/
structure Knows (tally : Tally) (db : Db) : Prop where
  conf : db.initialState.2 = tally.conf
  last : db.applied = tally.last

/-- The tally knows the directory after one more call. -/
theorem Knows.step {tally : Tally} (knows : Knows tally db) (op : SledOp) :
    Knows (tally.step op) (db.run op) := by
  cases op with
  | insertConfstate cs => exact ⟨rfl, knows.last⟩
  | insertAppliedIndex index =>
      constructor
      · exact knows.conf
      · change index = (tally.writes ++ [index]).getLastD 0
        rw [List.getLastD_concat]
  | _ => exact ⟨knows.conf, knows.last⟩

/-- The tally knows the directory after each script. -/
theorem Knows.replay {tally : Tally} (knows : Knows tally db) (ops : List SledOp) :
    Knows (ops.foldl Tally.step tally) (db.replay ops) := by
  induction ops generalizing tally db with
  | nil => exact knows
  | cons op rest ih => exact ih (knows.step op)

end Tally

namespace Tally

/-- An item is counted with the configuration that it leaves behind. -/
def count (conf : ConfState) (index : Nat) (tally : Tally) : Tally :=
  (tally.step (.insertConfstate conf)).step (.insertAppliedIndex index)

/-- Without a new configuration only the index is written. -/
theorem count_same (tally : Tally) (index : Nat) :
    tally.count tally.conf index = tally.step (.insertAppliedIndex index) := by
  simp [count, step]

@[simp] theorem count_conf (conf : ConfState) (index : Nat) (tally : Tally) :
    (tally.count conf index).conf = conf := rfl

@[simp] theorem count_last (conf : ConfState) (index : Nat) (tally : Tally) :
    (tally.count conf index).last = index := List.getLastD_concat

/-- A steadfast tally stays below its last index, and no configuration waits for its index. -/
structure Sound (tally : Tally) : Prop extends tally.Steadfast where
  settled : tally.changed = false
  written : ∀ index ∈ tally.writes, index ≤ tally.last
  below : ∀ index ∈ tally.changes, index ≤ tally.last

/-- The tally of a start is sound. -/
theorem sound_start (conf : ConfState) : Sound ⟨conf, false, [], []⟩ where
  writes := List.Pairwise.nil
  changes := List.Pairwise.nil
  settled := rfl
  written := by simp
  below := by simp

/-- A later item may be counted, and the last one again when it changes no configuration. -/
theorem Sound.count {tally : Tally} (sound : tally.Sound) {conf : ConfState} {index : Nat}
    (fresh : tally.last < index ∨ (index = tally.last ∧ conf = tally.conf)) : (tally.count conf index).Sound := by
  have ahead : tally.last ≤ index := by omega
  have writes : (tally.count conf index).writes = tally.writes ++ [index] := rfl
  have changes : (tally.count conf index).changes =
      if conf != tally.conf then tally.changes ++ [index] else tally.changes := by
    simp [Tally.count, step, sound.settled]
  have later : conf ≠ tally.conf → tally.last < index := by
    intro new
    rcases fresh with above | ⟨_, same⟩
    · exact above
    · exact absurd same new
  constructor
  · constructor
    · rw [writes, List.pairwise_append]
      refine ⟨sound.writes, List.pairwise_singleton _ _, fun first inside second last => ?_⟩
      have bound := sound.written first inside
      rw [List.mem_singleton.mp last]
      omega
    · rw [changes]
      split
      · next new =>
          have above := later (by simpa using new)
          rw [List.pairwise_append]
          refine ⟨sound.changes, List.pairwise_singleton _ _, fun first inside second last => ?_⟩
          have bound := sound.below first inside
          rw [List.mem_singleton.mp last]
          omega
      · exact sound.changes
  · rfl
  · rw [count_last, writes]
    intro old inside
    rcases List.mem_append.mp inside with earlier | last
    · have bound := sound.written old earlier
      omega
    · rw [List.mem_singleton.mp last]
  · rw [count_last, changes]
    intro old inside
    have known : old ∈ tally.changes ++ [index] := by
      split at inside
      · exact inside
      · exact List.mem_append_left _ inside
    rcases List.mem_append.mp known with earlier | last
    · have bound := sound.below old earlier
      omega
    · rw [List.mem_singleton.mp last]

end Tally

/-- The installation of a snapshot counts it with its configuration. -/
theorem Ready.tally_snapshotPart (ready : Ready) (db : Db) (tally : Tally) :
    (ready.snapshotPart db).foldl Tally.step tally =
      if ready.snapshot.isEmpty then tally
      else tally.count ready.snapshot.metadata.confState ready.snapshot.metadata.index := by
  unfold snapshotPart
  split
  · rfl
  · have silent : ∀ op ∈ DiskStorage.scanOps db.entriesTree.keys ++
        DiskStorage.removeOps db.entriesTree.keys ready.snapshot.metadata.index ++
        [.flush .snapshotsTree, .flush .metaTree, .flush .entriesTree], op.tallied = false :=
      @DiskStorage.forall_removals _ _ _ [.snapshotsTree, .metaTree, .entriesTree] rfl (fun _ _ _ => rfl) fun _ => rfl
    rw [List.foldl_append, DiskStorage.snapshotOps, List.append_assoc, List.append_assoc, List.foldl_append,
      ← List.append_assoc, Tally.foldl_silent silent]
    rfl

/-- Entries and the hard state are not tallied. -/
theorem Ready.tally_parts (ready : Ready) (tally : Tally) :
    (ready.appendPart ++ ready.hardstatePart).foldl Tally.step tally = tally := by
  apply Tally.foldl_silent
  rw [List.forall_mem_append]
  constructor
  · unfold appendPart
    split
    · simp
    · exact DiskStorage.forall_appendOps (fun _ _ => rfl) rfl
  · unfold hardstatePart
    cases ready.hs <;> simp [SledOp.tallied]

end RaftATui
