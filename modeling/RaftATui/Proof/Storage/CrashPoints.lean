import RaftATui.Proof.Storage.Startable

namespace RaftATui
open Machinery
open Machinery.Crash (Throughout throughout_append throughout_cons throughout_nil throughout_of_kept)

namespace Ready

/-- This is the index below the log that raft has after the snapshot of the ready. -/
def base (ready : Ready) (db : Db) : Nat :=
  if ready.snapshot.isEmpty then db.logStart - 1 else ready.snapshot.metadata.index

/-- This is the last index of the log that raft has with the entries of the ready. -/
def last (ready : Ready) (db : Db) : Nat :=
  match ready.entries.getLast? with
  | some entry => entry.index
  | none => if ready.snapshot.isEmpty then db.lastIndex else ready.snapshot.metadata.index

/-- Raft hands out a snapshot above its commit index, entries behind it, and a commit index in its log. -/
structure Conforms (ready : Ready) (db : Db) : Prop where
  snapshot : ready.snapshot.isEmpty = false →
    db.hardState.commit < ready.snapshot.metadata.index ∧ ready.hs.isSome = true
  entries : ∀ entry ∈ ready.entries, ready.base db < entry.index
  commit : ∀ hs, ready.hs = some hs → ready.base db ≤ hs.commit ∧ hs.commit ≤ ready.last db

/-- The ready brings no snapshot, or the node has no hard state yet and no log that ends below it. -/
def Harmless (ready : Ready) (db : Db) : Prop :=
  ready.snapshot.isEmpty = true ∨
    (db.hardState = .default ∧
      (db.entriesTree.isEmpty = true ∨ ready.snapshot.metadata.index ≤ db.lastIndex))

instance (ready : Ready) (db : Db) : Decidable (ready.Harmless db) := inferInstanceAs (Decidable (_ ∨ _))

/-- These are the sled calls that install the snapshot and count it as applied. -/
def snapshotPart (ready : Ready) (db : Db) : List SledOp :=
  if ready.snapshot.isEmpty then []
  else DiskStorage.snapshotOps ready.snapshot db.entriesTree.keys ++
    [.insertAppliedIndex ready.snapshot.metadata.index, .flush .metaTree]

def appendPart (ready : Ready) : List SledOp :=
  if ready.entries.isEmpty then [] else DiskStorage.appendOps ready.entries

def hardstatePart (ready : Ready) : List SledOp :=
  match ready.hs with
  | some hs => [.insertHardstate hs, .flush .metaTree]
  | none => []

/-- These are the sled calls of one ready before any entry is applied. -/
def sledOps (ready : Ready) (db : Db) : List SledOp :=
  ready.snapshotPart db ++ (ready.appendPart ++ ready.hardstatePart)

end Ready

namespace Db

variable {db : Db} {ready : Ready} {snapshot : Snapshot}

/-- Removals up to the snapshot, in ascending order, keep the log rooted at each point. -/
theorem removeOps_throughout (rooted : Rooted snapshot db) :
    Throughout Db.run (Rooted snapshot) db
      (DiskStorage.removeOps db.entriesTree.keys snapshot.metadata.index) := by
  have reaching {keys : List Nat} {witness : Nat} (above : snapshot.metadata.index ≤ witness)
      (stored : witness ∈ db.entriesTree) (others : ∀ key ∈ keys, key ≠ witness) :
      Throughout Db.run (Rooted snapshot) db (keys.map .removeEntry) := by
    have points : Throughout Db.run
        (fun state => state.snapshotsTree = some snapshot ∧ witness ∈ state.entriesTree) db
        (keys.map .removeEntry) := by
      refine throughout_of_kept ⟨rooted.record, stored⟩ ?_
      intro op inside state holds
      obtain ⟨key, listed, rfl⟩ := List.mem_map.mp inside
      exact ⟨holds.1, mem_removeEntry.mpr ⟨others key listed, holds.2⟩⟩
    exact points.weaken fun state holds => ⟨holds.1, Or.inr ⟨witness, holds.2, above⟩⟩
  rcases rooted.reaches with empty | ⟨key, stored, above⟩
  · rw [OrderedTree.keys_eq_nil.mpr empty]
    exact throughout_nil.mpr rooted
  · have final := lastIndex_mem stored
    have reached : snapshot.metadata.index ≤ db.lastIndex := Nat.le_trans above (le_lastIndex stored)
    by_cases beyond : snapshot.metadata.index < db.lastIndex
    · apply reaching reached final
      intro other listed
      have below : other ≤ snapshot.metadata.index := by simpa using (List.mem_filter.mp listed).2
      omega
    · -- The snapshot is at the last entry, which is the last one to be removed.
      have ends : db.entriesTree.keys.getLast? = some db.lastIndex :=
        OrderedTree.getLast?_keys_eq_some.mpr ⟨final, fun other member => le_lastIndex member⟩
      have whole : db.entriesTree.keys.filter (· ≤ snapshot.metadata.index) = db.entriesTree.keys := by
        rw [List.filter_eq_self]
        intro other listed
        have bound := le_lastIndex (Std.ExtTreeMap.mem_keys.mp listed)
        simp only [decide_eq_true_eq]
        omega
      obtain ⟨front, split⟩ := List.getLast?_eq_some_iff.mp ends
      have sorted : (front ++ [db.lastIndex]).Pairwise (· < ·) := split ▸ OrderedTree.keys_pairwise
      have below : ∀ other ∈ front, other ≠ db.lastIndex := fun other listed =>
        Nat.ne_of_lt ((List.pairwise_append.mp sorted).2.2 other listed _ (List.mem_singleton_self _))
      have nothing : ∀ other, other ∉ (db.replay ((front ++ [db.lastIndex]).map .removeEntry)).entriesTree := by
        intro other
        rw [OrderedTree.not_mem_iff_getElem?, getElem?_replay_removes, ← split]
        split
        · rfl
        · next missing =>
            rw [Std.ExtTreeMap.mem_keys] at missing
            exact OrderedTree.not_mem_iff_getElem?.mp missing
      rw [DiskStorage.removeOps, whole, split, List.map_append, throughout_append]
      refine ⟨reaching reached final below, ?_⟩
      rw [List.map_singleton, throughout_cons, throughout_nil]
      refine ⟨(reaching reached final below).final, ?_, Or.inl ?_⟩
      · have record := replay_removes_snapshotsTree db (front ++ [db.lastIndex])
        rw [List.map_append, Db.replay_append] at record
        exact record.trans rooted.record
      · rw [List.map_append, Db.replay_append] at nothing
        exact nothing

/-- Marks keep the log rooted at each point. -/
theorem marks_throughout (rooted : Rooted snapshot db) {ops : List SledOp}
    (marks : ∀ op ∈ ops, op.marks = true) : Throughout Db.run (Rooted snapshot) db ops :=
  throughout_of_kept rooted fun op inside state => rooted_congr (core_run (marks op inside) state).symm

/-- Once the record of a snapshot roots the log, the rest of the installation keeps it rooted. -/
theorem snapshotOps_throughout (rooted : Rooted snapshot (db.run (.insertSnapshot snapshot))) :
    Throughout Db.run (Rooted snapshot) (db.run (.insertSnapshot snapshot))
      ([.insertConfstate snapshot.metadata.confState] ++ DiskStorage.scanOps db.entriesTree.keys ++
        DiskStorage.removeOps db.entriesTree.keys snapshot.metadata.index ++
        [.flush .snapshotsTree, .flush .metaTree, .flush .entriesTree]) := by
  have scans : ∀ op ∈ [SledOp.insertConfstate snapshot.metadata.confState] ++
      DiskStorage.scanOps db.entriesTree.keys, op.marks = true := by
    intro op inside
    rcases List.mem_append.mp inside with conf | scan
    · rw [List.mem_singleton.mp conf]
      rfl
    · obtain ⟨key, _, rfl⟩ := List.mem_map.mp scan
      rfl
  have scanned := marks_throughout rooted scans
  have same : ((db.run (.insertSnapshot snapshot)).replay
      ([SledOp.insertConfstate snapshot.metadata.confState] ++
        DiskStorage.scanOps db.entriesTree.keys)).entriesTree = db.entriesTree :=
    congrArg Prod.fst (core_replay scans _)
  have removed := removeOps_throughout scanned.final
  change Throughout Db.run (Rooted snapshot) _ (DiskStorage.removeOps (Db.replay _ _).entriesTree.keys _)
    at removed
  rw [same] at removed
  rw [throughout_append, throughout_append]
  refine ⟨⟨scanned, removed⟩, ?_⟩
  rw [List.foldl_append]
  exact marks_throughout removed.final (by simp [SledOp.marks])

/-- The snapshot of a ready keeps the hard state. -/
theorem snapshotPart_keepsHard (ready : Ready) (db : Db) :
    ∀ op ∈ ready.snapshotPart db, op.keepsHard = true := by
  rw [Ready.snapshotPart]
  split
  · simp
  · rw [List.forall_mem_append]
    exact ⟨DiskStorage.forall_snapshotOps rfl rfl rfl (fun _ _ _ => rfl) fun _ => rfl, by simp [SledOp.keepsHard]⟩

/-- The installation of a harmless snapshot can stop at each point. -/
theorem snapshotPart_throughout (startable : db.Startable) (harmless : ready.Harmless db) :
    Throughout Db.run Startable db (ready.snapshotPart db) := by
  have keeps := snapshotPart_keepsHard ready db
  rw [Ready.snapshotPart] at keeps ⊢
  split at keeps
  · next none =>
      rw [if_pos none]
      exact throughout_nil.mpr startable
  · next installs =>
      rw [if_neg installs]
      obtain ⟨fresh, fits⟩ := harmless.resolve_left installs
      have rooted : Rooted ready.snapshot (db.run (.insertSnapshot ready.snapshot)) := by
        refine ⟨rfl, ?_⟩
        rcases fits with empty | reaches
        · exact Or.inl (OrderedTree.isEmpty_iff.mp empty)
        · by_cases stored : ∃ key, key ∈ db.entriesTree
          · obtain ⟨key, stored⟩ := stored
            exact Or.inr ⟨db.lastIndex, lastIndex_mem stored, reaches⟩
          · exact Or.inl (not_exists.mp stored)
      have points := snapshotOps_throughout rooted
      have counted := marks_throughout points.final
        (show ∀ op ∈ [SledOp.insertAppliedIndex ready.snapshot.metadata.index, .flush .metaTree],
          op.marks = true by simp [SledOp.marks])
      refine throughout_cons.mpr ⟨startable, ?_⟩
      have hard : Throughout Db.run (fun state => state.hardState = .default)
          (db.run (.insertSnapshot ready.snapshot)) _ :=
        throughout_of_kept fresh fun op inside state same =>
          (hardState_run (keeps op (List.mem_cons_of_mem _ inside)) state).trans same
      exact ((throughout_append.mpr ⟨points, counted⟩).and hard).weaken fun state holds =>
        holds.1.startable_iff.mpr fun stored => absurd holds.2 stored

/-- After its snapshot a ready finds a rooted log and the old hard state. -/
theorem snapshotPart_rooted {old : Snapshot} (startable : db.Startable) (record : db.snapshotsTree = some old)
    (ready : Ready) : ∃ root, Rooted root (db.replay (ready.snapshotPart db)) ∧
      root.metadata.index = ready.base db ∧
      (db.replay (ready.snapshotPart db)).hardState = db.hardState := by
  have hard := replay_keeps hardState (fun op inside => hardState_run (snapshotPart_keepsHard ready db op inside)) db
  by_cases none : ready.snapshot.isEmpty = true
  · refine ⟨old, ?_, ?_, hard⟩
    · rw [Ready.snapshotPart, if_pos none]
      exact rooted_of_startable record startable
    · rw [Ready.base, if_pos none, logStart_of_snapshot record, Nat.add_sub_cancel]
  · refine ⟨ready.snapshot, ?_, by rw [Ready.base, if_neg none], hard⟩
    have installed : Rooted ready.snapshot
        (db.replay (DiskStorage.snapshotOps ready.snapshot db.entriesTree.keys)) := by
      refine ⟨replay_snapshotOps_snapshotsTree db ready.snapshot _, ?_⟩
      by_cases stored : ∃ key, key ∈ (db.replay
          (DiskStorage.snapshotOps ready.snapshot db.entriesTree.keys)).entriesTree
      · obtain ⟨key, stored⟩ := stored
        obtain ⟨entry, found⟩ := OrderedTree.mem_iff_getElem?.mp stored
        refine Or.inr ⟨key, stored, ?_⟩
        rw [getElem?_replay_snapshotOps] at found
        by_contra below
        rw [if_pos (by omega)] at found
        cases found
      · exact Or.inl (not_exists.mp stored)
    rw [Ready.snapshotPart, if_neg none, replay_append]
    exact rooted_congr (core_replay (by simp [SledOp.marks]) _).symm installed

/-- Entries behind the root extend the log and keep the hard state. -/
theorem appendPart_throughout {root : Snapshot} {state : Db} (rooted : Rooted root state)
    (above : ∀ entry ∈ ready.entries, root.metadata.index < entry.index) :
    Throughout Db.run (fun later => Rooted root later ∧ state.lastIndex ≤ later.lastIndex ∧
      later.hardState = state.hardState) state ready.appendPart := by
  refine throughout_of_kept ⟨rooted, Nat.le_refl _, rfl⟩ ?_
  unfold Ready.appendPart
  split
  · simp
  · apply DiskStorage.forall_appendOps
    · intro entry listed later ⟨holds, grown, same⟩
      obtain ⟨kept, longer⟩ := holds.insertEntry (Nat.le_of_lt (above entry listed))
      exact ⟨kept, Nat.le_trans grown longer, same⟩
    · exact fun later holds => holds

/-- Raft's last index is stored when the entries are. -/
theorem last_le_lastIndex (db : Db) {root : Snapshot} {state : Db} (rooted : Rooted root state)
    (above : ∀ entry ∈ ready.entries, root.metadata.index < entry.index)
    (longer : ready.entries = [] → ready.last db ≤ state.lastIndex) :
    ready.last db ≤ (state.replay ready.appendPart).lastIndex := by
  cases ends : ready.entries.getLast? with
  | none =>
      have empty : ready.entries = [] := List.getLast?_eq_none_iff.mp ends
      have grown := (appendPart_throughout rooted above).final.2.1
      exact Nat.le_trans (longer empty) grown
  | some entry =>
      obtain ⟨front, split⟩ := List.getLast?_eq_some_iff.mp ends
      have filled : ready.entries.isEmpty = false := by simp [split]
      rw [Ready.last, ends, Ready.appendPart, filled]
      apply le_lastIndex
      simp only [Bool.false_eq_true, if_false, DiskStorage.appendOps, split, List.map_append,
        replay_append]
      exact mem_insertEntry.mpr (Or.inl rfl)

/-- The complete calls of a ready leave a directory behind that starts raft with the new hard state. -/
theorem sledOps_hardState {old : Snapshot} (startable : db.Startable) (record : db.snapshotsTree = some old)
    (conforms : ready.Conforms db) {hs : HardState} (carried : ready.hs = some hs) :
    ∃ root, Rooted root (db.replay (ready.sledOps db)) ∧ (db.replay (ready.sledOps db)).Startable := by
  obtain ⟨root, rooted, base, _⟩ := snapshotPart_rooted startable record ready
  have above : ∀ entry ∈ ready.entries, root.metadata.index < entry.index := fun entry listed =>
    base ▸ conforms.entries entry listed
  have last := last_le_lastIndex db rooted above fun empty => by
    rw [Ready.last, empty, List.getLast?_nil]
    by_cases none : ready.snapshot.isEmpty = true
    · simp [none, Ready.snapshotPart]
    · have reached := rooted.le_lastIndex
      rw [base, Ready.base, if_neg none] at reached
      simpa [none] using reached
  have appended := (appendPart_throughout rooted above).final.1
  have bounds := conforms.commit hs carried
  have stored : db.replay (ready.sledOps db) = (((db.replay (ready.snapshotPart db)).replay
      ready.appendPart).run (.insertHardstate hs)).run (.flush .metaTree) := by
    rw [Ready.sledOps, replay_append, replay_append, Ready.hardstatePart, carried]
    rfl
  have rootedLast : Rooted root (db.replay (ready.sledOps db)) := by
    rw [stored]
    exact ⟨appended.record, appended.reaches⟩
  refine ⟨root, rootedLast, rootedLast.startable_iff.mpr fun _ => ?_⟩
  rw [stored, base]
  exact ⟨bounds.1, Nat.le_trans bounds.2 last⟩

/-- A harmless ready can stop between any two of its calls. -/
theorem sledOps_throughout {old : Snapshot} (startable : db.Startable) (record : db.snapshotsTree = some old)
    (conforms : ready.Conforms db) (harmless : ready.Harmless db) :
    Throughout Db.run Startable db (ready.sledOps db) := by
  obtain ⟨root, rooted, base, _⟩ := snapshotPart_rooted startable record ready
  have above : ∀ entry ∈ ready.entries, root.metadata.index < entry.index := fun entry listed =>
    base ▸ conforms.entries entry listed
  have installs := snapshotPart_throughout startable harmless
  have appends : Throughout Db.run Startable (db.replay (ready.snapshotPart db)) ready.appendPart :=
    (appendPart_throughout rooted above).weaken fun later ⟨holds, grown, same⟩ => by
      rw [holds.startable_iff, same]
      intro stored
      have bounds := rooted.startable_iff.mp installs.final stored
      exact ⟨bounds.1, Nat.le_trans bounds.2 grown⟩
  refine throughout_append.mpr ⟨installs, throughout_append.mpr ⟨appends, ?_⟩⟩
  rw [Ready.hardstatePart]
  cases carried : ready.hs with
  | none => exact throughout_nil.mpr appends.final
  | some hs =>
      obtain ⟨_, _, finished⟩ := sledOps_hardState startable record conforms carried
      rw [Ready.sledOps, replay_append, replay_append, Ready.hardstatePart, carried] at finished
      have flushed (state : Db) : (state.run (.flush .metaTree)).core = state.core := rfl
      refine throughout_cons.mpr ⟨appends.final, throughout_cons.mpr ⟨?_, throughout_nil.mpr finished⟩⟩
      exact (startable_congr (flushed _)).mp finished

/-- The complete calls of any ready leave a directory behind that starts raft. -/
theorem sledOps_final {old : Snapshot} (startable : db.Startable) (record : db.snapshotsTree = some old)
    (conforms : ready.Conforms db) : (db.replay (ready.sledOps db)).Startable := by
  cases carried : ready.hs with
  | some hs =>
      obtain ⟨_, _, finished⟩ := sledOps_hardState startable record conforms carried
      exact finished
  | none =>
      have empty : ready.snapshot.isEmpty = true := by
        by_contra installs
        have hard := (conforms.snapshot (by simpa using installs)).2
        rw [carried] at hard
        cases hard
      exact (sledOps_throughout startable record conforms (Or.inl empty)).final

/-- When each point of an installation starts raft, the ready is harmless. -/
theorem harmless_of_throughout (conforms : ready.Conforms db)
    (points : Throughout Db.run Startable db (ready.sledOps db)) : ready.Harmless db := by
  by_cases none : ready.snapshot.isEmpty = true
  · exact Or.inl none
  · obtain ⟨newer, _⟩ := conforms.snapshot (by simpa using none)
    -- The first call writes the record, which moves the first index behind the commit index.
    have recorded : (db.run (.insertSnapshot ready.snapshot)).Startable := by
      refine points [.insertSnapshot ready.snapshot] ?_
      rw [Ready.sledOps, Ready.snapshotPart, if_neg none]
      exact ⟨_, rfl⟩
    have first : (db.run (.insertSnapshot ready.snapshot)).logStart = ready.snapshot.metadata.index + 1 :=
      logStart_of_snapshot rfl
    have rooted := rooted_of_startable rfl recorded
    refine Or.inr ⟨?_, ?_⟩
    · by_contra stored
      have bounds := (rooted.startable_iff.mp recorded stored).1
      exact absurd newer (Nat.not_lt.mpr bounds)
    · by_cases filled : ∃ key, key ∈ db.entriesTree
      · obtain ⟨key, member⟩ := filled
        rcases rooted.reaches with empty | ⟨other, listed, above⟩
        · exact absurd member (empty key)
        · exact Or.inr (Nat.le_trans above (le_lastIndex listed))
      · exact Or.inl (OrderedTree.isEmpty_iff.mpr (not_exists.mp filled))

end Db

end RaftATui
