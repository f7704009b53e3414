import RaftATui.Proof.Storage.Log

namespace RaftATui
open Machinery

/-- Raft hands out a snapshot that is newer than the stored one. -/
def Newer (storage : DiskStorage) (snapshot : Snapshot) : Prop :=
  ∀ old, storage.getLatestSnapshot = some old → old.metadata.index < snapshot.metadata.index

/-- The stored log has the entry of the snapshot with its term. -/
def Matches (storage : DiskStorage) (snapshot : Snapshot) : Prop :=
  ∃ entry, storage.getEntry snapshot.metadata.index = some entry ∧ entry.term = snapshot.metadata.term

/-- The terms never decrease along the stored entries. -/
def TermsAscend (storage : DiskStorage) : Prop :=
  ∀ first second entry later, storage.getEntry first = some entry →
    storage.getEntry second = some later → first ≤ second → entry.term ≤ later.term

/-- The installed snapshot is followed by entries of a matching log only. -/
structure KeepsMatchingSuffix (storage : DiskStorage) (snapshot : Snapshot) (next : DiskStorage) :
    Prop where
  first : ∀ build, next.firstIndex build = some (snapshot.metadata.index + 1)
  term : next.term snapshot.metadata.index = .ok snapshot.metadata.term
  last : snapshot.metadata.index ≤ next.lastIndex
  kept : ∀ index entry, next.getEntry index = some entry →
    snapshot.metadata.index < index ∧ storage.getEntry index = some entry ∧ Matches storage snapshot
  ascend : TermsAscend storage → TermsAscend next ∧
    ∀ index entry, next.getEntry index = some entry → snapshot.metadata.term ≤ entry.term

/-- An index follows the snapshot, and the stored log matches the snapshot or ends before it. -/
def SafeInstall (storage : DiskStorage) (snapshot : Snapshot) : Prop :=
  snapshot.metadata.index + 1 < UInt64.size ∧
    (Matches storage snapshot ∨ ∀ index ∈ storage.db.entriesTree, index ≤ snapshot.metadata.index)

/-- A scan changes nothing. -/
theorem replay_scan (db : Db) (keys : List Nat) : db.replay (DiskStorage.scanOps keys) = db := by
  induction keys generalizing db with
  | nil => rfl
  | cons key rest ih => exact ih db

/-- The removals erase exactly the listed keys. -/
theorem getElem?_replay_removes (db : Db) (keys : List Nat) (query : Nat) :
    (db.replay (keys.map .removeEntry)).entriesTree[query]? =
      if query ∈ keys then none else db.entriesTree[query]? := by
  induction keys generalizing db with
  | nil => rw [if_neg (List.not_mem_nil)]; rfl
  | cons key rest ih =>
      rw [List.map_cons, Db.replay_cons, ih]
      have erased : (db.run (.removeEntry key)).entriesTree[query]? =
          if key = query then none else db.entriesTree[query]? :=
        OrderedTree.getElem?_erase key query
      rw [erased]
      by_cases here : key = query
      · subst here
        simp
      · by_cases later : query ∈ rest
        · simp [later]
        · simp [later, here, Ne.symm here]

/-- Removed entries keep the snapshot record. -/
theorem replay_removes_snapshotsTree (db : Db) (keys : List Nat) :
    (db.replay (keys.map .removeEntry)).snapshotsTree = db.snapshotsTree := by
  apply Db.replay_keeps Db.snapshotsTree
  rw [List.forall_mem_map]
  exact fun _ _ _ => rfl

/-- Removed entries keep the states. -/
theorem replay_removes_metaTree (db : Db) (keys : List Nat) :
    (db.replay (keys.map .removeEntry)).metaTree = db.metaTree := by
  apply Db.replay_keeps Db.metaTree
  rw [List.forall_mem_map]
  exact fun _ _ _ => rfl

/-- Of the stored keys exactly the covered ones are removed. -/
theorem getElem?_replay_removeOps (db : Db) (index key : Nat) :
    (db.replay (DiskStorage.removeOps db.entriesTree.keys index)).entriesTree[key]? =
      if key ≤ index then none else db.entriesTree[key]? := by
  rw [DiskStorage.removeOps, getElem?_replay_removes]
  simp only [List.mem_filter, decide_eq_true_eq, Std.ExtTreeMap.mem_keys]
  by_cases below : key ≤ index
  · by_cases stored : key ∈ db.entriesTree
    · rw [if_pos ⟨stored, below⟩, if_pos below]
    · rw [if_neg (by simp [stored]), if_pos below]
      exact OrderedTree.not_mem_iff_getElem?.mp stored
  · rw [if_neg (by simp [below]), if_neg below]

/-- The calls of an install are the two records and then the removals. -/
theorem replay_snapshotOps (db : Db) (snapshot : Snapshot) (keys : List Nat) :
    db.replay (DiskStorage.snapshotOps snapshot keys) =
      (db.replay [.insertSnapshot snapshot, .insertConfstate snapshot.metadata.confState]).replay
        (DiskStorage.removeOps keys snapshot.metadata.index) := by
  rw [DiskStorage.snapshotOps]
  simp only [Db.replay_append, replay_scan]
  rfl

/-- An install keeps every entry above the snapshot and no other one. -/
theorem getElem?_replay_snapshotOps (db : Db) (snapshot : Snapshot) (key : Nat) :
    (db.replay (DiskStorage.snapshotOps snapshot db.entriesTree.keys)).entriesTree[key]? =
      if key ≤ snapshot.metadata.index then none else db.entriesTree[key]? := by
  rw [replay_snapshotOps]
  exact getElem?_replay_removeOps (db.replay [.insertSnapshot snapshot, .insertConfstate snapshot.metadata.confState])
    snapshot.metadata.index key

/-- An installed snapshot is the record. -/
theorem replay_snapshotOps_snapshotsTree (db : Db) (snapshot : Snapshot) (keys : List Nat) :
    (db.replay (DiskStorage.snapshotOps snapshot keys)).snapshotsTree = some snapshot := by
  rw [replay_snapshotOps, DiskStorage.removeOps, replay_removes_snapshotsTree]
  rfl

namespace DiskStorage

variable {storage next : DiskStorage} {snapshot : Snapshot}

/-- A successful install replays its calls. -/
theorem applySnapshot_db (success : applySnapshot snapshot storage = (.ok (), next)) :
    next.db = storage.db.replay (snapshotOps snapshot storage.db.entriesTree.keys) := by
  rw [applySnapshot_eq_script] at success
  exact (script_ok success).1

/-- An installed snapshot removes exactly the entries up to its index. -/
theorem applySnapshot_getEntry (success : applySnapshot snapshot storage = (.ok (), next))
    (key : Nat) : next.getEntry key =
      if key ≤ snapshot.metadata.index then none else storage.getEntry key := by
  rw [getEntry, applySnapshot_db success, getElem?_replay_snapshotOps]
  rfl

/-- An installed snapshot is the record afterwards. -/
theorem applySnapshot_snapshotsTree (success : applySnapshot snapshot storage = (.ok (), next)) :
    next.db.snapshotsTree = some snapshot := by
  rw [applySnapshot_db success, replay_snapshotOps_snapshotsTree]

/-- An installed snapshot changes only the configuration of the meta tree. -/
theorem applySnapshot_metaTree (success : applySnapshot snapshot storage = (.ok (), next)) :
    next.db.metaTree = { storage.db.metaTree with confstate := some snapshot.metadata.confState } := by
  rw [applySnapshot_db success, replay_snapshotOps, removeOps, replay_removes_metaTree]
  rfl

/-- The first index adds one to the snapshot's index in a `u64`. -/
theorem applySnapshot_firstIndex (success : applySnapshot snapshot storage = (.ok (), next)) (build : Build) :
    next.firstIndex build = build.succ snapshot.metadata.index :=
  firstIndex_of_snapshot (applySnapshot_snapshotsTree success) build

/-- The term at the snapshot's index is that of the snapshot. -/
theorem applySnapshot_term (success : applySnapshot snapshot storage = (.ok (), next)) :
    next.term snapshot.metadata.index = .ok snapshot.metadata.term := by
  rw [term, getLatestSnapshot, applySnapshot_snapshotsTree success]
  simp

/-- Only entries above the snapshot remain, so the log cannot end before it. -/
theorem applySnapshot_le_lastIndex (success : applySnapshot snapshot storage = (.ok (), next)) :
    snapshot.metadata.index ≤ next.lastIndex := by
  rcases lastIndex_cases next with ⟨stored, _⟩ | empty
  · obtain ⟨entry, found⟩ := mem_iff_getEntry.mp stored
    rw [applySnapshot_getEntry success] at found
    by_contra below
    rw [if_pos (by omega)] at found
    cases found
  · rw [lastIndex_of_empty empty, applySnapshot_snapshotsTree success]
    exact Nat.le_refl _

end DiskStorage

open DiskStorage

/-- An install keeps only a matching suffix exactly when the log matches or ends before it.
The index behind the snapshot has to fit a `u64`. -/
theorem applySnapshot_keepsMatchingSuffix_iff (storage next : DiskStorage) (snapshot : Snapshot)
    (success : DiskStorage.applySnapshot snapshot storage = (.ok (), next)) :
    KeepsMatchingSuffix storage snapshot next ↔ SafeInstall storage snapshot := by
  have remains {index : Nat} {entry : Entry} (found : next.getEntry index = some entry) :
      snapshot.metadata.index < index ∧ storage.getEntry index = some entry := by
    rw [applySnapshot_getEntry success] at found
    by_cases below : index ≤ snapshot.metadata.index
    · rw [if_pos below] at found
      cases found
    · rw [if_neg below] at found
      exact ⟨by omega, found⟩
  constructor
  · intro keeps
    have addable : snapshot.metadata.index + 1 < UInt64.size :=
      Build.succ_eq_some_iff.mp ((applySnapshot_firstIndex success .debug).symm.trans (keeps.first .debug))
    refine ⟨addable, ?_⟩
    by_cases behind : ∀ index ∈ storage.db.entriesTree, index ≤ snapshot.metadata.index
    · exact Or.inr behind
    · push Not at behind
      obtain ⟨index, stored, above⟩ := behind
      obtain ⟨entry, found⟩ := mem_iff_getEntry.mp stored
      have kept : next.getEntry index = some entry := by
        rw [applySnapshot_getEntry success, if_neg (by omega), found]
      exact Or.inl (keeps.kept index entry kept).2.2
  · rintro ⟨addable, safe⟩
    refine ⟨fun build => (applySnapshot_firstIndex success build).trans (Build.succ_eq_some_iff.mpr addable),
      applySnapshot_term success, applySnapshot_le_lastIndex success, ?_, ?_⟩
    · intro index entry found
      obtain ⟨above, stored⟩ := remains found
      refine ⟨above, stored, safe.resolve_right fun behind => ?_⟩
      have bound := behind index (mem_iff_getEntry.mpr ⟨entry, stored⟩)
      omega
    · intro ascend
      constructor
      · intro first second entry later foundFirst foundSecond ordered
        exact ascend first second entry later (remains foundFirst).2 (remains foundSecond).2 ordered
      · intro index entry found
        obtain ⟨above, stored⟩ := remains found
        rcases safe with ⟨anchor, anchored, sameTerm⟩ | behind
        · rw [← sameTerm]
          exact ascend _ index anchor entry anchored stored (by omega)
        · have bound := behind index (mem_iff_getEntry.mpr ⟨entry, stored⟩)
          omega

/-- Three entries of term one are on disk. -/
def threeEntries : DiskStorage :=
  (DiskStorage.append [⟨.entryNormal, 1, 1, [], []⟩, ⟨.entryNormal, 1, 2, [], []⟩,
    ⟨.entryNormal, 1, 3, [], []⟩] (openDb Db.new [])).2

/-- This snapshot covers two entries and ends with the given term. -/
def snapshotAtTwo (term : Nat) : Snapshot := ⟨[], { confState := { voters := [1] }, index := 2, term }⟩

/-- A matching snapshot keeps the third entry rightly. -/
theorem applySnapshot_keepsMatchingSuffix_three :
    KeepsMatchingSuffix threeEntries (snapshotAtTwo 1)
      (DiskStorage.applySnapshot (snapshotAtTwo 1) threeEntries).2 :=
  (applySnapshot_keepsMatchingSuffix_iff threeEntries _ (snapshotAtTwo 1) rfl).mpr
    ⟨by decide, Or.inl ⟨⟨.entryNormal, 1, 2, [], []⟩, by decide, rfl⟩⟩

/-- A conflicting snapshot of term two keeps the third entry of term one. -/
theorem applySnapshot_keeps_conflict :
    Newer threeEntries (snapshotAtTwo 2) ∧
      DiskStorage.applySnapshot (snapshotAtTwo 2) threeEntries =
        (.ok (), (DiskStorage.applySnapshot (snapshotAtTwo 2) threeEntries).2) ∧
      ¬ KeepsMatchingSuffix threeEntries (snapshotAtTwo 2)
        (DiskStorage.applySnapshot (snapshotAtTwo 2) threeEntries).2 := by
  refine ⟨?_, rfl, fun keeps => ?_⟩
  · intro old stored
    have fresh : threeEntries.getLatestSnapshot = none := rfl
    rw [fresh] at stored
    cases stored
  · obtain ⟨_, _, entry, found, term⟩ := keeps.kept 3 ⟨.entryNormal, 1, 3, [], []⟩ (by decide)
    have same : entry = ⟨.entryNormal, 1, 2, [], []⟩ := by
      have stored : threeEntries.getEntry 2 = some ⟨.entryNormal, 1, 2, [], []⟩ := by decide
      exact Option.some.inj (found.symm.trans stored)
    rw [same] at term
    exact absurd term (by decide)

end RaftATui
