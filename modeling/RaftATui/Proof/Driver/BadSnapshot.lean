import RaftATui.Construction.Driver.Scripted
import RaftATui.Proof.Driver.Moves
import RaftATui.Proof.Storage.FailedWrites

namespace RaftATui
open Machinery

/-- Raft-rs's `MemStorage` refuses snapshots below its first index, and an accepted one moves this index. -/
structure MemInstallLaw {Mem : Type} (mem : MemStorageApi Mem) : Prop where
  reaches : ∀ snapshot inner after, mem.applySnapshot snapshot inner = (.ok (), after) →
    mem.firstIndex inner ≤ snapshot.metadata.index
  first : ∀ snapshot inner after, mem.applySnapshot snapshot inner = (.ok (), after) →
    mem.firstIndex after = snapshot.metadata.index + 1

/-- An accepted snapshot is not older than the log, and the log then starts behind it. -/
theorem MemStorage.applySnapshot_ok {snapshot : Snapshot} {inner after : MemStorage}
    (accepted : MemStorage.applySnapshot snapshot inner = (.ok (), after)) :
    inner.firstIndex ≤ snapshot.metadata.index ∧ after.firstIndex = snapshot.metadata.index + 1 := by
  unfold applySnapshot at accepted
  by_cases below : snapshot.metadata.index < inner.firstIndex
  · rw [if_pos below] at accepted
    cases accepted
  · rw [if_neg below] at accepted
    cases accepted
    exact ⟨Nat.le_of_not_lt below, rfl⟩

/-- The memory storage has the law that a failing restore needs. -/
theorem MemStorage.installLaw (encodedLen : Entry → Nat) : MemInstallLaw (MemStorage.api encodedLen) where
  reaches _ _ _ accepted := (applySnapshot_ok accepted).1
  first _ _ _ accepted := (applySnapshot_ok accepted).2

/-- This is all that a storage holds, with its cached applied index. -/
def RaftStorage.content {Mem : Type} : RaftStorage Mem → (Mem × Nat) ⊕ (Db × Nat)
  | .memory inner appliedIndex => .inl (inner, appliedIndex)
  | .disk storage => .inr (storage.db, storage.appliedIndex)

/-- The disk has installed this very snapshot before. -/
def Installed {Mem : Type} (snapshot : Snapshot) : RaftStorage Mem → Prop
  | .memory _ _ => False
  | .disk storage => storage.db.snapshotsTree = some snapshot ∧
      storage.db.metaTree.confstate = some snapshot.metadata.confState ∧
      ∀ key ∈ storage.db.entriesTree, snapshot.metadata.index < key

/-- The storage and the map are as they were. -/
structure Untouched {X : Externals} (before after : Driver X) : Prop where
  store : after.store.content = before.store.content
  map : after.kvNode.kv = before.kvNode.kv

namespace Driver

variable {X : Externals} {snapshot : Snapshot} {driver after : Driver X} {text : String}

/-- The data are looked at when the storage has installed the snapshot already. -/
theorem applySnapshot_undecoded (failed : applySnapshot snapshot driver = (.error (.other text), after)) :
    (∃ reason, X.snapshotCodec.decode snapshot.data = .error reason) ∧
      RaftStorage.applySnapshot X.mem snapshot driver.store.clearJournal = (.ok (), after.store) ∧
      after.kvNode = driver.kvNode := by
  unfold applySnapshot at failed
  rcases Attempt.bind_eq_error.mp failed with refused | ⟨_, middle, installed, later⟩
  · obtain ⟨_, _, impossible⟩ := Attempt.relabel_eq_error.mp refused
    cases impossible
  rcases Attempt.bind_eq_error.mp later with undecoded | ⟨_, restored, _, counted⟩
  · have store : RaftStorage.applySnapshot X.mem snapshot driver.store.clearJournal = (.ok (), middle.store) ∧
        middle.kvNode = driver.kvNode := by
      unfold Attempt.relabel withStore at installed
      rcases run : RaftStorage.applySnapshot X.mem snapshot driver.store.clearJournal with ⟨error | _, store⟩
      · rw [run] at installed
        cases installed
      · rw [run] at installed
        cases installed
        exact ⟨rfl, rfl⟩
    unfold restoreSnapshot Node.restoreFromSnapshot at undecoded
    cases decoded : X.snapshotCodec.decode snapshot.data with
    | ok kv =>
        rw [decoded] at undecoded
        cases undecoded
    | error reason =>
        rw [decoded] at undecoded
        obtain ⟨_, rfl⟩ := Prod.mk.inj undecoded
        exact ⟨⟨reason, rfl⟩, store⟩
  rcases Attempt.bind_eq_error.mp counted with unwritten | ⟨_, written, _, told⟩
  · obtain ⟨_, _, impossible⟩ := Attempt.relabel_eq_error.mp unwritten
    cases impossible
  · obtain ⟨notices, announced, _⟩ := notify_eq
      (.systemMessage s!"📸 Applied snapshot at index {snapshot.metadata.index} (term {snapshot.metadata.term})") written
    rw [announced] at told
    cases told

end Driver

/-- A successful install on the disk changes nothing exactly when the disk holds the snapshot. -/
theorem DiskStorage.applySnapshot_same_iff {snapshot : Snapshot} {storage next : DiskStorage}
    (done : DiskStorage.applySnapshot snapshot storage = (.ok (), next)) :
    next.db = storage.db ↔ storage.db.snapshotsTree = some snapshot ∧
      storage.db.metaTree.confstate = some snapshot.metadata.confState ∧
      ∀ key ∈ storage.db.entriesTree, snapshot.metadata.index < key := by
  have record := applySnapshot_snapshotsTree done
  have lookup := applySnapshot_getEntry done
  have metadata := applySnapshot_metaTree done
  constructor
  · intro same
    rw [same] at record metadata
    refine ⟨record, congrArg MetaTree.confstate metadata, fun key stored => ?_⟩
    by_contra covered
    have missing := lookup key
    rw [if_pos (Nat.le_of_not_lt covered), getEntry, same] at missing
    exact OrderedTree.not_mem_iff_getElem?.mpr missing stored
  · rintro ⟨held, configured, above⟩
    have entries : next.db.entriesTree = storage.db.entriesTree := by
      ext key entry
      change next.getEntry key = some entry ↔ storage.getEntry key = some entry
      rw [lookup]
      by_cases covered : key ≤ snapshot.metadata.index
      · have missing : storage.getEntry key = none :=
          OrderedTree.not_mem_iff_getElem?.mp fun stored => absurd (above key stored) (Nat.not_lt.mpr covered)
        rw [if_pos covered, missing]
      · rw [if_neg covered]
    have kept : next.db.metaTree = storage.db.metaTree := by
      rw [metadata, ← configured]
    show Db.mk next.db.metaTree next.db.entriesTree next.db.snapshotsTree = storage.db
    rw [kept, entries, record, ← held]

/-- A successful install changes nothing exactly on a disk that holds the snapshot. -/
theorem RaftStorage.content_applySnapshot_iff {Mem : Type} {mem : MemStorageApi Mem} (law : MemInstallLaw mem)
    {snapshot : Snapshot} {store later : RaftStorage Mem}
    (done : RaftStorage.applySnapshot mem snapshot store.clearJournal = (.ok (), later)) :
    later.content = store.content ↔ Installed snapshot store := by
  cases store with
  | memory inner appliedIndex =>
      obtain ⟨accepted, rfl⟩ := Prod.mk.inj done
      have accepted : mem.applySnapshot snapshot inner = (.ok (), (mem.applySnapshot snapshot inner).2) :=
        Prod.ext accepted rfl
      have reaches := law.reaches snapshot inner _ accepted
      have first := law.first snapshot inner _ accepted
      refine ⟨fun same => ?_, False.elim⟩
      have kept : (mem.applySnapshot snapshot inner).2 = inner := congrArg Prod.fst (Sum.inl.inj same)
      rw [kept] at first
      omega
  | disk storage =>
      obtain ⟨accepted, rfl⟩ := Prod.mk.inj done
      have success : DiskStorage.applySnapshot snapshot { storage with journal := [] } =
          (.ok (), (DiskStorage.applySnapshot snapshot { storage with journal := [] }).2) :=
        Prod.ext accepted rfl
      have applied : (DiskStorage.applySnapshot snapshot { storage with journal := [] }).2.appliedIndex =
          storage.appliedIndex := by
        rw [DiskStorage.applySnapshot_eq_script]
        exact DiskStorage.script_applied _ _
      have content := DiskStorage.applySnapshot_same_iff success
      constructor
      · intro same
        exact content.mp (congrArg Prod.fst (Sum.inr.inj same))
      · intro held
        exact congrArg Sum.inr (Prod.ext (content.mpr held) applied)

/-- A received snapshot with bad data is refused whole only by a disk that holds it already. -/
theorem applySnapshot_untouched_iff {X : Externals} (law : MemInstallLaw X.mem) {snapshot : Snapshot}
    {driver after : Driver X} {text : String}
    (failed : Driver.applySnapshot snapshot driver = (.error (.other text), after)) :
    Untouched driver after ↔ Installed snapshot driver.store := by
  obtain ⟨_, installed, kept⟩ := Driver.applySnapshot_undecoded failed
  rw [← RaftStorage.content_applySnapshot_iff law installed]
  exact ⟨Untouched.store, fun same => ⟨same, congrArg Node.kv kept⟩⟩

/-- Its data begin with a marker that bincode does not know. -/
def badSnapshot : Snapshot := ⟨[255], { confState := { voters := [1] }, index := 5, term := 1 }⟩

/-- This driver received the snapshot a number of times. -/
def receivedBad : Nat → Driver scripted
  | 0 => scriptedDriver (.begin .follower [] [] []) (.disk (DiskStorage.openDb Db.new []))
  | count + 1 => (Driver.applySnapshot badSnapshot (receivedBad count)).2

/-- The second receipt leaves the storage as the first one did. -/
theorem applySnapshot_untouched_again : Untouched (receivedBad 1) (receivedBad 2) := by
  obtain ⟨text, failed⟩ : ∃ text, Driver.applySnapshot badSnapshot (receivedBad 1) =
      (.error (.other text), receivedBad 2) := ⟨_, rfl⟩
  apply (applySnapshot_untouched_iff (MemStorage.installLaw _) failed).mpr
  refine ⟨rfl, rfl, fun key stored => ?_⟩
  have empty : (DiskStorage.applySnapshot badSnapshot (DiskStorage.openDb Db.new [])).2.db.entriesTree.keys = [] := by
    decide
  have listed : key ∈ (DiskStorage.applySnapshot badSnapshot (DiskStorage.openDb Db.new [])).2.db.entriesTree.keys :=
    Std.ExtTreeMap.mem_keys.mpr stored
  rw [empty] at listed
  cases listed

/-- After the error a new disk holds the snapshot at index five, and the map is still empty. -/
theorem applySnapshot_keeps_bad :
    (∃ text, Driver.applySnapshot badSnapshot (receivedBad 0) = (.error (.other text), receivedBad 1)) ∧
      Bincode.snapshotCodec.decode badSnapshot.data = .error (.decodeError "InvalidIntegerType") ∧
      (receivedBad 0).store.firstIndex scripted.mem .release = some 1 ∧
      (receivedBad 1).store.firstIndex scripted.mem .release = some 6 ∧
      (receivedBad 1).kvNode.kv = ∅ ∧ ¬ Untouched (receivedBad 0) (receivedBad 1) := by
  refine ⟨⟨_, rfl⟩, by decide, rfl, rfl, rfl, fun same => ?_⟩
  have content := congrArg (fun content => content.elim (fun _ => none) fun disk => disk.1.snapshotsTree) same.store
  cases content

end RaftATui
