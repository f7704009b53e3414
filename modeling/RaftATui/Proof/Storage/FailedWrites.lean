import RaftATui.Library.Overwrite
import RaftATui.Proof.Storage.AppendOverwrite
import RaftATui.Proof.Storage.Applied
import RaftATui.Proof.Storage.Persisted
import RaftATui.Proof.Storage.SnapshotSuffix
import RaftATui.Proof.Storage.Tally

namespace RaftATui
open Machinery
open DiskStorage (openDb)

/-- These are the calls that change a disk storage. -/
inductive Mutation where
  | append (entries : List Entry)
  | applySnapshot (snapshot : Snapshot)
  | setAppliedIndex (index : Nat)
  | setHardstate (hs : HardState)
  | setConfState (cs : ConfState)
  | compact (compactIndex : Nat)
  deriving DecidableEq, Repr

/-- A reader of the storage sees no difference. -/
structure Unobserved (encodedLen : Entry → Nat) (before after : DiskStorage) : Prop where
  appliedIndex : after.appliedIndex = before.appliedIndex
  initialState : after.initialState = before.initialState
  entries : ∀ low high maxSize, after.entries encodedLen low high maxSize = before.entries encodedLen low high maxSize
  term : ∀ index, after.term index = before.term index
  firstIndex : ∀ build, after.firstIndex build = before.firstIndex build
  lastIndex : after.lastIndex = before.lastIndex
  snapshot : ∀ requestIndex «to», after.snapshot requestIndex «to» = before.snapshot requestIndex «to»

namespace Mutation
open DiskStorage

def perform : Mutation → Attempt DiskStorage RaftError Unit
  | .append entries => DiskStorage.append entries
  | .applySnapshot snapshot => DiskStorage.applySnapshot snapshot
  | .setAppliedIndex index => DiskStorage.setAppliedIndex index
  | .setHardstate hs => DiskStorage.setHardstate hs
  | .setConfState cs => DiskStorage.setConfState cs
  | .compact compactIndex => DiskStorage.compact compactIndex

/-- An insert stores an entry under its index. -/
def put (entry : Entry) : Option (Nat × Entry) := some (entry.index, entry)

/-- The sled calls in front of the first failure write only what is there already. -/
def Silent (storage : DiskStorage) : Mutation → Prop
  | .append entries => ∀ key entry, Overwrite.written put (entries.take storage.firstFault) key = some entry →
      storage.getEntry key = some entry
  | .applySnapshot snapshot => storage.firstFault = 0 ∨
      (storage.getLatestSnapshot = some snapshot ∧ (storage.firstFault = 1 ∨
        (snapshot.metadata.confState = storage.initialState.2 ∧
          (storage.firstFault ≤ 2 + storage.db.entriesTree.keys.length ∨
            ∀ key ∈ storage.db.entriesTree, snapshot.metadata.index < key))))
  | .setAppliedIndex index => index = storage.appliedIndex
  | .setHardstate hs => storage.firstFault = 0 ∨ hs = storage.initialState.1
  | .setConfState cs => storage.firstFault = 0 ∨ cs = storage.initialState.2
  | .compact compactIndex => storage.firstFault ≤ storage.db.entriesTree.keys.length ∨
      ∀ key ∈ storage.db.entriesTree, compactIndex < key

end Mutation

namespace Unobserved
open DiskStorage

variable {encodedLen : Entry → Nat} {before after : DiskStorage}

/-- What is unobserved one way is unobserved the other way. -/
theorem symm (same : Unobserved encodedLen before after) : Unobserved encodedLen after before where
  appliedIndex := same.appliedIndex.symm
  initialState := same.initialState.symm
  entries low high maxSize := (same.entries low high maxSize).symm
  term index := (same.term index).symm
  firstIndex build := (same.firstIndex build).symm
  lastIndex := same.lastIndex.symm
  snapshot requestIndex «to» := (same.snapshot requestIndex «to»).symm

/-- A read of one index shows whether its entry is stored. -/
theorem entries_single (encodedLen : Entry → Nat) {storage : DiskStorage} {key : Nat} {entry : Entry} :
    storage.entries encodedLen key (key + 1) none = .ok [entry] ↔ storage.getEntry key = some entry := by
  rw [DiskStorage.entries, Nat.add_sub_cancel_left, entriesLoop]
  cases storage.getEntry key with
  | some stored => simp [entriesLoop]
  | none =>
      cases storage.getLatestSnapshot with
      | none => simp
      | some snapshot =>
          by_cases covered : key ≤ snapshot.metadata.index <;> simp [covered]

/-- An unobserved change leaves the entries. -/
theorem entriesTree (same : Unobserved encodedLen before after) : after.db.entriesTree = before.db.entriesTree := by
  apply Std.ExtTreeMap.ext_getElem?
  intro key
  apply Option.ext
  intro entry
  change after.getEntry key = some entry ↔ before.getEntry key = some entry
  rw [← entries_single encodedLen, ← entries_single encodedLen, same.entries]

/-- An empty record and an initial one are told apart by the first index or the term of index zero. -/
theorem record_of_record (same : Unobserved encodedLen before after) {snapshot : Snapshot}
    (record : after.getLatestSnapshot = some snapshot) : before.getLatestSnapshot = some snapshot := by
  have answer := same.snapshot 0 0
  cases absent : before.getLatestSnapshot with
  | some old =>
      rw [DiskStorage.snapshot, DiskStorage.snapshot, record, absent] at answer
      exact congrArg some answer.symm
  | none =>
      rw [DiskStorage.snapshot, DiskStorage.snapshot, record, absent] at answer
      have fresh : snapshot = .default := answer
      subst fresh
      have first : before.firstIndex .release = some 1 := by
        rw [← same.firstIndex, firstIndex_of_snapshot record]
        rfl
      have read : before.term 0 = .ok 0 := by
        rw [← same.term, DiskStorage.term, record]
        rfl
      cases found : before.getEntry 0 with
      | none => simp [DiskStorage.term, DiskStorage.term.stored, absent, found] at read
      | some entry =>
          have least : before.db.entriesTree.keys.head? = some 0 :=
            OrderedTree.head?_keys_eq_some.mpr ⟨mem_iff_getEntry.mpr ⟨entry, found⟩, fun key _ => Nat.zero_le key⟩
          rw [DiskStorage.firstIndex, absent] at first
          simp only [least] at first
          cases first

/-- A range read looks at the stored entries and the record only. -/
theorem entriesLoop_congr (lookup : after.getEntry = before.getEntry)
    (latest : after.getLatestSnapshot = before.getLatestSnapshot) (maxSize count index totalSize : Nat)
    (entries : List Entry) :
    entriesLoop encodedLen after maxSize count index totalSize entries =
      entriesLoop encodedLen before maxSize count index totalSize entries := by
  induction count generalizing index totalSize entries with
  | zero => rfl
  | succ count ih =>
      rw [entriesLoop, entriesLoop, lookup, latest]
      cases before.getEntry index with
      | none => rfl
      | some entry => simp only [ih]

/-- The answers are the same exactly when the contents are. -/
theorem iff_content : Unobserved encodedLen before after ↔
    after.appliedIndex = before.appliedIndex ∧ after.initialState = before.initialState ∧
      after.db.entriesTree = before.db.entriesTree ∧ after.db.snapshotsTree = before.db.snapshotsTree := by
  constructor
  · intro same
    refine ⟨same.appliedIndex, same.initialState, same.entriesTree, ?_⟩
    apply Option.ext
    intro snapshot
    exact ⟨same.record_of_record, same.symm.record_of_record⟩
  · rintro ⟨applied, state, entries, record⟩
    have lookup : after.getEntry = before.getEntry := by
      funext index
      rw [getEntry, getEntry, entries]
    have latest : after.getLatestSnapshot = before.getLatestSnapshot := record
    refine ⟨applied, state, fun low high maxSize => ?_, fun index => ?_, fun build => ?_, ?_, fun requestIndex «to» => ?_⟩
    · exact entriesLoop_congr lookup latest _ _ _ _ _
    · simp only [DiskStorage.term, DiskStorage.term.stored, lookup, latest]
    · simp only [DiskStorage.firstIndex, latest, entries]
    · simp only [DiskStorage.lastIndex, latest, entries]
    · simp only [DiskStorage.snapshot, latest]

end Unobserved

/-- Two directories have the same content apart from the applied index. -/
structure Db.Alike (before after : Db) : Prop where
  state : after.initialState = before.initialState
  entries : after.entriesTree = before.entriesTree
  record : after.snapshotsTree = before.snapshotsTree

namespace Db

variable {db : Db} {ops : List SledOp}

/-- The first inserts of a batch change nothing when they write what is there already. -/
theorem alike_append_iff {entries : List Entry} {position : Nat} (inside : position ≤ entries.length) :
    Alike db (db.replay ((DiskStorage.appendOps entries).take position)) ↔
      ∀ key entry, Overwrite.written Mutation.put (entries.take position) key = some entry →
        db.entriesTree[key]? = some entry := by
  have part : (DiskStorage.appendOps entries).take position =
      (entries.take position).map fun entry => .insertEntry entry.index entry := by
    rw [DiskStorage.appendOps, List.take_append_of_le_length (by rw [List.length_map]; exact inside), List.map_take]
  have inserts (batch : List Entry) (db : Db) :
      db.replay (batch.map fun entry => .insertEntry entry.index entry) =
        { db with entriesTree := batch.foldl (Overwrite.write Mutation.put) db.entriesTree } := by
    induction batch generalizing db with
    | nil => rfl
    | cons entry rest ih =>
        rw [List.map_cons, replay_cons, ih]
        rfl
  rw [part, inserts, ← Overwrite.replay_eq_self_iff]
  exact ⟨fun alike => alike.entries, fun same => ⟨rfl, same, rfl⟩⟩

/-- The removal of stored keys changes something unless there are none. -/
theorem replay_removes_iff {keys : List Nat} (stored : ∀ key ∈ keys, key ∈ db.entriesTree) :
    (db.replay (keys.map .removeEntry)).entriesTree = db.entriesTree ↔ keys = [] := by
  constructor
  · intro same
    rw [List.eq_nil_iff_forall_not_mem]
    intro key inside
    have lookup := getElem?_replay_removes db keys key
    rw [if_pos inside, same] at lookup
    exact OrderedTree.not_mem_iff_getElem?.mpr lookup (stored key inside)
  · intro empty
    rw [empty]
    rfl

/-- Of the removals behind a scan only the ones in front of the failure are done. -/
theorem replay_take_removals (db : Db) (keys : List Nat) (index position : Nat) {flushes : List SledOp}
    (flushing : ∀ op ∈ flushes, ∀ state : Db, state.run op = state) :
    db.replay ((DiskStorage.scanOps keys ++ DiskStorage.removeOps keys index ++ flushes).take position) =
      db.replay (((keys.filter (· ≤ index)).take (position - keys.length)).map .removeEntry) := by
  have scanned : (DiskStorage.scanOps keys).take position = DiskStorage.scanOps (keys.take position) := by
    rw [DiskStorage.scanOps, DiskStorage.scanOps, List.map_take]
  have removed (count : Nat) : (DiskStorage.removeOps keys index).take count =
      ((keys.filter (· ≤ index)).take count).map .removeEntry := by
    rw [DiskStorage.removeOps, List.map_take]
  have length : (DiskStorage.scanOps keys).length = keys.length := by
    rw [DiskStorage.scanOps, List.length_map]
  have flushed (count : Nat) (state : Db) : state.replay (flushes.take count) = state :=
    replay_keeps id (fun op inside => flushing op (List.mem_of_mem_take inside)) state
  rw [List.take_append, List.take_append, replay_append, replay_append, flushed, scanned, replay_scan, removed,
    length]

/-- The removals in front of a failure change nothing when there are none. -/
theorem alike_removals_iff (db : Db) (index count : Nat) :
    Alike db (db.replay (((db.entriesTree.keys.filter (· ≤ index)).take count).map .removeEntry)) ↔
      count = 0 ∨ ∀ key ∈ db.entriesTree, index < key := by
  have stored : ∀ key ∈ (db.entriesTree.keys.filter (· ≤ index)).take count, key ∈ db.entriesTree :=
    fun key inside => Std.ExtTreeMap.mem_keys.mp (List.mem_filter.mp (List.mem_of_mem_take inside)).1
  have none : (db.entriesTree.keys.filter (· ≤ index)).take count = [] ↔
      count = 0 ∨ ∀ key ∈ db.entriesTree, index < key := by
    rw [List.take_eq_nil_iff, List.filter_eq_nil_iff]
    simp only [Std.ExtTreeMap.mem_keys, decide_eq_true_eq, Nat.not_le]
  rw [← none, ← replay_removes_iff stored]
  refine ⟨fun alike => alike.entries, fun same => ⟨?_, same, replay_removes_snapshotsTree db _⟩⟩
  rw [initialState, replay_removes_metaTree, initialState]

/-- A compact that stops is unobserved exactly in its scan, or when it removes nothing. -/
theorem alike_compact_iff {index position : Nat} :
    Alike db (db.replay ((DiskStorage.compactOps index db.entriesTree.keys).take position)) ↔
      position ≤ db.entriesTree.keys.length ∨ ∀ key ∈ db.entriesTree, index < key := by
  rw [DiskStorage.compactOps, replay_take_removals _ _ _ _ (by simp [run]), alike_removals_iff,
    Nat.sub_eq_zero_iff_le]

/-- An install first writes the record and the configuration, and it removes entries behind a whole scan. -/
theorem alike_applySnapshot_iff {snapshot : Snapshot} {position : Nat} :
    Alike db (db.replay ((DiskStorage.snapshotOps snapshot db.entriesTree.keys).take position)) ↔
      position = 0 ∨ (db.snapshotsTree = some snapshot ∧ (position = 1 ∨
        (snapshot.metadata.confState = db.initialState.2 ∧
          (position ≤ 2 + db.entriesTree.keys.length ∨
            ∀ key ∈ db.entriesTree, snapshot.metadata.index < key)))) := by
  match position with
  | 0 => exact ⟨fun _ => Or.inl rfl, fun _ => ⟨rfl, rfl, rfl⟩⟩
  | 1 =>
      have record : db.replay ((DiskStorage.snapshotOps snapshot db.entriesTree.keys).take 1) =
          { db with snapshotsTree := some snapshot } := rfl
      rw [record]
      constructor
      · exact fun alike => Or.inr ⟨alike.record.symm, Or.inl rfl⟩
      · rintro (impossible | ⟨held, _⟩)
        · cases impossible
        · exact ⟨rfl, rfl, held.symm⟩
  | position + 2 =>
      let begun : Db := (db.run (.insertSnapshot snapshot)).run (.insertConfstate snapshot.metadata.confState)
      have split : db.replay ((DiskStorage.snapshotOps snapshot db.entriesTree.keys).take (position + 2)) =
          begun.replay (((db.entriesTree.keys.filter (· ≤ snapshot.metadata.index)).take
            (position - db.entriesTree.keys.length)).map .removeEntry) := by
        have flushing : ∀ op ∈ [SledOp.flush .snapshotsTree, .flush .metaTree, .flush .entriesTree],
            ∀ state : Db, state.run op = state := by simp [run]
        exact replay_take_removals begun db.entriesTree.keys snapshot.metadata.index position flushing
      have removals := alike_removals_iff begun snapshot.metadata.index (position - db.entriesTree.keys.length)
      have bound : position + 2 ≤ 2 + db.entriesTree.keys.length ↔ position - db.entriesTree.keys.length = 0 := by
        omega
      have configured : begun.initialState = (db.initialState.1, snapshot.metadata.confState) := rfl
      rw [split, bound]
      constructor
      · intro alike
        have record : some snapshot = db.snapshotsTree := by
          rw [← alike.record, replay_removes_snapshotsTree]
          rfl
        have state : begun.initialState = db.initialState := by
          rw [← alike.state, initialState, initialState, replay_removes_metaTree]
        have later := removals.mp
          ⟨alike.state.trans state.symm, alike.entries, alike.record.trans record.symm⟩
        refine Or.inr ⟨record.symm, Or.inr ⟨?_, later⟩⟩
        rw [← state, configured]
      · rintro (impossible | ⟨record, impossible | ⟨conf, later⟩⟩)
        · cases impossible
        · omega
        · have alike := removals.mpr later
          have state : begun.initialState = db.initialState := by rw [configured, conf]
          exact ⟨alike.state.trans state, alike.entries, alike.record.trans record.symm⟩

end Db

namespace DiskStorage

variable {storage : DiskStorage} {ops : List SledOp} {error : RaftError} {encodedLen : Entry → Nat}

/-- A failed script is not observed when the calls in front of its failure change nothing. -/
theorem script_unobserved_iff (free : ∀ op ∈ ops, op.writesApplied = false)
    (persisted : storage.appliedIndex = storage.db.applied) (failed : (script ops storage).1 = .error error) :
    (Unobserved encodedLen storage (script ops storage).2 ∧
        (script ops storage).2.appliedIndex = (script ops storage).2.db.applied) ↔
      Db.Alike storage.db (storage.db.replay (ops.take storage.firstFault)) := by
  obtain ⟨_, _, content⟩ := script_error failed
  have cached : (script ops storage).2.appliedIndex = storage.appliedIndex := script_applied ops storage
  have recorded : (script ops storage).2.db.applied = storage.db.applied := by
    rw [content]
    exact Db.applied_replay (fun op inside => free op (List.mem_of_mem_take inside)) storage.db
  rw [Unobserved.iff_content, ← content]
  constructor
  · rintro ⟨⟨_, state, entries, record⟩, _⟩
    exact ⟨state, entries, record⟩
  · intro alike
    exact ⟨⟨cached, alike.state, alike.entries, alike.record⟩, by rw [cached, recorded, persisted]⟩

/-- The first of two calls is the only one that writes. -/
theorem pair_unobserved_iff {op : SledOp} {tree : TreeName} (free : op.writesApplied = false)
    (persisted : storage.appliedIndex = storage.db.applied)
    (failed : (script [op, .flush tree] storage).1 = .error error) :
    (Unobserved encodedLen storage (script [op, .flush tree] storage).2 ∧
        (script [op, .flush tree] storage).2.appliedIndex = (script [op, .flush tree] storage).2.db.applied) ↔
      storage.firstFault = 0 ∨ Db.Alike storage.db (storage.db.run op) := by
  have calm : ∀ other ∈ [op, .flush tree], other.writesApplied = false := by
    rw [List.forall_mem_cons, List.forall_mem_singleton]
    exact ⟨free, rfl⟩
  rw [script_unobserved_iff calm persisted failed]
  obtain ⟨_, before, _⟩ := script_error failed
  match place : storage.firstFault with
  | 0 => exact ⟨fun _ => Or.inl rfl, fun _ => ⟨rfl, rfl, rfl⟩⟩
  | 1 => exact ⟨Or.inr, fun holds => holds.resolve_left Nat.one_ne_zero⟩
  | position + 2 =>
      rw [place] at before
      exact absurd before (by simp)

/-- The cached copy changes before the two calls, so a failure shows a new index. -/
theorem setAppliedIndex_unobserved_iff {index : Nat} (persisted : storage.appliedIndex = storage.db.applied)
    (failed : (setAppliedIndex index storage).1 = .error error) :
    (Unobserved encodedLen storage (setAppliedIndex index storage).2 ∧
        (setAppliedIndex index storage).2.appliedIndex = (setAppliedIndex index storage).2.db.applied) ↔
      index = storage.appliedIndex := by
  rw [setAppliedIndex_eq_script] at failed ⊢
  obtain ⟨_, before, content⟩ := script_error failed
  have cached := script_applied [.insertAppliedIndex index, .flush .metaTree]
    { storage with appliedIndex := index }
  constructor
  · intro ⟨unobserved, _⟩
    exact cached.symm.trans unobserved.appliedIndex
  · intro same
    obtain rfl : index = storage.appliedIndex := same
    have place : storage.firstFault = 0 ∨ storage.firstFault = 1 := by
      change storage.firstFault < 2 at before
      omega
    have written : Db.Alike storage.db
          (script [.insertAppliedIndex storage.appliedIndex, .flush .metaTree] storage).2.db ∧
        (script [.insertAppliedIndex storage.appliedIndex, .flush .metaTree] storage).2.db.applied =
          storage.appliedIndex := by
      change (script _ storage).2.db = storage.db.replay (List.take storage.firstFault _) at content
      rw [content]
      rcases place with place | place <;> rw [place]
      · exact ⟨⟨rfl, rfl, rfl⟩, persisted.symm⟩
      · exact ⟨⟨rfl, rfl, rfl⟩, rfl⟩
    obtain ⟨alike, recorded⟩ := written
    exact ⟨Unobserved.iff_content.mpr ⟨cached, alike.state, alike.entries, alike.record⟩,
      cached.trans recorded.symm⟩

end DiskStorage

/-- A failed call is not observed exactly when it was silent up to its failure. -/
theorem failed_unobserved_iff (encodedLen : Entry → Nat) {storage : DiskStorage} {mutation : Mutation}
    {error : RaftError} (persisted : storage.appliedIndex = storage.db.applied)
    (failed : (mutation.perform storage).1 = .error error) :
    (Unobserved encodedLen storage (mutation.perform storage).2 ∧
        (mutation.perform storage).2.appliedIndex = (mutation.perform storage).2.db.applied) ↔
      mutation.Silent storage := by
  cases mutation with
  | append entries =>
      rw [Mutation.perform, DiskStorage.append_eq_script] at failed ⊢
      obtain ⟨_, before, _⟩ := DiskStorage.script_error failed
      have inside : storage.firstFault ≤ entries.length := by
        rw [DiskStorage.appendOps, List.length_append, List.length_map, List.length_singleton] at before
        omega
      have free : ∀ op ∈ DiskStorage.appendOps entries, op.writesApplied = false :=
        DiskStorage.forall_appendOps (fun _ _ => rfl) rfl
      rw [DiskStorage.script_unobserved_iff free persisted failed, Db.alike_append_iff inside]
      rfl
  | applySnapshot snapshot =>
      rw [Mutation.perform, DiskStorage.applySnapshot_eq_script] at failed ⊢
      have free : ∀ op ∈ DiskStorage.snapshotOps snapshot storage.db.entriesTree.keys, op.writesApplied = false :=
        DiskStorage.forall_snapshotOps rfl rfl rfl (fun _ _ _ => rfl) fun _ => rfl
      rw [DiskStorage.script_unobserved_iff free persisted failed, Db.alike_applySnapshot_iff]
      rfl
  | setAppliedIndex index =>
      exact DiskStorage.setAppliedIndex_unobserved_iff persisted failed
  | setHardstate hs =>
      rw [Mutation.perform, DiskStorage.setHardstate_eq_script] at failed ⊢
      rw [DiskStorage.pair_unobserved_iff rfl persisted failed]
      apply or_congr_right
      exact ⟨fun alike => congrArg Prod.fst alike.state, fun same => ⟨by rw [same]; rfl, rfl, rfl⟩⟩
  | setConfState cs =>
      rw [Mutation.perform, DiskStorage.setConfState_eq_script] at failed ⊢
      rw [DiskStorage.pair_unobserved_iff rfl persisted failed]
      apply or_congr_right
      exact ⟨fun alike => congrArg Prod.snd alike.state, fun same => ⟨by rw [same]; rfl, rfl, rfl⟩⟩
  | compact compactIndex =>
      rw [Mutation.perform, DiskStorage.compact_eq_script] at failed ⊢
      have free : ∀ op ∈ DiskStorage.compactOps compactIndex storage.db.entriesTree.keys,
          op.writesApplied = false := DiskStorage.forall_compactOps rfl (fun _ _ _ => rfl) fun _ => rfl
      rw [DiskStorage.script_unobserved_iff free persisted failed, Db.alike_compact_iff]
      rfl

/-- The second insert fails, and the first one stores what is there already. -/
theorem failed_unobserved_append :
    Unobserved (fun _ => 0) { threeEntries with faults := [false, true] }
        ((Mutation.append [plainEntry 1 2, plainEntry 2 3]).perform
          { threeEntries with faults := [false, true] }).2 ∧
      ((Mutation.append [plainEntry 1 2, plainEntry 2 3]).perform
          { threeEntries with faults := [false, true] }).2.appliedIndex =
        ((Mutation.append [plainEntry 1 2, plainEntry 2 3]).perform
          { threeEntries with faults := [false, true] }).2.db.applied := by
  apply (failed_unobserved_iff (fun _ => 0) rfl (show _ = Except.error (.store .other) from rfl)).mpr
  intro key entry wrote
  change Overwrite.written Mutation.put [plainEntry 1 2] key = some entry at wrote
  simp only [Overwrite.written, Mutation.put, Option.none_or, Option.bind_some, Option.ite_none_right_eq_some,
    Option.some.injEq] at wrote
  obtain ⟨rfl, rfl⟩ := wrote
  decide

/-- The applied index that could not be written is visible until the next start. -/
theorem setAppliedIndex_fails_visibly :
    ((Mutation.setAppliedIndex 5).perform (openDb Db.new [true])).1 = .error (.store .other) ∧
      (openDb Db.new [true]).appliedIndex = (openDb Db.new [true]).db.applied ∧
      (openDb Db.new [true]).appliedIndex = 0 ∧
      ((Mutation.setAppliedIndex 5).perform (openDb Db.new [true])).2.appliedIndex = 5 ∧
      ((Mutation.setAppliedIndex 5).perform (openDb Db.new [true])).2.db.applied = 0 ∧
      ¬ Unobserved (fun _ => 0) (openDb Db.new [true])
        ((Mutation.setAppliedIndex 5).perform (openDb Db.new [true])).2 := by
  refine ⟨rfl, rfl, rfl, rfl, rfl, fun same => ?_⟩
  have answer := same.appliedIndex
  cases answer

end RaftATui
