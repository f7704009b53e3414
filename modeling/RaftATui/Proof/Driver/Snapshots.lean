import RaftATui.Proof.Driver.Promise
import RaftATui.Proof.Driver.Redelivery
import RaftATui.Proof.Snapshot.Format

namespace RaftATui
open Machinery

/-- Raft-rs's `MemStorage` describes the committed log in its snapshot and leaves the data empty. -/
structure MemSnapshotLaw {Mem : Type} (mem : MemStorageApi Mem) : Prop where
  snapshot : ∀ inner requestIndex «to», ∃ term, mem.snapshot inner requestIndex «to» =
    .ok ⟨[], ⟨(mem.initialState inner).2, max (mem.initialState inner).1.commit requestIndex, term⟩⟩

/-- The memory storage hands out its own snapshot as the law says. -/
theorem MemStorage.snapshotLaw (encodedLen : Entry → Nat) : MemSnapshotLaw (MemStorage.api encodedLen) where
  snapshot _ _ _ := ⟨_, rfl⟩

/-- This is the map after the committed log up to an index. -/
def mapUpTo (kvCodec : KvCodec) (history : List Entry) (index : Nat) : KvMap :=
  (history.take index).foldl (Overwrite.write (Entry.puts kvCodec)) ∅

/-- A real snapshot restores the map of the log up to its index. -/
def Real (X : Externals) (history : List Entry) (snapshot : Snapshot) : Prop :=
  Node.restoreFromSnapshot X.snapshotCodec snapshot.data Node.new =
    (.ok (), ⟨mapUpTo X.kvCodec history snapshot.metadata.index⟩)

/-- A snapshot is real exactly when its payload decodes to the map at its index. -/
theorem real_iff {X : Externals} {history : List Entry} {snapshot : Snapshot} : Real X history snapshot ↔
    X.snapshotCodec.decode snapshot.data = .ok (mapUpTo X.kvCodec history snapshot.metadata.index) := by
  rw [Real, Node.restoreFromSnapshot]
  cases X.snapshotCodec.decode snapshot.data <;> simp

instance (X : Externals) (history : List Entry) (snapshot : Snapshot) : Decidable (Real X history snapshot) :=
  decidable_of_iff _ real_iff.symm

/-- The output of raft brings a real snapshot or none. -/
def Effect.bringsReal (X : Externals) (history : List Entry) : Effect → Prop
  | .ready rd => rd.snapshot.isEmpty = false → Real X history rd.snapshot
  | _ => True

instance (X : Externals) (history : List Entry) : (event : Effect) → Decidable (event.bringsReal X history)
  | .ready rd => inferInstanceAs (Decidable (rd.snapshot.isEmpty = false → Real X history rd.snapshot))
  | .light _ | .proposed _ _ _ _ | .sled _ | .send _ _ | .notify _ | .reply _ _ | .replyGet _ _ | .applied _ _ =>
      isTrue trivial

/-- Raft hands out the entries of one committed log, and the snapshots that it hands out are real. -/
structure Committed (X : Externals) (history : List Entry) (trace : List Effect) : Prop where
  log : Consecutive 1 history
  entries : ∀ entry ∈ handed trace, entry ∈ history
  snapshots : ∀ event ∈ trace, event.bringsReal X history

instance (X : Externals) (history : List Entry) (trace : List Effect) : Decidable (Committed X history trace) :=
  decidable_of_iff (Consecutive 1 history ∧ (∀ entry ∈ handed trace, entry ∈ history) ∧
      ∀ event ∈ trace, event.bringsReal X history)
    ⟨fun all => ⟨all.1, all.2.1, all.2.2⟩, fun committed => ⟨committed.1, committed.2, committed.3⟩⟩

/-- The disk serves indices up to its stored snapshot. The memory serves a log without a put. -/
def Serves (X : Externals) (history : List Entry) (requestIndex : Nat) : RaftStorage X.Mem → Prop
  | .disk storage => requestIndex ≤ (storage.getLatestSnapshot.map fun stored => stored.metadata.index).getD 0
  | .memory inner _ => ∀ entry ∈ history.take (max (X.mem.initialState inner).1.commit requestIndex),
      entry.puts X.kvCodec = none

instance (X : Externals) (history : List Entry) (requestIndex : Nat) :
    (store : RaftStorage X.Mem) → Decidable (Serves X history requestIndex store)
  | .disk _ => inferInstanceAs (Decidable (_ ≤ _))
  | .memory inner _ => inferInstanceAs (Decidable (∀ entry ∈ history.take
      (max (X.mem.initialState inner).1.commit requestIndex), entry.puts X.kvCodec = none))

/-- Each snapshot that the storage hands out for the index reaches it and is real. -/
def HandsOut (X : Externals) (history : List Entry) (requestIndex «to» : Nat) (store : RaftStorage X.Mem) : Prop :=
  ∀ snapshot, store.snapshot X.mem requestIndex «to» = .ok snapshot →
    requestIndex ≤ snapshot.metadata.index ∧ Real X history snapshot

section Content

variable {X : Externals} {history : List Entry}

/-- Empty data are real up to an index when no entry up to there is a put. -/
theorem real_empty_iff {crate : Bincode.Crate} (codec : X.snapshotCodec = crate.codec) (metadata : SnapshotMetadata) :
    Real X history ⟨[], metadata⟩ ↔ ∀ entry ∈ history.take metadata.index, entry.puts X.kvCodec = none := by
  have restored : Node.restoreFromSnapshot X.snapshotCodec [] Node.new = (.ok (), ⟨∅⟩) := by
    rw [codec]
    exact restoreFromSnapshot_ok_iff.mpr crate.codec_decode_nil
  rw [← Overwrite.replay_eq_empty_iff, Real, restored, mapUpTo, Prod.mk.injEq, Node.mk.injEq]
  constructor
  · exact fun same => same.2.symm
  · exact fun same => ⟨rfl, same.symm⟩

/-- The memory backend hands out a real snapshot exactly when there is nothing to carry. -/
theorem handsOut_memory_iff (law : MemSnapshotLaw X.mem) {crate : Bincode.Crate}
    (codec : X.snapshotCodec = crate.codec) (requestIndex «to» : Nat) (inner : X.Mem) (appliedIndex : Nat) :
    HandsOut X history requestIndex «to» (.memory inner appliedIndex) ↔
      Serves X history requestIndex (.memory inner appliedIndex) := by
  obtain ⟨term, call⟩ := law.snapshot inner requestIndex «to»
  have only : HandsOut X history requestIndex «to» (.memory inner appliedIndex) ↔
      Real X history ⟨[], ⟨(X.mem.initialState inner).2,
        max (X.mem.initialState inner).1.commit requestIndex, term⟩⟩ := by
    constructor
    · exact fun hands => (hands _ call).2
    · intro real snapshot handed
      have same : X.mem.snapshot inner requestIndex «to» = .ok snapshot := handed
      rw [call, Except.ok.injEq] at same
      rw [← same]
      exact ⟨Nat.le_max_right _ _, real⟩
  rw [only, real_empty_iff codec]
  rfl

end Content

/-- A snapshot record stays, or one of the calls replaces it. -/
theorem Db.snapshotsTree_replay (ops : List SledOp) (db : Db) :
    (db.replay ops).snapshotsTree = db.snapshotsTree ∨
      ∃ snapshot, .insertSnapshot snapshot ∈ ops ∧ (db.replay ops).snapshotsTree = some snapshot := by
  induction ops generalizing db with
  | nil => exact Or.inl rfl
  | cons op rest ih =>
      rw [Db.replay_cons]
      rcases ih (db.run op) with same | ⟨snapshot, inside, new⟩
      · rw [same]
        cases op with
        | insertSnapshot snapshot => exact Or.inr ⟨snapshot, List.mem_cons_self, rfl⟩
        | _ => exact Or.inl rfl
      · exact Or.inr ⟨snapshot, List.mem_cons_of_mem op inside, new⟩

/-- An installed snapshot writes no other record. -/
theorem snapshotOps_records (snapshot : Snapshot) (keys : List Nat) :
    ∀ other, .insertSnapshot other ∈ DiskStorage.snapshotOps snapshot keys → other = snapshot := by
  have own : ∀ op ∈ DiskStorage.snapshotOps snapshot keys, ∀ other, op = .insertSnapshot other → other = snapshot := by
    apply DiskStorage.forall_snapshotOps <;> simp
  exact fun other inside => own _ inside other rfl

/-- A ready records no snapshot but its own. -/
theorem Ready.sledOps_records (ready : Ready) (db : Db) :
    ∀ other, .insertSnapshot other ∈ ready.sledOps db →
      other = ready.snapshot ∧ ready.snapshot.isEmpty = false := by
  intro other inside
  rw [Ready.sledOps, List.mem_append, List.mem_append] at inside
  rcases inside with installs | appends | persists
  · unfold Ready.snapshotPart at installs
    split at installs
    · cases installs
    · next installed =>
        rcases List.mem_append.mp installs with record | count
        · exact ⟨snapshotOps_records _ _ other record, by simpa using installed⟩
        · simp at count
  · unfold Ready.appendPart DiskStorage.appendOps at appends
    split at appends <;> simp at appends
  · unfold Ready.hardstatePart at persists
    split at persists <;> simp at persists

namespace Driver

open Attempt (Within)

variable {X : Externals}

/-- The stored snapshot stays, or a ready of the run brought it. -/
def Received (before after : Driver X) : Prop :=
  outputs before.trace <+: outputs after.trace ∧ ∀ db, before.store.db? = some db →
    ∃ later, after.store.db? = some later ∧ (later.snapshotsTree = db.snapshotsTree ∨
      ∃ rd, Effect.ready rd ∈ outputs after.trace ∧ rd.snapshot.isEmpty = false ∧
        later.snapshotsTree = some rd.snapshot)

instance receivedPreorder : IsPreorder (Driver X) Received where
  refl _ := ⟨List.prefix_rfl, fun db disk => ⟨db, disk, Or.inl rfl⟩⟩
  trans first second third := by
    intro ⟨grows, left⟩ ⟨grows', right⟩
    refine ⟨grows.trans grows', fun db disk => ?_⟩
    obtain ⟨middle, stored, kept⟩ := left db disk
    obtain ⟨later, stored', kept'⟩ := right middle stored
    refine ⟨later, stored', ?_⟩
    rcases kept' with same | new
    · rw [same]
      rcases kept with same | ⟨rd, inside, installs, new⟩
      · exact Or.inl same
      · exact Or.inr ⟨rd, grows'.subset inside, installs, new⟩
    · exact Or.inr new

/-- A ready stores only the snapshot that it received. -/
theorem processReady_received : Within Received (processReady : Attempt (Driver X) RaftLoopError Unit) := by
  intro driver
  obtain ⟨sent, begun, _, _, _, code⟩ := processReady_begins driver
  have halves : Within Grows (persistParts (X.raw.ready driver.store driver.raft).1 >>= fun _ =>
      finishTaken (X.raw.ready driver.store driver.raft).1 : Attempt (Driver X) RaftLoopError Unit) := by
    apply Within.bind
    · intro middle
      obtain ⟨kept, trace, _⟩ := (persistParts_persists _ middle).trace
      exact ⟨kept, trace.symm⟩
    · exact fun _ => finishTaken_grows _
  obtain ⟨added, grown⟩ := halves sent
  rw [← code, begun] at grown
  constructor
  · rw [← grown, outputs_append, outputs_append, List.append_assoc]
    exact List.prefix_append _ _
  · intro db disk
    obtain ⟨ops, rest, marks, split, allows, _, stored, _⟩ := processReady_writes disk
    refine ⟨_, stored, ?_⟩
    rcases Db.snapshotsTree_replay (ops ++ marks) db with same | ⟨snapshot, inside, new⟩
    · exact Or.inl same
    · right
      have planned : .insertSnapshot snapshot ∈ (X.raw.ready driver.store driver.raft).1.sledOps db := by
        rcases List.mem_append.mp inside with early | late
        · rw [split]
          exact List.mem_append_left _ early
        · cases allows _ late
      obtain ⟨own, installs⟩ := Ready.sledOps_records _ db snapshot planned
      refine ⟨(X.raw.ready driver.store driver.raft).1, ?_, installs, own ▸ new⟩
      rw [← grown]
      simp [outputs, Ready.begins, Effect.isOutput]

/-- On disk a node serves its first empty snapshot or one that raft brought, whatever went wrong on the way. -/
theorem performAll_received (actions : List Action) :
    Within Received (performAll actions : Attempt (Driver X) RaftLoopError Unit) := by
  apply performAll_within processReady_received
  intro action other driver
  have handles := perform_handles other driver
  exact ⟨handles.outputs ▸ List.prefix_rfl, fun db disk => ⟨db, handles.store ▸ disk, Or.inl rfl⟩⟩

/-- A new directory has no snapshot with data. -/
theorem newStore_record {mem : MemStorageApi X.Mem} {peers : List Nat} {faults : List Bool} :
    ∃ db, (RaftNode.newStore mem peers (.newWithDisk .new faults)).db? = some db ∧
      ∀ snapshot, db.snapshotsTree = some snapshot → snapshot = Db.bootSnapshot peers := by
  obtain ⟨done, initial, final, _⟩ :=
    RaftStorage.initializeDisk_db { voters := peers } (DiskStorage.openDb Db.new faults)
  refine ⟨_, congrArg some final, fun snapshot stored => ?_⟩
  rcases Db.snapshotsTree_replay done Db.new with same | ⟨other, inside, new⟩
  · have none : (Db.new.replay done).snapshotsTree = none := same
    rw [show (DiskStorage.openDb Db.new faults).db = Db.new from rfl, none] at stored
    cases stored
  · rw [show (DiskStorage.openDb Db.new faults).db = Db.new from rfl, new, Option.some.injEq] at stored
    rw [← stored]
    exact snapshotOps_records _ _ other (initial.subset inside)

section Backend

/-- The node keeps its backend. -/
def Backed (before after : Driver X) : Prop := after.store.db?.isSome = before.store.db?.isSome

instance backedPreorder : IsPreorder (Driver X) Backed where
  refl _ := rfl
  trans _ _ _ first second := Eq.trans second first

/-- What leaves the storage alone keeps the backend. -/
theorem backed_of_store {Error Value : Type} {first : Attempt (Driver X) Error Value}
    (same : ∀ driver, (first driver).2.store = driver.store) : Within Backed first := fun driver =>
  congrArg (fun store : RaftStorage X.Mem => store.db?.isSome) (same driver)

/-- Quiet computations keep the backend. -/
theorem backed_of_quiet {Error Value : Type} {first : Attempt (Driver X) Error Value}
    (quiet : Within Quiet first) : Within Backed first := backed_of_store fun driver => (quiet driver).store

/-- A storage call keeps the backend that it runs on. -/
theorem withStore_backed (onMemory : X.Mem → Except RaftError Unit × X.Mem)
    (onDisk : Attempt DiskStorage RaftError Unit) : Within Backed (Attempt.relabel .storage
      (withStore (RaftStorage.both onMemory onDisk)) : Attempt (Driver X) RaftLoopError Unit) := by
  intro driver
  change (RaftStorage.both onMemory onDisk driver.store.clearJournal).2.db?.isSome = driver.store.db?.isSome
  cases driver.store <;> rfl

/-- The stored applied index keeps the backend. -/
theorem setAppliedIndex_backed (index : Nat) :
    Within Backed (setAppliedIndex index : Attempt (Driver X) RaftLoopError Unit) := by
  intro driver
  change (RaftStorage.setAppliedIndex index driver.store.clearJournal).2.db?.isSome = driver.store.db?.isSome
  cases driver.store <;> rfl

/-- An applied entry keeps the backend. -/
theorem applyEntry_backed (entry : Entry) :
    Within Backed (applyEntry entry : Attempt (Driver X) RaftLoopError Unit) := by
  have changes (decode : Bytes → Except String X.Change) :
      Within Backed (applyConfEntry decode entry : Attempt (Driver X) RaftLoopError Unit) :=
    applyConfEntry_within (fun _ => backed_of_quiet (withRaft_quiet _)) fun _ =>
      Within.bind (withStore_backed _ _) fun _ => setAppliedIndex_backed _
  have normal : Within Backed (applyNormalEntry entry : Attempt (Driver X) RaftLoopError Unit) := by
    apply Within.bind (backed_of_store fun _ => rfl)
    intro result
    exact Within.bind (backed_of_store fun driver => (reportApplied_reports entry result driver).store)
      fun _ => setAppliedIndex_backed _
  exact applyEntry_within normal changes

/-- A ready keeps the backend. -/
theorem processReady_backed : Within Backed (processReady : Attempt (Driver X) RaftLoopError Unit) := by
  have snapshot (ready : Ready) :
      Within Backed (applySnapshotPart ready : Attempt (Driver X) RaftLoopError Unit) := by
    apply applySnapshotPart_within
    case stores => exact withStore_backed _ _
    case restores => exact backed_of_store fun _ => rfl
    case counts => exact setAppliedIndex_backed
    case tells => exact fun _ => backed_of_quiet (notify_quiet _)
  have append (ready : Ready) :
      Within Backed (appendEntriesPart ready : Attempt (Driver X) RaftLoopError Unit) :=
    appendEntriesPart_within (withStore_backed _ _)
  have persist (ready : Ready) :
      Within Backed (persistHardstatePart ready : Attempt (Driver X) RaftLoopError Unit) :=
    persistHardstatePart_within fun _ => withStore_backed _ _
  have sends (messages : List Message) :
      Within Backed (sendMessages messages : Attempt (Driver X) RaftLoopError Unit) :=
    backed_of_quiet (sendMessages_quiet messages)
  have entries (entries : List Entry) :
      Within Backed (applyEntries entries : Attempt (Driver X) RaftLoopError Unit) :=
    Within.forEach entries fun entry _ => applyEntry_backed entry
  refine Within.bind (backed_of_store fun _ => rfl) fun ready => ?_
  refine Within.bind (sends _) fun _ => Within.bind (snapshot ready) fun _ => ?_
  refine Within.bind (append ready) fun _ => Within.bind (persist ready) fun _ => ?_
  refine Within.bind (sends _) fun _ => Within.bind (entries _) fun _ => ?_
  refine Within.bind (backed_of_quiet updateTuiState_quiet) fun _ => ?_
  refine Within.bind (backed_of_store fun _ => rfl) fun light => ?_
  exact Within.bind (sends _) fun _ => entries _

/-- No action changes the backend of a node. -/
theorem performAll_backed (actions : List Action) :
    Within Backed (performAll actions : Attempt (Driver X) RaftLoopError Unit) :=
  performAll_within processReady_backed
    (fun _ other => backed_of_store fun driver => (perform_handles other driver).store) actions

end Backend

/-- A node that started without a log hands out real snapshots for an index exactly when its backend serves it. -/
theorem snapshot_real_iff (law : MemSnapshotLaw X.mem) {crate : Bincode.Crate} (codec : X.snapshotCodec = crate.codec)
    {peers : List Nat} {start : Driver X} {actions : List Action}
    (begins : start.store = RaftNode.newStore X.mem peers (.new X.mem) ∨
      ∃ faults, start.store = RaftNode.newStore X.mem peers (.newWithDisk .new faults))
    {history : List Entry} (committed : Committed X history (performAll actions start).2.trace)
    (requestIndex «to» : Nat) :
    HandsOut X history requestIndex «to» (performAll actions start).2.store ↔
      Serves X history requestIndex (performAll actions start).2.store := by
  cases backend : (performAll actions start).2.store with
  | memory inner appliedIndex => exact handsOut_memory_iff law codec requestIndex «to» inner appliedIndex
  | disk storage =>
      have backed : (performAll actions start).2.store.db?.isSome = start.store.db?.isSome :=
        performAll_backed actions start
      rw [backend] at backed
      rcases begins with memory | ⟨faults, disk⟩
      · rw [memory] at backed
        cases backed
      · obtain ⟨db, found, booted⟩ := @newStore_record X X.mem peers faults
        rw [← disk] at found
        obtain ⟨_, received⟩ := performAll_received actions start
        obtain ⟨later, stored, origin⟩ := received db found
        rw [backend] at stored
        cases stored
        have nothing (metadata : SnapshotMetadata) (start : metadata.index = 0) : Real X history ⟨[], metadata⟩ := by
          rw [real_empty_iff codec, start]
          simp
        have real : Real X history (storage.snapshot requestIndex «to») := by
          cases record : storage.db.snapshotsTree with
          | none =>
              rw [DiskStorage.snapshot, DiskStorage.getLatestSnapshot, record]
              exact nothing _ rfl
          | some snapshot =>
              rw [DiskStorage.snapshot, DiskStorage.getLatestSnapshot, record]
              rcases origin with same | ⟨rd, inside, installs, own⟩
              · rw [booted snapshot (same ▸ record)]
                exact nothing _ rfl
              · rw [record, Option.some.injEq] at own
                rw [own]
                exact committed.snapshots (.ready rd) (List.mem_of_mem_filter inside) installs
        have index : (storage.snapshot requestIndex «to»).metadata.index =
            (storage.getLatestSnapshot.map fun stored => stored.metadata.index).getD 0 := by
          rw [DiskStorage.snapshot]
          cases storage.getLatestSnapshot <;> rfl
        constructor
        · intro hands
          have reaches := (hands _ rfl).1
          rw [index] at reaches
          exact reaches
        · intro serves snapshot handed
          have same : storage.snapshot requestIndex «to» = snapshot := Except.ok.inj handed
          rw [← same, index]
          exact ⟨serves, real⟩

/-- The fifth entry of this log is its only put. -/
def putHistory : List Entry :=
  [⟨.entryNormal, 1, 1, [], []⟩, ⟨.entryNormal, 1, 2, [], []⟩, ⟨.entryNormal, 1, 3, [], []⟩,
    ⟨.entryNormal, 1, 4, [], []⟩, scriptedPut 1 5 0 "k" "v"]

/-- This follower is brought up to the put by a snapshot. -/
def broughtNode : Driver scripted := scriptedDriver
  (.begin .follower [{ Ready.default with
    hs := some ⟨1, 0, 5⟩
    snapshot := ⟨[1, 1, 107, 1, 118], ⟨{ voters := [1] }, 5, 1⟩⟩ }] [] [])
  (RaftNode.newStore scripted.mem [1] (.newWithDisk .new []))

/-- The node of the example hands out the snapshot that it was brought. -/
theorem snapshot_real_iff_brought :
    HandsOut scripted putHistory 5 2 (performAll [.ready] broughtNode).2.store := by
  have settled := snapshot_real_iff (MemStorage.snapshotLaw _) rfl (Or.inr ⟨[], rfl⟩)
    (by decide +kernel : Committed scripted putHistory (performAll [.ready] broughtNode).2.trace) 5 2
  exact settled.mpr (by decide +kernel)

/-- This node has applied one put and keeps its log in the given storage. -/
def puttingNode (store : RaftStorage MemStorage) : Driver scripted :=
  (performAll [.ready] (scriptedDriver (.begin .follower [{ Ready.default with
    hs := some ⟨1, 0, 1⟩
    entries := [scriptedPut 1 1 0 "k" "v"]
    committedEntries := [scriptedPut 1 1 0 "k" "v"] }] [] []) store)).2

def memoryNode : Driver scripted := puttingNode (RaftNode.newStore scripted.mem [1] (.new scripted.mem))

def diskNode : Driver scripted := puttingNode (RaftNode.newStore scripted.mem [1] (.newWithDisk .new []))

/-- The memory backend hands out the index of the put without the put. The disk backend hands out index 0 when
index 1 is asked for. -/
theorem snapshot_unreal :
    Committed scripted [scriptedPut 1 1 0 "k" "v"] memoryNode.trace ∧
      memoryNode.kvNode.kv.toList = [("k", "v")] ∧
      ¬ HandsOut scripted [scriptedPut 1 1 0 "k" "v"] 0 2 memoryNode.store ∧
      Committed scripted [scriptedPut 1 1 0 "k" "v"] diskNode.trace ∧
      ¬ HandsOut scripted [scriptedPut 1 1 0 "k" "v"] 1 2 diskNode.store := by
  refine ⟨by decide +kernel, by decide +kernel, fun hands => ?_, by decide +kernel, fun hands => ?_⟩
  · have answered : memoryNode.store.snapshot scripted.mem 0 2 = .ok ⟨[], ⟨{ voters := [1] }, 1, 1⟩⟩ := by
      decide +kernel
    exact absurd (hands _ answered).2 (by decide +kernel)
  · have answered : diskNode.store.snapshot scripted.mem 1 2 = .ok (Db.bootSnapshot [1]) := by decide +kernel
    exact absurd (hands _ answered).1 (by decide +kernel)

end Driver

end RaftATui
