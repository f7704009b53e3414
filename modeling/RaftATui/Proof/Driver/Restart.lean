import RaftATui.Proof.Driver.Crash
import RaftATui.Proof.Driver.Feed
import RaftATui.Proof.Driver.Outputs

namespace RaftATui
open Machinery

/-- The directory records the last snapshot of the feed and holds its log. -/
structure Mirrors (db : Db) (feed : Feed) : Prop where
  record : ∃ snapshot, db.snapshotsTree = some snapshot ∧ snapshot.metadata.index = feed.base
  log : ∀ index, db.entriesTree[index]? = feed.log index

namespace Mirrors

variable {db : Db} {feed : Feed}

/-- A directory with a snapshot record mirrors its own feed. -/
theorem start (record : ∃ snapshot, db.snapshotsTree = some snapshot) : Mirrors db (Feed.start db) := by
  obtain ⟨snapshot, stored⟩ := record
  refine ⟨⟨snapshot, stored, ?_⟩, fun _ => rfl⟩
  rw [Feed.start, Db.logStart_of_snapshot stored, Nat.add_sub_cancel]

/-- A mirrored log starts behind the base of its feed. -/
theorem logStart (mirrors : Mirrors db feed) : db.logStart = feed.base + 1 := by
  obtain ⟨snapshot, stored, base⟩ := mirrors.record
  rw [Db.logStart_of_snapshot stored, base]

/-- Marks keep the mirrored log. -/
theorem marks (mirrors : Mirrors db feed) {ops : List SledOp} (marks : ∀ op ∈ ops, op.marks = true) :
    Mirrors (db.replay ops) feed := by
  obtain ⟨entries, record, _⟩ := Db.core_eq (Db.core_replay marks db)
  exact ⟨record ▸ mirrors.record, entries ▸ mirrors.log⟩

/-- An installation moves the base of the log and drops the entries up to it. -/
theorem snapshotPart (mirrors : Mirrors db feed) (ready : Ready) :
    Mirrors (db.replay (ready.snapshotPart db)) (feed.install ready.snapshot) := by
  unfold Ready.snapshotPart Feed.install
  split
  · exact mirrors
  · rw [Db.replay_append]
    apply Mirrors.marks _ (by simp [SledOp.marks])
    refine ⟨⟨ready.snapshot, replay_snapshotOps_snapshotsTree db ready.snapshot _, rfl⟩, fun index => ?_⟩
    rw [getElem?_replay_snapshotOps, mirrors.log]

/-- Inserted entries extend the feed. -/
theorem inserts (mirrors : Mirrors db feed) (entries : List Entry) :
    Mirrors (db.replay (entries.map fun entry => .insertEntry entry.index entry)) (feed.append entries) := by
  induction entries generalizing db feed with
  | nil => exact mirrors
  | cons entry rest ih =>
      have first : Mirrors (db.run (.insertEntry entry.index entry)) (feed.append [entry]) := by
        refine ⟨mirrors.record, fun index => ?_⟩
        change (db.entriesTree.insert entry.index entry)[index]? =
          Function.update feed.log entry.index (some entry) index
        rw [OrderedTree.getElem?_insert, Function.update_apply, mirrors.log]
        simp only [eq_comm]
      exact ih first

/-- The entries of a ready extend the feed. -/
theorem appendPart (mirrors : Mirrors db feed) (ready : Ready) :
    Mirrors (db.replay ready.appendPart) (feed.append ready.entries) := by
  unfold Ready.appendPart
  split
  · next none =>
      rw [List.isEmpty_iff.mp none]
      exact mirrors
  · rw [DiskStorage.appendOps, Db.replay_append]
    exact (mirrors.inserts ready.entries).marks (by simp [SledOp.marks])

/-- The hard state of a ready keeps the mirrored log. -/
theorem hardstatePart (mirrors : Mirrors db feed) (ready : Ready) :
    Mirrors (db.replay ready.hardstatePart) feed := by
  unfold Ready.hardstatePart
  cases ready.hs with
  | none => exact mirrors
  | some hs => exact ⟨mirrors.record, mirrors.log⟩

/-- The calls of a ready give the directory the log that raft has with it. -/
theorem ready (mirrors : Mirrors db feed) (ready : Ready) {marks : List SledOp}
    (allows : ∀ op ∈ marks, op.marks = true) :
    Mirrors (db.replay (ready.sledOps db ++ marks)) (feed.next (.ready ready)) := by
  rw [Ready.sledOps, Db.replay_append, Db.replay_append, Db.replay_append]
  have whole := (((mirrors.snapshotPart ready).appendPart ready).hardstatePart ready).marks allows
  exact ⟨whole.record, whole.log⟩

end Mirrors

/-- This is the feed after the outputs of a run on the directory. -/
def Feed.through (dir : Db) (trace : List Effect) : Feed := (outputs trace).foldl Feed.next (Feed.start dir)

namespace Driver

open Attempt (Within Reaches)

variable {X : Externals}

/-- The directory mirrors the feed of the run, and each delivered snapshot was decoded. -/
structure Stocked (dir : Db) (driver : Driver X) : Prop where
  stored : ∃ db, driver.store.db? = some db ∧ Mirrors db (Feed.through dir driver.trace)
  decodes : Decodes X.snapshotCodec (delivered driver.trace)

/-- A fresh driver on a directory with a snapshot record is stocked. -/
theorem stocked_start {dir : Db} {start : Driver X} (fresh : Fresh start) (disk : start.store.db? = some dir)
    (record : ∃ snapshot, dir.snapshotsTree = some snapshot) : Stocked dir start := by
  refine ⟨⟨dir, disk, ?_⟩, ?_⟩
  · rw [fresh.trace]
    exact Mirrors.start record
  · rw [fresh.trace]
    exact fun data inside => by cases inside

/-- A ready keeps the driver stocked. -/
theorem processReady_stocked (dir : Db) : Reaches (fun before after => Stocked dir before → Stocked dir after)
    (processReady : Attempt (Driver X) RaftLoopError Unit) := by
  intro before _ after done stocked
  obtain ⟨run⟩ := processReady_ok done
  obtain ⟨db, disk, mirrors⟩ := stocked.stored
  obtain ⟨marks, allows, _, stored⟩ := stopsAfter_planned disk (by rw [done])
  rw [done, ← run.ready_eq] at stored
  refine ⟨⟨_, stored, ?_⟩, run.delivers_decoded stocked.decodes⟩
  have moved := mirrors.ready run.ready allows
  rw [Feed.through, run.outputs, List.foldl_append]
  exact ⟨moved.record, moved.log⟩

/-- Each run keeps the driver stocked. -/
theorem performAll_stocked (dir : Db) (actions : List Action) :
    Reaches (fun before after => Stocked dir before → Stocked dir after)
      (performAll actions : Attempt (Driver X) RaftLoopError Unit) := by
  apply performAll_reaches (processReady_stocked dir)
  intro action other before stocked
  have handles := perform_handles other before
  constructor
  · rw [handles.store, Feed.through, handles.outputs]
    exact stocked.stored
  · rw [delivered_outputs, handles.outputs, ← delivered_outputs]
    exact stocked.decodes

/-- The trace of a run tells what it wrote to the directory. -/
theorem performAll_writes (actions : List Action) : Within (Writes fun _ => True)
    (performAll actions : Attempt (Driver X) RaftLoopError Unit) := by
  apply performAll_within
  · intro before db disk
    obtain ⟨ops, _, marks, _, _, written, stored, _⟩ := processReady_writes disk
    exact ⟨ops ++ marks, written, stored, fun _ _ => trivial⟩
  · intro action other before
    exact writes_of_same (perform_handles other before).store (perform_handles other before).sledOps

/-- These are the stored entries from the first index up to the given one. -/
structure Redelivers (db : Db) (index : Nat) (entries : List Entry) : Prop where
  consecutive : Consecutive db.logStart entries
  reaches : db.logStart + entries.length = index + 1
  stored : ∀ entry ∈ entries, db.entriesTree[entry.index]? = some entry

/-- A node starts on a directory and runs, and raft delivers its log. -/
structure Ran (peers : List Nat) (dir : Db) (actions : List Action) (start final : Driver X) : Prop where
  reachable : Reachable peers start
  fresh : Fresh start
  disk : start.store.db? = some dir
  done : performAll actions start = (.ok (), final)
  delivers : (Feed.start dir).Delivers (outputs final.trace)
  voting : Db.Voting (sledOps final.trace)

/-- The node starts again on what it left behind, and raft delivers the stored entries up to the index. -/
structure Restarts (peers : List Nat) (left : Db) (index : Nat) (actions : List Action)
    (restarted again : Driver X) : Prop where
  fresh : Fresh restarted
  store : ∃ faults, restarted.store = RaftNode.newStore X.mem peers (.newWithDisk left faults)
  done : performAll actions restarted = (.ok (), again)
  redelivers : ∃ reopened entries, restarted.store.db? = some reopened ∧
    Redelivers reopened index entries ∧ delivered again.trace = entries.map .entry

variable {peers : List Nat} {dir left : Db} {actions : List Action} {start final : Driver X}

/-- The directory that a run leaves behind mirrors the feed of the run and has voters. -/
theorem Ran.leaves (ran : Ran peers dir actions start final) (stopped : final.store.db? = some left) :
    Mirrors left (Feed.through dir final.trace) ∧ left.initialState.2.voters ≠ [] := by
  obtain ⟨db, stored, sound⟩ := ran.reachable.sound
  rw [ran.disk] at stored
  cases stored
  constructor
  · have stocked := performAll_stocked dir actions start () final ran.done
      (stocked_start ran.fresh ran.disk sound.record)
    obtain ⟨db, stored, mirrors⟩ := stocked.stored
    rw [stopped] at stored
    cases stored
    exact mirrors
  · have writes := (performAll_writes actions).reaches start () final ran.done
    obtain ⟨ops, written, stored, _⟩ := writes dir ran.disk
    rw [ran.fresh.trace] at written
    rw [stopped] at stored
    cases stored
    apply Db.voters_replay sound.voters
    have all : sledOps final.trace = ops := written
    exact all ▸ ran.voting

/-- Raft redelivers the entries that the run applied after its last snapshot. -/
theorem Ran.redelivers (ran : Ran peers dir actions start final) (stopped : final.store.db? = some left)
    {entries : List Entry} (redelivers : Redelivers left (Feed.through dir final.trace).handed entries) :
    entries = (sinceSnapshot (delivered final.trace)).2 := by
  have mirrors := (ran.leaves stopped).1
  have tracks : Feed.Tracks (Feed.through dir final.trace) (sinceSnapshot (delivered final.trace)).2 := by
    rw [delivered_outputs]
    exact ran.delivers.tracks rfl
  have consecutive := redelivers.consecutive
  have reaches := redelivers.reaches
  rw [mirrors.logStart] at consecutive reaches
  have handed := tracks.handed
  apply consecutive.unique tracks.consecutive (by omega) _ tracks.logged
  exact fun entry inside => (mirrors.log entry.index).symm.trans (redelivers.stored entry inside)

/-- A restart gives the map back exactly when the entries behind the last installed snapshot put each of its keys. -/
theorem restart_recovers_iff {redeliveries : List Action} {restarted again : Driver X}
    (ran : Ran peers dir actions start final) (stopped : final.store.db? = some left)
    (restarts : Restarts peers left (Feed.through dir final.trace).handed redeliveries restarted again) :
    again.kvNode.kv = final.kvNode.kv ↔ PutAgain X.kvCodec X.snapshotCodec (delivered final.trace) := by
  obtain ⟨faults, store⟩ := restarts.store
  obtain ⟨reopened, entries, opened, redelivers, listed⟩ := restarts.redelivers
  have same : reopened = left := by
    rw [store, RaftNode.newStore_db X.mem (ran.leaves stopped).2 faults] at opened
    exact (Option.some.inj opened).symm
  rw [same] at redelivers
  obtain ⟨db, stored, sound⟩ := ran.reachable.sound
  have stocked := performAll_stocked db actions start () final ran.done
    (stocked_start ran.fresh stored sound.record)
  rw [performAll_kv restarts.fresh restarts.done, performAll_kv ran.fresh ran.done, listed,
    ran.redelivers stopped redelivers]
  exact foldDelivered_entries_iff stocked.decodes

/-- A run without a snapshot has nothing to put again. -/
theorem putAgain_of_entries (kvCodec : KvCodec) (snapshotCodec : SnapshotCodec) (entries : List Entry) :
    PutAgain kvCodec snapshotCodec (entries.map .entry) := by
  intro key stored
  rw [sinceSnapshot, foldl_since_entries] at stored
  simp [restored] at stored

/-- Raft installs a snapshot at index 5 and then commits the entry behind it. -/
def installReadies (data : Bytes) : List Ready :=
  [{ Ready.default with hs := some ⟨1, 0, 5⟩, snapshot := ⟨data, ⟨{ voters := [1] }, 5, 1⟩⟩ },
    { Ready.default with entries := [scriptedPut 1 6 0 "k" "v"] },
    { Ready.default with hs := some ⟨1, 0, 6⟩, committedEntries := [scriptedPut 1 6 0 "k" "v"] }]

/-- This is the node at its stop. -/
def stoppedNode (data : Bytes) : Driver scripted :=
  (performAll [.ready, .ready, .ready] (newNode (installReadies data))).2

def leftDir (data : Bytes) : Db := (stoppedNode data).store.db?.getD .new

/-- This node starts on the left directory, and raft has the entry behind the snapshot for it. -/
def restartedNode (data : Bytes) : Driver scripted := scriptedDriver
  (.begin .follower [{ Ready.default with committedEntries := [scriptedPut 1 6 0 "k" "v"] }] [] [])
  (RaftNode.newStore scripted.mem [1] (.newWithDisk (leftDir data) []))

def recoveredNode (data : Bytes) : Driver scripted := (performAll [.ready] (restartedNode data)).2

/-- This snapshot puts one key only, which the entry puts again. -/
def keptData : Bytes := [1, 1, 107, 1, 117]

/-- This snapshot puts a key that no entry puts again. -/
def lostData : Bytes := [1, 1, 97, 1, 120]

/-- The run with a snapshot and its restart keep raft's contract, whatever the snapshot holds. -/
theorem installed_ran {data : Bytes}
    (done : (performAll [.ready, .ready, .ready] (newNode (installReadies data))).1 = .ok ())
    (delivers : (Feed.start newDir).Delivers (outputs (stoppedNode data).trace))
    (voting : Db.Voting (sledOps (stoppedNode data).trace)) :
    Ran [1] newDir [.ready, .ready, .ready] (newNode (installReadies data)) (stoppedNode data) :=
  ⟨newNode_reachable _, scriptedDriver_fresh _ _, newNode_db _, Attempt.eq_ok done, delivers, voting⟩

/-- The restart of the example takes up the directory that the first node left. -/
theorem installed_restarts {data : Bytes} {index : Nat} (done : (performAll [.ready] (restartedNode data)).1 = .ok ())
    (opened : (restartedNode data).store.db?.isSome = true)
    (redelivers : Redelivers ((restartedNode data).store.db?.getD .new) index [scriptedPut 1 6 0 "k" "v"])
    (listed : delivered (recoveredNode data).trace = [.entry (scriptedPut 1 6 0 "k" "v")]) :
    Restarts [1] (leftDir data) index [.ready] (restartedNode data) (recoveredNode data) := by
  obtain ⟨reopened, stored⟩ := Option.isSome_iff_exists.mp opened
  rw [stored] at redelivers
  exact ⟨scriptedDriver_fresh _ _, ⟨[], rfl⟩, Attempt.eq_ok done, reopened, _, stored, redelivers, listed⟩

/-- The first node left its directory. -/
theorem leftDir_stored {data : Bytes} (stored : (stoppedNode data).store.db?.isSome = true) :
    (stoppedNode data).store.db? = some (leftDir data) := by
  obtain ⟨db, found⟩ := Option.isSome_iff_exists.mp stored
  rw [leftDir, found]
  rfl

/-- The node whose snapshot is put again has its map back after the restart. -/
theorem restart_recovers_iff_kept :
    ((recoveredNode keptData).kvNode.kv = (stoppedNode keptData).kvNode.kv ↔
        PutAgain Protobuf.kvCodec Bincode.snapshotCodec (delivered (stoppedNode keptData).trace)) ∧
      (stoppedNode keptData).kvNode.kv.toList = [("k", "v")] ∧
      (recoveredNode keptData).kvNode.kv.toList = [("k", "v")] := by
  have ran := @installed_ran keptData (by decide +kernel) (by decide +kernel) (by decide +kernel)
  have left := @leftDir_stored keptData (by decide +kernel)
  refine ⟨?_, by decide +kernel, by decide +kernel⟩
  apply restart_recovers_iff ran left
  apply installed_restarts (by decide +kernel) (by decide +kernel)
  · exact ⟨by decide +kernel, by decide +kernel, by decide +kernel⟩
  · decide +kernel

/-- The node whose snapshot is not put again loses a key in the restart. -/
theorem restart_loses :
    Ran [1] newDir [.ready, .ready, .ready] (newNode (installReadies lostData)) (stoppedNode lostData) ∧
      (stoppedNode lostData).store.db? = some (leftDir lostData) ∧
      Restarts [1] (leftDir lostData) (Feed.through newDir (stoppedNode lostData).trace).handed [.ready]
        (restartedNode lostData) (recoveredNode lostData) ∧
      (recoveredNode lostData).kvNode.kv ≠ (stoppedNode lostData).kvNode.kv := by
  refine ⟨?_, leftDir_stored (by decide +kernel), ?_, ?_⟩
  · exact installed_ran (by decide +kernel) (by decide +kernel) (by decide +kernel)
  · apply installed_restarts (by decide +kernel) (by decide +kernel)
    · exact ⟨by decide +kernel, by decide +kernel, by decide +kernel⟩
    · decide +kernel
  · have held : (stoppedNode lostData).kvNode.kv["a"]? = some "x" := by decide +kernel
    have lost : (recoveredNode lostData).kvNode.kv["a"]? = none := by decide +kernel
    intro same
    rw [same, held] at lost
    cases lost

end Driver

end RaftATui
