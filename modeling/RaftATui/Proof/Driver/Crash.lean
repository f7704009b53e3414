import RaftATui.Proof.Driver.Journal

namespace RaftATui
open Machinery
open Machinery.Crash (Throughout throughout_append throughout_of_kept)

namespace Driver

variable {X : Externals} {peers : List Nat}

/-- These sled calls complete before the process stops in `process_ready`. -/
def StopsAfter (before : Driver X) (done : List SledOp) : Prop :=
  sledOps before.trace ++ done <+: sledOps (processReady before).2.trace

/-- Raft hands out a conforming ready and no configuration without voters. -/
structure Contract (before : Driver X) (db : Db) : Prop where
  conforms : (X.raw.ready before.store before.raft).1.Conforms db
  voting : ∀ done, StopsAfter before done → Db.Voting done

/-- These are the states of a node through its runs, crashes and restarts. -/
inductive Reachable (peers : List Nat) : Driver X → Prop
  | boot (driver : Driver X) (done : List SledOp) (faults : List Bool) (initial : done <+: Db.bootOps peers)
      (fresh : Fresh driver)
      (store : driver.store = RaftNode.newStore X.mem peers (.newWithDisk (Db.new.replay done) faults))
      (voters : (driver.store.initialState X.mem).2.voters ≠ []) : Reachable peers driver
  | perform (before after : Driver X) (action : Action) (reachable : Reachable peers before)
      (lawful : action = .ready → ∀ db, before.store.db? = some db → Contract before db)
      (done : perform action before = (.ok (), after)) : Reachable peers after
  | restart (before driver : Driver X) (db : Db) (done : List SledOp) (faults : List Bool)
      (reachable : Reachable peers before) (disk : before.store.db? = some db)
      (lawful : done ≠ [] → Contract before db) (stops : StopsAfter before done)
      (startable : (db.replay done).Startable) (fresh : Fresh driver)
      (store : driver.store = RaftNode.newStore X.mem peers (.newWithDisk (db.replay done) faults)) :
      Reachable peers driver

/-- Raft starts again wherever the process stops in `process_ready`. -/
def Restartable (before : Driver X) (db : Db) : Prop :=
  ∀ done, StopsAfter before done → (db.replay done).Startable

/-- The completed calls begin the planned calls of the ready. Only marks follow these. -/
theorem stopsAfter_throughout {before : Driver X} {db : Db} (disk : before.store.db? = some db)
    {good : Db → Prop} (marked : ∀ first second : Db, first.core = second.core → good first → good second)
    (points : Throughout Db.run good db ((X.raw.ready before.store before.raft).1.sledOps db)) :
    ∀ done, StopsAfter before done → good (db.replay done) := by
  obtain ⟨ops, rest, marks, split, allows, written, _, _⟩ := processReady_writes disk
  intro done stops
  rw [StopsAfter, written, List.prefix_append_right_inj] at stops
  have planned : Throughout Db.run good db ops := points.shrink ⟨rest, split.symm⟩
  have after : Throughout Db.run good (db.replay ops) marks :=
    throughout_of_kept planned.final fun op inside later holds =>
      marked _ _ (Db.core_run (allows op inside) later).symm holds
  exact throughout_append.mpr ⟨planned, after⟩ done stops

/-- A completed ready stops after all of its planned calls. -/
theorem stopsAfter_planned {before : Driver X} {db : Db} (disk : before.store.db? = some db)
    (success : (processReady before).1 = .ok ()) :
    ∃ marks, (∀ op ∈ marks, op.marks = true) ∧
      sledOps (processReady before).2.trace = sledOps before.trace ++
        ((X.raw.ready before.store before.raft).1.sledOps db ++ marks) ∧
      (processReady before).2.store.db? =
        some (db.replay ((X.raw.ready before.store before.raft).1.sledOps db ++ marks)) := by
  obtain ⟨ops, rest, marks, split, allows, written, stored, whole⟩ := processReady_writes disk
  rw [whole success, List.append_nil] at split
  rw [split]
  exact ⟨marks, allows, written, stored⟩

/-- A completed lawful ready keeps the directory sound. -/
theorem processReady_sound {before : Driver X} {db : Db} (disk : before.store.db? = some db)
    (sound : db.Sound) (lawful : Contract before db) (success : (processReady before).1 = .ok ()) :
    ∃ later, (processReady before).2.store.db? = some later ∧ later.Sound := by
  obtain ⟨marks, allows, written, stored⟩ := stopsAfter_planned disk success
  obtain ⟨old, record⟩ := sound.record
  refine ⟨_, stored, ?_, Db.record_replay ⟨old, record⟩ _, ?_⟩
  · rw [Db.replay_append]
    exact (Db.startable_congr (Db.core_replay allows _)).mpr
      (Db.sledOps_final sound.startable record lawful.conforms)
  · apply Db.voters_replay sound.voters
    apply lawful.voting
    rw [StopsAfter, written]

/-- Each reachable state has a sound directory. -/
theorem Reachable.sound {driver : Driver X} (reachable : Reachable peers driver) :
    ∃ db, driver.store.db? = some db ∧ db.Sound := by
  induction reachable with
  | boot driver done faults initial fresh store voters =>
      obtain ⟨db, disk, sound⟩ := RaftNode.newStore_boot X.mem initial faults
      rw [← store] at disk
      rw [RaftStorage.initialState_of_db X.mem disk] at voters
      exact ⟨db, disk, sound voters⟩
  | perform before after action reachable lawful done ih =>
      obtain ⟨db, disk, sound⟩ := ih
      by_cases ready : action = .ready
      · subst ready
        have result : processReady before = (.ok (), after) := done
        have kept := processReady_sound disk sound (lawful rfl db disk) (by rw [result])
        rw [result] at kept
        exact kept
      · have handles := perform_handles ready before
        rw [done] at handles
        exact ⟨db, handles.store ▸ disk, sound⟩
  | restart before driver db done faults reachable disk lawful stops startable fresh store ih =>
      obtain ⟨same, stored, sound⟩ := ih
      rw [disk] at stored
      cases stored
      have voters : (db.replay done).initialState.2.voters ≠ [] := by
        apply Db.voters_replay sound.voters
        by_cases none : done = []
        · rw [none]
          exact fun op inside => by cases inside
        · exact (lawful none).voting done stops
      refine ⟨db.replay done, ?_, startable, Db.record_replay sound.record done, voters⟩
      rw [store]
      exact RaftNode.newStore_db X.mem voters faults

/-- The whole trace of a ready tells what can be written before a stop. -/
theorem voting_of_trace {before : Driver X} (whole : Db.Voting (sledOps (processReady before).2.trace)) :
    ∀ done, StopsAfter before done → Db.Voting done := fun _ stops op inside =>
  whole op (stops.subset (List.mem_append_right _ inside))

/-- From each reachable state a harmless ready can stop anywhere, and no other completed ready can. -/
theorem restartable_iff_harmless {before : Driver X} {db : Db} (reachable : Reachable peers before)
    (disk : before.store.db? = some db) (conforms : (X.raw.ready before.store before.raft).1.Conforms db) :
    ((X.raw.ready before.store before.raft).1.Harmless db → Restartable before db) ∧
      ((processReady before).1 = .ok () →
        (Restartable before db ↔ (X.raw.ready before.store before.raft).1.Harmless db)) := by
  obtain ⟨same, stored, sound⟩ := reachable.sound
  rw [disk] at stored
  cases stored
  obtain ⟨old, record⟩ := sound.record
  have enough : (X.raw.ready before.store before.raft).1.Harmless db → Restartable before db :=
    fun harmless => stopsAfter_throughout disk (fun _ _ same => (Db.startable_congr same).mp)
      (Db.sledOps_throughout sound.startable record conforms harmless)
  refine ⟨enough, fun success => ⟨fun restartable => ?_, enough⟩⟩
  obtain ⟨marks, _, written, _⟩ := stopsAfter_planned disk success
  apply Db.harmless_of_throughout conforms
  intro done initial
  apply restartable
  rw [StopsAfter, written, List.prefix_append_right_inj]
  exact initial.trans (List.prefix_append _ _)

/-- This snapshot of an empty map ends at index 5. -/
def laterSnapshot : Snapshot := ⟨[0], ⟨{ voters := [1] }, 5, 1⟩⟩

/-- This ready installs the snapshot with the entry behind it. -/
def installReady : Ready :=
  { Ready.default with
    hs := some ⟨1, 0, 5⟩
    snapshot := laterSnapshot
    entries := [scriptedPut 1 6 0 "k" "v"] }

/-- This ready appends the first entry and commits it. -/
def firstReady : Ready :=
  { Ready.default with hs := some ⟨1, 0, 1⟩, entries := [scriptedPut 1 1 0 "k" "v"] }

/-- A node starts on a new directory. -/
def newNode (readies : List Ready) : Driver scripted := scriptedDriver (.begin .follower readies [] [])
  (RaftNode.newStore scripted.mem [1] (.newWithDisk .new []))

/-- This is the directory of a new node. -/
def newDir : Db := Db.new.replay (Db.bootOps [1])

/-- The new node has the directory of its voter. -/
theorem newNode_db (readies : List Ready) : (newNode readies).store.db? = some newDir := rfl

/-- The new node is reachable. -/
theorem newNode_reachable (readies : List Ready) : Reachable [1] (newNode readies) := by
  have voters : newDir.initialState.2.voters ≠ [] := by decide
  exact .boot _ [] [] List.nil_prefix (scriptedDriver_fresh _ _) rfl voters

/-- A node whose first ready installs a snapshot can stop anywhere. -/
theorem restartable_iff_harmless_new :
    Restartable (newNode [installReady]) newDir ∧
      (Restartable (newNode [installReady]) newDir ↔ installReady.Harmless newDir) := by
  have conforms : installReady.Conforms newDir := ⟨by decide +kernel, by decide +kernel, by decide +kernel⟩
  have settled := restartable_iff_harmless (newNode_reachable [installReady]) (newNode_db _) conforms
  exact ⟨settled.1 (by decide +kernel), settled.2 (by decide +kernel)⟩

/-- This node has committed its first entry when the snapshot comes. -/
def usedNode : Driver scripted := (processReady (newNode [firstReady, installReady])).2

def usedDir : Db := usedNode.store.db?.getD .new

/-- The node stops right after the record of the snapshot, and raft cannot start again. -/
theorem usedNode_stops :
    Reachable [1] usedNode ∧ usedNode.store.db? = some usedDir ∧ installReady.Conforms usedDir ∧
      StopsAfter usedNode [.insertSnapshot laterSnapshot] ∧
      ¬ (usedDir.replay [.insertSnapshot laterSnapshot]).Startable := by
  have conforms : firstReady.Conforms newDir := ⟨by decide +kernel, by decide +kernel, by decide +kernel⟩
  have lawful : Contract (newNode [firstReady, installReady]) newDir :=
    ⟨conforms, voting_of_trace (by decide +kernel)⟩
  have disk : usedNode.store.db?.isSome = true := by decide +kernel
  refine ⟨?_, ?_, ⟨by decide +kernel, by decide +kernel, by decide +kernel⟩, ?_, by decide +kernel⟩
  · have run : perform .ready (newNode [firstReady, installReady]) = (.ok (), usedNode) :=
      Attempt.eq_ok (by decide +kernel)
    refine .perform _ _ .ready (newNode_reachable [firstReady, installReady]) (fun _ db stored => ?_) run
    rw [newNode_db, Option.some.injEq] at stored
    exact stored ▸ lawful
  · obtain ⟨db, stored⟩ := Option.isSome_iff_exists.mp disk
    rw [usedDir, stored]
    rfl
  · rw [StopsAfter]
    decide +kernel

end Driver

end RaftATui
