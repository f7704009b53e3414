import RaftATui.Proof.Driver.Frame
import RaftATui.Proof.Storage.Boot

namespace RaftATui
open Machinery
open Attempt (Within)

variable {X : Externals}

/-- On disk the driver completes some allowed sled calls, which enter the trace and the directory. -/
def Writes (allowed : SledOp → Prop) (before after : Driver X) : Prop :=
  ∀ db, before.store.db? = some db → ∃ ops, sledOps after.trace = sledOps before.trace ++ ops ∧
    after.store.db? = some (db.replay ops) ∧ ∀ op ∈ ops, allowed op

instance writesPreorder (allowed : SledOp → Prop) : IsPreorder (Driver X) (Writes allowed) where
  refl _ db disk := ⟨[], (List.append_nil _).symm, disk, by simp⟩
  trans first second third := by
    intro left right db disk
    obtain ⟨ops, written, stored, allows⟩ := left db disk
    obtain ⟨later, written', stored', allows'⟩ := right _ stored
    refine ⟨ops ++ later, ?_, ?_, ?_⟩
    · rw [written', written, List.append_assoc]
    · rw [stored', Db.replay_append]
    · intro op inside
      exact (List.mem_append.mp inside).elim (allows op) (allows' op)

/-- A step that leaves the storage alone writes nothing. -/
theorem writes_of_same {allowed : SledOp → Prop} {before after : Driver X} (store : after.store = before.store)
    (silent : sledOps after.trace = sledOps before.trace) : Writes allowed before after := fun db disk =>
  ⟨[], by rw [silent, List.append_nil], store ▸ disk, by simp⟩

namespace Driver

variable {Error Value Result : Type} {plan later : Db → List SledOp}

/-- On disk the attempt completes an initial part of the planned sled calls, and on success all of them. -/
def Follows (plan : Db → List SledOp) (first : Attempt (Driver X) Error Value) : Prop :=
  ∀ driver db, driver.store.db? = some db → ∃ ops rest, plan db = ops ++ rest ∧
    sledOps (first driver).2.trace = sledOps driver.trace ++ ops ∧
    (first driver).2.store.db? = some (db.replay ops) ∧ ∀ value, (first driver).1 = .ok value → rest = []

section Follows

variable {first : Attempt (Driver X) Error Value}

/-- Computations that leave the storage alone follow the empty plan. -/
theorem follows_of_same (store : ∀ driver, (first driver).2.store = driver.store)
    (silent : ∀ driver, sledOps (first driver).2.trace = sledOps driver.trace) :
    Follows (fun _ => []) first := fun driver db disk =>
  ⟨[], [], rfl, by rw [silent, List.append_nil], store driver ▸ disk, fun _ _ => rfl⟩

/-- Quiet computations follow the empty plan. -/
theorem follows_of_quiet (quiet : Within Quiet first) : Follows (fun _ => []) first :=
  follows_of_same (fun driver => (quiet driver).store) fun driver => (quiet driver).sledOps

/-- A plan may be replaced by an equal one. -/
theorem Follows.congr (follows : Follows plan first) (same : ∀ db, plan db = later db) : Follows later first := by
  have plans : plan = later := funext same
  rw [← plans]
  exact follows

/-- A sequence follows the plan of its first part and then the plan of its second part. -/
theorem Follows.bind {next : Value → Attempt (Driver X) Error Result} (follows : Follows plan first)
    (continues : ∀ value, Follows later (next value)) :
    Follows (fun db => plan db ++ later (db.replay (plan db))) (first >>= next) := by
  intro driver db disk
  obtain ⟨ops, rest, split, written, stored, whole⟩ := follows driver db disk
  rcases run : first driver with ⟨error | value, middle⟩
  · rw [run] at written stored
    rw [Attempt.bind_error next run]
    refine ⟨ops, rest ++ later (db.replay (plan db)), ?_, written, stored, by simp⟩
    change plan db ++ later (db.replay (plan db)) = _
    rw [← List.append_assoc, ← split]
  · rw [run] at written stored whole
    have complete : plan db = ops := by rw [split, whole value rfl, List.append_nil]
    obtain ⟨more, left, split', written', stored', whole'⟩ := continues value middle _ stored
    rw [Attempt.bind_ok next run]
    refine ⟨ops ++ more, left, ?_, ?_, ?_, whole'⟩
    · change plan db ++ later (db.replay (plan db)) = _
      rw [complete, split', List.append_assoc]
    · rw [written', written, List.append_assoc]
    · rw [stored', Db.replay_append]

/-- A renamed error changes no plan. -/
theorem Follows.relabel {Other : Type} (rename : Error → Other) (follows : Follows plan first) :
    Follows plan (Attempt.relabel rename first) := by
  intro driver db disk
  obtain ⟨ops, rest, split, written, stored, whole⟩ := follows driver db disk
  refine ⟨ops, rest, split, written, stored, fun value success => ?_⟩
  exact whole value (Attempt.mapError_eq_ok.mp success)

/-- A storage call that runs a script follows the calls of the script. -/
theorem withStore_follows {call : Attempt (RaftStorage X.Mem) RaftError Unit}
    {start : DiskStorage → DiskStorage}
    (kept : ∀ storage, (start storage).db = storage.db ∧ (start storage).journal = storage.journal)
    (code : ∀ storage, call (.disk storage) =
      ((DiskStorage.script (plan storage.db) (start storage)).1,
        .disk (DiskStorage.script (plan storage.db) (start storage)).2)) :
    Follows plan (withStore call) := by
  intro driver db disk
  cases stored : driver.store with
  | memory inner appliedIndex => simp [stored, RaftStorage.db?] at disk
  | disk storage =>
      have same : storage.db = db := by simpa [stored, RaftStorage.db?] using disk
      let cleared : DiskStorage := { storage with journal := [] }
      obtain ⟨done, rest, split, final, written, _, whole⟩ :=
        DiskStorage.script_run (plan storage.db) (start cleared)
      have run : withStore call driver = ((DiskStorage.script (plan storage.db) (start cleared)).1,
          { driver with
            store := .disk (DiskStorage.script (plan storage.db) (start cleared)).2
            trace := driver.trace ++
              (DiskStorage.script (plan storage.db) (start cleared)).2.journal.map .sled }) := by
        have called := code cleared
        simp only [withStore, stored, RaftStorage.clearJournal]
        rw [called]
        rfl
      rw [run]
      refine ⟨done, rest, same ▸ split, ?_, ?_, fun value success => whole.mp success⟩
      · rw [written, (kept cleared).2, List.nil_append, sledOps_append, sledOps_sled]
      · rw [RaftStorage.db?, final, (kept cleared).1, same]

/-- A success completes the plan. -/
theorem Follows.completes (follows : Follows plan first) {driver final : Driver X} {db : Db} {value : Value}
    (done : first driver = (.ok value, final)) (disk : driver.store.db? = some db) :
    sledOps final.trace = sledOps driver.trace ++ plan db ∧ final.store.db? = some (db.replay (plan db)) := by
  obtain ⟨ops, rest, split, written, stored, whole⟩ := follows driver db disk
  rw [done] at written stored whole
  rw [whole value rfl, List.append_nil] at split
  rw [split]
  exact ⟨written, stored⟩

/-- A plan of allowed calls makes allowed writes. -/
theorem Follows.writes {allowed : SledOp → Prop} (follows : Follows plan first)
    (allows : ∀ db, ∀ op ∈ plan db, allowed op) : Within (Writes allowed) first := by
  intro driver db disk
  obtain ⟨ops, rest, split, written, stored, _⟩ := follows driver db disk
  refine ⟨ops, written, stored, fun op inside => allows db op ?_⟩
  rw [split]
  exact List.mem_append_left _ inside

/-- Quiet computations write nothing. -/
theorem writes_of_quiet {allowed : SledOp → Prop} (quiet : Within Quiet first) :
    Within (Writes allowed) first := fun driver =>
  writes_of_same (quiet driver).store (quiet driver).sledOps

end Follows

section Storage

/-- A storage call follows the script of its disk arm. -/
theorem both_follows {plan : Db → List SledOp} {onMemory : X.Mem → Except RaftError Unit × X.Mem}
    {onDisk : Attempt DiskStorage RaftError Unit}
    (code : ∀ storage, onDisk storage = DiskStorage.script (plan storage.db) storage) :
    Follows plan (Attempt.relabel .storage (withStore (RaftStorage.both onMemory onDisk)) :
      Attempt (Driver X) RaftLoopError Unit) := by
  apply Follows.relabel
  refine withStore_follows (fun storage => ⟨rfl, rfl⟩ : ∀ storage : DiskStorage,
    (id storage).db = storage.db ∧ _) fun storage => ?_
  rw [RaftStorage.both, code, id]

/-- These are the calls that count an index as applied. -/
theorem setAppliedIndex_follows (index : Nat) :
    Follows (fun _ => [.insertAppliedIndex index, .flush .metaTree])
      (setAppliedIndex index : Attempt (Driver X) RaftLoopError Unit) := by
  apply Follows.relabel
  refine withStore_follows (fun storage => ⟨rfl, rfl⟩ : ∀ storage : DiskStorage,
    { storage with appliedIndex := index }.db = storage.db ∧ _) fun storage => ?_
  rw [RaftStorage.setAppliedIndex, DiskStorage.setAppliedIndex_eq_script]

/-- These are the calls that persist a configuration and count its entry. -/
theorem persistConfState_follows (entry : Entry) (cs : ConfState) :
    Follows (fun _ => [.insertConfstate cs, .flush .metaTree, .insertAppliedIndex entry.index, .flush .metaTree])
      (persistConfState entry cs : Attempt (Driver X) RaftLoopError Unit) := by
  have conf : Follows (fun _ => [.insertConfstate cs, .flush .metaTree])
      (Attempt.relabel .storage (withStore (RaftStorage.setConfState X.mem cs)) :
        Attempt (Driver X) RaftLoopError Unit) :=
    both_follows (congrFun (DiskStorage.setConfState_eq_script cs))
  exact conf.bind fun _ => setAppliedIndex_follows entry.index

/-- A command writes nothing but its index. -/
theorem applyNormalEntry_follows (entry : Entry) :
    Follows (fun _ => [.insertAppliedIndex entry.index, .flush .metaTree])
      (applyNormalEntry entry : Attempt (Driver X) RaftLoopError Unit) := by
  have command : Follows (fun _ => [])
      (applyKvCommand entry : Attempt (Driver X) RaftLoopError (Except String Unit)) :=
    follows_of_same (fun _ => rfl) fun _ => sledOps_added rfl (by simp [Effect.sledOp])
  have reported (result : Except String Unit) : Follows (fun _ => [])
      (reportApplied entry result : Attempt (Driver X) RaftLoopError Unit) :=
    follows_of_same (fun driver => (reportApplied_reports entry result driver).store)
      fun driver => (reportApplied_reports entry result driver).sledOps
  exact command.bind fun result => (reported result).bind fun _ => setAppliedIndex_follows entry.index

/-- An installed snapshot writes its record and removes the covered entries. -/
theorem applySnapshot_follows (snapshot : Snapshot) :
    Follows (fun db => DiskStorage.snapshotOps snapshot db.entriesTree.keys)
      (Attempt.relabel .storage (withStore (RaftStorage.applySnapshot X.mem snapshot)) :
        Attempt (Driver X) RaftLoopError Unit) :=
  both_follows (DiskStorage.applySnapshot_eq_script snapshot)

/-- The entries of a ready are inserted in their order. -/
theorem appendEntriesPart_follows (ready : Ready) :
    Follows (fun _ => ready.appendPart)
      (appendEntriesPart ready : Attempt (Driver X) RaftLoopError Unit) := by
  unfold appendEntriesPart Ready.appendPart
  split
  · exact follows_of_quiet (Within.pure ())
  · exact both_follows (congrFun (DiskStorage.append_eq_script ready.entries))

/-- The hard state of a ready is one insert. -/
theorem persistHardstatePart_follows (ready : Ready) :
    Follows (fun _ => ready.hardstatePart)
      (persistHardstatePart ready : Attempt (Driver X) RaftLoopError Unit) := by
  unfold persistHardstatePart Ready.hardstatePart
  cases ready.hs with
  | none => exact follows_of_quiet (Within.pure ())
  | some hs => exact both_follows (congrFun (DiskStorage.setHardstate_eq_script hs))

/-- The snapshot of a ready is written before its index is counted. -/
theorem applySnapshotPart_follows (ready : Ready) :
    Follows ready.snapshotPart (applySnapshotPart ready : Attempt (Driver X) RaftLoopError Unit) := by
  unfold applySnapshotPart
  split
  · next none =>
      exact (follows_of_quiet (Within.pure ())).congr fun db => by rw [Ready.snapshotPart, if_pos none]
  · next installs =>
      have restored : Follows (fun _ => [])
          (restoreSnapshot ready.snapshot.data : Attempt (Driver X) RaftLoopError Unit) :=
        follows_of_same (fun _ => rfl) fun _ => rfl
      have whole : Follows (fun db => DiskStorage.snapshotOps ready.snapshot db.entriesTree.keys ++
          ([] ++ ([.insertAppliedIndex ready.snapshot.metadata.index, .flush .metaTree] ++ [])))
          (applySnapshot ready.snapshot : Attempt (Driver X) RaftLoopError Unit) :=
        (applySnapshot_follows _).bind fun _ => restored.bind fun _ =>
          (setAppliedIndex_follows _).bind fun _ => follows_of_quiet (notify_quiet _)
      exact whole.congr fun db => by simp [Ready.snapshotPart, installs]

end Storage

/-- This is the first half of a ready, which persists what raft hands out. -/
def persistTaken (ready : Ready) : Attempt (Driver X) RaftLoopError Unit := do
  sendMessages ready.messages
  applySnapshotPart ready
  appendEntriesPart ready
  persistHardstatePart ready

/-- This is the second half of a ready, which applies the committed entries. -/
def finishTaken (ready : Ready) : Attempt (Driver X) RaftLoopError Unit := do
  sendMessages ready.persistedMessages
  applyEntries ready.committedEntries
  updateTuiState
  let lightRd ← advance (Ready.taken ready)
  sendMessages lightRd.messages
  applyEntries lightRd.committedEntries

/-- A ready is first stored and then finished. -/
theorem processReady_parts : (processReady : Attempt (Driver X) RaftLoopError Unit) =
    takeReady >>= fun ready => persistTaken ready >>= fun _ => finishTaken ready := by
  simp only [processReady, persistTaken, finishTaken, Attempt.bind_assoc]

/-- These are the stages of the first half that reach the storage. -/
def persistParts (ready : Ready) : Attempt (Driver X) RaftLoopError Unit := do
  applySnapshotPart ready
  appendEntriesPart ready
  persistHardstatePart ready

/-- The stored parts of a ready make the sled calls of the ready. -/
theorem persistParts_follows (ready : Ready) :
    Follows ready.sledOps (persistParts ready : Attempt (Driver X) RaftLoopError Unit) := by
  have whole := (applySnapshotPart_follows (X := X) ready).bind fun _ =>
    (appendEntriesPart_follows ready).bind fun _ => persistHardstatePart_follows ready
  exact whole.congr fun db => by simp [Ready.sledOps]

/-- The first half of a ready follows its planned calls. -/
theorem persistTaken_follows (ready : Ready) :
    Follows ready.sledOps (persistTaken ready : Attempt (Driver X) RaftLoopError Unit) := by
  have whole := (follows_of_quiet (sendMessages_quiet (X := X) ready.messages)).bind fun _ =>
    persistParts_follows ready
  exact whole.congr fun db => by simp

/-- An applied entry writes only marks. -/
theorem applyEntry_writes (entry : Entry) : Within (Writes fun op => op.marks = true)
    (applyEntry entry : Attempt (Driver X) RaftLoopError Unit) := by
  have changes (decode : Bytes → Except String X.Change) : Within (Writes fun op => op.marks = true)
      (applyConfEntry decode entry : Attempt (Driver X) RaftLoopError Unit) :=
    applyConfEntry_within (fun _ => writes_of_quiet (withRaft_quiet _)) fun cs =>
      (persistConfState_follows entry cs).writes (by simp [SledOp.marks])
  exact applyEntry_within ((applyNormalEntry_follows entry).writes (by simp [SledOp.marks])) changes

/-- A batch of applied entries writes only marks. -/
theorem applyEntries_writes (entries : List Entry) : Within (Writes fun op => op.marks = true)
    (applyEntries entries : Attempt (Driver X) RaftLoopError Unit) :=
  Within.forEach entries fun entry _ => applyEntry_writes entry

/-- The second half of a ready leaves the log, the snapshot and the hard state as they are. -/
theorem finishTaken_writes (ready : Ready) : Within (Writes fun op => op.marks = true)
    (finishTaken ready : Attempt (Driver X) RaftLoopError Unit) := by
  refine Within.bind (writes_of_quiet (sendMessages_quiet _)) fun _ => ?_
  refine Within.bind (applyEntries_writes _) fun _ => ?_
  refine Within.bind (writes_of_quiet updateTuiState_quiet) fun _ => ?_
  apply Within.bind
  · exact fun driver => writes_of_same rfl (sledOps_added rfl (by simp [Effect.sledOp]))
  · exact fun light => Within.bind (writes_of_quiet (sendMessages_quiet _)) fun _ => applyEntries_writes _

/-- A ready completes an initial part of its planned calls and then calls that only mark progress. -/
theorem processReady_writes {driver : Driver X} {db : Db} (disk : driver.store.db? = some db) :
    ∃ ops rest marks, (X.raw.ready driver.store driver.raft).1.sledOps db = ops ++ rest ∧
      (∀ op ∈ marks, op.marks = true) ∧
      sledOps (processReady driver).2.trace = sledOps driver.trace ++ (ops ++ marks) ∧
      (processReady driver).2.store.db? = some (db.replay (ops ++ marks)) ∧
      ((processReady driver).1 = .ok () → rest = []) := by
  obtain ⟨ready, moved, taken, same, store, silent⟩ : ∃ ready moved, takeReady driver = (.ok ready, moved) ∧
      ready = (X.raw.ready driver.store driver.raft).1 ∧ moved.store = driver.store ∧
      sledOps moved.trace = sledOps driver.trace :=
    ⟨_, _, rfl, rfl, rfl, sledOps_added rfl (by simp [Effect.sledOp])⟩
  rw [← same, processReady_parts, Attempt.bind_ok _ taken, ← silent]
  obtain ⟨ops, rest, split, written, stored, whole⟩ := persistTaken_follows ready moved db (store ▸ disk)
  rcases run : persistTaken ready moved with ⟨error | _, middle⟩
  · rw [run] at written stored
    rw [Attempt.bind_error _ run]
    refine ⟨ops, rest, [], split, by simp, ?_, ?_, by simp⟩
    · rw [written, List.append_nil]
    · rw [List.append_nil]
      exact stored
  · rw [run] at written stored whole
    rw [Attempt.bind_ok _ run]
    obtain ⟨marks, written', stored', allows⟩ := finishTaken_writes ready middle _ stored
    refine ⟨ops, rest, marks, split, allows, ?_, ?_, fun _ => whole () rfl⟩
    · rw [written', written, List.append_assoc]
    · rw [stored', Db.replay_append]

end Driver

end RaftATui
