import RaftATui.Proof.Driver.Calls

namespace RaftATui
open Machinery

/-- Every sled call of the directory completes. -/
def RaftStorage.Calm {Mem : Type} (store : RaftStorage Mem) : Prop :=
  ∃ storage, store = .disk storage ∧ true ∉ storage.faults

/-- These channels are open when the loop receives from them. -/
def Input.opened : Input → Bool
  | .commandChannelClosed | .messageChannelClosed => false
  | _ => true

/-- A disk without faults completes each script. -/
theorem DiskStorage.script_calm (ops : List SledOp) {storage : DiskStorage} (calm : true ∉ storage.faults) :
    ∃ final, script ops storage = (.ok (), final) ∧ true ∉ final.faults := by
  induction ops generalizing storage with
  | nil => exact ⟨storage, rfl, calm⟩
  | cons op ops ih =>
      have works : storage.faults.headD false = false := by
        cases faults : storage.faults with
        | nil => rfl
        | cons fault rest =>
            cases fault with
            | false => rfl
            | true => exact absurd (faults ▸ List.mem_cons_self) calm
      have step : sled op storage = (.ok (), { storage with
          db := storage.db.run op
          faults := storage.faults.tail
          journal := storage.journal ++ [op] }) := by rw [sled, works]; rfl
      obtain ⟨final, done, still⟩ := @ih { storage with
        db := storage.db.run op
        faults := storage.faults.tail
        journal := storage.journal ++ [op] } fun inside => calm (List.mem_of_mem_tail inside)
      exact ⟨final, (Attempt.bind_ok _ step).trans done, still⟩

namespace Driver

open Attempt (Within Keeps Triple)

variable {X : Externals}

/-- The snapshot of this ready can be restored. -/
def Restorable (X : Externals) (rd : Ready) : Prop :=
  rd.snapshot.isEmpty = false → ∃ kv, X.snapshotCodec.decode rd.snapshot.data = .ok kv

/-- Every snapshot that raft has handed out can be restored. -/
def AllRestorable (X : Externals) (trace : List Effect) : Prop := ∀ rd, .ready rd ∈ trace → Restorable X rd

/-- A storage call of a calm directory succeeds. -/
theorem StoreCall.calm (call : StoreCall) {store : RaftStorage X.Mem} (calm : store.Calm) :
    ∃ final, call.run X.mem store = (.ok (), final) ∧ final.Calm := by
  obtain ⟨storage, rfl, works⟩ := calm
  have both {ops : List SledOp} {first : Attempt DiskStorage RaftError Unit} {before : DiskStorage}
      (same : first storage = DiskStorage.script ops before) (faults : before.faults = storage.faults) :
      ∃ final : RaftStorage X.Mem, ((first storage).1, RaftStorage.disk (first storage).2) = (.ok (), final) ∧
        final.Calm := by
    obtain ⟨final, done, still⟩ := DiskStorage.script_calm ops (faults ▸ works)
    rw [same, done]
    exact ⟨.disk final, rfl, final, rfl, still⟩
  cases call with
  | applySnapshot snapshot => exact both (DiskStorage.applySnapshot_eq_script snapshot storage) rfl
  | append entries => exact both (congrFun (DiskStorage.append_eq_script entries) storage) rfl
  | setHardstate hs => exact both (congrFun (DiskStorage.setHardstate_eq_script hs) storage) rfl
  | setConfState cs => exact both (congrFun (DiskStorage.setConfState_eq_script cs) storage) rfl
  | setAppliedIndex index => exact both (DiskStorage.setAppliedIndex_eq_script index storage) rfl

/-- The directory is calm, and the trace has a property. -/
def Along (p : List Effect → Prop) (driver : Driver X) : Prop := driver.store.Calm ∧ p driver.trace

/-- The trace ends with an undecodable snapshot. -/
def Stuck (driver : Driver X) : Prop := ¬ AllRestorable X driver.trace

section Along

variable {p : List Effect → Prop}

/-- A storage call leads from a calm driver to a calm one. -/
theorem along_store (call : StoreCall)
    (grows : ∀ trace added, (∀ effect ∈ added, ∀ rd, effect ≠ .ready rd) → p trace → p (trace ++ added)) :
    Triple (Along p) (withStore (call.run X.mem)) (fun _ => Along p) (Stuck (X := X)) := by
  intro driver ⟨calm, holds⟩
  have cleared : driver.store.clearJournal.Calm := by
    obtain ⟨storage, disk, works⟩ := calm
    rw [disk]
    exact ⟨_, rfl, works⟩
  obtain ⟨final, done, still⟩ := call.calm cleared
  rw [withStore, done]
  refine ⟨still, grows _ _ (fun effect inside rd same => ?_) holds⟩
  obtain ⟨op, _, rfl⟩ := List.mem_map.mp inside
  cases same

/-- No call but a snapshot to restore can stop an action. -/
theorem alongCalls (restores : Bytes → Prop)
    (grows : ∀ trace added, (∀ effect ∈ added, ∀ rd, effect ≠ .ready rd) → p trace → p (trace ++ added))
    (stops : ∀ data error, restores data → X.snapshotCodec.decode data = .error error →
      ∀ trace, p trace → ¬ AllRestorable X trace) :
    Calls { Scope.all with restores := restores } (Along (X := X) p) Stuck := by
  refine callsOf (fun data error inside decoded driver along => stops data error inside decoded _ along.2) ?_ ?_
    fun call _ => along_store call grows
  · intro before after ⟨_, added, trace, inside⟩ store ⟨calm, holds⟩
    refine ⟨store ▸ calm, ?_⟩
    rw [trace]
    refine grows _ _ (fun effect found rd same => ?_) holds
    have own := inside effect found
    rw [same] at own
    exact own
  · exact fun msg _ driver ⟨calm, holds⟩ => ⟨calm, grows _ [_] (by simp) holds⟩

end Along

/-- Effects but a ready bring no snapshot. -/
theorem decodes_grows (trace added : List Effect) (none : ∀ effect ∈ added, ∀ rd, effect ≠ .ready rd)
    (decodes : AllRestorable X trace) : AllRestorable X (trace ++ added) := by
  intro rd inside
  rcases List.mem_append.mp inside with old | new
  · exact decodes rd old
  · exact absurd rfl (none _ new rd)

/-- Between two actions every snapshot was restorable. -/
theorem servingCalls : Calls { Scope.all with restores := fun _ => False } (Along (X := X) (AllRestorable X)) Stuck :=
  alongCalls _ decodes_grows fun _ _ never => absurd never id

/-- The snapshot of this ready waits for its turn. -/
def Awaiting (X : Externals) (rd : Ready) (trace : List Effect) : Prop :=
  .ready rd ∈ trace ∧ ∀ other, .ready other ∈ trace → other = rd ∨ Restorable X other

/-- The calls of a ready keep what the ready waits for. -/
theorem awaitingCalls (rd : Ready) : Calls { Scope.all with restores := fun data => rd.snapshot.isEmpty = false ∧
    data = rd.snapshot.data } (Along (X := X) (Awaiting X rd)) Stuck := by
  refine alongCalls _ (fun trace added none awaiting => ?_) fun data error inside decoded trace awaiting decodes => ?_
  · refine ⟨List.mem_append_left _ awaiting.1, fun other inside => ?_⟩
    rcases List.mem_append.mp inside with old | new
    · exact awaiting.2 other old
    · exact absurd rfl (none _ new other)
  · obtain ⟨filled, rfl⟩ := inside
    obtain ⟨kv, done⟩ := decodes rd awaiting.1 filled
    rw [done] at decoded
    cases decoded

/-- A ready whose own snapshot can be restored leaves only restorable ones. -/
theorem Awaiting.decodes {rd : Ready} {trace : List Effect} (awaiting : Awaiting X rd trace) (own : Restorable X rd) :
    AllRestorable X trace := by
  intro other inside
  rcases awaiting.2 other inside with rfl | fine
  · exact own
  · exact fine

/-- A snapshot that was restored was restorable. -/
theorem applySnapshotPart_serves (ready : Ready) :
    Triple (Along (X := X) (Awaiting X ready)) (applySnapshotPart ready) (fun _ => Along (AllRestorable X)) Stuck := by
  unfold applySnapshotPart
  split
  · case isTrue empty =>
      exact Triple.pure fun driver ⟨calm, awaiting⟩ => ⟨calm, awaiting.decodes fun filled => by simp [empty] at filled⟩
  · case isFalse present =>
      have filled : ready.snapshot.isEmpty = false := by simpa using present
      have calls := awaitingCalls (X := X) ready
      have restores : Triple (Along (X := X) (Awaiting X ready)) (restoreSnapshot ready.snapshot.data)
          (fun _ => Along (AllRestorable X)) Stuck := by
        intro driver along
        have step := calls.restore _ ⟨filled, rfl⟩ driver along
        rcases run : restoreSnapshot ready.snapshot.data driver with ⟨error | _, final⟩
        · rw [run] at step
          exact step
        · rw [run] at step
          refine ⟨step.1, step.2.decodes fun _ => ?_⟩
          rcases decoded : X.snapshotCodec.decode ready.snapshot.data with error | kv
          · rw [restoreSnapshot, Node.restoreFromSnapshot, decoded] at run
            cases congrArg Prod.fst run
          · exact ⟨kv, rfl⟩
      refine (calls.stored (.applySnapshot ready.snapshot) trivial).bind fun _ => restores.bind fun _ => ?_
      exact (servingCalls.setAppliedIndex _).bind fun _ => servingCalls.notify _

/-- A ready fails only over a snapshot that cannot be restored. -/
theorem processReady_serves :
    Triple (Along (X := X) (AllRestorable X)) processReady (fun _ => Along (AllRestorable X)) Stuck := by
  have takes : Triple (Along (X := X) (AllRestorable X)) takeReady (fun ready => Along (Awaiting X ready)) Stuck := by
    intro driver ⟨calm, decodes⟩
    refine ⟨calm, List.mem_append_right _ List.mem_cons_self, fun other inside => ?_⟩
    rcases List.mem_append.mp inside with old | new
    · exact Or.inr (decodes other old)
    · exact Or.inl (Effect.ready.inj (List.mem_singleton.mp new))
  have advances (ready : Ready) :
      Triple (Along (X := X) (AllRestorable X)) (advance ready) (fun _ => Along (AllRestorable X)) Stuck :=
    fun driver ⟨calm, decodes⟩ => ⟨calm, decodes_grows _ [_] (by simp) decodes⟩
  have calls := servingCalls (X := X)
  simp only [processReady]
  refine takes.bind fun ready => ((awaitingCalls ready).sendMessages fun _ _ => trivial).bind fun _ => ?_
  refine (applySnapshotPart_serves ready).bind fun _ => (calls.appendEntriesPart trivial).bind fun _ => ?_
  refine (calls.persistHardstatePart fun _ _ => trivial).bind fun _ => (calls.sendMessages fun _ _ => trivial).bind fun _ => ?_
  refine (calls.applyEntries fun _ _ => trivial).bind fun _ => calls.updateTuiState.bind fun _ => ?_
  exact (advances _).bind fun light => (calls.sendMessages fun _ _ => trivial).bind fun _ =>
    calls.applyEntries fun _ _ => trivial

/-- A command never fails in a calm driver. -/
theorem handleCommand_serves (cmd : ServerCommand) :
    Triple (Along (X := X) (AllRestorable X)) (handleCommand cmd) (fun _ => Along (AllRestorable X)) Stuck :=
  servingCalls.handleCommand cmd fun _ _ _ _ ⟨calm, decodes⟩ => ⟨calm, decodes_grows _ [_] (by simp) decodes⟩

/-- The end of a turn stops at an undecodable snapshot only. -/
theorem settle_serves (elapsed : Bool) :
    Triple (Along (X := X) (AllRestorable X)) (settle elapsed) (fun _ => Along (AllRestorable X)) Stuck := by
  have ticks : Triple (Along (X := X) (AllRestorable X)) (Attempt.modify fun driver =>
      if elapsed then { driver with raft := X.raw.tick driver.store driver.raft } else driver :
      Attempt (Driver X) RaftLoopError Unit) (fun _ => Along (AllRestorable X)) Stuck := by
    refine Triple.modify fun driver along => ?_
    split
    · exact along
    · exact along
  refine ticks.bind fun _ => Triple.get.bind fun driver => ?_
  split
  · exact processReady_serves
  · exact Triple.pure fun _ => id

/-- An open input never fails in a calm driver. -/
theorem receive_serves {input : Input} (opened : input.opened = true) (goes : input ≠ .shutdown) :
    Triple (Along (X := X) (AllRestorable X)) (receive input) (fun goesOn driver => goesOn = true ∧ Along (AllRestorable X) driver)
      Stuck := by
  cases input with
  | command cmd => exact (handleCommand_serves cmd).bind fun _ => Triple.pure fun _ along => ⟨rfl, along⟩
  | message msg => exact (servingCalls.handleRaftMessage msg).bind fun _ => Triple.pure fun _ along => ⟨rfl, along⟩
  | timeout => exact Triple.pure fun _ along => ⟨rfl, along⟩
  | shutdown => exact absurd rfl goes
  | commandChannelClosed => cases opened
  | messageChannelClosed => cases opened

/-- These turns are taken before a shutdown. -/
def served (turns : List Turn) : List Turn := turns.takeWhile fun turn => turn.input ≠ .shutdown

/-- A calm driver goes on as long as its channels are open and its snapshots can be restored. -/
theorem run_serves (turns : List Turn) {driver : Driver X} (along : Along (AllRestorable X) driver) :
    (run turns driver).1 = .ok () ↔
      (∀ turn ∈ served turns, turn.input.opened = true) ∧ AllRestorable X (run turns driver).2.trace := by
  induction turns generalizing driver with
  | nil => simpa [served, run] using along.2
  | cons turn rest ih =>
      by_cases goes : turn.input = .shutdown
      · -- A shutdown ends the loop with what the trace was.
        have whole : run (turn :: rest) driver = (.ok (), driver) := by rw [run, goes]; rfl
        rw [whole]
        simpa [served, goes] using along.2
      have taken : served (turn :: rest) = turn :: served rest := by
        rw [served, List.takeWhile_cons_of_pos (by simpa using goes), ← served]
      rw [taken, List.forall_mem_cons]
      by_cases opened : turn.input.opened = true
      · have first := receive_serves opened goes driver along
        rcases received : receive turn.input driver with ⟨error | goesOn, middle⟩
        · rw [received] at first
          rw [run, Attempt.bind_error _ received]
          exact iff_of_false (by simp) fun holds => first holds.2
        · rw [received] at first
          obtain ⟨rfl, along⟩ := first
          rw [run, Attempt.bind_ok _ received, if_pos rfl]
          have second := settle_serves turn.elapsed middle along
          rcases settled : settle turn.elapsed middle with ⟨error | _, final⟩
          · rw [settled] at second
            rw [Attempt.bind_error _ settled]
            exact iff_of_false (by simp) fun holds => second holds.2
          · rw [settled] at second
            rw [Attempt.bind_ok _ settled, ih second]
            simp [opened]
      · -- A closed channel ends the loop with an error.
        have stopped : ∃ error, run (turn :: rest) driver = (.error error, driver) := by
          rw [run]
          cases input : turn.input with
          | commandChannelClosed => exact ⟨_, rfl⟩
          | messageChannelClosed => exact ⟨_, rfl⟩
          | _ => rw [input] at opened; exact absurd rfl opened
        obtain ⟨error, whole⟩ := stopped
        rw [whole]
        simp [opened]

/-- On a directory that works the loop returns without an error exactly when its channels stay open up to the
shutdown and every snapshot decodes. -/
theorem run_ok_iff {start : Driver X} (fresh : Fresh start) (calm : start.store.Calm) (turns : List Turn) :
    (run turns start).1 = .ok () ↔
      (∀ turn ∈ served turns, turn.input.opened = true) ∧ AllRestorable X (run turns start).2.trace :=
  run_serves turns ⟨calm, by simp [AllRestorable, fresh.trace]⟩

/-- A malformed entry, a refused proposal and a refused message do not stop the loop. -/
def roughTurns : List Turn :=
  [⟨.message ⟨1, 2, []⟩, false⟩, ⟨.command (.rpc (.put "k" "v" 7)), true⟩, ⟨.timeout, false⟩, ⟨.shutdown, false⟩,
    ⟨.commandChannelClosed, false⟩]

def roughNode : Driver scripted :=
  scriptedDriver (.begin .follower [{ Ready.default with committedEntries := [⟨.entryNormal, 1, 1, [255], []⟩] }] [] [])
    (.newWithDisk .new [])

/-- The rough node starts fresh. -/
theorem roughNode_fresh : Fresh roughNode := scriptedDriver_fresh _ _

/-- The disk of the rough node has no faults. -/
theorem roughNode_calm : roughNode.store.Calm := ⟨DiskStorage.openDb .new [], rfl, List.not_mem_nil⟩

/-- The rough node serves all of its turns. -/
theorem run_ok_iff_rough : (run roughTurns roughNode).1 = .ok () ↔
    (∀ turn ∈ served roughTurns, turn.input.opened = true) ∧ AllRestorable scripted (run roughTurns roughNode).2.trace :=
  run_ok_iff roughNode_fresh roughNode_calm roughTurns

end Driver

end RaftATui
