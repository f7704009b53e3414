import RaftATui.Proof.Driver.KvFold

namespace RaftATui
open Machinery

namespace Driver

open Attempt (Within Fixes Maps)

variable {X : Externals}

/-- This observation keeps raft's outputs. -/
def outputView (driver : Driver X) : List Effect := outputs driver.trace

section Fixes

variable {Error Value : Type} {first : Attempt (Driver X) Error Value}

/-- Quiet computations have no output. -/
theorem outputView_of_quiet (quiet : Within Quiet first) : Fixes outputView first :=
  fun driver => (quiet driver).outputs

/-- Storage calls have no output. -/
theorem outputView_of_stores (stores : Within Stores first) : Fixes outputView first :=
  fun driver => (stores driver).outputs

end Fixes

/-- An installed snapshot has no output of its own. -/
theorem applySnapshotPart_outputs (ready : Ready) : Fixes outputView
    (applySnapshotPart ready : Attempt (Driver X) RaftLoopError Unit) := by
  apply applySnapshotPart_within
  case stores => exact outputView_of_stores (Within.relabel _ (withStore_stores _))
  case restores => exact fun _ => rfl
  case counts => exact fun index => outputView_of_stores (setAppliedIndex_stores index)
  case tells => exact fun _ => outputView_of_quiet (notify_quiet _)

/-- A normal entry has no output of its own. -/
theorem applyNormalEntry_outputs (entry : Entry) : Fixes outputView
    (applyNormalEntry entry : Attempt (Driver X) RaftLoopError Unit) := by
  have command : Fixes outputView
      (applyKvCommand entry : Attempt (Driver X) RaftLoopError (Except String Unit)) := fun _ =>
    outputs_added rfl (by simp [Effect.isOutput])
  apply Within.bind command
  intro result
  apply Within.bind
  · exact fun driver => (reportApplied_reports entry result driver).outputs
  · exact fun _ => outputView_of_stores (setAppliedIndex_stores _)

/-- A configuration change has no output of its own. -/
theorem applyConfEntry_outputs (decode : Bytes → Except String X.Change) (entry : Entry) : Fixes outputView
    (applyConfEntry decode entry : Attempt (Driver X) RaftLoopError Unit) :=
  applyConfEntry_within (fun _ => outputView_of_quiet (withRaft_quiet _)) fun cs =>
    outputView_of_stores (persistConfState_stores entry cs)

/-- Entries of any kind ask raft for nothing. -/
theorem applyEntries_outputs (entries : List Entry) : Fixes outputView
    (applyEntries entries : Attempt (Driver X) RaftLoopError Unit) := by
  apply Within.forEach
  intro entry _
  exact applyEntry_within (applyNormalEntry_outputs entry) fun decode => applyConfEntry_outputs decode entry

/-- A processed ready takes two outputs from raft. -/
theorem ReadyRun.outputs {before after : Driver X} (run : ReadyRun before after) :
    outputs after.trace = outputs before.trace ++ [.ready run.ready, .light run.light] := by
  have taken : run.taken.outputView = before.outputView ++ [.ready run.ready] := by
    rw [run.taken_eq]
    exact outputs_append _ _
  have advanced : run.advanced.outputView = run.shown.outputView ++ [.light run.light] := by
    rw [run.advanced_eq]
    exact outputs_append _ _
  have shown : run.shown.outputView = run.applied.outputView :=
    (outputView_of_quiet updateTuiState_quiet).maps _ _ _ run.present
  obtain ⟨applied, finished⟩ := run.observe (fun _ => outputView_of_quiet (sendMessages_quiet _))
    (applySnapshotPart_outputs _).maps
    (outputView_of_stores (appendEntriesPart_stores _)).maps
    (outputView_of_stores (persistHardstatePart_stores _)).maps
    (applyEntries_outputs _).maps (applyEntries_outputs _).maps
  change after.outputView = before.outputView ++ [.ready run.ready, .light run.light]
  rw [finished, id, advanced, shown, applied, id, id, id, id, taken, List.append_assoc]
  rfl

/-- A processed ready installed its snapshot, so the data of the snapshot decode. -/
theorem ReadyRun.decodes {before after : Driver X} (run : ReadyRun before after)
    (installs : run.ready.snapshot.isEmpty = false) :
    ∃ kv, X.snapshotCodec.decode run.ready.snapshot.data = .ok kv := by
  have install := run.install
  rw [applySnapshotPart, if_neg (by simp [installs])] at install
  obtain ⟨_, stored, _, install⟩ := Attempt.bind_eq_ok.mp install
  obtain ⟨_, restored, restore, _⟩ := Attempt.bind_eq_ok.mp install
  simp only [restoreSnapshot, Node.restoreFromSnapshot, Prod.mk.injEq] at restore
  cases decoded : X.snapshotCodec.decode run.ready.snapshot.data with
  | error error =>
      rw [decoded] at restore
      cases restore.1
  | ok kv => exact ⟨kv, rfl⟩

end Driver

end RaftATui
