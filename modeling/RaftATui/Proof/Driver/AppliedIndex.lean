import RaftATui.Proof.Driver.ConfChange
import RaftATui.Proof.Driver.Moves
import RaftATui.Proof.Driver.Outputs
import RaftATui.Proof.Storage.Applied

namespace RaftATui
open Machinery

/-- These are the indices of the items that one output delivers. -/
def Effect.indices : Effect → List Nat
  | .ready rd => (if rd.snapshot.isEmpty then [] else [rd.snapshot.metadata.index]) ++
      rd.committedEntries.map Entry.index
  | .light answer => answer.committedEntries.map Entry.index
  | _ => []

/-- These are the indices of the items delivered so far. -/
def indices (trace : List Effect) : List Nat := trace.flatMap Effect.indices

/-- This is the index of the last delivered item, or the initial one before the first item. -/
def reached (initial : Nat) (trace : List Effect) : Nat := (indices trace).getLastD initial

/-- Raft delivers its items in the order of their indices. -/
def Ascending (initial : Nat) (trace : List Effect) : Prop := (initial :: indices trace).Pairwise (· < ·)

instance (initial : Nat) (trace : List Effect) : Decidable (Ascending initial trace) :=
  inferInstanceAs (Decidable (List.Pairwise _ _))

namespace Driver

open Attempt (Within Fixes Maps Reaches)

section Counting

variable {X : Externals} (change : ConfState → X.Change → Except RaftError ConfState)

/-- The last of the entries counts in the configuration of its place. -/
def LastCounts (conf : ConfState) (entries : List Entry) : Prop :=
  ∀ entry ∈ entries.getLast?, Counts change (reconfigure change conf (filled entries.dropLast)) entry

instance (conf : ConfState) (entries : List Entry) : Decidable (LastCounts change conf entries) :=
  inferInstanceAs (Decidable (∀ entry ∈ entries.getLast?, _))

/-- An entry that counts moves the applied index and may change the configuration. -/
def countEntry (seen : ConfState × Nat) (entry : Entry) : ConfState × Nat :=
  if Counts change seen.1 entry then ((accepted change seen.1 entry).getD seen.1, entry.index) else seen

variable {change}

/-- An entry that does not count changes no configuration, unless it has no data. -/
theorem countEntry_conf (seen : ConfState × Nat) (entry : Entry) :
    (countEntry change seen entry).1 = reconfigure change seen.1 (filled [entry]) := by
  by_cases empty : entry.data = []
  · have missed : ¬ Counts change seen.1 entry := fun counts => counts.1 empty
    rw [countEntry, if_neg missed]
    simp [filled, empty, reconfigure]
  · have taken : reconfigure change seen.1 (filled [entry]) = (accepted change seen.1 entry).getD seen.1 := by
      simp [filled, empty, reconfigure]
    rw [taken, countEntry]
    split
    · rfl
    · next missed =>
        have refused : accepted change seen.1 entry = none := by
          by_contra some
          exact missed ⟨empty, Or.inr (Option.isSome_iff_ne_none.mpr some)⟩
        rw [refused]
        rfl

/-- The counted entries change the configuration as the filled ones do. -/
theorem foldl_countEntry_conf (seen : ConfState × Nat) (entries : List Entry) :
    (entries.foldl (countEntry change) seen).1 = reconfigure change seen.1 (filled entries) := by
  induction entries generalizing seen with
  | nil => rfl
  | cons entry rest ih =>
      rw [List.foldl_cons, ih, countEntry_conf, ← reconfigure_filled_cons]

/-- A batch moves the applied index to one of its entries, if at all. -/
theorem foldl_countEntry_mem (seen : ConfState × Nat) (entries : List Entry) :
    (entries.foldl (countEntry change) seen).2 ∈ seen.2 :: entries.map Entry.index := by
  induction entries generalizing seen with
  | nil => exact List.mem_singleton_self _
  | cons entry rest ih =>
      have later := ih (countEntry change seen entry)
      rw [List.foldl_cons, List.map_cons]
      rcases List.mem_cons.mp later with here | inside
      · rw [here, countEntry]
        split
        · exact List.mem_cons_of_mem _ List.mem_cons_self
        · exact List.mem_cons_self
      · exact List.mem_cons_of_mem _ (List.mem_cons_of_mem _ inside)

/-- The applied index ends at the last entry when that entry counts. -/
theorem foldl_countEntry_last {conf : ConfState} {applied : Nat} {entries : List Entry}
    (counts : LastCounts change conf entries) :
    (entries.foldl (countEntry change) (conf, applied)).2 = (entries.map Entry.index).getLastD applied := by
  induction entries using List.reverseRecOn with
  | nil => rfl
  | append_singleton earlier entry _ =>
      have last := counts entry (by simp)
      rw [List.dropLast_concat, ← foldl_countEntry_conf (conf, applied)] at last
      rw [List.foldl_concat, countEntry, if_pos last]
      simp

/-- With ascending indices the applied index misses a last entry that does not count. -/
theorem foldl_countEntry_last_iff {conf : ConfState} {applied : Nat} {entries : List Entry}
    (ascending : (applied :: entries.map Entry.index).Pairwise (· < ·)) :
    (entries.foldl (countEntry change) (conf, applied)).2 = (entries.map Entry.index).getLastD applied ↔
      LastCounts change conf entries := by
  refine ⟨fun exact => ?_, foldl_countEntry_last⟩
  induction entries using List.reverseRecOn with
  | nil => simp [LastCounts]
  | append_singleton earlier entry _ =>
      intro last isLast
      have same : entry = last := by simpa using isLast
      rw [← same, List.dropLast_concat, ← foldl_countEntry_conf (conf, applied)]
      by_contra missed
      rw [List.foldl_concat, countEntry, if_neg missed] at exact
      have place : (earlier.foldl (countEntry change) (conf, applied)).2 ∈ applied :: earlier.map Entry.index :=
        foldl_countEntry_mem (conf, applied) earlier
      rw [List.map_append, ← List.cons_append, List.pairwise_append] at ascending
      have below : _ < entry.index := ascending.2.2 _ place entry.index (by simp)
      simp at exact
      omega

end Counting

variable {X : Externals} {active : X.Raft → ConfState} {change : ConfState → X.Change → Except RaftError ConfState}

/-- This observation pairs raft's active configuration with the applied index. -/
def progress (active : X.Raft → ConfState) (driver : Driver X) : ConfState × Nat :=
  (active driver.raft, driver.store.appliedIndex)

/-- The progress is read from raft and from the store only. -/
theorem progress_eq {before after : Driver X} (raft : after.raft = before.raft)
    (store : after.store = before.store) : after.progress active = before.progress active := by
  rw [progress, progress, raft, store]

/-- A storage call that keeps the applied index keeps the progress. -/
theorem withStore_progress {Value : Type} {call : Attempt (RaftStorage X.Mem) RaftError Value}
    (fixes : Fixes RaftStorage.appliedIndex call) : Fixes (progress active) (withStore call) := by
  intro driver
  have kept : (call driver.store.clearJournal).2.appliedIndex = driver.store.clearJournal.appliedIndex :=
    fixes driver.store.clearJournal
  have same : driver.store.clearJournal.appliedIndex = driver.store.appliedIndex := by
    cases driver.store <;> rfl
  exact Prod.ext rfl (kept.trans same)

/-- The stored index is the given one. -/
theorem setAppliedIndex_progress (index : Nat) : Maps (progress active) (fun seen => (seen.1, index))
    (setAppliedIndex index : Attempt (Driver X) RaftLoopError Unit) := by
  apply Attempt.Reaches.relabel
  apply Within.reaches
  intro driver
  exact Prod.ext rfl (RaftStorage.setAppliedIndex_applied index driver.store.clearJournal)

/-- Messages leave the progress unchanged. -/
theorem sendMessages_progress (messages : List Message) : Fixes (progress active)
    (sendMessages messages : Attempt (Driver X) RaftLoopError Unit) :=
  Within.forEach messages fun _ _ _ => rfl

/-- The announcement of a leader only tells the TUI. -/
theorem announceLeader_reports (raftState : RaftState) (previous : Option Nat) :
    Within Reports (announceLeader raftState previous : Attempt (Driver X) RaftLoopError Unit) := by
  cases previous with
  | none => exact Within.pure ()
  | some previous =>
      simp only [announceLeader]
      split
      · exact notify_reports _
      · exact Within.pure ()

/-- The update of the TUI changes nothing but the remembered leader. -/
theorem updateTuiState_reports :
    Within Reports (updateTuiState : Attempt (Driver X) RaftLoopError Unit) := by
  refine Within.bind Within.get fun driver => ?_
  refine Within.bind (announceLeader_reports _ _) fun _ => ?_
  apply Within.bind
  · exact Within.modify fun _ => ⟨rfl, rfl, rfl, [], (List.append_nil _).symm, by simp⟩
  · exact fun _ => notify_reports _

/-- The update of the TUI leaves the progress unchanged. -/
theorem updateTuiState_progress :
    Fixes (progress active) (updateTuiState : Attempt (Driver X) RaftLoopError Unit) := fun driver =>
  progress_eq (updateTuiState_reports driver).raft (updateTuiState_reports driver).store

/-- A command counts whatever its data say. -/
theorem applyNormalEntry_progress (entry : Entry) : Maps (progress active) (fun seen => (seen.1, entry.index))
    (applyNormalEntry entry : Attempt (Driver X) RaftLoopError Unit) := by
  have command : Fixes (progress active)
      (applyKvCommand entry : Attempt (Driver X) RaftLoopError (Except String Unit)) := fun _ => rfl
  have reported (result : Except String Unit) : Fixes (progress active)
      (reportApplied entry result : Attempt (Driver X) RaftLoopError Unit) := fun driver =>
    progress_eq (reportApplied_reports entry result driver).raft (reportApplied_reports entry result driver).store
  exact Maps.bind (Fixes.maps command) fun result =>
    Maps.bind (Fixes.maps (reported result)) fun _ => setAppliedIndex_progress entry.index

/-- A stored configuration counts its own entry. -/
theorem persistConfState_progress (entry : Entry) (cs : ConfState) :
    Maps (progress active) (fun seen => (seen.1, entry.index))
      (persistConfState entry cs : Attempt (Driver X) RaftLoopError Unit) :=
  Maps.bind (Attempt.Reaches.relabel _ (Fixes.maps (withStore_progress (RaftStorage.setConfState_applied cs))))
    fun _ => setAppliedIndex_progress entry.index

/-- One entry of any kind moves the applied index exactly when it counts. -/
theorem applyEntry_progress (follows : ConfLaws X active change) (entry : Entry) :
    Maps (progress active) (fun seen => countEntry change seen entry)
      (applyEntry entry : Attempt (Driver X) RaftLoopError Unit) := by
  intro driver value final done
  change final.progress active = countEntry change (driver.progress active) entry
  rw [countEntry]
  cases applyEntry_handled follows done with
  | passed raft missed same =>
      rw [if_neg (show ¬ Counts change (driver.progress active).1 entry from missed)]
      exact Prod.ext same rfl
  | command filled normal run =>
      have moved : final.progress active = ((driver.progress active).1, entry.index) :=
        applyNormalEntry_progress entry driver () final run
      rw [if_pos ⟨filled, Or.inl normal⟩, moved]
      simp [accepted, Entry.change, normal]
  | reconfigured cs raft filled taken same run =>
      have moved : final.progress active = (active raft, entry.index) :=
        persistConfState_progress entry cs _ () final run
      have kept : accepted change (driver.progress active).1 entry = some cs := taken
      rw [if_pos ⟨filled, Or.inr (by rw [kept]; rfl)⟩, moved, kept]
      exact Prod.ext same rfl

/-- A batch advances the progress as its fold counts it. -/
theorem applyEntries_progress (follows : ConfLaws X active change) (entries : List Entry) :
    Maps (progress active) (fun seen => entries.foldl (countEntry change) seen)
      (applyEntries entries : Attempt (Driver X) RaftLoopError Unit) :=
  Maps.forEach entries fun entry _ => applyEntry_progress follows entry

/-- An installed snapshot counts up to its index. -/
def countSnapshot (snapshot : Snapshot) (seen : ConfState × Nat) : ConfState × Nat :=
  if snapshot.isEmpty then seen else (seen.1, snapshot.metadata.index)

/-- An installed snapshot sets the applied index to its own. -/
theorem applySnapshotPart_progress (ready : Ready) : Maps (progress active) (countSnapshot ready.snapshot)
    (applySnapshotPart ready : Attempt (Driver X) RaftLoopError Unit) := by
  unfold applySnapshotPart countSnapshot
  split
  · exact Fixes.maps (Within.pure ())
  · have stored : Maps (progress active) id (Attempt.relabel .storage
        (withStore (RaftStorage.applySnapshot X.mem ready.snapshot)) : Attempt (Driver X) RaftLoopError Unit) :=
      Attempt.Reaches.relabel _ (withStore_progress (RaftStorage.applySnapshot_applied ready.snapshot)).maps
    have restored : Fixes (progress active)
        (restoreSnapshot ready.snapshot.data : Attempt (Driver X) RaftLoopError Unit) := fun _ => rfl
    have notified (text : String) : Fixes (progress active)
        (notify (.systemMessage text) : Attempt (Driver X) RaftLoopError Unit) := fun driver =>
      progress_eq (notify_reports _ driver).raft (notify_reports _ driver).store
    exact Maps.bind stored fun _ => Maps.bind (Fixes.maps restored) fun _ =>
      Maps.bind (setAppliedIndex_progress _) fun _ => Fixes.maps (notified _)

/-- Taking a ready and handing it back leave raft's configuration as it is. -/
structure Steady (X : Externals) (active : X.Raft → ConfState) : Prop where
  ready : ∀ store raft, active (X.raw.ready store raft).2 = active raft
  advance : ∀ rd store raft, active (X.raw.advance rd store raft).2 = active raft

/-- A ready counts its snapshot and then its entries before the display, and those of its light ready after it. -/
theorem ReadyRun.progress_stages (follows : ConfLaws X active change) (steady : Steady X active)
    {before after : Driver X} (run : ReadyRun before after) :
    run.shown.progress active = run.ready.committedEntries.foldl (countEntry change)
        (countSnapshot run.ready.snapshot (before.progress active)) ∧
      run.answered.progress active = run.shown.progress active ∧
      after.progress active =
        run.light.committedEntries.foldl (countEntry change) (run.shown.progress active) := by
  have taken : run.taken.progress active = before.progress active := by
    rw [run.taken_eq]
    exact Prod.ext (steady.ready _ _) rfl
  have advanced : run.advanced.progress active = run.shown.progress active := by
    rw [run.advanced_eq]
    exact Prod.ext (steady.advance _ _ _) rfl
  have appends : Fixes (Driver.progress active)
      (appendEntriesPart run.ready : Attempt (Driver X) RaftLoopError Unit) :=
    appendEntriesPart_within
      (Within.relabel _ (withStore_progress (RaftStorage.append_applied run.ready.entries)))
  have persists : Fixes (Driver.progress active)
      (persistHardstatePart run.ready : Attempt (Driver X) RaftLoopError Unit) :=
    persistHardstatePart_within fun hs =>
      Within.relabel _ (withStore_progress (RaftStorage.setHardstate_applied hs))
  have shown : run.shown.progress active = run.applied.progress active :=
    updateTuiState_progress.maps _ _ _ run.present
  have answered : run.answered.progress active = run.advanced.progress active :=
    (sendMessages_progress _).maps _ _ _ run.sendLight
  obtain ⟨applied, finished⟩ := run.observe sendMessages_progress (applySnapshotPart_progress _) appends.maps
    persists.maps (applyEntries_progress follows _) (applyEntries_progress follows _)
  refine ⟨?_, answered.trans advanced, ?_⟩
  · rw [shown, applied, id, id, taken]
  · rw [finished, advanced]

/-- A processed ready counts its snapshot and then all entries that come with it. -/
theorem ReadyRun.progress (follows : ConfLaws X active change) (steady : Steady X active)
    {before after : Driver X} (run : ReadyRun before after) : after.progress active =
      (run.ready.committedEntries ++ run.light.committedEntries).foldl (countEntry change)
        (countSnapshot run.ready.snapshot (before.progress active)) := by
  obtain ⟨shown, _, finished⟩ := run.progress_stages follows steady
  rw [finished, shown, List.foldl_append]

/-- The handed indices are read from the outputs only. -/
theorem indices_outputs (trace : List Effect) : indices trace = indices (outputs trace) :=
  flatMap_outputs (fun effect silent => by cases effect <;> first | rfl | cases silent) trace

/-- These entries were handed out between two states. -/
def handedBetween (before after : Driver X) : List Entry :=
  (handed after.trace).drop (handed before.trace).length

/-- The last entry that a ready handed out counts. -/
def LastCounted (active : X.Raft → ConfState) (change : ConfState → X.Change → Except RaftError ConfState)
    (before after : Driver X) : Prop :=
  LastCounts change (active before.raft) (handedBetween before after)

instance (active : X.Raft → ConfState) (change : ConfState → X.Change → Except RaftError ConfState)
    (before after : Driver X) : Decidable (LastCounted active change before after) :=
  inferInstanceAs (Decidable (LastCounts _ _ _))

/-- The applied index is the index of the last delivered item. -/
def Exact (initial : Nat) (driver : Driver X) : Prop :=
  driver.store.appliedIndex = reached initial driver.trace

instance (initial : Nat) (driver : Driver X) : Decidable (Exact initial driver) :=
  inferInstanceAs (Decidable (_ = _))

namespace ReadyRun

variable {before after : Driver X} {initial : Nat}

/-- One ready hands out its own entries and then those of the light ready. -/
theorem handedBetween_eq (run : ReadyRun before after) :
    handedBetween before after = run.ready.committedEntries ++ run.light.committedEntries := by
  rw [handedBetween, handed_outputs after.trace, run.outputs, handed_append, ← handed_outputs,
    List.drop_left]
  simp [handed, Effect.handed]

/-- A ready delivers its snapshot and then its entries. -/
theorem indices_eq (run : ReadyRun before after) : indices after.trace = indices before.trace ++
    ((if run.ready.snapshot.isEmpty then [] else [run.ready.snapshot.metadata.index]) ++
      (handedBetween before after).map Entry.index) := by
  rw [indices_outputs after.trace, run.outputs, run.handedBetween_eq, indices, List.flatMap_append,
    ← indices, ← indices_outputs]
  simp [Effect.indices]

/-- From an exact applied index a ready counts its entries from the last item before them. -/
theorem counts (follows : ConfLaws X active change) (steady : Steady X active) (run : ReadyRun before after)
    (exact : Exact initial before) : ∃ installed,
      installed ∈ initial :: (indices before.trace ++
        if run.ready.snapshot.isEmpty then [] else [run.ready.snapshot.metadata.index]) ∧
      after.store.appliedIndex =
        ((handedBetween before after).foldl (countEntry change) (active before.raft, installed)).2 ∧
      reached initial after.trace = ((handedBetween before after).map Entry.index).getLastD installed := by
  have moved := congrArg Prod.snd (run.progress follows steady)
  rw [← run.handedBetween_eq] at moved
  rw [reached, run.indices_eq]
  rw [Exact, reached] at exact
  cases none : run.ready.snapshot.isEmpty with
  | true =>
      refine ⟨before.store.appliedIndex, ?_, ?_, ?_⟩
      · rw [exact, if_pos rfl, List.append_nil]
        exact List.getLastD_mem_cons
      · rw [countSnapshot, if_pos none] at moved
        exact moved
      · rw [exact]
        simp
  | false =>
      refine ⟨run.ready.snapshot.metadata.index, by simp, ?_, by simp [List.getLast?_cons]⟩
      rw [countSnapshot, if_neg (by simp [none])] at moved
      exact moved

/-- A ready keeps the applied index exact when its last entry counts. -/
theorem exact (follows : ConfLaws X active change) (steady : Steady X active) (run : ReadyRun before after)
    (exact : Exact initial before) (counted : LastCounted active change before after) :
    Exact initial after := by
  obtain ⟨_, _, applied, last⟩ := run.counts follows steady exact
  rw [Exact, applied, last]
  exact foldl_countEntry_last counted

/-- With ascending indices a ready whose last entry does not count leaves the applied index behind. -/
theorem exact_iff (follows : ConfLaws X active change) (steady : Steady X active) (run : ReadyRun before after)
    (exact : Exact initial before) (ascending : Ascending initial after.trace) :
    Exact initial after ↔ LastCounted active change before after := by
  obtain ⟨installed, place, applied, last⟩ := run.counts follows steady exact
  rw [Ascending, run.indices_eq, ← List.append_assoc, ← List.cons_append, List.pairwise_append] at ascending
  rw [Exact, applied, last]
  apply foldl_countEntry_last_iff
  rw [List.pairwise_cons]
  exact ⟨ascending.2.2 installed place, ascending.2.1⟩

end ReadyRun

/-- What is not a ready keeps the applied index exact. -/
theorem exact_of_handles {initial : Nat} {before after : Driver X} (handles : Handles before after)
    (exact : Exact initial before) : Exact initial after := by
  rw [Exact, reached, indices_outputs, handles.outputs, ← indices_outputs, handles.store]
  exact exact

/-- In every run whose last handed entries all count, the applied index is exact after each ready. When raft
delivers in the order of the indices, no other run has this. -/
theorem applied_exact_iff (follows : ConfLaws X active change) (steady : Steady X active) {start : Driver X}
    {actions : List Action} (silent : start.trace = []) :
    (EachReady start actions (LastCounted active change) →
        EachReady start actions fun _ after => Exact start.store.appliedIndex after) ∧
      (EachReady start actions (fun _ after => Ascending start.store.appliedIndex after.trace) →
        ((EachReady start actions fun _ after => Exact start.store.appliedIndex after) ↔
          EachReady start actions (LastCounted active change))) := by
  have begins : Exact start.store.appliedIndex start := by
    rw [Exact, silent]
    rfl
  have others (before after : Driver X) (handles : Handles before after) :
      Exact start.store.appliedIndex before → Exact start.store.appliedIndex after := exact_of_handles handles
  have enough (counted : EachReady start actions (LastCounted active change)) :
      EachReady start actions fun _ after => Exact start.store.appliedIndex after := by
    have keeps : EachReady start actions fun before after =>
        Exact start.store.appliedIndex before → Exact start.store.appliedIndex after := by
      intro part before after within earlier done exact
      obtain ⟨run⟩ := processReady_ok done
      exact run.exact follows steady exact (counted part before after within earlier done)
    intro part before after within earlier done
    exact keeps part before after within earlier done
      (keeps.holds others begins ((List.prefix_append part _).trans within) earlier)
  refine ⟨enough, fun ascending => ⟨fun exact => ?_, enough⟩⟩
  intro part before after within earlier done
  obtain ⟨run⟩ := processReady_ok done
  have keeps : EachReady start actions fun before after =>
      Exact start.store.appliedIndex before → Exact start.store.appliedIndex after :=
    fun part before after within earlier done _ => exact part before after within earlier done
  have here := keeps.holds others begins ((List.prefix_append part _).trans within) earlier
  exact (run.exact_iff follows steady here (ascending part before after within earlier done)).mp
    (exact part before after within earlier done)

/-- The scripted raft changes its configuration in its own call only. -/
theorem scripted_steady : Steady scripted ScriptedRaft.conf where
  ready store raft := by
    simp only [ScriptedRaft.raw, ScriptedRaft.ready]
    cases raft.readies <;> rfl
  advance rd store raft := by
    simp only [ScriptedRaft.raw, ScriptedRaft.advance]
    cases raft.lights <;> rfl

/-- This node gets the given entries in one ready. -/
def countingNode (entries : List Entry) : Driver scripted := scriptedDriver
  (.begin .follower [{ Ready.default with committedEntries := entries }] [] []) (.newWithDisk .new [])

/-- A put and a new voter are both counted. -/
theorem applied_exact_iff_voter :
    (processReady (countingNode (voterEntries.take 2))).2.store.appliedIndex = 2 ∧
      (EachReady (countingNode (voterEntries.take 2)) [.ready] fun _ after => Exact 0 after) ∧
      ((EachReady (countingNode (voterEntries.take 2)) [.ready] fun _ after => Exact 0 after) ↔
        EachReady (countingNode (voterEntries.take 2)) [.ready]
          (LastCounted (X := scripted) ScriptedRaft.conf ScriptedRaft.changed)) := by
  have settled := @applied_exact_iff scripted ScriptedRaft.conf ScriptedRaft.changed changed_follows scripted_steady
    (countingNode (voterEntries.take 2)) [.ready] rfl
  exact ⟨by decide +kernel, settled.1 (eachReady_single (by decide +kernel)),
    settled.2 (eachReady_single (by decide +kernel))⟩

/-- The entry of a new leader is delivered and not counted. -/
theorem applyEntries_lags :
    (processReady (countingNode [⟨.entryNormal, 1, 1, [], []⟩])).1 = .ok () ∧
      Ascending 0 (processReady (countingNode [⟨.entryNormal, 1, 1, [], []⟩])).2.trace ∧
      (processReady (countingNode [⟨.entryNormal, 1, 1, [], []⟩])).2.store.appliedIndex = 0 ∧
      ¬ EachReady (countingNode [⟨.entryNormal, 1, 1, [], []⟩]) [.ready] fun _ after => Exact 0 after := by
  refine ⟨by decide +kernel, by decide +kernel, by decide +kernel, fun exact => ?_⟩
  have after := exact [] _ _ List.prefix_rfl rfl (Attempt.eq_ok (by decide +kernel))
  exact absurd after (by decide +kernel)

end Driver

end RaftATui
