import RaftATui.Proof.Driver.AppliedIndex
import RaftATui.Proof.Driver.Screen

namespace RaftATui
open Machinery

def StateUpdate.state : StateUpdate → Option RaftState
  | .raftState state => some state
  | _ => none

/-- This is the last raft state that the driver sent to the TUI. -/
def displayed (trace : List Effect) : Option RaftState := ((updates trace).filterMap StateUpdate.state).getLast?

namespace Driver

open Attempt (Within Fixes Maps Reaches)

variable {X : Externals} {active : X.Raft → ConfState} {change : ConfState → X.Change → Except RaftError ConfState}

/-- A refused change leaves raft as it is. Handing a ready back moves the commit index to the reported one
and nothing else that the TUI shows. -/
structure StateLaws (X : Externals) : Prop where
  refused : ∀ change store raft error later,
    X.raw.applyConfChange change store raft = (.error error, later) → later = raft
  id : ∀ rd store raft, X.raw.id (X.raw.advance rd store raft).2 = X.raw.id raft
  term : ∀ rd store raft, X.raw.term (X.raw.advance rd store raft).2 = X.raw.term raft
  role : ∀ rd store raft, X.raw.role (X.raw.advance rd store raft).2 = X.raw.role raft
  leaderId : ∀ rd store raft, X.raw.leaderId (X.raw.advance rd store raft).2 = X.raw.leaderId raft
  clusterSize : ∀ rd store raft, X.raw.clusterSize (X.raw.advance rd store raft).2 = X.raw.clusterSize raft
  committed : ∀ rd store raft, X.raw.committed (X.raw.advance rd store raft).2 =
    (X.raw.advance rd store raft).1.commitIndex.getD (X.raw.committed raft)

/-- The light ready reports no new commit index, and none of its entries counts. -/
def Calm (change : ConfState → X.Change → Except RaftError ConfState) (conf : ConfState) (commit : Nat)
    (light : LightReady) : Prop :=
  light.commitIndex.getD commit = commit ∧ ∀ entry ∈ light.committedEntries, ¬ Counts change conf entry

instance (change : ConfState → X.Change → Except RaftError ConfState) (conf : ConfState) (commit : Nat)
    (light : LightReady) : Decidable (Calm change conf commit light) := inferInstanceAs (Decidable (_ ∧ _))

section Missed

/-- Entries that do not count change nothing. -/
theorem applyConfEntry_missed (follows : ConfLaws X active change) (laws : StateLaws X)
    {decode : Bytes → Except String X.Change} {entry : Entry} {driver final : Driver X} (filled : entry.data ≠ [])
    (same : entry.change X = (decode entry.data).toOption)
    (missed : ¬ Counts change (active driver.raft) entry)
    (done : applyConfEntry decode entry driver = (.ok (), final)) : final = driver := by
  unfold applyConfEntry at done
  cases decoded : decode entry.data with
  | error text =>
      simp only [decoded] at done
      exact (Prod.mk.inj done).2.symm
  | ok parsed =>
      simp only [decoded] at done
      obtain ⟨result, middle, run, done⟩ := Attempt.bind_eq_ok.mp done
      have call := follows.result parsed driver.store driver.raft
      simp only [Attempt.outcome, withRaft, Prod.mk.injEq, Except.ok.injEq] at run
      obtain ⟨rfl, rfl⟩ := run
      cases reply : (X.raw.applyConfChange parsed driver.store driver.raft).1 with
      | ok conf =>
          have counts : (accepted change (active driver.raft) entry).isSome = true := by
            rw [reply] at call
            simp [accepted, same, decoded, Except.toOption, ← call]
          exact absurd ⟨filled, Or.inr counts⟩ missed
      | error error =>
          have kept := laws.refused parsed driver.store driver.raft error _ (Prod.ext reply rfl)
          rw [reply] at done
          exact (Prod.mk.inj done).2.symm.trans (congrArg (fun raft => { driver with raft }) kept)

/-- An entry that does not count leaves the driver as it is. -/
theorem applyEntry_missed (follows : ConfLaws X active change) (laws : StateLaws X) {entry : Entry}
    {driver final : Driver X} (missed : ¬ Counts change (active driver.raft) entry)
    (done : applyEntry entry driver = (.ok (), final)) : final = driver := by
  unfold applyEntry at done
  split at done
  · exact (Prod.mk.inj done).2.symm
  · case isFalse filled =>
      have something : entry.data ≠ [] := by simpa using filled
      cases kind : entry.entryType with
      | entryNormal => exact absurd ⟨something, Or.inl kind⟩ missed
      | entryConfChange =>
          simp only [kind] at done
          exact applyConfEntry_missed follows laws something (by simp [Entry.change, kind]) missed done
      | entryConfChangeV2 =>
          simp only [kind] at done
          exact applyConfEntry_missed follows laws something (by simp [Entry.change, kind]) missed done

/-- A batch that does not count leaves the driver as it is. -/
theorem applyEntries_missed (follows : ConfLaws X active change) (laws : StateLaws X) {entries : List Entry}
    {driver final : Driver X} (missed : ∀ entry ∈ entries, ¬ Counts change (active driver.raft) entry)
    (done : applyEntries entries driver = (.ok (), final)) : final = driver := by
  induction entries generalizing driver with
  | nil => exact (Prod.mk.inj done).2.symm
  | cons entry rest ih =>
      obtain ⟨_, middle, first, later⟩ := Attempt.bind_eq_ok.mp done
      have same := applyEntry_missed follows laws (missed entry List.mem_cons_self) first
      rw [same] at later
      exact ih (fun next inside => missed next (List.mem_cons_of_mem entry inside)) later

/-- A counted entry moves the applied index to an entry of its batch. -/
theorem foldl_countEntry_moved {seen : ConfState × Nat} {entries : List Entry}
    (counts : ∃ entry ∈ entries, Counts change seen.1 entry) :
    ∃ entry ∈ entries, (entries.foldl (countEntry change) seen).2 = entry.index := by
  induction entries with
  | nil => simp at counts
  | cons entry rest ih =>
      rw [List.foldl_cons, countEntry]
      split
      · have place := @foldl_countEntry_mem _ change ((accepted change seen.1 entry).getD seen.1, entry.index) rest
        rcases List.mem_cons.mp place with here | inside
        · exact ⟨entry, List.mem_cons_self, here⟩
        · obtain ⟨later, member, same⟩ := List.mem_map.mp inside
          exact ⟨later, List.mem_cons_of_mem entry member, same.symm⟩
      · next missed =>
          obtain ⟨counted, inside, found⟩ := counts
          have later : counted ∈ rest := by
            rcases List.mem_cons.mp inside with rfl | later
            · exact absurd found missed
            · exact later
          obtain ⟨last, member, same⟩ := ih ⟨counted, later, found⟩
          exact ⟨last, List.mem_cons_of_mem entry member, same⟩

end Missed

namespace ReadyRun

variable {before after : Driver X}

/-- The display carries the state that the node has when it is sent. -/
theorem displayed_eq (run : ReadyRun before after) (watched : before.Watched) :
    displayed after.trace = some run.shown.getState := by
  have entries (entries : List Entry) : Maps (seen StateUpdate.state) id
      (applyEntries entries : Attempt (Driver X) RaftLoopError Unit) := by
    intro driver value final done
    rw [applyEntries_seen entries driver value final done]
    cases driver.seen StateUpdate.state <;> simp [StateUpdate.state]
  obtain ⟨applied, finished⟩ := run.observe (fun _ => seen_of_screen (sendMessages_screen _))
    (seen_of_screen (applySnapshotPart_screen _)).maps (seen_of_screen (appendEntriesPart_screen _)).maps
    (seen_of_screen (persistHardstatePart_screen _)).maps (entries _) (entries _)
  have state : run.shown.getState = run.applied.getState := by
    have reports := updateTuiState_reports.reaches _ _ _ run.present
    rw [getState, getState, reports.raft, reports.store]
  have told : run.shown.seen StateUpdate.state =
      (run.applied.seen StateUpdate.state).map (· ++ [run.applied.getState]) := updateTuiState_seen run.present
  simp only [id] at applied finished
  rw [← seen_congr run.advanced_screen, ← finished, applied, seen_congr run.taken_screen, seen_eq watched] at told
  rw [displayed, ← filterMap_shown (fun update text => by cases update <;> first | rfl | cases text),
    seen_some told, List.getLast?_concat, state]

/-- Handing the ready back moves the commit index of the state and nothing else. -/
theorem answered_getState (laws : StateLaws X) (run : ReadyRun before after) :
    run.answered.getState = { run.shown.getState with
      commitIndex := run.light.commitIndex.getD (X.raw.committed run.shown.raft) } := by
  have sending : Fixes (fun driver : Driver X => (driver.raft, driver.store))
      (sendMessages run.light.messages) := Within.forEach run.light.messages fun _ _ _ => rfl
  have sent : (run.answered.raft, run.answered.store) = (run.advanced.raft, run.advanced.store) :=
    sending.maps _ _ _ run.sendLight
  obtain ⟨raft, store⟩ := Prod.mk.inj sent
  rw [getState, raft, store, run.advanced_eq, run.light_eq]
  simp only [laws.id, laws.term, laws.role, laws.leaderId, laws.clusterSize, laws.committed, getState]

end ReadyRun

/-- The last state that a ready sends to the TUI is the state of the node when the light ready is calm. With
entries above the applied index this is the only case. -/
theorem displayed_current_iff (follows : ConfLaws X active change) (steady : Steady X active)
    (laws : StateLaws X) {before after : Driver X} (watched : before.Watched)
    (done : processReady before = (.ok (), after)) :
    ∃ run : ReadyRun before after,
      (Calm change (reconfigure change (active before.raft) (filled run.ready.committedEntries))
          (X.raw.committed run.shown.raft) run.light → displayed after.trace = some after.getState) ∧
        ((∀ entry ∈ run.light.committedEntries, run.shown.store.appliedIndex < entry.index) →
          (displayed after.trace = some after.getState ↔
            Calm change (reconfigure change (active before.raft) (filled run.ready.committedEntries))
              (X.raw.committed run.shown.raft) run.light)) := by
  obtain ⟨run⟩ := processReady_ok done
  obtain ⟨counted, answered, finished⟩ := run.progress_stages follows steady
  have conf : active run.shown.raft =
      reconfigure change (active before.raft) (filled run.ready.committedEntries) := by
    have first := congrArg Prod.fst counted
    rw [foldl_countEntry_conf] at first
    rw [show active run.shown.raft = _ from first, countSnapshot]
    split <;> rfl
  have same : active run.answered.raft = active run.shown.raft := congrArg Prod.fst answered
  have settled (missed : ∀ entry ∈ run.light.committedEntries, ¬ Counts change (active run.shown.raft) entry) :
      after.getState = { run.shown.getState with
        commitIndex := run.light.commitIndex.getD (X.raw.committed run.shown.raft) } := by
    have still : after = run.answered :=
      applyEntries_missed follows laws (fun entry inside => by rw [same]; exact missed entry inside) run.applyLight
    exact (congrArg getState still).trans (run.answered_getState laws)
  have enough (calm : Calm change (active run.shown.raft) (X.raw.committed run.shown.raft) run.light) :
      displayed after.trace = some after.getState := by
    rw [run.displayed_eq watched, settled calm.2, calm.1]
    rfl
  refine ⟨run, ?_⟩
  rw [← conf]
  refine ⟨enough, fun above => ⟨fun current => ?_, enough⟩⟩
  rw [run.displayed_eq watched, Option.some.injEq] at current
  have missed : ∀ entry ∈ run.light.committedEntries, ¬ Counts change (active run.shown.raft) entry := by
    intro entry inside counts
    obtain ⟨last, member, moved⟩ := @foldl_countEntry_moved _ change (run.shown.progress active) _ ⟨entry, inside, counts⟩
    have applied : after.store.appliedIndex = last.index := (congrArg Prod.snd finished).trans moved
    have shown : run.shown.store.appliedIndex = after.store.appliedIndex :=
      congrArg RaftState.appliedIndex current
    have bound := above last member
    omega
  refine ⟨?_, missed⟩
  rw [settled missed] at current
  exact (congrArg RaftState.commitIndex current).symm

/-- The scripted raft keeps its state when it refuses. -/
theorem scripted_states : StateLaws scripted where
  refused change store raft error later failed := by
    simp only [ScriptedRaft.raw, ScriptedRaft.applyConfChange] at failed
    cases made : ScriptedRaft.changed raft.conf change with
    | ok conf => simp [made] at failed
    | error refusal =>
        rw [made] at failed
        exact (Prod.mk.inj failed).2.symm
  id rd store raft := rfl
  term rd store raft := rfl
  role rd store raft := by
    simp only [ScriptedRaft.raw, ScriptedRaft.advance]
    cases raft.lights <;> rfl
  leaderId rd store raft := by
    simp only [ScriptedRaft.raw, ScriptedRaft.advance]
    cases raft.lights <;> rfl
  clusterSize rd store raft := by
    simp only [ScriptedRaft.raw, ScriptedRaft.advance]
    cases raft.lights <;> rfl
  committed rd store raft := by
    simp only [ScriptedRaft.raw, ScriptedRaft.advance]
    cases raft.lights <;> rfl

/-- This leader gets a ready and then a light ready. -/
def showingNode (ready : Ready) (light : LightReady) : Driver scripted :=
  scriptedDriver (.begin .leader [ready] [light] []) (.newWithDisk .new [])

/-- The ready of this leader commits a put, and the light ready is empty. -/
def calmNode : Driver scripted := showingNode
  { Ready.default with
    hs := some ⟨1, 1, 1⟩
    entries := [scriptedPut 1 1 0 "k" "v"]
    committedEntries := [scriptedPut 1 1 0 "k" "v"] } .default

/-- The calm node displays its own state after a ready. -/
theorem displayed_current_iff_calm :
    ∃ run : ReadyRun calmNode (processReady calmNode).2,
      (Calm (X := scripted) ScriptedRaft.changed
          (reconfigure (X := scripted) ScriptedRaft.changed { voters := [1] } (filled run.ready.committedEntries))
          (ScriptedRaft.committed run.shown.raft) run.light →
        displayed (processReady calmNode).2.trace = some (processReady calmNode).2.getState) ∧
        ((∀ entry ∈ run.light.committedEntries, run.shown.store.appliedIndex < entry.index) →
          (displayed (processReady calmNode).2.trace = some (processReady calmNode).2.getState ↔
            Calm (X := scripted) ScriptedRaft.changed
              (reconfigure (X := scripted) ScriptedRaft.changed { voters := [1] } (filled run.ready.committedEntries))
              (ScriptedRaft.committed run.shown.raft) run.light)) :=
  displayed_current_iff changed_follows scripted_steady scripted_states (fun _ => rfl)
    (Attempt.eq_ok (by decide +kernel))

/-- This cluster of one node commits its put in the light ready. -/
def aloneNode : Driver scripted := showingNode
  { Ready.default with hs := some ⟨1, 1, 0⟩, entries := [scriptedPut 1 1 0 "k" "v"] }
  { LightReady.default with commitIndex := some 1, committedEntries := [scriptedPut 1 1 0 "k" "v"] }

/-- The TUI misses the commit index and the applied index that the light ready moves. -/
theorem updateTuiState_stale :
    aloneNode.Watched ∧ (processReady aloneNode).1 = .ok () ∧
      displayed (processReady aloneNode).2.trace = some ⟨1, 1, .leader, 1, 0, 0, 1⟩ ∧
      (processReady aloneNode).2.getState = ⟨1, 1, .leader, 1, 1, 1, 1⟩ :=
  ⟨fun _ => rfl, by decide +kernel, by decide +kernel, by decide +kernel⟩

end Driver

end RaftATui
