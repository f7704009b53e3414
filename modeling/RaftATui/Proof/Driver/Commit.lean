import RaftATui.Proof.Driver.Moves
import RaftATui.Proof.Driver.Outputs
import RaftATui.Proof.Driver.Persisted

namespace RaftATui
open Machinery
open Machinery.Trace (Obeys obeys_append obeys_cons obeys_nil)

/-- This is the commit index after raft reported it in one more output. -/
def Effect.report (commit : Nat) : Effect → Nat
  | .ready rd => (rd.hs.map HardState.commit).getD commit
  | .light answer => answer.commitIndex.getD commit
  | _ => commit

/-- This is the last commit index that raft reported. -/
def reported (initial : Nat) (trace : List Effect) : Nat := trace.foldl Effect.report initial

/-- A ready with a snapshot carries the hard state that the snapshot changes. -/
def Effect.carriesState : Effect → Bool
  | .ready rd => rd.snapshot.isEmpty || rd.hs.isSome
  | _ => true

/-- The commit index advanced after the ready was taken. -/
def Effect.lightCommit : Effect → Bool
  | .light answer => answer.commitIndex.isSome
  | _ => false

/-- Raft reports each advance of its commit index once and hands out committed entries only. -/
def ReportsCommit (initial : Nat) (before : List Effect) (event : Effect) : Prop :=
  reported initial before ≤ event.report (reported initial before) ∧
    (∀ entry ∈ event.handed, entry.index ≤ event.report (reported initial before)) ∧
    event.carriesState = true

instance (initial : Nat) (before : List Effect) (event : Effect) :
    Decidable (ReportsCommit initial before event) := inferInstanceAs (Decidable (_ ∧ _))

namespace Driver

open Attempt (Within Fixes Maps Reaches)

variable {X : Externals}

/-- This observation keeps the stored hard state. -/
def storedHard (driver : Driver X) : HardState := driver.persisted.1

section Fixes

variable {Error Value : Type} {first : Attempt (Driver X) Error Value}

/-- Quiet computations keep the stored hard state. -/
theorem storedHard_of_quiet (quiet : Within Quiet first) : Fixes storedHard first := fun driver =>
  congrArg (fun store => (RaftStorage.initialState X.mem store).1) (quiet driver).store

/-- What keeps the persisted state keeps its hard state. -/
theorem storedHard_of_persisted (fixes : Fixes persisted first) : Fixes storedHard first := fun driver =>
  congrArg Prod.fst (fixes driver)

end Fixes

/-- A stored configuration keeps the hard state. -/
theorem persistConfState_hard (laws : MemLaws X.mem) (entry : Entry) (cs : ConfState) :
    Maps storedHard id (persistConfState entry cs : Attempt (Driver X) RaftLoopError Unit) := by
  intro driver value final done
  have stored : final.persisted = (driver.persisted.1, cs) :=
    persistConfState_maps laws entry cs driver value final done
  exact congrArg (fun state => state.1) stored

/-- A configuration change keeps the hard state. -/
theorem applyConfEntry_hard (laws : MemLaws X.mem) (decode : Bytes → Except String X.Change)
    (entry : Entry) :
    Maps storedHard id (applyConfEntry decode entry : Attempt (Driver X) RaftLoopError Unit) := by
  unfold applyConfEntry
  split
  · exact Fixes.maps (Within.pure ())
  · have asked {change : X.Change} : Maps storedHard id (Attempt.outcome (withRaft
        (X.raw.applyConfChange change)) : Attempt (Driver X) RaftLoopError _) :=
      Fixes.maps (storedHard_of_quiet (Within.outcome (withRaft_quiet _)))
    change Maps storedHard (id ∘ id) _
    refine Maps.bind asked fun result => ?_
    cases result with
    | error _ => exact Fixes.maps (Within.pure ())
    | ok cs => exact persistConfState_hard laws entry cs

/-- Entries of any kind keep the stored hard state. -/
theorem applyEntries_hard (laws : MemLaws X.mem) (entries : List Entry) :
    Reaches (fun before after => after.storedHard = before.storedHard)
      (applyEntries entries : Attempt (Driver X) RaftLoopError Unit) := by
  apply Reaches.forEach
  intro entry _
  unfold applyEntry
  split
  · exact Within.reaches (Within.pure ())
  · split
    · exact Within.reaches (storedHard_of_persisted (applyNormalEntry_persisted entry))
    · exact applyConfEntry_hard laws _ entry
    · exact applyConfEntry_hard laws _ entry

/-- The entries of a ready keep the hard state. -/
theorem appendEntriesPart_hard (laws : MemLaws X.mem) (ready : Ready) :
    Fixes storedHard (appendEntriesPart ready : Attempt (Driver X) RaftLoopError Unit) := by
  apply storedHard_of_persisted
  exact appendEntriesPart_within
    (Within.relabel _ (withStore_fixes (RaftStorage.append_fixes laws ready.entries)))

/-- The hard state of a ready replaces the stored one. -/
theorem persistHardstatePart_hard (laws : MemLaws X.mem) (ready : Ready) :
    Maps storedHard (fun seen => ready.hs.getD seen)
      (persistHardstatePart ready : Attempt (Driver X) RaftLoopError Unit) := by
  intro driver value final done
  unfold persistHardstatePart at done
  cases carried : ready.hs with
  | none =>
      simp only [carried] at done
      rw [← (Prod.mk.inj done).2]
      rfl
  | some hs =>
      simp only [carried] at done
      have stored : final.persisted = (hs, driver.persisted.2) := Attempt.Reaches.relabel _
        (withStore_maps (RaftStorage.setHardstate_maps laws hs)) driver value final done
      exact congrArg (fun state => state.1) stored

/-- A processed ready stores the hard state that it carries. -/
theorem processReady_hard (laws : MemLaws X.mem) {before after : Driver X}
    (done : processReady before = (.ok (), after)) :
    ∃ ready light, outputs after.trace = outputs before.trace ++ [.ready ready, .light light] ∧
      ((Effect.ready ready).carriesState = true →
        after.persisted.1 = ready.hs.getD before.persisted.1) := by
  obtain ⟨run⟩ := processReady_ok done
  have taken : run.taken.storedHard = before.storedHard := by
    rw [run.taken_eq]
    rfl
  have sent : run.sent.storedHard = run.taken.storedHard :=
    (storedHard_of_quiet (sendMessages_quiet _)).maps _ _ _ run.sendFirst
  have appended : run.appended.storedHard = run.installed.storedHard :=
    (appendEntriesPart_hard laws run.ready).maps _ _ _ run.append
  have persisted : run.persisted.storedHard = run.ready.hs.getD run.appended.storedHard :=
    persistHardstatePart_hard laws run.ready _ _ _ run.persist
  have promised : run.promised.storedHard = run.persisted.storedHard :=
    (storedHard_of_quiet (sendMessages_quiet _)).maps _ _ _ run.sendPersisted
  have applied : run.applied.storedHard = run.promised.storedHard :=
    applyEntries_hard laws _ _ _ _ run.applyFirst
  have shown : run.shown.storedHard = run.applied.storedHard :=
    (storedHard_of_quiet updateTuiState_quiet).maps _ _ _ run.present
  have advanced : run.advanced.storedHard = run.shown.storedHard := by
    rw [run.advanced_eq]
    rfl
  have answered : run.answered.storedHard = run.advanced.storedHard :=
    (storedHard_of_quiet (sendMessages_quiet _)).maps _ _ _ run.sendLight
  have finished : after.storedHard = run.answered.storedHard :=
    applyEntries_hard laws _ _ _ _ run.applyLight
  refine ⟨run.ready, run.light, run.outputs, fun carries => ?_⟩
  change after.storedHard = run.ready.hs.getD before.storedHard
  rw [finished, answered, advanced, shown, applied, promised, persisted, appended]
  cases carried : run.ready.hs with
  | some hs => rfl
  | none =>
      -- Without a hard state there is no snapshot, so the installation changes nothing.
      have empty : run.ready.snapshot.isEmpty = true := by
        simpa [Effect.carriesState, carried] using carries
      have install := run.install
      rw [applySnapshotPart, if_pos empty] at install
      rw [← (Prod.mk.inj install).2]
      exact sent.trans taken

/-- The stored commit index is the reported one, and it covers what was handed out. -/
structure Covered (initial : Nat) (driver : Driver X) : Prop where
  commit : driver.persisted.1.commit = reported initial (outputs driver.trace)
  bound : ∀ entry ∈ handed driver.trace, entry.index ≤ reported initial (outputs driver.trace)

/-- Raft's outputs follow its contract, and no light ready advances the commit index. -/
def Lawful (initial : Nat) (driver : Driver X) : Prop :=
  Obeys (ReportsCommit initial) (outputs driver.trace) ∧ ∀ event ∈ outputs driver.trace, event.lightCommit = false

/-- Under raft's contract the stored commit index stays ahead. -/
def Covers (initial : Nat) (before after : Driver X) : Prop :=
  outputs before.trace <+: outputs after.trace ∧
    (Lawful initial after → Covered initial before → Covered initial after)

/-- The outputs of a shorter run are lawful as well. -/
theorem Lawful.shrink {initial : Nat} {before after : Driver X} (lawful : Lawful initial after)
    (grows : outputs before.trace <+: outputs after.trace) : Lawful initial before :=
  ⟨lawful.1.shrink grows, fun event inside => lawful.2 event (grows.subset inside)⟩

instance coversPreorder (initial : Nat) : IsPreorder (Driver X) (Covers initial) where
  refl _ := ⟨List.prefix_rfl, fun _ => id⟩
  trans _ _ _ first second := ⟨first.1.trans second.1, fun lawful covered =>
    second.2 lawful (first.2 (lawful.shrink second.1) covered)⟩

/-- What is not a ready hands out nothing. -/
theorem Handles.covers {initial : Nat} {before after : Driver X} (handles : Handles before after) :
    Covers initial before after := by
  refine ⟨handles.outputs ▸ List.prefix_rfl, fun _ covered => ⟨?_, ?_⟩⟩
  · rw [persisted, handles.store, handles.outputs]
    exact covered.commit
  · rw [handed_outputs, handles.outputs, ← handed_outputs]
    exact covered.bound

/-- A processed ready keeps the stored commit index ahead. -/
theorem processReady_covers (laws : MemLaws X.mem) (initial : Nat) :
    Reaches (Covers initial) (processReady : Attempt (Driver X) RaftLoopError Unit) := by
  intro before _ after done
  obtain ⟨ready, light, listed, stored⟩ := processReady_hard laws done
  refine ⟨listed ▸ List.prefix_append _ _, fun lawful covered => ?_⟩
  obtain ⟨obeys, calm⟩ := lawful
  rw [listed, obeys_append, obeys_cons, obeys_cons, List.append_nil] at obeys
  obtain ⟨_, ⟨advance, first, carries⟩, ⟨_, second, _⟩, _⟩ := obeys
  have unchanged : light.commitIndex = none := by
    simpa [Effect.lightCommit] using calm (.light light) (by simp [listed])
  have middle : reported initial (outputs before.trace ++ [.ready ready]) =
      Effect.report (reported initial (outputs before.trace)) (.ready ready) := by
    rw [reported, List.foldl_append]
    rfl
  have commit : reported initial (outputs after.trace) =
      Effect.report (reported initial (outputs before.trace)) (.ready ready) := by
    rw [listed, ← middle, reported, reported, List.foldl_append, List.foldl_append]
    simp [Effect.report, unchanged]
  constructor
  · rw [stored carries, commit]
    cases carried : ready.hs with
    | none => simpa [Effect.report, carried] using covered.commit
    | some hs => simp [Effect.report, carried]
  · intro entry inside
    rw [commit]
    rw [handed_outputs, listed, handed_append, ← handed_outputs] at inside
    rcases List.mem_append.mp inside with old | new
    · have earlier := covered.bound entry old
      omega
    · rcases List.mem_append.mp (by simpa [handed] using new) with fromReady | fromLight
      · exact first entry fromReady
      · have later := second entry fromLight
        rw [middle] at later
        simpa [Effect.report, unchanged] using later

/-- Each run covers the handed entries. -/
theorem performAll_covers (laws : MemLaws X.mem) (initial : Nat) (actions : List Action) :
    Reaches (Covers initial) (performAll actions : Attempt (Driver X) RaftLoopError Unit) :=
  performAll_reaches (processReady_covers laws initial)
    (fun _ other driver => Handles.covers (perform_handles other driver)) actions

/-- While no light ready advances the commit index, the stored one covers every entry that was handed out. -/
theorem commit_covers_handed (laws : MemLaws X.mem) {start final : Driver X} {actions : List Action}
    (silent : start.trace = []) (done : performAll actions start = (.ok (), final))
    (contract : Obeys (ReportsCommit start.persisted.1.commit) (outputs final.trace))
    (calm : ∀ event ∈ outputs final.trace, event.lightCommit = false) :
    ∀ entry ∈ handed final.trace, entry.index ≤ final.persisted.1.commit := by
  have begins : Covered start.persisted.1.commit start := by
    constructor
    · rw [silent]
      rfl
    · rw [silent]
      simp [handed]
  have covers := (performAll_covers laws _ actions start () final done).2 ⟨contract, calm⟩ begins
  rw [covers.commit]
  exact covers.bound

/-- The second ready of this follower commits what the first one appended. -/
def coveredStart : Driver scripted := scriptedDriver
  (.begin .follower
    [{ Ready.default with hs := some ⟨1, 1, 0⟩, entries := [scriptedPut 1 1 0 "k" "v"] },
      { Ready.default with hs := some ⟨1, 1, 1⟩, committedEntries := [scriptedPut 1 1 0 "k" "v"] }] [] [])
  (.newWithDisk .new [])

/-- The commit index of the follower is stored with the ready that hands the entry out. -/
theorem commit_covers_handed_follower :
    handed (performAll [.ready, .ready] coveredStart).2.trace = [scriptedPut 1 1 0 "k" "v"] ∧
      ∀ entry ∈ handed (performAll [.ready, .ready] coveredStart).2.trace,
        entry.index ≤ (performAll [.ready, .ready] coveredStart).2.persisted.1.commit := by
  refine ⟨by decide +kernel, ?_⟩
  exact commit_covers_handed (MemStorage.laws _) rfl (Attempt.eq_ok (by decide +kernel)) (by decide +kernel)
    (by decide +kernel)

/-- This cluster of one node commits its put in the light ready. -/
def aloneRun : Except RaftLoopError Unit × Driver scripted :=
  performAll [.command (.rpc (.put "k" "v" 7)), .ready] <| scriptedDriver
    (.begin .leader
      [{ Ready.default with hs := some ⟨1, 1, 0⟩, entries := [scriptedPut 1 1 0 "k" "v"] }]
      [{ LightReady.default with commitIndex := some 1, committedEntries := [scriptedPut 1 1 0 "k" "v"] }] [])
    (.newWithDisk .new [])

/-- The put is applied and acknowledged while the stored commit index stays at zero. -/
theorem aloneRun_uncovered :
    aloneRun.1 = .ok () ∧ Obeys (ReportsCommit 0) (outputs aloneRun.2.trace) ∧
      ¬ (∀ entry ∈ handed aloneRun.2.trace, entry.index ≤ aloneRun.2.persisted.1.commit) ∧
      answered aloneRun.2.trace = [7] := by
  decide +kernel

end Driver

end RaftATui
