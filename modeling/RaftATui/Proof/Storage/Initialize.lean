import RaftATui.Proof.Storage.Applied
import RaftATui.Proof.Storage.Boot

namespace RaftATui
open Machinery
open Attempt (Fixes Within)
open Machinery.Crash (Throughout throughout_of_kept)

/-- This is the dummy snapshot that carries the first configuration to the disk. -/
def dummySnapshot (confState : ConfState) : Snapshot := ⟨[], ⟨confState, 0, 0⟩⟩

namespace Db

/-- The dummy snapshot replaces nothing. The stored one is as empty, or none is stored and the log starts at one. -/
def Bare (db : Db) : Prop :=
  match db.snapshotsTree with
  | some snapshot => snapshot.data = [] ∧ snapshot.metadata.index = 0 ∧ snapshot.metadata.term = 0
  | none => db.logStart = 1

/-- The install of the dummy snapshot has stopped somewhere. -/
structure Initializing (confState : ConfState) (before later : Db) : Prop where
  entries : ∀ index, later.entriesTree[index]? = before.entriesTree[index]? ∨
    (index = 0 ∧ later.entriesTree[index]? = none)
  hard : later.metaTree.hardstate = before.metaTree.hardstate
  applied : later.metaTree.appliedIndex = before.metaTree.appliedIndex
  record : later.snapshotsTree = before.snapshotsTree ∨ later.snapshotsTree = some (dummySnapshot confState)
  configuration : later.metaTree.confstate = before.metaTree.confstate ∨
    later.metaTree.confstate = some confState

variable {confState : ConfState} {before later db : Db}

/-- The directory itself is the first stage. -/
theorem initializing_start : Initializing confState db db :=
  ⟨fun _ => Or.inl rfl, rfl, rfl, Or.inl rfl, Or.inl rfl⟩

/-- Every part of the install keeps the entries above index zero, the hard state and the applied index. -/
theorem initializing_throughout (confState : ConfState) (db : Db) :
    Throughout Db.run (Initializing confState db) db
      (DiskStorage.snapshotOps (dummySnapshot confState) db.entriesTree.keys) := by
  refine throughout_of_kept initializing_start (DiskStorage.forall_snapshotOps ?_ ?_ ?_ ?_ ?_)
  · intro later stages
    exact { stages with record := Or.inr rfl }
  · intro later stages
    exact { stages with configuration := Or.inr rfl }
  · intro later stages
    exact stages
  · intro key _ covered later stages
    have first : key = 0 := Nat.le_zero.mp covered
    subst first
    refine { stages with entries := fun index => ?_ }
    have lookup : (later.run (.removeEntry 0)).entriesTree[index]? =
        if 0 = index then none else later.entriesTree[index]? := OrderedTree.getElem?_erase 0 index
    rw [lookup]
    by_cases here : 0 = index
    · rw [if_pos here]
      exact Or.inr ⟨here.symm, rfl⟩
    · rw [if_neg here]
      exact stages.entries index
  · intro tree later stages
    exact stages

/-- The log of a bare directory begins at one, which no addition overflows. -/
theorem Bare.firstIndex {storage : DiskStorage} (bare : storage.db.Bare) (build : Build) :
    storage.firstIndex build = some 1 := by
  unfold Bare at bare
  cases record : storage.db.snapshotsTree with
  | none =>
      rw [record] at bare
      have begins : storage.logStart = 1 := bare
      have found : storage.firstIndex build = some storage.logStart := by
        refine DiskStorage.firstIndex_eq_iff.mpr fun snapshot stored => ?_
        cases record.symm.trans stored
      rw [found, begins]
  | some snapshot =>
      rw [record] at bare
      rw [DiskStorage.firstIndex_of_snapshot record, bare.2.1]
      exact Build.succ_eq_some_iff.mpr (by decide)

/-- Below a bare log nothing is stored, so it ends at its greatest entry or at zero. -/
theorem Bare.lastIndex (bare : db.Bare) {last : Nat} (bound : ∀ key ∈ db.entriesTree, key ≤ last)
    (reached : last ∈ db.entriesTree ∨ last = 0) : db.lastIndex = last := by
  rcases reached with stored | rfl
  · exact DiskStorage.lastIndex_of_greatest stored bound
  by_cases stored : ∃ key, key ∈ db.entriesTree
  · obtain ⟨key, stored⟩ := stored
    exact Nat.le_zero.mp (bound _ (lastIndex_mem stored))
  · have empty : db.lastIndex = (db.snapshotsTree.map fun snapshot => snapshot.metadata.index).getD 0 :=
      DiskStorage.lastIndex_of_empty (not_exists.mp stored)
    rw [empty]
    unfold Bare at bare
    cases record : db.snapshotsTree with
    | none => rfl
    | some snapshot =>
        rw [record] at bare
        exact bare.2.1

/-- A log without a snapshot that starts at one has no entry at zero. -/
theorem not_mem_zero (missing : db.snapshotsTree = none) (first : db.logStart = 1) : 0 ∉ db.entriesTree := by
  intro stored
  cases begins : db.entriesTree.keys.head? with
  | none =>
      rw [List.head?_eq_none_iff, OrderedTree.keys_eq_nil] at begins
      exact begins 0 stored
  | some key =>
      have least := (OrderedTree.head?_keys_eq_some.mp begins).2 0 stored
      have place : db.logStart = key := by
        simp [Db.logStart, DiskStorage.logStart, DiskStorage.getLatestSnapshot, DiskStorage.openDb,
          missing, begins]
      omega

/-- A directory stays bare throughout the install. -/
theorem Initializing.bare (stages : Initializing confState before later) (bare : before.Bare) : later.Bare := by
  unfold Bare at bare ⊢
  rcases stages.record with kept | replaced
  · rw [kept]
    cases record : before.snapshotsTree with
    | some snapshot =>
        rw [record] at bare
        exact bare
    | none =>
        rw [record] at bare
        have absent := OrderedTree.not_mem_iff_getElem?.mp (not_mem_zero record bare)
        have entries : later.entriesTree = before.entriesTree := by
          apply Std.ExtTreeMap.ext_getElem?
          intro index
          rcases stages.entries index with same | ⟨rfl, gone⟩
          · exact same
          · rw [gone, absent]
        have same : later.core = before.core := by
          simp only [core, entries, kept, stages.hard]
        exact (logStart_congr same).trans bare
  · rw [replaced]
    exact ⟨rfl, rfl, rfl⟩

/-- The stages of a bare directory keep its last index. -/
theorem Initializing.lastIndex (stages : Initializing confState before later) (bare : before.Bare) :
    later.lastIndex = before.lastIndex := by
  apply (stages.bare bare).lastIndex
  · intro key stored
    obtain ⟨entry, found⟩ := OrderedTree.mem_iff_getElem?.mp stored
    rcases stages.entries key with same | ⟨rfl, gone⟩
    · rw [same] at found
      exact le_lastIndex (OrderedTree.mem_iff_getElem?.mpr ⟨entry, found⟩)
    · exact Nat.zero_le _
  · rcases Nat.eq_zero_or_pos before.lastIndex with zero | positive
    · exact Or.inr zero
    · refine Or.inl ?_
      have stored : before.lastIndex ∈ before.entriesTree := by
        by_contra missing
        have empty : ∀ key, key ∉ before.entriesTree := fun key stored => missing (lastIndex_mem stored)
        have zero := bare.lastIndex (fun key stored => absurd stored (empty key)) (Or.inr rfl)
        omega
      obtain ⟨entry, found⟩ := OrderedTree.mem_iff_getElem?.mp stored
      rcases stages.entries before.lastIndex with same | ⟨zero, _⟩
      · exact OrderedTree.mem_iff_getElem?.mpr ⟨entry, same.trans found⟩
      · omega

end Db

namespace RaftStorage

/-- This is the disk backend after `initialize_with_conf_state`. -/
def initialized (confState : ConfState) (storage : DiskStorage) : DiskStorage :=
  (initializeDisk confState storage).2

/-- A start leaves what is stored as it was. It writes a configuration only over one without voters. -/
structure Undisturbed (confState : ConfState) (before after : DiskStorage) : Prop where
  entries : ∀ index, 0 < index → after.getEntry index = before.getEntry index
  snapshot : ∀ stored, before.getLatestSnapshot = some stored → ∃ kept, after.getLatestSnapshot = some kept ∧
    kept.data = stored.data ∧ kept.metadata.index = stored.metadata.index ∧
    kept.metadata.term = stored.metadata.term
  firstIndex : ∀ build, after.firstIndex build = before.firstIndex build
  lastIndex : after.lastIndex = before.lastIndex
  hardState : after.initialState.1 = before.initialState.1
  appliedIndex : after.appliedIndex = before.appliedIndex
  reloaded : after.db.metaTree.appliedIndex = before.db.metaTree.appliedIndex
  confState : after.initialState.2 = before.initialState.2 ∨
    (before.initialState.2.voters = [] ∧ after.initialState.2 = confState)

/-- A start disturbs nothing wherever its writes fail. A complete one writes the missing configuration,
and the starts behind it change nothing. -/
structure InitializesSafely (confState : ConfState) (storage : DiskStorage) : Prop where
  undisturbed : ∀ faults, Undisturbed confState storage (initialized confState { storage with faults })
  written : storage.initialState.2.voters = [] →
    (initialized confState { storage with faults := [] }).initialState.2 = confState
  again : ∀ other faults,
    initialized other { initialized confState { storage with faults := [] } with faults } =
      { initialized confState { storage with faults := [] } with faults }

variable {confState : ConfState} {storage : DiskStorage}

/-- A directory with voters is left alone. -/
theorem initialized_of_voters (voters : storage.initialState.2.voters ≠ []) :
    initialized confState storage = storage := congrArg Prod.snd (initializeDisk_of_voters voters)

/-- A directory without voters gets the dummy snapshot. -/
theorem initialized_of_empty (empty : storage.initialState.2.voters = []) :
    initialized confState storage = (DiskStorage.applySnapshot (dummySnapshot confState) storage).2 := by
  rw [initialized, initializeDisk_of_empty empty]
  rfl

/-- Without failures the dummy snapshot and the configuration are on the disk. -/
theorem initialized_complete (empty : storage.initialState.2.voters = []) (calm : storage.faults = []) :
    (initialized confState storage).db.snapshotsTree = some (dummySnapshot confState) ∧
      (initialized confState storage).db.metaTree.confstate = some confState := by
  rw [initialized_of_empty empty]
  rcases run : DiskStorage.applySnapshot (dummySnapshot confState) storage with ⟨error | _, next⟩
  · rw [DiskStorage.applySnapshot_eq_script] at run
    have fault := (DiskStorage.script_error (congrArg Prod.fst run)).1
    rw [calm] at fault
    cases fault
  · have configured := congrArg MetaTree.confstate (DiskStorage.applySnapshot_metaTree run)
    exact ⟨DiskStorage.applySnapshot_snapshotsTree run, configured⟩

/-- The start keeps the applied index. -/
theorem initialized_appliedIndex (confState : ConfState) (storage : DiskStorage) :
    (initialized confState storage).appliedIndex = storage.appliedIndex := by
  by_cases empty : storage.initialState.2.voters = []
  · rw [initialized_of_empty empty, DiskStorage.applySnapshot_eq_script]
    exact DiskStorage.script_applied _ storage
  · rw [initialized_of_voters empty]

/-- A start stops somewhere in the install of the dummy snapshot. -/
theorem initialized_stages (confState : ConfState) (storage : DiskStorage) :
    storage.db.Initializing confState (initialized confState storage).db := by
  obtain ⟨done, initial, content, _⟩ := initializeDisk_db confState storage
  have stages := Db.initializing_throughout confState storage.db done initial
  rw [← Db.replay, ← content] at stages
  exact stages

/-- A directory that is left alone is undisturbed. -/
theorem undisturbed_self (confState : ConfState) (storage : DiskStorage) (faults : List Bool) :
    Undisturbed confState storage { storage with faults } where
  entries _ _ := rfl
  snapshot stored record := ⟨stored, record, rfl, rfl, rfl⟩
  firstIndex _ := rfl
  lastIndex := rfl
  hardState := rfl
  appliedIndex := rfl
  reloaded := rfl
  confState := Or.inl rfl

/-- A bare directory without voters survives every part of a start. -/
theorem undisturbed_of_bare (empty : storage.initialState.2.voters = []) (bare : storage.db.Bare)
    (faults : List Bool) : Undisturbed confState storage (initialized confState { storage with faults }) := by
  have stages := initialized_stages confState { storage with faults }
  have applied := initialized_appliedIndex confState { storage with faults }
  refine ⟨?_, ?_, fun build => ?_, stages.lastIndex bare, ?_, applied, stages.applied, ?_⟩
  · intro index positive
    rcases stages.entries index with same | ⟨zero, _⟩
    · exact same
    · omega
  · intro stored record
    rcases stages.record with same | replaced
    · exact ⟨stored, same.trans record, rfl, rfl, rfl⟩
    · have found : storage.db.snapshotsTree = some stored := record
      unfold Db.Bare at bare
      rw [found] at bare
      exact ⟨_, replaced, bare.1.symm, bare.2.1.symm, bare.2.2.symm⟩
  · exact ((stages.bare bare).firstIndex build).trans (bare.firstIndex build).symm
  · simp only [DiskStorage.initialState, stages.hard]
  · rcases stages.configuration with same | replaced
    · exact Or.inl (by simp only [DiskStorage.initialState, same])
    · exact Or.inr ⟨empty, by simp only [DiskStorage.initialState, replaced, Option.getD_some]⟩

/-- The start writes the given configuration. -/
theorem written_of_empty (empty : storage.initialState.2.voters = []) (calm : storage.faults = []) :
    (initialized confState storage).initialState.2 = confState := by
  simp only [DiskStorage.initialState, (initialized_complete empty calm).2, Option.getD_some]

/-- A directory with voters is initialized safely. -/
theorem initializesSafely_of_voters (voters : storage.initialState.2.voters ≠ []) :
    InitializesSafely confState storage := by
  have kept (faults : List Bool) : initialized confState { storage with faults } = { storage with faults } :=
    initialized_of_voters voters
  refine ⟨fun faults => ?_, fun empty => absurd empty voters, fun other faults => ?_⟩
  · rw [kept]
    exact undisturbed_self confState storage faults
  · rw [kept]
    exact initialized_of_voters voters

/-- A bare directory is initialized safely with some voters. -/
theorem initializesSafely_of_bare (empty : storage.initialState.2.voters = []) (brings : confState.voters ≠ [])
    (bare : storage.db.Bare) : InitializesSafely confState storage := by
  have first := @written_of_empty confState { storage with faults := [] } empty rfl
  refine ⟨undisturbed_of_bare empty bare, fun _ => first, fun other faults => ?_⟩
  apply initialized_of_voters
  change (initialized confState { storage with faults := [] }).initialState.2.voters ≠ []
  rw [first]
  exact brings

/-- A second start with voters replaces a configuration without voters, so a safe first start brings voters. -/
theorem InitializesSafely.brings (safe : InitializesSafely confState storage)
    (empty : storage.initialState.2.voters = []) : confState.voters ≠ [] := by
  intro none
  have first := safe.written empty
  have second := safe.again { voters := [1] } []
  have unset : (initialized confState { storage with faults := [] }).initialState.2.voters = [] := by
    rw [first, none]
  have changed := @written_of_empty { voters := [1] }
    { initialized confState { storage with faults := [] } with faults := [] } unset rfl
  rw [second] at changed
  have filled : confState = { voters := [1] } := first.symm.trans changed
  rw [filled] at none
  cases none

/-- The dummy snapshot of a complete start replaces what a directory stored that is not bare. -/
theorem InitializesSafely.bare (safe : InitializesSafely confState storage)
    (empty : storage.initialState.2.voters = []) : storage.db.Bare := by
  have undisturbed := safe.undisturbed []
  have replaced := (@initialized_complete confState { storage with faults := [] } empty rfl).1
  unfold Db.Bare
  cases record : storage.db.snapshotsTree with
  | none =>
      have first := undisturbed.firstIndex .release
      have begins : storage.firstIndex .release = some storage.logStart := by
        refine DiskStorage.firstIndex_eq_iff.mpr fun snapshot stored => ?_
        cases record.symm.trans stored
      rw [DiskStorage.firstIndex_of_snapshot replaced, begins] at first
      exact (Option.some.inj first).symm
  | some snapshot =>
      obtain ⟨kept, stored, data, index, term⟩ := undisturbed.snapshot snapshot record
      obtain rfl := Option.some.inj (replaced.symm.trans stored)
      exact ⟨data.symm, index.symm, term.symm⟩

/-- A start is safe exactly on a directory with voters, or on a bare one when it brings voters. -/
theorem initialize_safe_iff (confState : ConfState) (storage : DiskStorage) :
    InitializesSafely confState storage ↔
      storage.initialState.2.voters ≠ [] ∨ (confState.voters ≠ [] ∧ storage.db.Bare) := by
  by_cases empty : storage.initialState.2.voters = []
  · constructor
    · exact fun safe => Or.inr ⟨safe.brings empty, safe.bare empty⟩
    · rintro (voters | ⟨brings, bare⟩)
      · exact absurd empty voters
      · exact initializesSafely_of_bare empty brings bare
  · exact ⟨fun _ => Or.inl empty, fun _ => initializesSafely_of_voters empty⟩

/-- A snapshot without voters is installed on this new directory. -/
def installedWithoutVoters : DiskStorage :=
  .openDb (Db.new.replay (DiskStorage.snapshotOps ⟨[1], ⟨.default, 50, 3⟩⟩ [])) []

/-- A crash followed the first write of an install on this new directory. -/
def installCutOff : DiskStorage :=
  .openDb (Db.new.replay ((DiskStorage.snapshotOps ⟨[1], ⟨{ voters := [1, 2, 3] }, 50, 3⟩⟩ []).take 1)) []

/-- A start puts the dummy snapshot over the stored one and moves both ends of the log. -/
theorem initialize_loses_snapshot :
    (¬ InitializesSafely { voters := [1, 2, 3] } installedWithoutVoters ∧
      installedWithoutVoters.getLatestSnapshot = some ⟨[1], ⟨.default, 50, 3⟩⟩ ∧
      (initialized { voters := [1, 2, 3] } installedWithoutVoters).getLatestSnapshot =
        some (dummySnapshot { voters := [1, 2, 3] }) ∧
      (installedWithoutVoters.firstIndex .release, installedWithoutVoters.lastIndex) = (some 51, 50) ∧
      ((initialized { voters := [1, 2, 3] } installedWithoutVoters).firstIndex .release,
        (initialized { voters := [1, 2, 3] } installedWithoutVoters).lastIndex) = (some 1, 0)) ∧
    ¬ InitializesSafely { voters := [1, 2, 3] } installCutOff ∧
      (installCutOff.firstIndex .release, installCutOff.lastIndex) = (some 51, 50) ∧
      ((initialized { voters := [1, 2, 3] } installCutOff).firstIndex .release,
        (initialized { voters := [1, 2, 3] } installCutOff).lastIndex) = (some 1, 0) := by
  refine ⟨⟨fun safe => ?_, rfl, rfl, rfl, rfl⟩, fun safe => ?_, rfl, rfl⟩
  · exact absurd (safe.bare rfl).2.1 (by decide)
  · exact absurd (safe.bare rfl).2.1 (by decide)

end RaftStorage

end RaftATui
