import RaftATui.Proof.Storage.AppendOverwrite
import RaftATui.Proof.Storage.Boot

namespace RaftATui
open Machinery
open DiskStorage

/-- These are the calls that change a storage between its readings by raft. -/
inductive Call where
  | append (entries : List Entry)
  | setHardstate (hs : HardState)
  | setConfState (cs : ConfState)
  | applySnapshot (snapshot : Snapshot)
  | compact (compactIndex : Nat)
  deriving DecidableEq, Repr

namespace Call

def perform : Call → Attempt DiskStorage RaftError Unit
  | .append entries => DiskStorage.append entries
  | .setHardstate hs => DiskStorage.setHardstate hs
  | .setConfState cs => DiskStorage.setConfState cs
  | .applySnapshot snapshot => DiskStorage.applySnapshot snapshot
  | .compact compactIndex => DiskStorage.compact compactIndex

/-- Raft appends behind the log, installs newer snapshots, and compacts stored indices only. -/
def Allowed (storage : DiskStorage) : Call → Prop
  | .append entries => Consecutive (storage.lastIndex + 1) entries
  | .applySnapshot snapshot => Newer storage snapshot
  | .compact compactIndex => compactIndex ≤ storage.lastIndex
  | .setHardstate _ | .setConfState _ => True

/-- A compaction below the log has nothing to remove. An index follows the index of an installed snapshot. -/
def Idle (storage : DiskStorage) : Call → Prop
  | .compact compactIndex => compactIndex < storage.logStart
  | .applySnapshot snapshot => snapshot.metadata.index + 1 < UInt64.size
  | _ => True

end Call

/-- The answers of a storage are consistent as raft requires. -/
structure Answers (storage : DiskStorage) : Prop where
  first : ∀ build, storage.firstIndex build = some storage.logStart
  range : storage.logStart ≤ storage.lastIndex + 1
  stored : ∀ encodedLen index, storage.logStart ≤ index → index ≤ storage.lastIndex →
    ∃ entry, entry.index = index ∧ storage.entries encodedLen index (index + 1) none = .ok [entry] ∧
      storage.term index = .ok entry.term
  base : ∃ term, storage.term (storage.logStart - 1) = .ok term
  compacted : ∀ index, index < storage.logStart - 1 → storage.term index = .error (.store .compacted)
  below : ∀ encodedLen low high maxSize, low < storage.logStart → low < high →
    storage.entries encodedLen low high maxSize = .error (.store .compacted)

/-- This is one call with the storage before and after it. -/
structure Step where
  before : DiskStorage
  call : Call
  after : DiskStorage

/-- After the step the answers are consistent, and a compaction did not move the last index back. -/
def Step.Meets (step : Step) : Prop :=
  Answers step.after ∧
    ∀ compactIndex, step.call = .compact compactIndex → step.before.lastIndex ≤ step.after.lastIndex

/-- These are the successful allowed calls that lead from one storage to another. -/
inductive Calls (start : DiskStorage) : List Step → DiskStorage → Prop
  | none : Calls start [] start
  | more (steps : List Step) (before after : DiskStorage) (call : Call) (earlier : Calls start steps before)
      (allowed : call.Allowed before) (done : call.perform before = (.ok (), after)) :
      Calls start (steps ++ [⟨before, call, after⟩]) after

/-- A new directory was initialized with a configuration. -/
structure Initialized (confState : ConfState) (storage : DiskStorage) : Prop where
  opened : ∃ faults, storage = (RaftStorage.initializeDisk confState (openDb Db.new faults)).2
  written : storage.db.metaTree.confstate = some confState

/-- The log holds each entry between the snapshot and its last index under the index of the entry. -/
structure Whole (root : Snapshot) (last : Nat) (storage : DiskStorage) : Prop where
  record : storage.db.snapshotsTree = some root
  addable : root.metadata.index + 1 < UInt64.size
  reaches : root.metadata.index ≤ last
  keys : ∀ key, key ∈ storage.db.entriesTree ↔ root.metadata.index < key ∧ key ≤ last
  own : ∀ key entry, storage.getEntry key = some entry → entry.index = key

namespace Whole

variable {root : Snapshot} {last : Nat} {storage next : DiskStorage}

/-- A whole log starts behind its root. -/
theorem logStart (whole : Whole root last storage) : storage.logStart = root.metadata.index + 1 :=
  logStart_of_snapshot whole.record

/-- A whole log reports its last index. -/
theorem lastIndex (whole : Whole root last storage) : storage.lastIndex = last := by
  by_cases filled : root.metadata.index < last
  · apply lastIndex_of_greatest ((whole.keys last).mpr ⟨filled, Nat.le_refl last⟩)
    exact fun key stored => ((whole.keys key).mp stored).2
  · have reaches := whole.reaches
    have empty : ∀ key, key ∉ storage.db.entriesTree := by
      intro key stored
      have bounds := (whole.keys key).mp stored
      omega
    rw [lastIndex_of_empty empty, whole.record]
    change root.metadata.index = last
    omega

/-- A whole log answers consistently. -/
theorem answers (whole : Whole root last storage) : Answers storage := by
  have first := whole.logStart
  have final := whole.lastIndex
  have latest : storage.getLatestSnapshot = some root := whole.record
  constructor
  case first =>
    intro build
    refine firstIndex_eq_iff.mpr fun snapshot stored => ?_
    obtain rfl := Option.some.inj (latest.symm.trans stored)
    exact whole.addable
  case range =>
    have reaches := whole.reaches
    omega
  case stored =>
    intro encodedLen index above below
    obtain ⟨entry, found⟩ := mem_iff_getEntry.mp ((whole.keys index).mpr ⟨by omega, by omega⟩)
    refine ⟨entry, whole.own index entry found, ?_, ?_⟩
    · rw [entries, Nat.add_sub_cancel_left]
      simp [entriesLoop, found]
    · have read := term_of_logStart_le above
      rw [found] at read
      exact read
  case base =>
    refine ⟨root.metadata.term, ?_⟩
    simp [term, latest, first]
  case compacted =>
    intro index below
    have under : index < root.metadata.index := by omega
    simp [term, latest, under, Nat.ne_of_lt under]
  case below =>
    intro encodedLen low high maxSize under filled
    have missing : storage.getEntry low = none := by
      apply OrderedTree.not_mem_iff_getElem?.mp
      intro stored
      have bounds := (whole.keys low).mp stored
      omega
    obtain ⟨count, length⟩ : ∃ count, high - low = count + 1 := ⟨high - low - 1, by omega⟩
    have covered : low ≤ root.metadata.index := by omega
    simp [entries, length, entriesLoop, missing, latest, covered]

/-- Records other than the log leave it whole. -/
theorem congr (whole : Whole root last storage) (record : next.db.snapshotsTree = storage.db.snapshotsTree)
    (entries : next.db.entriesTree = storage.db.entriesTree) : Whole root last next where
  record := record.trans whole.record
  addable := whole.addable
  reaches := whole.reaches
  keys key := by rw [entries]; exact whole.keys key
  own key entry found := whole.own key entry (by rw [getEntry, ← entries]; exact found)

/-- A batch behind a whole log is appended to it. -/
theorem append {batch : List Entry} (whole : Whole root last storage) (behind : Consecutive (last + 1) batch)
    (success : DiskStorage.append batch storage = (.ok (), next)) :
    Whole root (last + batch.length) next := by
  have lookup := append_getEntry behind success
  have reaches := whole.reaches
  constructor
  case record => exact (append_snapshotsTree success).trans whole.record
  case addable => exact whole.addable
  case reaches => omega
  case keys =>
    intro key
    rw [mem_iff_getEntry, lookup]
    by_cases inside : last + 1 ≤ key ∧ key < last + 1 + batch.length
    · rw [if_pos inside, List.getElem?_eq_getElem (by omega)]
      exact ⟨fun _ => by omega, fun _ => ⟨_, rfl⟩⟩
    · rw [if_neg inside, ← mem_iff_getEntry, whole.keys]
      omega
  case own =>
    intro key entry found
    rw [lookup] at found
    by_cases inside : last + 1 ≤ key ∧ key < last + 1 + batch.length
    · rw [if_pos inside] at found
      obtain ⟨bound, same⟩ := List.getElem?_eq_some_iff.mp found
      have place := behind.getElem _ bound
      rw [same] at place
      omega
    · rw [if_neg inside] at found
      exact whole.own key entry found

/-- A newer snapshot becomes the root of a whole log. -/
theorem applySnapshot {snapshot : Snapshot} (whole : Whole root last storage)
    (newer : root.metadata.index < snapshot.metadata.index) (addable : snapshot.metadata.index + 1 < UInt64.size)
    (success : DiskStorage.applySnapshot snapshot storage = (.ok (), next)) :
    Whole snapshot (max last snapshot.metadata.index) next := by
  have lookup := applySnapshot_getEntry success
  constructor
  case record => exact applySnapshot_snapshotsTree success
  case addable => exact addable
  case reaches => omega
  case keys =>
    intro key
    rw [mem_iff_getEntry, lookup]
    by_cases covered : key ≤ snapshot.metadata.index
    · rw [if_pos covered]
      constructor
      · intro ⟨_, found⟩
        cases found
      · omega
    · rw [if_neg covered, ← mem_iff_getEntry, whole.keys]
      omega
  case own =>
    intro key entry found
    rw [lookup] at found
    split at found
    · cases found
    · exact whole.own key entry found

/-- A compaction removes exactly the entries up to its index. -/
theorem compact_getEntry {compactIndex : Nat}
    (success : DiskStorage.compact compactIndex storage = (.ok (), next)) (key : Nat) :
    next.getEntry key = if key ≤ compactIndex then none else storage.getEntry key := by
  rw [compact_eq_script] at success
  rw [getEntry, (script_ok success).1, compactOps, Db.replay_append, Db.replay_append, replay_scan]
  exact getElem?_replay_removeOps storage.db compactIndex key

/-- A compact keeps the snapshot record. -/
theorem compact_snapshotsTree {compactIndex : Nat}
    (success : DiskStorage.compact compactIndex storage = (.ok (), next)) :
    next.db.snapshotsTree = storage.db.snapshotsTree := by
  rw [compact_eq_script] at success
  rw [(script_ok success).1, compactOps, Db.replay_append, Db.replay_append, replay_scan]
  exact replay_removes_snapshotsTree storage.db _

/-- A compaction below the first index changes no answer. -/
theorem compact {compactIndex : Nat} (whole : Whole root last storage)
    (idle : compactIndex < storage.logStart)
    (success : DiskStorage.compact compactIndex storage = (.ok (), next)) : Whole root last next := by
  rw [whole.logStart] at idle
  have lookup := compact_getEntry success
  constructor
  case record => exact (compact_snapshotsTree success).trans whole.record
  case addable => exact whole.addable
  case reaches => exact whole.reaches
  case keys =>
    intro key
    rw [mem_iff_getEntry, lookup]
    by_cases below : key ≤ compactIndex
    · rw [if_pos below]
      constructor
      · intro ⟨_, found⟩
        cases found
      · omega
    · rw [if_neg below, ← mem_iff_getEntry, whole.keys]
  case own =>
    intro key entry found
    rw [lookup] at found
    split at found
    · cases found
    · exact whole.own key entry found

/-- A compaction that reaches the log leaves a silent gap behind or moves the last index back. -/
theorem compact_gap {compactIndex : Nat} (whole : Whole root last storage)
    (reaches : storage.logStart ≤ compactIndex) (inside : compactIndex ≤ storage.lastIndex)
    (success : DiskStorage.compact compactIndex storage = (.ok (), next)) (answers : Answers next) :
    next.lastIndex < storage.lastIndex := by
  by_contra kept
  have record := (compact_snapshotsTree success).trans whole.record
  have first : next.logStart = storage.logStart := by
    rw [logStart_of_snapshot record, whole.logStart]
  obtain ⟨entry, _, read, _⟩ := answers.stored (fun _ => 0) storage.logStart (by omega) (by omega)
  have missing : next.getEntry storage.logStart = none := by
    rw [compact_getEntry success, if_pos reaches]
  have latest : next.getLatestSnapshot = some root := record
  have above : ¬ storage.logStart ≤ root.metadata.index := by
    rw [whole.logStart]
    omega
  simp [entries, entriesLoop, missing, latest, above] at read

end Whole

/-- A directory that was initialized holds the first snapshot, an empty log, and no hard state. -/
theorem Initialized.core {confState : ConfState} {storage : DiskStorage}
    (initialized : Initialized confState storage) :
    storage.db.core = (∅, some ⟨[], ⟨confState, 0, 0⟩⟩, none) := by
  obtain ⟨faults, opened⟩ := initialized.opened
  obtain ⟨done, initial, content, _⟩ := RaftStorage.initializeDisk_db confState (openDb Db.new faults)
  rw [← opened] at content
  have written := initialized.written
  rw [content] at written
  match done with
  | [] => cases written
  | [first] =>
      rw [(List.cons_prefix_cons.mp initial).1] at written
      cases written
  | first :: second :: flushes =>
      obtain ⟨recorded, initial⟩ := List.cons_prefix_cons.mp initial
      obtain ⟨configured, initial⟩ := List.cons_prefix_cons.mp initial
      have marks : ∀ op ∈ flushes, op.marks = true := by
        intro op inside
        have listed : op ∈ [SledOp.flush .snapshotsTree, .flush .metaTree, .flush .entriesTree] :=
          initial.subset inside
        simp only [List.mem_cons, List.not_mem_nil, or_false] at listed
        rcases listed with rfl | rfl | rfl <;> rfl
      rw [content, recorded, configured, Db.replay_cons, Db.replay_cons, Db.core_replay marks]
      rfl

/-- A new directory holds a whole empty log. -/
theorem Initialized.whole {confState : ConfState} {storage : DiskStorage}
    (initialized : Initialized confState storage) :
    Whole ⟨[], ⟨confState, 0, 0⟩⟩ 0 storage := by
  have core := initialized.core
  simp only [Db.core, Prod.mk.injEq] at core
  obtain ⟨entries, record, _⟩ := core
  refine ⟨record, show 0 + 1 < UInt64.size by decide, Nat.le_refl 0, fun key => ?_, fun key entry found => ?_⟩
  · rw [entries]
    constructor
    · intro stored
      exact absurd stored Std.ExtTreeMap.not_mem_empty
    · intro bounds
      exact absurd bounds.2 (Nat.not_le.mpr bounds.1)
  · rw [getEntry, entries] at found
    cases found

namespace Whole

variable {root : Snapshot} {last : Nat} {storage next : DiskStorage}

/-- An idle call keeps the log whole. -/
theorem perform {call : Call} (whole : Whole root last storage) (allowed : call.Allowed storage)
    (idle : call.Idle storage) (success : call.perform storage = (.ok (), next)) :
    ∃ root last, Whole root last next := by
  cases call with
  | append entries =>
      rw [Call.Allowed, whole.lastIndex] at allowed
      exact ⟨_, _, whole.append allowed success⟩
  | setHardstate hs =>
      rw [Call.perform, setHardstate_eq_script] at success
      have stored := (script_ok success).1
      exact ⟨root, last, whole.congr (by rw [stored]; rfl) (by rw [stored]; rfl)⟩
  | setConfState cs =>
      rw [Call.perform, setConfState_eq_script] at success
      have stored := (script_ok success).1
      exact ⟨root, last, whole.congr (by rw [stored]; rfl) (by rw [stored]; rfl)⟩
  | applySnapshot snapshot => exact ⟨_, _, whole.applySnapshot (allowed root whole.record) idle success⟩
  | compact compactIndex => exact ⟨root, last, whole.compact idle success⟩

/-- An idle call meets the contract. -/
theorem meets {call : Call} (whole : Whole root last storage) (allowed : call.Allowed storage)
    (idle : call.Idle storage) (success : call.perform storage = (.ok (), next)) :
    (Step.mk storage call next).Meets := by
  obtain ⟨_, _, later⟩ := whole.perform allowed idle success
  refine ⟨later.answers, fun compactIndex same => ?_⟩
  cases same
  rw [whole.lastIndex, (whole.compact idle success).lastIndex]

/-- Only an idle call meets the contract. -/
theorem idle_of_meets {call : Call} (whole : Whole root last storage) (allowed : call.Allowed storage)
    (success : call.perform storage = (.ok (), next)) (meets : (Step.mk storage call next).Meets) :
    call.Idle storage := by
  cases call with
  | compact compactIndex =>
      by_contra reaches
      have gap := whole.compact_gap (Nat.le_of_not_lt reaches) allowed success meets.1
      exact absurd (meets.2 compactIndex rfl) (Nat.not_le.mpr gap)
  | applySnapshot snapshot =>
      exact firstIndex_eq_iff.mp (meets.1.first .debug) snapshot (applySnapshot_snapshotsTree success)
  | _ => trivial

end Whole

variable {start final : DiskStorage} {steps : List Step}

/-- While all calls are idle the log stays whole and each step meets the contract. -/
theorem Calls.whole (calls : Calls start steps final) {root : Snapshot} {last : Nat}
    (whole : Whole root last start) (idle : ∀ step ∈ steps, step.call.Idle step.before) :
    (∃ root last, Whole root last final) ∧ ∀ step ∈ steps, step.Meets := by
  induction calls with
  | none => exact ⟨⟨root, last, whole⟩, by simp⟩
  | more steps before after call earlier allowed done ih =>
      rw [List.forall_mem_append, List.forall_mem_singleton] at idle ⊢
      obtain ⟨⟨_, _, middle⟩, met⟩ := ih idle.1
      exact ⟨middle.perform allowed idle.2 done, met, middle.meets allowed idle.2 done⟩

/-- From an initialized directory on, all answers are consistent exactly while no compaction reaches the log
and an index follows each installed snapshot. -/
theorem answers_iff_idle {confState : ConfState} (initialized : Initialized confState start)
    (calls : Calls start steps final) :
    Answers start ∧ ((∀ step ∈ steps, step.Meets) ↔ ∀ step ∈ steps, step.call.Idle step.before) := by
  have whole := initialized.whole
  refine ⟨whole.answers, fun meets => ?_, fun idle => (calls.whole whole idle).2⟩
  induction calls with
  | none => simp
  | more steps before after call earlier allowed done ih =>
      rw [List.forall_mem_append, List.forall_mem_singleton] at meets ⊢
      have idle := ih meets.1
      obtain ⟨⟨_, _, middle⟩, _⟩ := earlier.whole whole idle
      exact ⟨idle, middle.idle_of_meets allowed done meets.2⟩

/-- This directory was initialized with one voter. -/
def oneVoter : DiskStorage := (RaftStorage.initializeDisk { voters := [1] } (openDb Db.new [])).2

/-- The directory of the example is new. -/
theorem oneVoter_initialized : Initialized { voters := [1] } oneVoter := ⟨⟨[], rfl⟩, rfl⟩

/-- This storage holds three entries behind the first snapshot. -/
def threeStored : DiskStorage :=
  ((Call.append [plainEntry 1 1, plainEntry 1 2, plainEntry 1 3]).perform oneVoter).2

/-- The directory of the example takes three entries. -/
theorem threeStored_calls : Calls oneVoter
    [⟨oneVoter, .append [plainEntry 1 1, plainEntry 1 2, plainEntry 1 3], threeStored⟩] threeStored :=
  .more [] oneVoter threeStored _ .none (by unfold Call.Allowed; decide) rfl

/-- These are the steps of a run with one compaction. -/
def compactSteps (compactIndex : Nat) : List Step :=
  [⟨oneVoter, .append [plainEntry 1 1, plainEntry 1 2, plainEntry 1 3], threeStored⟩,
    ⟨threeStored, .compact compactIndex, ((Call.compact compactIndex).perform threeStored).2⟩]

/-- A compaction of nothing keeps the contract. -/
theorem answers_iff_idle_nothing :
    Answers oneVoter ∧ ∀ step ∈ compactSteps 0, step.Meets := by
  have calls := Calls.more _ _ ((Call.compact 0).perform threeStored).2 (.compact 0) threeStored_calls
    (by unfold Call.Allowed; decide) rfl
  obtain ⟨begins, contract⟩ := answers_iff_idle oneVoter_initialized calls
  refine ⟨begins, contract.mpr ?_⟩
  intro step inside
  rcases List.mem_append.mp inside with earlier | last
  · rw [List.mem_singleton.mp earlier]
    trivial
  · rw [List.mem_singleton.mp last]
    unfold Call.Idle
    decide

/-- After a compaction the first index is still one, and the read of its entry silently finds nothing. -/
theorem compact_leaves_gap :
    Initialized { voters := [1] } oneVoter ∧
      Calls oneVoter (compactSteps 2) ((Call.compact 2).perform threeStored).2 ∧
      ((Call.compact 2).perform threeStored).2.firstIndex .debug = some 1 ∧
      ((Call.compact 2).perform threeStored).2.lastIndex = 3 ∧
      ((Call.compact 2).perform threeStored).2.entries (fun _ => 0) 1 2 none = .ok [] ∧
      ¬ Answers ((Call.compact 2).perform threeStored).2 := by
  have empty : ((Call.compact 2).perform threeStored).2.entries (fun _ => 0) 1 2 none = .ok [] := by decide
  refine ⟨oneVoter_initialized, ?_, by decide, by decide, empty, ?_⟩
  · exact .more _ _ _ _ threeStored_calls (by unfold Call.Allowed; decide) rfl
  · intro answers
    obtain ⟨entry, _, read, _⟩ := answers.stored (fun _ => 0) 1 (by decide) (by decide)
    rw [empty] at read
    cases read

end RaftATui
