import RaftATui.Construction.Protobuf
import RaftATui.Proof.Storage.MemLog
import RaftATui.Proof.Storage.Persisted

namespace RaftATui
open Machinery
open DiskStorage

/-- A range without a hole is read up to the limit. -/
theorem DiskStorage.entriesLoop_stored {encodedLen : Entry → Nat} {storage : DiskStorage} {maxSize : Nat}
    {found : List Entry} (sized : ∀ entry ∈ found, encodedLen entry ≠ 0) {index total : Nat} {before : List Entry}
    (stored : ∀ position (inside : position < found.length),
      storage.getEntry (index + position) = some found[position])
    (begins : total = 0 ↔ before = []) :
    entriesLoop encodedLen storage maxSize found.length index total before =
      .ok (before ++ MemStorage.limitSize encodedLen maxSize total found) := by
  induction found generalizing index total before with
  | nil => rw [List.length_nil, entriesLoop, MemStorage.limitSize, List.append_nil]
  | cons entry rest ih =>
      have here : storage.getEntry index = some entry := stored 0 (Nat.succ_pos _)
      rw [List.length_cons, entriesLoop, here, MemStorage.limitSize]
      simp only
      -- The disk tests for a first entry by the list, and the memory tests for it by the size.
      by_cases heavy : total + encodedLen entry > maxSize ∧ before ≠ []
      · rw [if_pos heavy, if_pos ⟨fun empty => heavy.2 (begins.mp empty), heavy.1⟩, List.append_nil]
      · have admitted : ¬ (total ≠ 0 ∧ maxSize < total + encodedLen entry) :=
          fun both => heavy ⟨both.2, fun empty => both.1 (begins.mpr empty)⟩
        have positive := sized entry List.mem_cons_self
        rw [if_neg heavy, if_neg admitted, ih (fun later inside => sized later (List.mem_cons_of_mem entry inside)),
          List.append_assoc, List.singleton_append]
        · intro position inside
          have later := stored (position + 1) (Nat.succ_lt_succ inside)
          rw [List.getElem_cons_succ] at later
          rw [← later]
          congr 1
          omega
        · simp [positive]

/-- The disk holds a log from index one on, behind a snapshot at index zero. -/
structure DiskLog (log : List Entry) (storage : DiskStorage) : Prop where
  consecutive : Consecutive 1 log
  record : ∃ root, storage.db.snapshotsTree = some root ∧ root.metadata.index = 0
  lookup : ∀ key, storage.getEntry key = if 1 ≤ key then log[key - 1]? else none

namespace DiskLog

variable {log : List Entry} {storage next : DiskStorage}

/-- Such a disk has a whole log behind a snapshot at index 0. -/
theorem whole (holds : DiskLog log storage) : ∃ root, root.metadata.index = 0 ∧ Whole root log.length storage := by
  obtain ⟨root, record, zero⟩ := holds.record
  have addable : root.metadata.index + 1 < UInt64.size := by
    rw [zero]
    decide
  refine ⟨root, zero, record, addable, by omega, fun key => ?_, fun key entry found => ?_⟩
  · rw [mem_iff_getEntry, holds.lookup, zero]
    by_cases positive : 1 ≤ key
    · rw [if_pos positive]
      constructor
      · rintro ⟨entry, found⟩
        obtain ⟨inside, _⟩ := List.getElem?_eq_some_iff.mp found
        omega
      · intro bounds
        exact ⟨_, List.getElem?_eq_getElem (by omega)⟩
    · rw [if_neg positive]
      constructor
      · rintro ⟨entry, found⟩
        cases found
      · omega
  · rw [holds.lookup] at found
    split at found
    case isTrue positive =>
      obtain ⟨inside, same⟩ := List.getElem?_eq_some_iff.mp found
      have place := holds.consecutive.getElem _ inside
      rw [same] at place
      omega
    case isFalse => cases found

/-- Such a log starts at index 1. -/
theorem logStart (holds : DiskLog log storage) : storage.logStart = 1 := by
  obtain ⟨root, zero, whole⟩ := holds.whole
  rw [whole.logStart, zero]

theorem firstIndex (holds : DiskLog log storage) (build : Build) : storage.firstIndex build = some 1 := by
  obtain ⟨root, _, whole⟩ := holds.whole
  rw [whole.answers.first build, holds.logStart]

theorem lastIndex (holds : DiskLog log storage) : storage.lastIndex = log.length := by
  obtain ⟨root, zero, whole⟩ := holds.whole
  exact whole.lastIndex

/-- The entries stand under their positions. -/
theorem getEntry_succ (holds : DiskLog log storage) (position : Nat) :
    storage.getEntry (position + 1) = log[position]? := by
  rw [holds.lookup, if_pos (Nat.le_add_left 1 position), Nat.add_sub_cancel]

/-- The disk knows the term of each entry. -/
theorem term (holds : DiskLog log storage) {entry : Entry} (inside : entry ∈ log) :
    storage.term entry.index = .ok entry.term := by
  obtain ⟨above, _, stored⟩ := holds.consecutive.mem inside
  rw [term_of_logStart_le (by rw [holds.logStart]; exact above), holds.lookup, if_pos above, stored]

/-- The stored entries of a range are a part of the log. -/
theorem storedRun (holds : DiskLog log storage) {low : Nat} (above : 1 ≤ low) (high : Nat) :
    storage.storedRun low high = (log.drop (low - 1)).take (high - low) := by
  have part (count : Nat) : (List.range' low count).filterMap storage.getEntry = (log.drop (low - 1)).take count := by
    induction count with
    | zero => rw [List.range'_zero, List.filterMap_nil, List.take_zero]
    | succ count ih =>
        have place : low + count = low - 1 + count + 1 := by omega
        rw [List.range'_1_concat, List.filterMap_append, ih, List.take_add_one, List.getElem?_drop, place,
          ← holds.getEntry_succ]
        cases stored : storage.getEntry (low - 1 + count + 1) with
        | none => simp [stored]
        | some entry => simp [stored]
  exact part (high - low)

/-- A read within the log is a limited part of it. -/
theorem entries (holds : DiskLog log storage) {encodedLen : Entry → Nat}
    (sized : ∀ entry, entry.index ≠ 0 → encodedLen entry ≠ 0) {low high : Nat} (above : 1 ≤ low)
    (ordered : low ≤ high) (within : high ≤ log.length + 1) (maxSize : Option Nat) :
    storage.entries encodedLen low high maxSize =
      .ok (MemStorage.limitSize encodedLen (budget maxSize) 0 (storage.storedRun low high)) := by
  have same := holds.storedRun above high
  have length : (storage.storedRun low high).length = high - low := by
    rw [same, List.length_take, List.length_drop]
    omega
  rw [DiskStorage.entries, ← length]
  apply entriesLoop_stored
  · intro entry inside
    rw [same] at inside
    have bounds := holds.consecutive.mem (List.mem_of_mem_drop (List.mem_of_mem_take inside))
    exact sized entry (by omega)
  · intro position inside
    rw [length] at inside
    have place : low + position = low - 1 + position + 1 := by omega
    simp only [same, List.getElem_take, List.getElem_drop]
    rw [place, holds.getEntry_succ, List.getElem?_eq_getElem (by omega)]
  · simp

/-- Equal trees hold equal logs. -/
theorem congr (holds : DiskLog log storage) (record : next.db.snapshotsTree = storage.db.snapshotsTree)
    (entries : next.db.entriesTree = storage.db.entriesTree) : DiskLog log next where
  consecutive := holds.consecutive
  record := by rw [record]; exact holds.record
  lookup key := by rw [getEntry, entries]; exact holds.lookup key

/-- A batch behind the log is appended to it. -/
theorem append {batch : List Entry} (holds : DiskLog log storage) (behind : Consecutive (log.length + 1) batch)
    (success : DiskStorage.append batch storage = (.ok (), next)) : DiskLog (log ++ batch) next where
  consecutive := holds.consecutive.append (by rw [Nat.add_comm]; exact behind)
  record := by rw [append_snapshotsTree success]; exact holds.record
  lookup key := by
    rw [append_getEntry behind success, holds.lookup]
    by_cases new : log.length + 1 ≤ key ∧ key < log.length + 1 + batch.length
    · have place : key - 1 - log.length = key - (log.length + 1) := by omega
      rw [if_pos new, if_pos (by omega), List.getElem?_append_right (by omega), place]
    · rw [if_neg new]
      by_cases old : key - 1 < log.length
      · rw [List.getElem?_append_left old]
      · rw [List.getElem?_eq_none (by omega)]
        split
        case isTrue => rw [List.getElem?_eq_none (by rw [List.length_append]; omega)]
        case isFalse => rfl

/-- A compaction behind the last entry empties the log. -/
theorem compact (holds : DiskLog log storage)
    (success : DiskStorage.compact (storage.lastIndex + 1) storage = (.ok (), next)) : DiskLog [] next where
  consecutive := trivial
  record := by rw [Whole.compact_snapshotsTree success]; exact holds.record
  lookup key := by
    rw [Whole.compact_getEntry success, holds.lastIndex, holds.lookup, List.getElem?_nil, ite_self]
    split
    case isTrue => rfl
    case isFalse beyond => rw [List.getElem?_eq_none (by omega), ite_self]

end DiskLog

/-- A new directory holds an empty log, no hard state, and the configuration. -/
theorem Initialized.diskLog {confState : ConfState} {storage : DiskStorage}
    (initialized : Initialized confState storage) :
    DiskLog [] storage ∧ storage.initialState = (.default, confState) := by
  have core := initialized.core
  simp only [Db.core, Prod.mk.injEq] at core
  obtain ⟨entries, record, hard⟩ := core
  constructor
  · refine ⟨trivial, ⟨_, record, rfl⟩, fun key => ?_⟩
    rw [List.getElem?_nil, ite_self, getEntry, entries]
    exact Std.ExtTreeMap.getElem?_empty
  · rw [initialState, hard, initialized.written]
    rfl

/-- The same call goes to the storage of a node, whichever backend it has. -/
def Call.onStorage {Mem : Type} (mem : MemStorageApi Mem) : Call → Attempt (RaftStorage Mem) RaftError Unit
  | .append entries => RaftStorage.append mem entries
  | .setHardstate hs => RaftStorage.setHardstate mem hs
  | .setConfState cs => RaftStorage.setConfState mem cs
  | .applySnapshot snapshot => RaftStorage.applySnapshot mem snapshot
  | .compact compactIndex => RaftStorage.compact mem compactIndex

/-- This is what a call leaves of the memory backend. -/
def Call.onMemory {Mem : Type} (mem : MemStorageApi Mem) : Call → Mem → Mem
  | .append entries, inner => (mem.append entries inner).2
  | .setHardstate hs, inner => mem.setHardstate hs inner
  | .setConfState cs, inner => mem.setConfState cs inner
  | .applySnapshot snapshot, inner => (mem.applySnapshot snapshot inner).2
  | .compact compactIndex, inner => (mem.compact compactIndex inner).2

/-- In memory a call is the call of the memory storage. -/
theorem Call.onStorage_memory {Mem : Type} (mem : MemStorageApi Mem) (call : Call) (inner : Mem) (appliedIndex : Nat) :
    (call.onStorage mem (.memory inner appliedIndex)).2 = .memory (call.onMemory mem inner) appliedIndex := by
  cases call <;> rfl

/-- On the disk a call is the call of the disk storage. -/
theorem Call.onStorage_disk {Mem : Type} (mem : MemStorageApi Mem) (call : Call) (storage : DiskStorage) :
    call.onStorage mem (.disk storage) = ((call.perform storage).1, .disk (call.perform storage).2) := by
  cases call <;> rfl

/-- Appends continue the log, and compactions stop at most one index behind it. -/
def Call.Continues (last : Nat) : Call → Prop
  | .append entries => Consecutive (last + 1) entries
  | .setHardstate _ | .setConfState _ => True
  | .compact compactIndex => 1 ≤ compactIndex ∧ compactIndex ≤ last + 1
  | .applySnapshot _ => False

/-- These are two storages of the same node, one for each backend. -/
structure Twins (Mem : Type) where
  inner : Mem
  appliedIndex : Nat
  storage : DiskStorage

namespace Twins

variable {Mem : Type}

def memory (twins : Twins Mem) : RaftStorage Mem := .memory twins.inner twins.appliedIndex

def disk (twins : Twins Mem) : RaftStorage Mem := .disk twins.storage

/-- Both backends were initialized with one configuration. -/
structure Initial (mem : MemStorageApi Mem) (confState : ConfState) (twins : Twins Mem) : Prop where
  memory : RaftStorage.initializeWithConfState mem confState (.new mem) = (.ok (), twins.memory)
  disk : Initialized confState twins.storage

/-- Both backends give the same answers. The code adds the sizes of a range in a `u64`. -/
structure Agree (mem : MemStorageApi Mem) (encodedLen : Entry → Nat) (twins : Twins Mem) : Prop where
  initialState : twins.memory.initialState mem = twins.disk.initialState mem
  firstIndex : ∀ build, twins.memory.firstIndex mem build = twins.disk.firstIndex mem build
  lastIndex : twins.memory.lastIndex mem = twins.disk.lastIndex mem
  term : ∀ index, twins.storage.logStart ≤ index → index ≤ twins.disk.lastIndex mem →
    twins.memory.term mem index = twins.disk.term mem index
  entries : ∀ low high maxSize, twins.storage.logStart ≤ twins.disk.lastIndex mem →
    twins.storage.logStart ≤ low → low ≤ high → high ≤ twins.disk.lastIndex mem + 1 →
    runSize encodedLen twins.storage low high < 2 ^ 64 →
    twins.memory.entries mem encodedLen low high maxSize = twins.disk.entries mem encodedLen low high maxSize

end Twins

/-- This is one call on both backends. -/
structure TwinStep (Mem : Type) where
  before : Twins Mem
  call : Call
  after : Twins Mem

/-- A compaction of the step is one index behind the log. -/
def TwinStep.Clears {Mem : Type} (step : TwinStep Mem) : Prop :=
  ∀ compactIndex, step.call = .compact compactIndex → compactIndex = step.before.storage.lastIndex + 1

/-- These are the calls that lead from one pair of storages to another. No write to the disk fails. -/
inductive TwinRun {Mem : Type} (mem : MemStorageApi Mem) (start : Twins Mem) : List (TwinStep Mem) → Twins Mem → Prop
  | none : TwinRun mem start [] start
  | more (steps : List (TwinStep Mem)) (before after : Twins Mem) (call : Call) (earlier : TwinRun mem start steps before)
      (continues : call.Continues (before.disk.lastIndex mem))
      (onMemory : (call.onStorage mem before.memory).2 = after.memory)
      (onDisk : call.onStorage mem before.disk = (.ok (), after.disk)) :
      TwinRun mem start (steps ++ [⟨before, call, after⟩]) after

namespace Twins

/-- Both backends hold the same log from index one on and the same state. -/
structure SameLog {Mem : Type} (read : Mem → MemContents) (log : List Entry) (twins : Twins Mem) : Prop where
  contents : read twins.inner = ⟨log, 0, twins.storage.initialState⟩
  stored : DiskLog log twins.storage

variable {Mem : Type} {mem : MemStorageApi Mem} {encodedLen : Entry → Nat} {read : Mem → MemContents}
  {log : List Entry} {twins before after : Twins Mem} {call : Call}

namespace SameLog

theorem firstIndex (same : SameLog read log twins) : (read twins.inner).firstIndex = 1 := by
  rw [same.contents]
  cases log with
  | nil => rfl
  | cons entry rest => exact same.stored.consecutive.1

/-- The memory log of the twins has no gaps. -/
theorem tidy (same : SameLog read log twins) : (read twins.inner).Tidy := by
  have first := same.firstIndex
  have logged : (read twins.inner).log = log := by rw [same.contents]
  have root : (read twins.inner).root = 0 := by rw [same.contents]
  constructor
  · omega
  · rw [first, logged]
    exact same.stored.consecutive

theorem lastIndex (same : SameLog read log twins) : (read twins.inner).lastIndex = log.length := by
  have ends := same.tidy.lastIndex
  have logged : (read twins.inner).log = log := by rw [same.contents]
  rw [same.firstIndex, logged] at ends
  omega

/-- Storages with the same log give the same answers. -/
theorem agree (same : SameLog read log twins) (laws : MemLogLaws mem encodedLen read)
    (sized : ∀ entry, entry.index ≠ 0 → encodedLen entry ≠ 0) : Agree mem encodedLen twins := by
  have first : twins.storage.logStart = 1 := same.stored.logStart
  have last : twins.disk.lastIndex mem = log.length := same.stored.lastIndex
  have logged : (read twins.inner).log = log := by rw [same.contents]
  constructor
  case initialState =>
    change mem.initialState twins.inner = twins.storage.initialState
    rw [laws.initialState, same.contents]
  case firstIndex =>
    intro build
    have onDisk : twins.disk.firstIndex mem build = some 1 := same.stored.firstIndex build
    rw [onDisk]
    exact congrArg some ((laws.firstIndex twins.inner).trans same.firstIndex)
  case lastIndex =>
    rw [last]
    exact (laws.lastIndex twins.inner).trans same.lastIndex
  case term =>
    intro index above within
    rw [first] at above
    rw [last] at within
    have inside : log[index - 1] ∈ log := List.getElem_mem (by omega)
    have place : log[index - 1].index = index := by
      rw [same.stored.consecutive.getElem]
      omega
    have onMemory := laws.term twins.inner _ same.tidy (by rw [logged]; exact inside)
    have onDisk := same.stored.term inside
    rw [place] at onMemory onDisk
    exact onMemory.trans onDisk.symm
  case entries =>
    intro low high maxSize filled above ordered within fits
    rw [first, last] at filled
    rw [first] at above
    rw [last] at within
    have stored := same.stored.storedRun above high
    have onMemory := laws.entries twins.inner low high maxSize (storedRun twins.storage low high) same.tidy
      (by rw [logged]; exact List.length_pos_iff.mp filled) (by rw [same.firstIndex]; exact above) ordered
      (by rw [same.lastIndex]; exact within) (by rw [same.firstIndex, logged]; exact stored) fits
    exact onMemory.trans (same.stored.entries sized above ordered within maxSize).symm

/-- The two arms of a call take the stored data of both storages on. -/
theorem arms (onMemory : (call.onStorage mem before.memory).2 = after.memory)
    (onDisk : call.onStorage mem before.disk = (.ok (), after.disk)) :
    after.inner = call.onMemory mem before.inner ∧ call.perform before.storage = (.ok (), after.storage) := by
  rw [Twins.memory, call.onStorage_memory] at onMemory
  rw [Twins.disk, call.onStorage_disk] at onDisk
  obtain ⟨done, left⟩ := Prod.mk.inj onDisk
  exact ⟨(RaftStorage.memory.inj onMemory).1.symm, Prod.ext done (RaftStorage.disk.inj left)⟩

/-- A compaction one index behind the log empties both logs. Every other call keeps them the same. -/
theorem step (same : SameLog read log before) (laws : MemLogLaws mem encodedLen read)
    (continues : call.Continues (before.disk.lastIndex mem)) (inner : after.inner = call.onMemory mem before.inner)
    (success : call.perform before.storage = (.ok (), after.storage))
    (clears : (TwinStep.mk before call after).Clears) : ∃ log, SameLog read log after := by
  have last : before.disk.lastIndex mem = log.length := same.stored.lastIndex
  cases call with
  | append entries =>
      rw [last] at continues
      have kept := append_fixes entries before.storage
      rw [show DiskStorage.append entries before.storage = (.ok (), after.storage) from success] at kept
      refine ⟨log ++ entries, ?_, same.stored.append continues success⟩
      have stored := laws.append entries before.inner same.tidy (by rw [same.lastIndex]; exact continues)
      rw [inner, Call.onMemory, stored, same.contents, kept]
  | setHardstate hs =>
      have changed := setHardstate_maps hs before.storage () after.storage success
      rw [Call.perform, setHardstate_eq_script] at success
      have stored := (script_ok success).1
      refine ⟨log, ?_, same.stored.congr (by rw [stored]; rfl) (by rw [stored]; rfl)⟩
      rw [inner, Call.onMemory, laws.setHardstate, same.contents, changed]
  | setConfState cs =>
      have changed := setConfState_maps cs before.storage () after.storage success
      rw [Call.perform, setConfState_eq_script] at success
      have stored := (script_ok success).1
      refine ⟨log, ?_, same.stored.congr (by rw [stored]; rfl) (by rw [stored]; rfl)⟩
      rw [inner, Call.onMemory, laws.setConfState, same.contents, changed]
  | applySnapshot snapshot => cases continues
  | compact compactIndex =>
      have reached : compactIndex = before.storage.lastIndex + 1 := clears compactIndex rfl
      have kept := compact_fixes compactIndex before.storage
      rw [show DiskStorage.compact compactIndex before.storage = (.ok (), after.storage) from success] at kept
      refine ⟨[], ?_, same.stored.compact (reached ▸ success)⟩
      have left := laws.compact compactIndex before.inner same.tidy
        (by rw [same.lastIndex, ← last]; exact Nat.le_of_eq reached)
      have behind : log.length ≤ compactIndex - 1 := by
        rw [reached, same.stored.lastIndex]
        omega
      rw [same.tidy.consecutive.filter_index, same.firstIndex, same.contents, List.drop_eq_nil_of_le behind] at left
      rw [inner, Call.onMemory, left, kept]

/-- A compaction that reaches the log separates the answers. -/
theorem clears_of_agree (same : SameLog read log before) (laws : MemLogLaws mem encodedLen read)
    (continues : call.Continues (before.disk.lastIndex mem)) (inner : after.inner = call.onMemory mem before.inner)
    (success : call.perform before.storage = (.ok (), after.storage)) (agree : Agree mem encodedLen after) :
    (TwinStep.mk before call after).Clears := by
  intro compactIndex reached
  obtain rfl : call = .compact compactIndex := reached
  have last : before.storage.lastIndex = log.length := same.stored.lastIndex
  obtain ⟨positive, within⟩ : 1 ≤ compactIndex ∧ compactIndex ≤ before.storage.lastIndex + 1 := continues
  by_contra early
  change ¬ compactIndex = before.storage.lastIndex + 1 at early
  have left := laws.compact compactIndex before.inner same.tidy (by rw [same.lastIndex, ← last]; exact within)
  rw [same.tidy.consecutive.filter_index, same.firstIndex, same.contents] at left
  rw [Call.onMemory] at inner
  rw [← inner] at left
  obtain ⟨root, record, zero⟩ := same.stored.record
  rw [← Whole.compact_snapshotsTree success] at record
  have first : after.storage.logStart = 1 := by rw [logStart_of_snapshot record, zero]
  have onDisk : after.disk.firstIndex mem .release = some 1 := by
    change after.storage.firstIndex .release = some 1
    rw [firstIndex_of_snapshot record, zero]
    exact Build.succ_eq_some_iff.mpr (by decide)
  -- The memory log begins at the compaction index. So only a compaction at one keeps the first index.
  have begins : mem.firstIndex after.inner = compactIndex := by
    rw [laws.firstIndex, left, MemContents.firstIndex]
    simp only [List.head?_drop]
    rw [List.getElem?_eq_getElem (by omega), Option.map_some, Option.getD_some, same.stored.consecutive.getElem]
    omega
  obtain rfl : compactIndex = 1 := by
    have onMemory : after.memory.firstIndex mem .release = some compactIndex := congrArg some begins
    exact Option.some.inj (onMemory.symm.trans ((agree.firstIndex .release).trans onDisk))
  have unchanged : read after.inner = read before.inner := left.trans same.contents.symm
  have inside : log[0] ∈ log := List.getElem_mem (by omega)
  have place : log[0].index = 1 := same.stored.consecutive.getElem 0 (by omega)
  have onMemory : mem.term after.inner 1 = .ok log[0].term := by
    rw [← place]
    exact laws.term after.inner _ (by rw [unchanged]; exact same.tidy) (by rw [unchanged, same.contents]; exact inside)
  have onDisk : after.storage.term 1 = .error (.store .unavailable) := by
    rw [term_of_logStart_le (by omega), Whole.compact_getEntry success, if_pos (Nat.le_refl 1)]
  have reach : 1 ≤ after.disk.lastIndex mem := by
    rw [← agree.lastIndex]
    change 1 ≤ mem.lastIndex after.inner
    rw [laws.lastIndex, unchanged, same.lastIndex]
    omega
  have answers := agree.term 1 (Nat.le_of_eq first) reach
  change mem.term after.inner 1 = after.storage.term 1 at answers
  rw [onMemory, onDisk] at answers
  cases answers

end SameLog

end Twins

open Twins

section Run

variable {Mem : Type} {mem : MemStorageApi Mem} {encodedLen : Entry → Nat} {read : Mem → MemContents}
  {confState : ConfState} {start final : Twins Mem} {steps : List (TwinStep Mem)}

/-- New twins have the same empty log. -/
theorem Twins.Initial.sameLog (initial : Initial mem confState start) (laws : MemLogLaws mem encodedLen read) :
    SameLog read [] start := by
  obtain ⟨stored, state⟩ := initial.disk.diskLog
  refine ⟨?_, stored⟩
  have inner : mem.initializeWithConfState confState mem.new = start.inner :=
    (RaftStorage.memory.inj (Prod.mk.inj initial.memory).2).1
  rw [← inner, laws.initializeWithConfState, laws.new, state]

/-- While each compaction clears the log, both backends hold the same log and agree. -/
theorem TwinRun.sameLog {log : List Entry} (run : TwinRun mem start steps final) (same : SameLog read log start)
    (laws : MemLogLaws mem encodedLen read) (sized : ∀ entry, entry.index ≠ 0 → encodedLen entry ≠ 0)
    (clears : ∀ step ∈ steps, step.Clears) :
    (∃ log, SameLog read log final) ∧ ∀ step ∈ steps, Agree mem encodedLen step.after := by
  induction run with
  | none => exact ⟨⟨log, same⟩, by simp⟩
  | more steps before after call earlier continues onMemory onDisk ih =>
      rw [List.forall_mem_append, List.forall_mem_singleton] at clears ⊢
      obtain ⟨⟨_, middle⟩, agreed⟩ := ih clears.1
      obtain ⟨inner, success⟩ := SameLog.arms onMemory onDisk
      obtain ⟨log, later⟩ := middle.step laws continues inner success clears.2
      exact ⟨⟨log, later⟩, agreed, later.agree laws sized⟩

/-- From new storages on, the backends agree exactly while each compaction is one index behind the log. -/
theorem backends_agree_iff (laws : MemLogLaws mem encodedLen read)
    (sized : ∀ entry, entry.index ≠ 0 → encodedLen entry ≠ 0) (initial : Initial mem confState start)
    (run : TwinRun mem start steps final) :
    Agree mem encodedLen start ∧
      ((∀ step ∈ steps, Agree mem encodedLen step.after) ↔ ∀ step ∈ steps, step.Clears) := by
  have same := initial.sameLog laws
  refine ⟨same.agree laws sized, fun agreed => ?_, fun clears => (run.sameLog same laws sized clears).2⟩
  induction run with
  | none => simp
  | more steps before after call earlier continues onMemory onDisk ih =>
      rw [List.forall_mem_append, List.forall_mem_singleton] at agreed ⊢
      have clears := ih agreed.1
      obtain ⟨⟨_, middle⟩, _⟩ := earlier.sameLog same laws sized clears
      obtain ⟨inner, success⟩ := SameLog.arms onMemory onDisk
      exact ⟨clears, middle.clears_of_agree laws continues inner success agreed.2⟩

end Run

abbrev memApi : MemStorageApi MemStorage := MemStorage.api Protobuf.encodedLen

/-- This is what calls leave of both storages when one voter starts. -/
def twinsAfter (calls : List Call) : Twins MemStorage :=
  calls.foldl (fun twins call => ⟨call.onMemory memApi twins.inner, 0, (call.perform twins.storage).2⟩)
    ⟨memApi.initializeWithConfState { voters := [1] } memApi.new, 0, oneVoter⟩

/-- The twins of the example start new. -/
theorem twinsAfter_initial : Initial memApi { voters := [1] } (twinsAfter []) := ⟨rfl, oneVoter_initialized⟩

def threeAppended : Call := .append [plainEntry 1 1, plainEntry 1 2, plainEntry 1 3]

/-- The twins of the example append three entries. -/
theorem threeAppended_run :
    TwinRun memApi (twinsAfter []) [⟨twinsAfter [], threeAppended, twinsAfter [threeAppended]⟩]
      (twinsAfter [threeAppended]) :=
  .more [] _ _ _ .none (by unfold Call.Continues threeAppended; decide) rfl rfl

/-- These are the steps of a run with one compaction. -/
def twinSteps (compactIndex : Nat) : List (TwinStep MemStorage) :=
  [⟨twinsAfter [], threeAppended, twinsAfter [threeAppended]⟩,
    ⟨twinsAfter [threeAppended], .compact compactIndex, twinsAfter [threeAppended, .compact compactIndex]⟩]

/-- A compaction behind all three entries keeps the backends in agreement. -/
theorem backends_agree_cleared :
    Agree memApi Protobuf.encodedLen (twinsAfter [threeAppended]) ∧
      Agree memApi Protobuf.encodedLen (twinsAfter [threeAppended, .compact 4]) := by
  have run : TwinRun memApi (twinsAfter []) (twinSteps 4) (twinsAfter [threeAppended, .compact 4]) :=
    .more _ _ _ _ threeAppended_run (by unfold Call.Continues; decide) rfl rfl
  have clears : ∀ step ∈ twinSteps 4, step.Clears := by
    intro step inside compactIndex reached
    rcases List.mem_cons.mp inside with rfl | later
    · cases reached
    · obtain rfl := List.mem_singleton.mp later
      cases reached
      decide
  have agree := (backends_agree_iff (MemStorage.logLaws _) (fun _ => Protobuf.encodedLen_ne_zero)
    twinsAfter_initial run).2.mpr clears
  exact ⟨agree _ List.mem_cons_self, agree _ (List.mem_cons_of_mem _ List.mem_cons_self)⟩

/-- After a compaction at two the memory log begins at two, and the disk still answers one. -/
theorem compact_separates :
    Initial memApi { voters := [1] } (twinsAfter []) ∧
      TwinRun memApi (twinsAfter []) (twinSteps 2) (twinsAfter [threeAppended, .compact 2]) ∧
      (twinsAfter [threeAppended, .compact 2]).memory.firstIndex memApi .release = some 2 ∧
      (twinsAfter [threeAppended, .compact 2]).disk.firstIndex memApi .release = some 1 ∧
      ¬ Agree memApi Protobuf.encodedLen (twinsAfter [threeAppended, .compact 2]) := by
  have memory : (twinsAfter [threeAppended, .compact 2]).memory.firstIndex memApi .release = some 2 := by decide
  have disk : (twinsAfter [threeAppended, .compact 2]).disk.firstIndex memApi .release = some 1 := by decide
  refine ⟨twinsAfter_initial, ?_, memory, disk, fun agree => ?_⟩
  · exact .more _ _ _ _ threeAppended_run (by unfold Call.Continues; decide) rfl rfl
  · have same := agree.firstIndex .release
    rw [memory, disk] at same
    cases same

end RaftATui
