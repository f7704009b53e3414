import RaftATui.Construction.MemStorage
import RaftATui.Proof.Storage.RangeRead

namespace RaftATui
open DiskStorage (budget)

/-- This is the part of a `MemStorage` that its answers depend on. -/
structure MemContents where
  log : List Entry
  /-- This is the index of the snapshot in front of the log. -/
  root : Nat
  state : HardState × ConfState

namespace MemContents

def firstIndex (contents : MemContents) : Nat :=
  (contents.log.head?.map Entry.index).getD (contents.root + 1)

def lastIndex (contents : MemContents) : Nat :=
  (contents.log.getLast?.map Entry.index).getD contents.root

/-- The log has no gap and lies behind the snapshot. -/
structure Tidy (contents : MemContents) : Prop where
  behind : contents.root < contents.firstIndex
  consecutive : Consecutive contents.firstIndex contents.log

/-- The last index follows from the first one and the length of the log. -/
theorem Tidy.lastIndex {contents : MemContents} (tidy : contents.Tidy) :
    contents.lastIndex + 1 = contents.firstIndex + contents.log.length := by
  by_cases empty : contents.log = []
  · simp [MemContents.lastIndex, MemContents.firstIndex, empty]
  · have ends := tidy.consecutive.last empty
    have same : contents.lastIndex = batchLast contents.log := by
      unfold MemContents.lastIndex batchLast
      rw [List.getLast?_eq_some_getLast empty]
      rfl
    omega

end MemContents

/-- These are the laws of raft-rs's `MemStorage` for a log without gaps. -/
structure MemLogLaws {Mem : Type} (mem : MemStorageApi Mem) (encodedLen : Entry → Nat)
    (read : Mem → MemContents) : Prop where
  new : read mem.new = ⟨[], 0, .default, .default⟩
  initializeWithConfState : ∀ cs inner, read (mem.initializeWithConfState cs inner) =
    { read inner with state := ((read inner).state.1, cs) }
  setHardstate : ∀ hs inner, read (mem.setHardstate hs inner) =
    { read inner with state := (hs, (read inner).state.2) }
  setConfState : ∀ cs inner, read (mem.setConfState cs inner) =
    { read inner with state := ((read inner).state.1, cs) }
  append : ∀ batch inner, (read inner).Tidy → Consecutive ((read inner).lastIndex + 1) batch →
    read (mem.append batch inner).2 = { read inner with log := (read inner).log ++ batch }
  /-- A compaction keeps the entry at its index. -/
  compact : ∀ compactIndex inner, (read inner).Tidy → compactIndex ≤ (read inner).lastIndex + 1 →
    read (mem.compact compactIndex inner).2 =
      { read inner with log := (read inner).log.filter (compactIndex ≤ ·.index) }
  initialState : ∀ inner, mem.initialState inner = (read inner).state
  firstIndex : ∀ inner, mem.firstIndex inner = (read inner).firstIndex
  lastIndex : ∀ inner, mem.lastIndex inner = (read inner).lastIndex
  term : ∀ inner entry, (read inner).Tidy → entry ∈ (read inner).log → mem.term inner entry.index = .ok entry.term
  /-- A range whose size is a `u64` is cut at the limit, and its first entry is always kept. -/
  entries : ∀ inner low high maxSize found, (read inner).Tidy → (read inner).log ≠ [] →
    (read inner).firstIndex ≤ low → low ≤ high → high ≤ (read inner).lastIndex + 1 →
    found = ((read inner).log.drop (low - (read inner).firstIndex)).take (high - low) →
    (found.map encodedLen).sum < 2 ^ 64 →
    mem.entries inner low high maxSize = .ok (MemStorage.limitSize encodedLen (budget maxSize) 0 found)

namespace MemContents

variable {contents : MemContents}

end MemContents

namespace MemStorage

def contents (mem : MemStorage) : MemContents :=
  ⟨mem.entries, mem.snapshotMetadata.index, mem.hardState, mem.confState⟩

/-- The first index is read from the contents only. -/
theorem firstIndex_eq_contents (mem : MemStorage) : mem.firstIndex = mem.contents.firstIndex := by
  unfold firstIndex MemContents.firstIndex contents
  cases mem.entries.head? <;> rfl

/-- The last index is read from the contents only. -/
theorem lastIndex_eq_contents (mem : MemStorage) : mem.lastIndex = mem.contents.lastIndex := by
  unfold lastIndex MemContents.lastIndex contents
  cases mem.entries.getLast? <;> rfl

/-- A limit that admits all entries cuts none. -/
theorem limitSize_of_fits {encodedLen : Entry → Nat} {maxSize : Nat} {found : List Entry} {total : Nat}
    (fits : total + (found.map encodedLen).sum ≤ maxSize) : limitSize encodedLen maxSize total found = found := by
  induction found generalizing total with
  | nil => rfl
  | cons entry rest ih =>
      rw [List.map_cons, List.sum_cons] at fits
      rw [limitSize, if_neg (by omega), ih (by omega)]

section Laws

variable {mem : MemStorage}

/-- A batch behind the log is appended to it. -/
theorem append_contents (tidy : mem.contents.Tidy) {batch : List Entry}
    (behind : Consecutive (mem.contents.lastIndex + 1) batch) :
    (append batch mem).2.contents = { mem.contents with log := mem.contents.log ++ batch } := by
  cases batch with
  | nil => simp [append, contents]
  | cons entry rest =>
      have ends := tidy.lastIndex
      have begins : entry.index = mem.contents.lastIndex + 1 := behind.1
      have inside : ¬ (entry.index < mem.firstIndex ∨ mem.lastIndex + 1 < entry.index) := by
        rw [firstIndex_eq_contents, lastIndex_eq_contents]
        omega
      have whole : entry.index - mem.firstIndex = mem.entries.length := by
        rw [firstIndex_eq_contents]
        change entry.index - _ = mem.contents.log.length
        omega
      simp only [append, List.head?_cons, if_neg inside, whole, List.take_length]
      rfl

/-- A compact drops the entries below its index. -/
theorem compact_contents (tidy : mem.contents.Tidy) {compactIndex : Nat}
    (within : compactIndex ≤ mem.contents.lastIndex + 1) :
    (compact compactIndex mem).2.contents =
      { mem.contents with log := mem.contents.log.filter (compactIndex ≤ ·.index) } := by
  rw [tidy.consecutive.filter_index, ← firstIndex_eq_contents]
  unfold compact
  split
  case isTrue idle =>
    rw [lastIndex_eq_contents] at idle
    have early : compactIndex - mem.firstIndex = 0 := by omega
    rw [early, List.drop_zero]
  case isFalse => rfl

/-- The memory knows the term of each entry. -/
theorem term_contents (tidy : mem.contents.Tidy) {entry : Entry} (inside : entry ∈ mem.contents.log) :
    mem.term entry.index = .ok entry.term := by
  obtain ⟨above, _, stored⟩ := tidy.consecutive.mem inside
  have behind := tidy.behind
  rw [← firstIndex_eq_contents] at above behind stored
  have root : entry.index ≠ mem.snapshotMetadata.index := by
    change mem.snapshotMetadata.index < _ at behind
    omega
  have found : mem.getEntry entry.index = some entry := by
    rw [getEntry, if_neg (by omega)]
    exact stored
  rw [term, if_neg root, if_neg (by omega), found]

/-- A read within the log is a limited part of it. -/
theorem range_contents {encodedLen : Entry → Nat} {low high : Nat} {found : List Entry}
    (above : mem.contents.firstIndex ≤ low)
    (same : found = (mem.contents.log.drop (low - mem.contents.firstIndex)).take (high - low))
    (fits : (found.map encodedLen).sum < 2 ^ 64) (maxSize : Option Nat) :
    range encodedLen mem low high maxSize = .ok (limitSize encodedLen (budget maxSize) 0 found) := by
  rw [← firstIndex_eq_contents] at above same
  change found = (mem.entries.drop _).take _ at same
  rw [range, if_neg (by omega), ← same]
  cases maxSize with
  | some size => rfl
  | none =>
      have whole : limitSize encodedLen (budget none) 0 found = found := by
        apply limitSize_of_fits
        change 0 + _ ≤ 2 ^ 64 - 1
        omega
      rw [whole]

end Laws

/-- The memory storage has the laws of its documentation. -/
theorem logLaws (encodedLen : Entry → Nat) : MemLogLaws (api encodedLen) encodedLen contents where
  new := rfl
  initializeWithConfState _ _ := rfl
  setHardstate _ _ := rfl
  setConfState _ _ := rfl
  append _ _ tidy behind := append_contents tidy behind
  compact _ _ tidy within := compact_contents tidy within
  initialState _ := rfl
  firstIndex := firstIndex_eq_contents
  lastIndex := lastIndex_eq_contents
  term _ _ tidy inside := term_contents tidy inside
  entries _ _ _ maxSize _ _ _ above _ _ same fits := range_contents above same fits maxSize

end MemStorage

end RaftATui
