import RaftATui.Proof.Storage.Compaction

namespace RaftATui
namespace DiskStorage

/-- This is the first index of a range without a stored entry, or the end of the range. -/
def firstHole (storage : DiskStorage) (low high : Nat) : Nat :=
  ((List.range' low (high - low)).find? fun index => (storage.db.entriesTree[index]?).isNone).getD high

/-- These are the entries that are stored in a range. -/
def storedRun (storage : DiskStorage) (low high : Nat) : List Entry :=
  (List.range' low (high - low)).filterMap fun index => storage.db.entriesTree[index]?

def runSize (encodedLen : Entry → Nat) (storage : DiskStorage) (low high : Nat) : Nat :=
  ((storage.storedRun low high).map encodedLen).sum

/-- A read without a limit still adds the sizes in a `u64`. -/
def budget (maxSize : Option Nat) : Nat := maxSize.getD (2 ^ 64 - 1)

/-- The entry at this index would exceed the budget. The first entry is always admitted. -/
def OverBudget (encodedLen : Entry → Nat) (storage : DiskStorage) (low high : Nat) (maxSize : Option Nat)
    (index : Nat) : Prop :=
  low < index ∧ index < storage.firstHole low high ∧
    budget maxSize < storage.runSize encodedLen low (index + 1)

section Run

variable {storage : DiskStorage} {low high index : Nat}

/-- The first hole lies within the range or at its end. -/
theorem firstHole_bounds (storage : DiskStorage) (filled : low ≤ high) :
    low ≤ storage.firstHole low high ∧ storage.firstHole low high ≤ high := by
  unfold firstHole
  cases found : (List.range' low (high - low)).find? fun index => (storage.db.entriesTree[index]?).isNone with
  | none => exact ⟨filled, Nat.le_refl high⟩
  | some hole =>
      obtain ⟨_, inside, _⟩ := List.find?_range'_eq_some.mp found
      rw [List.mem_range'_1] at inside
      rw [Option.getD_some]
      omega

/-- Each index in front of the first hole is stored. -/
theorem firstHole_stored (above : low ≤ index) (below : index < storage.firstHole low high) :
    ∃ entry, storage.getEntry index = some entry := by
  apply Option.ne_none_iff_exists'.mp
  intro missing
  change storage.db.entriesTree[index]? = none at missing
  unfold firstHole at below
  cases found : (List.range' low (high - low)).find? fun index => (storage.db.entriesTree[index]?).isNone with
  | none =>
      rw [found, Option.getD_none] at below
      have stored := List.find?_range'_eq_none.mp found index above (by omega)
      simp [missing] at stored
  | some hole =>
      rw [found, Option.getD_some] at below
      have stored := (List.find?_range'_eq_some.mp found).2.2 index above below
      simp [missing] at stored

/-- A hole within the range has no entry. -/
theorem firstHole_missing (inside : storage.firstHole low high < high) :
    storage.getEntry (storage.firstHole low high) = none := by
  unfold firstHole at inside ⊢
  cases found : (List.range' low (high - low)).find? fun index => (storage.db.entriesTree[index]?).isNone with
  | none =>
      rw [found, Option.getD_none] at inside
      exact absurd inside (Nat.lt_irrefl high)
  | some hole =>
      have missing := (List.find?_range'_eq_some.mp found).1
      change (storage.db.entriesTree[hole]?) = none
      exact Option.isNone_iff_eq_none.mp missing

@[simp] theorem storedRun_self : storage.storedRun low low = [] := by
  rw [storedRun, Nat.sub_self]
  rfl

/-- One more stored entry extends the run. -/
theorem storedRun_succ {entry : Entry} (above : low ≤ index) (stored : storage.getEntry index = some entry) :
    storage.storedRun low (index + 1) = storage.storedRun low index ++ [entry] := by
  have length : index + 1 - low = index - low + 1 := by omega
  have place : low + (index - low) = index := by omega
  change storage.db.entriesTree[index]? = some entry at stored
  rw [storedRun, length, List.range'_1_concat, List.filterMap_append, place, List.filterMap_cons_some stored]
  rfl

/-- One more stored entry extends the size. -/
theorem runSize_succ {encodedLen : Entry → Nat} {entry : Entry} (above : low ≤ index)
    (stored : storage.getEntry index = some entry) :
    storage.runSize encodedLen low (index + 1) = storage.runSize encodedLen low index + encodedLen entry := by
  rw [runSize, storedRun_succ above stored, List.map_append, List.sum_append]
  rfl

/-- In front of the first hole a run lists each of its indices. -/
theorem length_storedRun (above : low ≤ index) (below : index ≤ storage.firstHole low high) :
    (storage.storedRun low index).length = index - low := by
  induction index, above using Nat.le_induction with
  | base => rw [storedRun_self, Nat.sub_self, List.length_nil]
  | succ index above ih =>
      obtain ⟨entry, stored⟩ := firstHole_stored above (by omega : index < storage.firstHole low high)
      rw [storedRun_succ above stored, List.length_append, ih (by omega), List.length_singleton]
      omega

/-- The indices of a run are consecutive. -/
theorem map_index_storedRun (own : ∀ key entry, storage.getEntry key = some entry → entry.index = key)
    (above : low ≤ index) (below : index ≤ storage.firstHole low high) :
    (storage.storedRun low index).map Entry.index = List.range' low (index - low) := by
  induction index, above using Nat.le_induction with
  | base => rw [storedRun_self, Nat.sub_self, List.map_nil, List.range'_zero]
  | succ index above ih =>
      obtain ⟨entry, stored⟩ := firstHole_stored above (by omega : index < storage.firstHole low high)
      have length : index + 1 - low = index - low + 1 := by omega
      have place : low + (index - low) = index := by omega
      rw [storedRun_succ above stored, List.map_append, ih (by omega), length, List.range'_1_concat, place,
        List.map_singleton, own index entry stored]

end Run

section Loop

variable {encodedLen : Entry → Nat} {storage : DiskStorage} {low high index : Nat} {maxSize : Option Nat}

/-- This is the loop when it arrives at an index. -/
def readFrom (encodedLen : Entry → Nat) (storage : DiskStorage) (low high : Nat) (maxSize : Option Nat)
    (index : Nat) : Except RaftError (List Entry) :=
  entriesLoop encodedLen storage (budget maxSize) (high - index) index (storage.runSize encodedLen low index)
    (storage.storedRun low index)

/-- The read starts its loop at the low index. -/
theorem entries_eq_readFrom :
    storage.entries encodedLen low high maxSize = readFrom encodedLen storage low high maxSize low := by
  rw [readFrom, runSize, storedRun_self]
  rfl

/-- The loop returns at an index that is over budget. -/
theorem readFrom_over (heavy : OverBudget encodedLen storage low high maxSize index) (inside : index < high) :
    readFrom encodedLen storage low high maxSize index = .ok (storage.storedRun low index) := by
  obtain ⟨above, below, exceeds⟩ := heavy
  obtain ⟨entry, stored⟩ := firstHole_stored (Nat.le_of_lt above) below
  have length := length_storedRun (Nat.le_of_lt above) (Nat.le_of_lt below)
  have filled : storage.storedRun low index ≠ [] := by
    rw [← List.length_pos_iff, length]
    omega
  have turn : high - index = high - index - 1 + 1 := by omega
  rw [runSize_succ (Nat.le_of_lt above) stored] at exceeds
  rw [readFrom, turn, entriesLoop, stored]
  simp only
  rw [if_pos ⟨exceeds, filled⟩]

/-- The loop takes every other stored entry. -/
theorem readFrom_next (above : low ≤ index) (below : index < storage.firstHole low high) (inside : index < high)
    (within : ¬ OverBudget encodedLen storage low high maxSize index) :
    readFrom encodedLen storage low high maxSize index =
      readFrom encodedLen storage low high maxSize (index + 1) := by
  obtain ⟨entry, stored⟩ := firstHole_stored above below
  have admitted : ¬ (storage.runSize encodedLen low index + encodedLen entry > budget maxSize ∧
      storage.storedRun low index ≠ []) := by
    rintro ⟨exceeds, filled⟩
    rw [← List.length_pos_iff, length_storedRun above (Nat.le_of_lt below)] at filled
    rw [← runSize_succ above stored] at exceeds
    exact within ⟨by omega, below, exceeds⟩
  have turn : high - index = high - (index + 1) + 1 := by omega
  rw [readFrom, turn, entriesLoop, stored]
  simp only
  rw [if_neg admitted, readFrom, runSize_succ above stored, storedRun_succ above stored]

/-- The loop reaches an index in front of which nothing is over budget. -/
theorem readFrom_skip {target : Nat} (above : low ≤ index) (reaches : index ≤ target)
    (below : target ≤ storage.firstHole low high) (inside : target ≤ high)
    (within : ∀ key, key < target → ¬ OverBudget encodedLen storage low high maxSize key) :
    readFrom encodedLen storage low high maxSize index =
      readFrom encodedLen storage low high maxSize target := by
  induction target, reaches using Nat.le_induction with
  | base => rfl
  | succ target reaches ih =>
      rw [ih (by omega) (by omega) fun key before => within key (by omega)]
      exact readFrom_next (by omega) (by omega) (by omega) (within target (by omega))

/-- A hole at or before the snapshot refuses the whole read. -/
theorem readFrom_covered {snapshot : Snapshot} (hole : storage.firstHole low high < high)
    (latest : storage.getLatestSnapshot = some snapshot)
    (covered : storage.firstHole low high ≤ snapshot.metadata.index) :
    readFrom encodedLen storage low high maxSize (storage.firstHole low high) = .error (.store .compacted) := by
  have turn : high - storage.firstHole low high = high - storage.firstHole low high - 1 + 1 := by omega
  rw [readFrom, turn, entriesLoop, firstHole_missing hole, latest]
  simp only
  rw [if_pos covered]

/-- The end of the range and every other hole end the read. -/
theorem readFrom_open
    (uncovered : ∀ snapshot, storage.firstHole low high < high → storage.getLatestSnapshot = some snapshot →
      snapshot.metadata.index < storage.firstHole low high) :
    readFrom encodedLen storage low high maxSize (storage.firstHole low high) =
      .ok (storage.storedRun low (storage.firstHole low high)) := by
  by_cases hole : storage.firstHole low high < high
  · have turn : high - storage.firstHole low high = high - storage.firstHole low high - 1 + 1 := by omega
    rw [readFrom, turn, entriesLoop, firstHole_missing hole]
    cases latest : storage.getLatestSnapshot with
    | none => rfl
    | some snapshot =>
        have behind := uncovered snapshot hole latest
        simp only
        rw [if_neg (by omega)]
  · have ends : high - storage.firstHole low high = 0 := by omega
    rw [readFrom, ends, entriesLoop]

/-- A successful read is the run up to an index in front of which nothing is over budget. -/
theorem entries_ok_run {found : List Entry} (filled : low < high)
    (read : storage.entries encodedLen low high maxSize = .ok found) :
    ∃ stop, low ≤ stop ∧ stop ≤ storage.firstHole low high ∧ found = storage.storedRun low stop ∧
      (low < storage.firstHole low high → low < stop) ∧
      ∀ index, index < stop → ¬ OverBudget encodedLen storage low high maxSize index := by
  have bounds := firstHole_bounds storage (Nat.le_of_lt filled)
  rw [entries_eq_readFrom] at read
  by_cases exceeds : ∃ index, OverBudget encodedLen storage low high maxSize index
  · obtain ⟨stop, heavy, least⟩ : ∃ stop, OverBudget encodedLen storage low high maxSize stop ∧
        ∀ index, index < stop → ¬ OverBudget encodedLen storage low high maxSize index := by
      classical exact ⟨Nat.find exceeds, Nat.find_spec exceeds, fun index => Nat.find_min exceeds⟩
    have above := heavy.1
    have below := heavy.2.1
    rw [readFrom_skip (Nat.le_refl low) (Nat.le_of_lt above) (Nat.le_of_lt below) (by omega) least,
      readFrom_over heavy (by omega)] at read
    exact ⟨stop, by omega, by omega, (Except.ok.inj read).symm, fun _ => above, least⟩
  · have within (index : Nat) : ¬ OverBudget encodedLen storage low high maxSize index :=
      fun heavy => exceeds ⟨index, heavy⟩
    rw [readFrom_skip (Nat.le_refl low) bounds.1 (Nat.le_refl _) bounds.2 fun index _ => within index] at read
    refine ⟨_, bounds.1, Nat.le_refl _, ?_, id, fun index _ => within index⟩
    by_cases covered : ∃ snapshot, storage.firstHole low high < high ∧
        storage.getLatestSnapshot = some snapshot ∧ storage.firstHole low high ≤ snapshot.metadata.index
    · obtain ⟨snapshot, hole, latest, reaches⟩ := covered
      rw [readFrom_covered hole latest reaches] at read
      cases read
    · have uncovered (snapshot : Snapshot) (hole : storage.firstHole low high < high)
          (latest : storage.getLatestSnapshot = some snapshot) :
          snapshot.metadata.index < storage.firstHole low high :=
        Nat.lt_of_not_le fun reaches => covered ⟨snapshot, hole, latest, reaches⟩
      rw [readFrom_open uncovered] at read
      exact (Except.ok.inj read).symm

end Loop

/-- The read of a range stops at the first index that is over budget, and else at the first hole. -/
structure RangeRead (encodedLen : Entry → Nat) (storage : DiskStorage) (low high : Nat) (maxSize : Option Nat) :
    Prop where
  refused : (∀ index, ¬ OverBudget encodedLen storage low high maxSize index) → ∀ snapshot,
    storage.firstHole low high < high → storage.getLatestSnapshot = some snapshot →
    storage.firstHole low high ≤ snapshot.metadata.index →
    storage.entries encodedLen low high maxSize = .error (.store .compacted)
  whole : (∀ index, ¬ OverBudget encodedLen storage low high maxSize index) →
    (∀ snapshot, storage.firstHole low high < high → storage.getLatestSnapshot = some snapshot →
      snapshot.metadata.index < storage.firstHole low high) →
    storage.entries encodedLen low high maxSize = .ok (storage.storedRun low (storage.firstHole low high))
  cut : ∀ index, OverBudget encodedLen storage low high maxSize index →
    (∀ earlier, earlier < index → ¬ OverBudget encodedLen storage low high maxSize earlier) →
    storage.entries encodedLen low high maxSize = .ok (storage.storedRun low index)
  consecutive : ∀ found, storage.entries encodedLen low high maxSize = .ok found →
    found.map Entry.index = List.range' low found.length
  filled : ∀ found entry, storage.entries encodedLen low high maxSize = .ok found →
    storage.db.entriesTree[low]? = some entry → found ≠ []
  within : ∀ found, storage.entries encodedLen low high maxSize = .ok found →
    found.length = 1 ∨ (found.map encodedLen).sum ≤ budget maxSize

/-- Each read of a nonempty range is such a read. -/
theorem entries_rangeRead (encodedLen : Entry → Nat) {storage : DiskStorage} {low high : Nat}
    (own : ∀ (key : Nat) (entry : Entry), storage.db.entriesTree[key]? = some entry → entry.index = key)
    (nonempty : low < high) (maxSize : Option Nat) : RangeRead encodedLen storage low high maxSize := by
  have bounds := firstHole_bounds storage (Nat.le_of_lt nonempty)
  constructor
  case refused =>
    intro within snapshot hole latest covered
    rw [entries_eq_readFrom, readFrom_skip (Nat.le_refl low) bounds.1 (Nat.le_refl _) bounds.2
      fun index _ => within index]
    exact readFrom_covered hole latest covered
  case whole =>
    intro within uncovered
    rw [entries_eq_readFrom, readFrom_skip (Nat.le_refl low) bounds.1 (Nat.le_refl _) bounds.2
      fun index _ => within index]
    exact readFrom_open uncovered
  case cut =>
    intro index heavy least
    have above := heavy.1
    have below := heavy.2.1
    rw [entries_eq_readFrom, readFrom_skip (Nat.le_refl low) (Nat.le_of_lt above) (Nat.le_of_lt below) (by omega)
      least]
    exact readFrom_over heavy (by omega)
  case consecutive =>
    intro found read
    obtain ⟨stop, above, below, rfl, _, _⟩ := entries_ok_run nonempty read
    rw [map_index_storedRun own above below, length_storedRun above below]
  case filled =>
    intro found entry read stored
    change storage.getEntry low = some entry at stored
    obtain ⟨stop, above, below, rfl, begins, _⟩ := entries_ok_run nonempty read
    have starts : low ≠ storage.firstHole low high := by
      intro same
      have missing := firstHole_missing (same ▸ nonempty : storage.firstHole low high < high)
      rw [← same, stored] at missing
      cases missing
    have longer := begins (by omega)
    rw [← List.length_pos_iff, length_storedRun above below]
    omega
  case within =>
    intro found read
    obtain ⟨stop, above, below, rfl, _, least⟩ := entries_ok_run nonempty read
    rcases Nat.lt_or_ge (low + 1) stop with longer | short
    · right
      have last := least (stop - 1) (by omega)
      by_contra exceeds
      have place : stop - 1 + 1 = stop := by omega
      exact last ⟨by omega, by omega, by rw [place]; exact Nat.lt_of_not_le exceeds⟩
    · rcases Nat.lt_or_ge low stop with one | none
      · left
        rw [length_storedRun above below]
        omega
      · right
        have same : stop = low := by omega
        rw [same, storedRun_self]
        exact Nat.zero_le _

/-- The third entry of this read is over budget. -/
theorem entries_rangeRead_three :
    RangeRead (fun _ => 4) threeStored 1 4 (some 10) := by
  obtain ⟨⟨_, _, whole⟩, _⟩ := threeStored_calls.whole oneVoter_initialized.whole fun step inside => by
    rw [List.mem_singleton.mp inside]
    trivial
  exact entries_rangeRead _ whole.own (by decide) _

end DiskStorage
end RaftATui
