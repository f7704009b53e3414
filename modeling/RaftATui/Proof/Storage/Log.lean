import RaftATui.Library.OrderedTree
import RaftATui.Proof.Storage.Script

namespace RaftATui
open Machinery

/-- A batch has consecutive indices from a first index on. -/
def Consecutive : Nat → List Entry → Prop
  | _, [] => True
  | first, entry :: rest => entry.index = first ∧ Consecutive (first + 1) rest

instance Consecutive.decidable : (first : Nat) → (batch : List Entry) →
    Decidable (Consecutive first batch)
  | _, [] => isTrue trivial
  | first, entry :: rest =>
      have := Consecutive.decidable (first + 1) rest
      inferInstanceAs (Decidable (entry.index = first ∧ Consecutive (first + 1) rest))

def batchFirst (batch : List Entry) : Nat := (batch.head?.map Entry.index).getD 0

def batchLast (batch : List Entry) : Nat := (batch.getLast?.map Entry.index).getD 0

/-- The position of an entry gives its index. -/
theorem Consecutive.getElem {first : Nat} {batch : List Entry} (consecutive : Consecutive first batch)
    (position : Nat) (inside : position < batch.length) :
    batch[position].index = first + position := by
  induction batch generalizing first position with
  | nil => simp at inside
  | cons entry rest ih =>
      cases position with
      | zero => exact consecutive.1
      | succ position =>
          have later := ih consecutive.2 position (by simpa using inside)
          rw [List.getElem_cons_succ, later]
          omega

/-- An entry stands at the position of its index. -/
theorem Consecutive.mem {first : Nat} {batch : List Entry} (consecutive : Consecutive first batch)
    {entry : Entry} (inside : entry ∈ batch) :
    first ≤ entry.index ∧ entry.index < first + batch.length ∧
      batch[entry.index - first]? = some entry := by
  obtain ⟨position, bound, same⟩ := List.mem_iff_getElem.mp inside
  have place := consecutive.getElem position bound
  rw [same] at place
  refine ⟨by omega, by omega, ?_⟩
  rw [place, Nat.add_sub_cancel_left, List.getElem?_eq_getElem bound, same]

/-- The first entry has the first index. -/
theorem Consecutive.head {first : Nat} {batch : List Entry} (consecutive : Consecutive first batch)
    (filled : batch ≠ []) : (batch.head filled).index = first := by
  cases batch with
  | nil => exact absurd rfl filled
  | cons entry rest => exact consecutive.1

/-- The last index is the one in front of the end. -/
theorem Consecutive.last {first : Nat} {batch : List Entry} (consecutive : Consecutive first batch)
    (filled : batch ≠ []) : batchLast batch + 1 = first + batch.length := by
  have positive : 0 < batch.length := List.length_pos_iff.mpr filled
  have ends := consecutive.getElem (batch.length - 1) (by omega)
  have same : batchLast batch = batch[batch.length - 1].index := by
    unfold batchLast
    rw [List.getLast?_eq_getElem?, List.getElem?_eq_getElem (by omega)]
    rfl
  omega

/-- The first entries of a batch are consecutive. -/
theorem Consecutive.take {first : Nat} {batch : List Entry} (consecutive : Consecutive first batch) (count : Nat) :
    Consecutive first (batch.take count) := by
  induction batch generalizing first count with
  | nil => rw [List.take_nil]; trivial
  | cons entry rest ih =>
      cases count with
      | zero => trivial
      | succ count => exact ⟨consecutive.1, ih consecutive.2 count⟩

/-- A batch that follows another one continues it. -/
theorem Consecutive.append {first : Nat} {batch later : List Entry} (left : Consecutive first batch)
    (right : Consecutive (first + batch.length) later) : Consecutive first (batch ++ later) := by
  induction batch generalizing first with
  | nil => exact right
  | cons entry rest ih =>
      refine ⟨left.1, ih left.2 ?_⟩
      rw [List.length_cons, Nat.add_comm rest.length 1, ← Nat.add_assoc] at right
      exact right

/-- These are the entries from an index on. -/
theorem Consecutive.filter_index {first : Nat} {log : List Entry} (consecutive : Consecutive first log)
    (index : Nat) : log.filter (index ≤ ·.index) = log.drop (index - first) := by
  induction log generalizing first with
  | nil => rw [List.drop_nil, List.filter_nil]
  | cons entry rest ih =>
      obtain ⟨here, later⟩ := consecutive
      by_cases reached : index ≤ first
      · rw [List.filter_cons, if_pos (by simpa [here] using reached), ih later, Nat.sub_eq_zero_of_le reached,
          Nat.sub_eq_zero_of_le (Nat.le_succ_of_le reached), List.drop_zero, List.drop_zero]
      · have shift : index - first = index - (first + 1) + 1 := by omega
        rw [List.filter_cons, if_neg (by simpa [here] using reached), ih later, shift, List.drop_succ_cons]

/-- The keys of a cut log and a batch behind it ascend. -/
theorem Consecutive.cut_pairwise {first : Nat} {batch : List Entry} (consecutive : Consecutive first batch)
    (tree : EntriesTree) :
    (tree.toList.filter (fun pair => pair.1 < first) ++ batch.map fun entry => (entry.index, entry)).Pairwise
      fun before after => before.1 < after.1 := by
  rw [List.pairwise_append, List.pairwise_map]
  refine ⟨OrderedTree.toList_pairwise.filter _, ?_, ?_⟩
  · rw [List.pairwise_iff_getElem]
    intro position later inside laterInside less
    rw [consecutive.getElem position inside, consecutive.getElem later laterInside]
    omega
  · intro old kept new inside
    obtain ⟨entry, member, rfl⟩ := List.mem_map.mp inside
    have below : old.1 < first := by simpa using (List.mem_filter.mp kept).2
    have above := (consecutive.mem member).1
    show old.1 < entry.index
    omega

/-- A cut log and a batch behind it are a listing of the lookups of both. -/
theorem Consecutive.toList_eq_cut_iff {first : Nat} {batch : List Entry} (consecutive : Consecutive first batch)
    {before after : EntriesTree} :
    after.toList =
        before.toList.filter (fun pair => pair.1 < first) ++ batch.map (fun entry => (entry.index, entry)) ↔
      ∀ key entry, after[key]? = some entry ↔
        (key < first ∧ before[key]? = some entry) ∨ (entry ∈ batch ∧ entry.index = key) := by
  have listed (key : Nat) (entry : Entry) :
      (key, entry) ∈ before.toList.filter (fun pair => pair.1 < first) ++
          batch.map (fun entry => (entry.index, entry)) ↔
        (key < first ∧ before[key]? = some entry) ∨ (entry ∈ batch ∧ entry.index = key) := by
    rw [List.mem_append, List.mem_filter, Std.ExtTreeMap.mem_toList_iff_getElem?_eq_some, List.mem_map,
      decide_eq_true_iff, and_comm]
    apply or_congr_right
    constructor
    · rintro ⟨member, inside, same⟩
      obtain ⟨rfl, rfl⟩ := Prod.mk.inj same
      exact ⟨inside, rfl⟩
    · rintro ⟨inside, rfl⟩
      exact ⟨entry, inside, rfl⟩
  constructor
  · intro same key entry
    rw [← listed, ← same, Std.ExtTreeMap.mem_toList_iff_getElem?_eq_some]
  · intro lookups
    apply OrderedTree.toList_eq_of_mem_iff
    · exact consecutive.cut_pairwise before
    · exact fun key entry => (listed key entry).trans (lookups key entry).symm

/-- The inserts of a batch overwrite its own indices and keep every other key. -/
theorem getElem?_replay_inserts {first : Nat} {batch : List Entry}
    (consecutive : Consecutive first batch) (db : Db) (key : Nat) :
    (db.replay (batch.map fun entry => .insertEntry entry.index entry)).entriesTree[key]? =
      if first ≤ key ∧ key < first + batch.length then batch[key - first]?
      else db.entriesTree[key]? := by
  induction batch generalizing first db with
  | nil => rw [if_neg (by simp)]; rfl
  | cons entry rest ih =>
      rw [List.map_cons, Db.replay_cons, ih consecutive.2]
      have inserted : (db.run (.insertEntry entry.index entry)).entriesTree[key]? =
          if entry.index = key then some entry else db.entriesTree[key]? :=
        OrderedTree.getElem?_insert entry.index key entry
      rw [inserted, consecutive.1, List.length_cons]
      by_cases later : first + 1 ≤ key ∧ key < first + 1 + rest.length
      · rw [if_pos later, if_pos (by omega)]
        have shift : key - first = key - (first + 1) + 1 := by omega
        rw [shift, List.getElem?_cons_succ]
      · rw [if_neg later]
        by_cases here : first = key
        · subst here
          rw [if_pos rfl, if_pos (by omega), Nat.sub_self, List.getElem?_cons_zero]
        · rw [if_neg here, if_neg (by omega)]

namespace DiskStorage

variable {storage : DiskStorage}

/-- A key is stored exactly when its entry is found. -/
theorem mem_iff_getEntry {key : Nat} :
    key ∈ storage.db.entriesTree ↔ ∃ entry, storage.getEntry key = some entry :=
  OrderedTree.mem_iff_getElem?

/-- The last index is the greatest stored key. -/
theorem lastIndex_of_greatest {last : Nat} (stored : last ∈ storage.db.entriesTree)
    (greatest : ∀ key ∈ storage.db.entriesTree, key ≤ last) : storage.lastIndex = last := by
  have ends : storage.db.entriesTree.keys.getLast? = some last :=
    OrderedTree.getLast?_keys_eq_some.mpr ⟨stored, greatest⟩
  rw [lastIndex, ends]

/-- Without entries the last index is that of the snapshot, or 0. -/
theorem lastIndex_of_empty (empty : ∀ key, key ∉ storage.db.entriesTree) :
    storage.lastIndex = (storage.db.snapshotsTree.map fun snapshot => snapshot.metadata.index).getD 0 := by
  rw [lastIndex, OrderedTree.getLast?_keys_eq_none.mpr empty, getLatestSnapshot]
  cases storage.db.snapshotsTree <;> rfl

/-- A stored log ends at its last index. -/
theorem lastIndex_cases (storage : DiskStorage) :
    (storage.lastIndex ∈ storage.db.entriesTree ∧
        ∀ key ∈ storage.db.entriesTree, key ≤ storage.lastIndex) ∨
      ∀ key, key ∉ storage.db.entriesTree := by
  cases ends : storage.db.entriesTree.keys.getLast? with
  | none => exact Or.inr (OrderedTree.getLast?_keys_eq_none.mp ends)
  | some last =>
      obtain ⟨stored, greatest⟩ := OrderedTree.getLast?_keys_eq_some.mp ends
      rw [lastIndex_of_greatest stored greatest]
      exact Or.inl ⟨stored, greatest⟩

/-- No stored key is above the last index. -/
theorem le_lastIndex {key : Nat} (stored : key ∈ storage.db.entriesTree) : key ≤ storage.lastIndex := by
  rcases lastIndex_cases storage with ⟨_, greatest⟩ | empty
  · exact greatest key stored
  · exact absurd stored (empty key)

/-- The log begins behind the snapshot or else with the first stored entry. -/
def logStart (storage : DiskStorage) : Nat :=
  match storage.getLatestSnapshot with
  | some snapshot => snapshot.metadata.index + 1
  | none =>
      match storage.db.entriesTree.keys.head? with
      | some key => key
      | none => 1

/-- A log with a snapshot starts behind it. -/
theorem logStart_of_snapshot {snapshot : Snapshot} (stored : storage.db.snapshotsTree = some snapshot) :
    storage.logStart = snapshot.metadata.index + 1 := by
  rw [logStart, getLatestSnapshot, stored]

/-- The first index adds one to the snapshot's index in a `u64`. -/
theorem firstIndex_of_snapshot {snapshot : Snapshot} (stored : storage.db.snapshotsTree = some snapshot)
    (build : Build) : storage.firstIndex build = build.succ snapshot.metadata.index := by
  rw [firstIndex, getLatestSnapshot, stored]

/-- The first index is the begin of the log exactly when the addition does not overflow. -/
theorem firstIndex_eq_iff {build : Build} : storage.firstIndex build = some storage.logStart ↔
    ∀ snapshot, storage.getLatestSnapshot = some snapshot → snapshot.metadata.index + 1 < UInt64.size := by
  rw [firstIndex, logStart]
  cases storage.getLatestSnapshot with
  | some snapshot => simpa using Build.succ_eq_some_iff
  | none => cases storage.db.entriesTree.keys.head? <;> simp

/-- A lookup above the snapshot reads the entries tree. -/
theorem term_of_logStart_le {index : Nat} (above : storage.logStart ≤ index) :
    storage.term index = match storage.getEntry index with
      | some entry => .ok entry.term
      | none => .error (.store .unavailable) := by
  unfold term
  cases stored : storage.getLatestSnapshot with
  | none => rfl
  | some snapshot =>
      rw [logStart_of_snapshot stored] at above
      simp only [show index ≠ snapshot.metadata.index by omega,
        show ¬ index < snapshot.metadata.index by omega, if_false]
      rfl

/-- A range read returns stored entries of its range only. -/
theorem entriesLoop_mem (encodedLen : Entry → Nat) (maxSize count index totalSize : Nat)
    (before found : List Entry)
    (read : entriesLoop encodedLen storage maxSize count index totalSize before = .ok found) :
    ∀ entry ∈ found, entry ∈ before ∨ ∃ key, index ≤ key ∧ storage.getEntry key = some entry := by
  induction count generalizing index totalSize before with
  | zero =>
      rw [entriesLoop, Except.ok.injEq] at read
      subst read
      exact fun entry inside => Or.inl inside
  | succ count ih =>
      rw [entriesLoop] at read
      cases stored : storage.getEntry index with
      | some next =>
          simp only [stored] at read
          split at read
          · rw [Except.ok.injEq] at read
            subst read
            exact fun entry inside => Or.inl inside
          · intro entry inside
            rcases ih _ _ _ read entry inside with old | ⟨key, above, same⟩
            · rcases List.mem_append.mp old with old | new
              · exact Or.inl old
              · rw [List.mem_singleton.mp new]
                exact Or.inr ⟨index, Nat.le_refl index, stored⟩
            · exact Or.inr ⟨key, by omega, same⟩
      | none =>
          simp only [stored] at read
          have kept : found = before := by
            split at read
            · split at read
              · cases read
              · exact (Except.ok.inj read).symm
            · exact (Except.ok.inj read).symm
          subst kept
          exact fun entry inside => Or.inl inside

/-- A read returns stored entries only. -/
theorem entries_mem {encodedLen : Entry → Nat} {low high : Nat} {maxSize : Option Nat}
    {found : List Entry} (read : storage.entries encodedLen low high maxSize = .ok found) :
    ∀ entry ∈ found, ∃ key, low ≤ key ∧ storage.getEntry key = some entry := by
  intro entry inside
  rcases entriesLoop_mem encodedLen _ _ _ _ _ _ read entry inside with nothing | stored
  · cases nothing
  · exact stored

end DiskStorage

end RaftATui
