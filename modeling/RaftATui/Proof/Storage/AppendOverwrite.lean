import RaftATui.Proof.Storage.Log

namespace RaftATui
open Machinery

/-- Raft hands out a batch that continues or overwrites the stored log. -/
structure Handed (storage : DiskStorage) (batch : List Entry) : Prop where
  filled : batch ≠ []
  consecutive : Consecutive (batchFirst batch) batch
  above : storage.logStart ≤ batchFirst batch
  reaches : batchFirst batch ≤ storage.lastIndex + 1

/-- The stored log is its old part below the batch, then the batch, and nothing else. -/
structure Overwrites (storage : DiskStorage) (batch : List Entry) (next : DiskStorage) : Prop where
  log : next.db.entriesTree.toList =
    storage.db.entriesTree.toList.filter (fun pair => pair.1 < batchFirst batch) ++
      batch.map fun entry => (entry.index, entry)
  last : next.lastIndex = batchLast batch
  term : ∀ index, batchFirst batch ≤ index → next.term index =
    match batch[index - batchFirst batch]? with
    | some entry => .ok entry.term
    | none => .error (.store .unavailable)
  entries : ∀ encodedLen low high maxSize found,
    next.entries encodedLen low high maxSize = .ok found → ∀ entry ∈ found,
      entry ∈ batch ∨ ∃ key < batchFirst batch, storage.getEntry key = some entry

/-- The batch reaches the end of the stored log. -/
def Covers (storage : DiskStorage) (batch : List Entry) : Prop :=
  storage.lastIndex ≤ batchLast batch

/-- The property holds of each successful append of a run. -/
def EachAppend (property : DiskStorage → List Entry → DiskStorage → Prop) :
    DiskStorage → List (List Entry) → Prop
  | _, [] => True
  | storage, batch :: rest => ∀ next, DiskStorage.append batch storage = (.ok (), next) →
      property storage batch next ∧ EachAppend property next rest

namespace DiskStorage

variable {storage next : DiskStorage} {batch : List Entry}

/-- A successful append inserts its entries and keeps the other trees. -/
theorem append_getEntry {first : Nat} (consecutive : Consecutive first batch)
    (success : append batch storage = (.ok (), next)) (key : Nat) :
    next.getEntry key =
      if first ≤ key ∧ key < first + batch.length then batch[key - first]? else storage.getEntry key := by
  rw [append_eq_script] at success
  have replayed : next.db = (storage.db.replay
      (batch.map fun entry => .insertEntry entry.index entry)).run (.flush .entriesTree) := by
    rw [(script_ok success).1, appendOps, Db.replay_append]
    rfl
  rw [getEntry, replayed]
  exact getElem?_replay_inserts consecutive storage.db key

/-- Inserted entries keep the snapshot record. -/
theorem replay_inserts_snapshotsTree (db : Db) (entries : List Entry) :
    (db.replay (entries.map fun entry => .insertEntry entry.index entry)).snapshotsTree =
      db.snapshotsTree := by
  apply Db.replay_keeps Db.snapshotsTree
  rw [List.forall_mem_map]
  exact fun _ _ _ => rfl

/-- An append keeps the snapshot record. -/
theorem append_snapshotsTree (success : append batch storage = (.ok (), next)) :
    next.db.snapshotsTree = storage.db.snapshotsTree := by
  rw [append_eq_script] at success
  rw [(script_ok success).1, appendOps, Db.replay_append]
  exact replay_inserts_snapshotsTree storage.db batch

/-- The first index of a storage with a log or a snapshot survives an append. -/
theorem append_logStart_le (handed : Handed storage batch)
    (success : append batch storage = (.ok (), next)) : next.logStart ≤ batchFirst batch := by
  have filled := handed.filled
  have positive : 0 < batch.length := List.length_pos_iff.mpr filled
  have kept := append_snapshotsTree success
  have above := handed.above
  unfold logStart getLatestSnapshot at above ⊢
  rw [kept]
  cases stored : storage.db.snapshotsTree with
  | some snapshot => simpa only [stored] using above
  | none =>
      simp only [stored] at above ⊢
      have present : batchFirst batch ∈ next.db.entriesTree := by
        rw [mem_iff_getEntry, append_getEntry handed.consecutive success, if_pos (by omega),
          Nat.sub_self, List.getElem?_eq_getElem positive]
        exact ⟨_, rfl⟩
      cases begins : next.db.entriesTree.keys.head? with
      | some first => exact (OrderedTree.head?_keys_eq_some.mp begins).2 _ present
      | none =>
          rw [List.head?_eq_none_iff] at begins
          have listed := Std.ExtTreeMap.mem_keys.mpr present
          rw [begins] at listed
          cases listed

/-- A batch that reaches the end of the log leaves no other key behind its first index. -/
theorem append_getEntry_of_covers (handed : Handed storage batch) (covers : Covers storage batch)
    (success : append batch storage = (.ok (), next)) {key : Nat} (inside : batchFirst batch ≤ key) :
    next.getEntry key = batch[key - batchFirst batch]? := by
  rw [append_getEntry handed.consecutive success]
  have ends := handed.consecutive.last handed.filled
  split
  · rfl
  · have beyond : key ∉ storage.db.entriesTree := by
      intro stored
      have bound := le_lastIndex stored
      have reach : storage.lastIndex ≤ batchLast batch := covers
      omega
    rw [getEntry, OrderedTree.not_mem_iff_getElem?.mp beyond, List.getElem?_eq_none (by omega)]

/-- An append keeps the entries below its batch. -/
theorem append_getEntry_below (handed : Handed storage batch)
    (success : append batch storage = (.ok (), next)) {key : Nat} (below : key < batchFirst batch) :
    next.getEntry key = storage.getEntry key := by
  rw [append_getEntry handed.consecutive success, if_neg (by omega)]

end DiskStorage

open DiskStorage

/-- A batch that reaches the end of the log replaces the suffix. -/
theorem overwrites_of_covers {storage next : DiskStorage} {batch : List Entry}
    (handed : Handed storage batch) (covers : Covers storage batch)
    (success : DiskStorage.append batch storage = (.ok (), next)) :
    Overwrites storage batch next := by
  have filled := handed.filled
  have positive : 0 < batch.length := List.length_pos_iff.mpr filled
  have ends := handed.consecutive.last filled
  have tail {key : Nat} (inside : batchFirst batch ≤ key) :=
    append_getEntry_of_covers handed covers success inside
  have front {key : Nat} (below : key < batchFirst batch) := append_getEntry_below handed success below
  constructor
  case log =>
    apply handed.consecutive.toList_eq_cut_iff.mpr
    intro key entry
    change next.getEntry key = some entry ↔ (_ ∧ storage.getEntry key = some entry) ∨ _
    by_cases below : key < batchFirst batch
    · rw [front below]
      constructor
      · exact fun stored => Or.inl ⟨below, stored⟩
      · rintro (⟨_, stored⟩ | ⟨inside, rfl⟩)
        · exact stored
        · exact absurd below (Nat.not_lt.mpr (handed.consecutive.mem inside).1)
    · rw [tail (by omega)]
      constructor
      · intro stored
        obtain ⟨bound, same⟩ := List.getElem?_eq_some_iff.mp stored
        have place := handed.consecutive.getElem _ bound
        rw [same] at place
        exact Or.inr ⟨List.mem_of_getElem? stored, by omega⟩
      · rintro (⟨before, _⟩ | ⟨inside, rfl⟩)
        · exact absurd before below
        · exact (handed.consecutive.mem inside).2.2
  case last =>
    apply lastIndex_of_greatest
    · rw [mem_iff_getEntry, tail (by omega), List.getElem?_eq_getElem (by omega)]
      exact ⟨_, rfl⟩
    · intro key stored
      obtain ⟨entry, found⟩ := mem_iff_getEntry.mp stored
      by_cases inside : batchFirst batch ≤ key
      · rw [tail inside] at found
        obtain ⟨bound, _⟩ := List.getElem?_eq_some_iff.mp found
        omega
      · omega
  case term =>
    intro index inside
    have read := term_of_logStart_le (Nat.le_trans (append_logStart_le handed success) inside)
    rw [tail inside] at read
    exact read
  case entries =>
    intro encodedLen low high maxSize found read entry member
    obtain ⟨key, _, stored⟩ := entries_mem read entry member
    by_cases inside : batchFirst batch ≤ key
    · rw [tail inside] at stored
      exact Or.inl (List.mem_of_getElem? stored)
    · rw [front (by omega)] at stored
      exact Or.inr ⟨key, by omega, stored⟩

/-- A replaced suffix ends no later than the batch. -/
theorem covers_of_overwrites {storage next : DiskStorage} {batch : List Entry}
    (handed : Handed storage batch) (success : DiskStorage.append batch storage = (.ok (), next))
    (overwrites : Overwrites storage batch next) : Covers storage batch := by
  have ends := handed.consecutive.last handed.filled
  have positive : 0 < batch.length := List.length_pos_iff.mpr handed.filled
  unfold Covers
  rcases lastIndex_cases storage with ⟨stored, _⟩ | empty
  · by_contra beyond
    -- The old last entry lies behind the batch, so the append keeps it.
    obtain ⟨entry, found⟩ := mem_iff_getEntry.mp stored
    have kept : next.getEntry storage.lastIndex = some entry := by
      rw [append_getEntry handed.consecutive success, if_neg (by omega), found]
    have bound := le_lastIndex (mem_iff_getEntry.mpr ⟨entry, kept⟩)
    rw [overwrites.last] at bound
    exact beyond bound
  · have above := handed.above
    rw [lastIndex_of_empty empty]
    unfold logStart getLatestSnapshot at above
    cases stored : storage.db.snapshotsTree with
    | some snapshot =>
        simp only [stored, Option.map_some, Option.getD_some] at above ⊢
        omega
    | none =>
        simp only [Option.map_none, Option.getD_none]
        omega

/-- A batch overwrites the log exactly when it covers the stored tail. -/
theorem overwrites_iff_covers {storage next : DiskStorage} {batch : List Entry}
    (handed : Handed storage batch) (success : DiskStorage.append batch storage = (.ok (), next)) :
    Overwrites storage batch next ↔ Covers storage batch :=
  ⟨covers_of_overwrites handed success, fun covers => overwrites_of_covers handed covers success⟩

/-- A run replaces each suffix exactly when each batch reaches the end of the log before it. -/
theorem eachAppend_overwrites_iff (storage : DiskStorage) (batches : List (List Entry))
    (handed : EachAppend (fun before batch _ => Handed before batch) storage batches) :
    EachAppend Overwrites storage batches ↔
      EachAppend (fun before batch _ => Covers before batch) storage batches := by
  induction batches generalizing storage with
  | nil => exact Iff.rfl
  | cons batch rest ih =>
      apply forall_congr'
      intro next
      apply forall_congr'
      intro success
      obtain ⟨here, later⟩ := handed next success
      rw [overwrites_iff_covers here success, ih next later]

/-- A known success decides the head of a run. -/
theorem eachAppend_cons_iff {property : DiskStorage → List Entry → DiskStorage → Prop}
    {storage next : DiskStorage} {batch : List Entry} {rest : List (List Entry)}
    (success : DiskStorage.append batch storage = (.ok (), next)) :
    EachAppend property storage (batch :: rest) ↔
      property storage batch next ∧ EachAppend property next rest := by
  constructor
  · exact fun each => each next success
  · intro holds other otherSuccess
    obtain rfl : next = other := (Prod.mk.inj (success.symm.trans otherSuccess)).2
    exact holds

/-- This entry belongs to the given term and carries no command. -/
def plainEntry (term index : Nat) : Entry := ⟨.entryNormal, term, index, [], []⟩

/-- Three entries of term one are on disk. A new leader then overwrites the second one. -/
def staleTailBatches : List (List Entry) :=
  [[plainEntry 1 1, plainEntry 1 2, plainEntry 1 3], [plainEntry 2 2]]

/-- Raft may hand out the batches of the example. -/
theorem staleTail_handed :
    EachAppend (fun before batch _ => Handed before batch) (openDb Db.new []) staleTailBatches := by
  rw [staleTailBatches, eachAppend_cons_iff rfl, eachAppend_cons_iff rfl]
  exact ⟨⟨by decide, by decide, by decide, by decide⟩, ⟨by decide, by decide, by decide, by decide⟩, trivial⟩

/-- The third entry survives the shorter batch that replaces it. -/
theorem append_keeps_staleTail :
    EachAppend (fun before batch _ => Handed before batch) (openDb Db.new []) staleTailBatches ∧
      ¬ EachAppend Overwrites (openDb Db.new []) staleTailBatches := by
  refine ⟨staleTail_handed, fun each => ?_⟩
  rw [staleTailBatches, eachAppend_cons_iff rfl, eachAppend_cons_iff rfl] at each
  exact absurd each.2.1.last (by decide)

/-- A longer batch replaces the suffix of a two-entry log. -/
theorem eachAppend_overwrites_longer :
    EachAppend Overwrites (openDb Db.new [])
      [[plainEntry 1 1, plainEntry 1 2], [plainEntry 2 2, plainEntry 2 3]] := by
  apply (eachAppend_overwrites_iff (openDb Db.new [])
    [[plainEntry 1 1, plainEntry 1 2], [plainEntry 2 2, plainEntry 2 3]] ?_).mpr
  · rw [eachAppend_cons_iff rfl, eachAppend_cons_iff rfl]
    exact ⟨by unfold Covers; decide, by unfold Covers; decide, trivial⟩
  · rw [eachAppend_cons_iff rfl, eachAppend_cons_iff rfl]
    exact ⟨⟨by decide, by decide, by decide, by decide⟩,
      ⟨by decide, by decide, by decide, by decide⟩, trivial⟩

end RaftATui
