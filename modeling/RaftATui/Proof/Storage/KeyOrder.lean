import RaftATui.Construction.SledStorage
import RaftATui.Library.OrderedTree

namespace RaftATui
open Machinery

/-- An index fits into eight bytes. -/
theorem toNat_lt_pow (index : UInt64) : index.toNat < 256 ^ 8 := index.toNat_lt

/-- The number of a key is its index. -/
theorem fromBigEndian_indexToKey (index : UInt64) :
    Framing.fromBigEndian (indexToKey index) = index.toNat := by
  rw [indexToKey, Framing.fromBigEndian_bigEndian, Nat.mod_eq_of_lt (toNat_lt_pow index)]

/-- An index is read back from its key. -/
theorem keyToIndex_indexToKey (index : UInt64) : keyToIndex (indexToKey index) = some index := by
  rw [keyToIndex, if_pos (length_indexToKey index), fromBigEndian_indexToKey, UInt64.ofNat_toNat]

/-- Every key of eight bytes is the key of one index. -/
theorem indexToKey_of_length {key : Bytes} (eight : key.length = 8) :
    indexToKey (UInt64.ofNat (Framing.fromBigEndian key)) = key := by
  have small : Framing.fromBigEndian key < UInt64.size := by
    have bound := Framing.fromBigEndian_lt key
    rwa [eight] at bound
  have written := Framing.bigEndian_fromBigEndian key
  rwa [eight, ← UInt64.toNat_ofNat_of_lt small] at written

/-- Keys are ordered exactly as their indices are. -/
theorem indexToKey_lt_iff (first second : UInt64) :
    indexToKey first < indexToKey second ↔ first < second := by
  rw [indexToKey, indexToKey, Framing.bigEndian_lt_iff, Nat.mod_eq_of_lt (toNat_lt_pow first),
    Nat.mod_eq_of_lt (toNat_lt_pow second), UInt64.lt_iff_toNat_lt]

/-- Different indices have different keys. -/
theorem indexToKey_injective {first second : UInt64} (same : indexToKey first = indexToKey second) :
    first = second := by
  have read := congrArg Framing.fromBigEndian same
  rw [fromBigEndian_indexToKey, fromBigEndian_indexToKey] at read
  exact UInt64.toNat_inj.mp read

namespace EntryTree

variable {entries : EntryTree}

/-- The tree has the key of the index. -/
def Stored (entries : EntryTree) (index : UInt64) : Prop := indexToKey index ∈ entries.tree

/-- A listed key is the key of the index that it decodes to. -/
theorem exists_index {key : Bytes} (listed : key ∈ entries.tree.keys) :
    ∃ index, key = indexToKey index ∧ entries.Stored index := by
  have inside := Std.ExtTreeMap.mem_keys.mp listed
  have written := indexToKey_of_length (entries.keyed key inside)
  refine ⟨_, written.symm, ?_⟩
  rwa [Stored, written]

/-- The keys ascend in lexicographic order. -/
theorem keys_pairwise (entries : EntryTree) : entries.tree.keys.Pairwise (· < ·) :=
  Std.ExtTreeMap.ordered_keys.imp (Framing.compare_eq_lt_iff_lt _ _).mp

/-- Ordered keys have ordered indices. -/
theorem le_of_keys {first second : UInt64} (ordered : indexToKey first < indexToKey second ∨
    indexToKey first = indexToKey second) : first ≤ second := by
  rcases ordered with less | same
  · exact UInt64.le_of_lt ((indexToKey_lt_iff first second).mp less)
  · rw [indexToKey_injective same]
    exact UInt64.le_refl second

/-- The first key decodes to the least stored index. -/
theorem firstKey_least {stored : UInt64} (inside : entries.Stored stored) :
    ∃ least, entries.firstKey = some (indexToKey least) ∧ entries.Stored least ∧
      ∀ index, entries.Stored index → least ≤ index := by
  have listed := Std.ExtTreeMap.mem_keys.mpr inside
  have sorted := entries.keys_pairwise
  cases begins : entries.tree.keys with
  | nil =>
      rw [begins] at listed
      cases listed
  | cons key rest =>
      rw [begins] at sorted
      obtain ⟨least, rfl, kept⟩ := exists_index (begins ▸ List.mem_cons_self : key ∈ entries.tree.keys)
      refine ⟨least, by rw [firstKey, begins, List.head?_cons], kept, fun index other => le_of_keys ?_⟩
      have behind := Std.ExtTreeMap.mem_keys.mpr other
      rw [begins] at behind
      rcases List.mem_cons.mp behind with same | later
      · exact Or.inr same.symm
      · exact Or.inl (List.rel_of_pairwise_cons sorted later)

/-- The last key decodes to the greatest stored index. -/
theorem lastKey_greatest {stored : UInt64} (inside : entries.Stored stored) :
    ∃ greatest, entries.lastKey = some (indexToKey greatest) ∧ entries.Stored greatest ∧
      ∀ index, entries.Stored index → index ≤ greatest := by
  have filled : entries.tree.keys ≠ [] := List.ne_nil_of_mem (Std.ExtTreeMap.mem_keys.mpr inside)
  have split := List.dropLast_append_getLast filled
  have sorted := entries.keys_pairwise
  obtain ⟨greatest, last, kept⟩ := exists_index (List.getLast_mem filled)
  rw [last] at split
  refine ⟨greatest, ?_, kept, fun index other => le_of_keys ?_⟩
  · rw [lastKey, ← split, List.getLast?_concat]
  · have before := Std.ExtTreeMap.mem_keys.mpr other
    rw [← split] at before sorted
    rcases List.mem_append.mp before with earlier | same
    · exact Or.inl ((List.pairwise_append.mp sorted).2.2 _ earlier _ List.mem_cons_self)
    · exact Or.inr (List.mem_singleton.mp same)

end EntryTree

/-- The reader of a key gives its index. -/
theorem keyIndex_indexToKey (index : UInt64) : SledStorage.keyIndex (indexToKey index) = some index.toNat := by
  rw [SledStorage.keyIndex, keyToIndex_indexToKey, Option.map_some]

/-- The order of the keys is the order of the indices, and the bounds of the log are the ends of the tree. -/
theorem keyOrder :
    (∀ index : UInt64, keyToIndex (indexToKey index) = some index) ∧
      (∀ first second : UInt64, indexToKey first < indexToKey second ↔ first < second) ∧
      ∀ (codecs : RecordCodecs) (storage : SledStorage) (stored : UInt64),
        storage.trees.entriesTree.Stored stored →
        ∃ least greatest : UInt64,
          (storage.trees.entriesTree.Stored least ∧
            ∀ index, storage.trees.entriesTree.Stored index → least ≤ index) ∧
          (storage.trees.entriesTree.Stored greatest ∧
            ∀ index, storage.trees.entriesTree.Stored index → index ≤ greatest) ∧
          storage.trees.entriesTree.firstKey.bind keyToIndex = some least ∧
          storage.trees.entriesTree.lastKey.bind keyToIndex = some greatest ∧
          (storage.getLatestSnapshot codecs = .ok none →
            ∀ build, storage.firstIndex codecs build = some (.ok least.toNat)) ∧
          storage.lastIndex codecs = some (.ok greatest.toNat) := by
  refine ⟨keyToIndex_indexToKey, indexToKey_lt_iff, fun codecs storage stored inside => ?_⟩
  obtain ⟨least, first, least_stored, least_le⟩ := EntryTree.firstKey_least inside
  obtain ⟨greatest, last, greatest_stored, le_greatest⟩ := EntryTree.lastKey_greatest inside
  refine ⟨least, greatest, ⟨least_stored, least_le⟩, ⟨greatest_stored, le_greatest⟩, ?_, ?_, ?_, ?_⟩
  · rw [first, Option.bind_some, keyToIndex_indexToKey]
  · rw [last, Option.bind_some, keyToIndex_indexToKey]
  · intro none build
    simp only [SledStorage.firstIndex, none, first, keyIndex_indexToKey, Option.map_some]
  · simp only [SledStorage.lastIndex, last, keyIndex_indexToKey, Option.map_some]

end RaftATui
