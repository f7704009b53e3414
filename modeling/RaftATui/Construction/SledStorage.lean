import Mathlib.Algebra.GroupWithZero.Nat
import RaftATui.Construction.Bincode
import RaftATui.Construction.DiskStorage
import RaftATui.Library.Framing

/-
This file models the sled storage down to the bytes that it writes. Generated code encodes the raft records.
A tree of sled iterates its keys in lexicographic order.
-/

namespace RaftATui
open Machinery
open Protobuf (utf8)

def indexToKey (index : UInt64) : Bytes := Framing.bigEndian 8 index.toNat

/-- No result is the panic on a key of another length. -/
def keyToIndex (key : Bytes) : Option UInt64 :=
  if key.length = 8 then some (UInt64.ofNat (Framing.fromBigEndian key)) else none

@[simp] theorem length_indexToKey (index : UInt64) : (indexToKey index).length = 8 :=
  Framing.length_bigEndian 8 index.toNat

structure RecordCodec (Record : Type) where
  encode : Record → Except String Bytes
  decode : Bytes → Except String Record

structure RecordCodecs where
  hardState : RecordCodec HardState
  confState : RecordCodec ConfState
  entry : RecordCodec Entry
  snapshot : RecordCodec Snapshot

abbrev SledTree := Std.ExtTreeMap Bytes Bytes

structure EntryTree where
  tree : SledTree
  keyed : ∀ key ∈ tree, key.length = 8

namespace EntryTree

def new : EntryTree := ⟨∅, fun _ stored => absurd stored Std.ExtTreeMap.not_mem_empty⟩

def insert (index : UInt64) (value : Bytes) (entries : EntryTree) : EntryTree where
  tree := entries.tree.insert (indexToKey index) value
  keyed key stored := by
    rcases Std.ExtTreeMap.mem_insert.mp stored with same | before
    · rw [← Std.LawfulEqOrd.compare_eq_iff_eq.mp same, length_indexToKey]
    · exact entries.keyed key before

def remove (key : Bytes) (entries : EntryTree) : EntryTree where
  tree := entries.tree.erase key
  keyed key stored := entries.keyed key (Std.ExtTreeMap.mem_of_mem_erase stored)

def firstKey (entries : EntryTree) : Option Bytes := entries.tree.keys.head?

def lastKey (entries : EntryTree) : Option Bytes := entries.tree.keys.getLast?

end EntryTree

structure SledTrees where
  metaTree : SledTree
  entriesTree : EntryTree
  snapshotsTree : SledTree

def SledTrees.new : SledTrees := ⟨∅, .new, ∅⟩

/-- These are the sled calls of the mutating storage functions with their bytes. -/
inductive TreeCall where
  | insertMeta (key value : Bytes)
  | insertEntry (index : UInt64) (value : Bytes)
  | removeEntry (key : Bytes)
  | insertSnapshot (key value : Bytes)
  | iterNext
  | flush (tree : TreeName)

def SledTrees.run (trees : SledTrees) : TreeCall → SledTrees
  | .insertMeta key value => { trees with metaTree := trees.metaTree.insert key value }
  | .insertEntry index value => { trees with entriesTree := trees.entriesTree.insert index value }
  | .removeEntry key => { trees with entriesTree := trees.entriesTree.remove key }
  | .insertSnapshot key value => { trees with snapshotsTree := trees.snapshotsTree.insert key value }
  | .iterNext => trees
  | .flush _ => trees

structure SledStorage where
  trees : SledTrees
  appliedIndex : Nat
  faults : List Bool
  journal : List TreeCall

namespace SledStorage

/-- This is `open`. The applied index is written by bincode. -/
def openTrees (trees : SledTrees) (faults : List Bool) : Except String SledStorage :=
  match trees.metaTree[utf8 "applied_index"]? with
  | some bytes =>
      match (Bincode.decodeLen bytes).1 with
      | .ok index => .ok { trees, appliedIndex := index, faults, journal := [] }
      | .error error => .error error
  | none => .ok { trees, appliedIndex := 0, faults, journal := [] }

/-- One sled call fails without effect, or it completes and enters the journal. -/
def call (op : TreeCall) : Attempt SledStorage RaftError Unit := fun storage =>
  if storage.faults.headD false then
    (.error (.store .other), { storage with faults := storage.faults.tail })
  else
    (.ok (), { storage with
      trees := storage.trees.run op
      faults := storage.faults.tail
      journal := storage.journal ++ [op] })

def encodeProto {Record : Type} (codec : RecordCodec Record) (record : Record) : Attempt SledStorage RaftError Bytes :=
  match codec.encode record with
  | .ok bytes => pure bytes
  | .error _ => Attempt.fail (.store .other)

def setAppliedIndex (index : Nat) : Attempt SledStorage RaftError Unit := do
  Attempt.modify fun storage => { storage with appliedIndex := index }
  call (.insertMeta (utf8 "applied_index") (Bincode.encodeLen index))
  call (.flush .metaTree)

section Calls

variable (codecs : RecordCodecs)

def append (entries : List Entry) : Attempt SledStorage RaftError Unit := do
  Attempt.forEach (fun entry => do
    let value ← encodeProto codecs.entry entry
    call (.insertEntry (UInt64.ofNat entry.index) value)) entries
  call (.flush .entriesTree)

/-- No key of the tree panics in `key_to_index`. -/
def keyIndex (key : Bytes) : Option Nat := (keyToIndex key).map UInt64.toNat

def keysUpTo (index : Nat) : Attempt SledStorage RaftError (List Bytes) := do
  let keys := (← Attempt.get).trees.entriesTree.tree.keys
  Attempt.forEach (fun _ => call .iterNext) keys
  pure (keys.filter fun key => (keyIndex key).any (· ≤ index))

def applySnapshot (snapshot : Snapshot) : Attempt SledStorage RaftError Unit := do
  let snapshotBytes ← encodeProto codecs.snapshot snapshot
  call (.insertSnapshot (utf8 "latest") snapshotBytes)
  let confBytes ← encodeProto codecs.confState snapshot.metadata.confState
  call (.insertMeta (utf8 "confstate") confBytes)
  let toRemove ← keysUpTo snapshot.metadata.index
  Attempt.forEach (fun key => call (.removeEntry key)) toRemove
  call (.flush .snapshotsTree)
  call (.flush .metaTree)
  call (.flush .entriesTree)

def setHardstate (hs : HardState) : Attempt SledStorage RaftError Unit := do
  let bytes ← encodeProto codecs.hardState hs
  call (.insertMeta (utf8 "hardstate") bytes)
  call (.flush .metaTree)

def setConfState (cs : ConfState) : Attempt SledStorage RaftError Unit := do
  let bytes ← encodeProto codecs.confState cs
  call (.insertMeta (utf8 "confstate") bytes)
  call (.flush .metaTree)

def compact (compactIndex : Nat) : Attempt SledStorage RaftError Unit := do
  let toRemove ← keysUpTo compactIndex
  Attempt.forEach (fun key => call (.removeEntry key)) toRemove
  call (.flush .entriesTree)

/-- A value that does not decode is a storage error. -/
def decodeProto {Record : Type} (codec : RecordCodec Record) : Option Bytes → Except RaftError (Option Record)
  | some bytes =>
      match codec.decode bytes with
      | .ok record => .ok (some record)
      | .error _ => .error (.store .other)
  | none => .ok none

def getLatestSnapshot (storage : SledStorage) : Except RaftError (Option Snapshot) :=
  decodeProto codecs.snapshot storage.trees.snapshotsTree[utf8 "latest"]?

def getEntry (storage : SledStorage) (index : Nat) : Except RaftError (Option Entry) :=
  decodeProto codecs.entry storage.trees.entriesTree.tree[indexToKey (UInt64.ofNat index)]?

def initialState (storage : SledStorage) : Except RaftError (HardState × ConfState) := do
  let hardState ← decodeProto codecs.hardState storage.trees.metaTree[utf8 "hardstate"]?
  let confState ← decodeProto codecs.confState storage.trees.metaTree[utf8 "confstate"]?
  .ok (hardState.getD .default, confState.getD .default)

/-- This loop reads `count` indices from `index` on. -/
def entriesLoop (encodedLen : Entry → Nat) (storage : SledStorage) (maxSize : Nat) :
    (count index totalSize : Nat) → List Entry → Except RaftError (List Entry)
  | 0, _, _, entries => .ok entries
  | count + 1, index, totalSize, entries =>
      match storage.getEntry codecs index with
      | .error error => .error error
      | .ok (some entry) =>
          if totalSize + encodedLen entry > maxSize ∧ entries ≠ [] then .ok entries
          else entriesLoop encodedLen storage maxSize count (index + 1)
            (totalSize + encodedLen entry) (entries ++ [entry])
      | .ok none =>
          match storage.getLatestSnapshot codecs with
          | .error error => .error error
          | .ok (some snapshot) =>
              if index ≤ snapshot.metadata.index then .error (.store .compacted) else .ok entries
          | .ok none => .ok entries

def entries (encodedLen : Entry → Nat) (storage : SledStorage) (low high : Nat)
    (maxSize : Option Nat) : Except RaftError (List Entry) :=
  entriesLoop codecs encodedLen storage (maxSize.getD (2 ^ 64 - 1)) (high - low) low 0 []

def term (storage : SledStorage) (index : Nat) : Except RaftError Nat :=
  match storage.getLatestSnapshot codecs with
  | .error error => .error error
  | .ok (some snapshot) =>
      if index = snapshot.metadata.index then .ok snapshot.metadata.term
      else if index < snapshot.metadata.index then .error (.store .compacted)
      else stored
  | .ok none => stored
where
  stored := match storage.getEntry codecs index with
    | .error error => .error error
    | .ok (some entry) => .ok entry.term
    | .ok none => .error (.store .unavailable)

/-- No result is a panic on a key or of an overflow. -/
def firstIndex (build : Build) (storage : SledStorage) : Option (Except RaftError Nat) :=
  match storage.getLatestSnapshot codecs with
  | .error error => some (.error error)
  | .ok (some snapshot) => (build.succ snapshot.metadata.index).map .ok
  | .ok none =>
      match storage.trees.entriesTree.firstKey with
      | some key => (keyIndex key).map .ok
      | none => some (.ok 1)

/-- No result is a panic on a key. -/
def lastIndex (storage : SledStorage) : Option (Except RaftError Nat) :=
  match storage.trees.entriesTree.lastKey with
  | some key => (keyIndex key).map .ok
  | none =>
      match storage.getLatestSnapshot codecs with
      | .error error => some (.error error)
      | .ok (some snapshot) => some (.ok snapshot.metadata.index)
      | .ok none => some (.ok 0)

def snapshot (storage : SledStorage) (_requestIndex _to : Nat) : Except RaftError Snapshot := do
  let latest ← storage.getLatestSnapshot codecs
  .ok (latest.getD .default)

end Calls

end SledStorage

end RaftATui
