import Mathlib.Algebra.GroupWithZero.Nat
import RaftATui.Library.Attempt
import RaftATui.Construction.RaftTypes

/-
This file models the sled storage. Reads of sled and the decoding of written records succeed.
-/

namespace RaftATui
open Machinery

structure MetaTree where
  hardstate : Option HardState
  confstate : Option ConfState
  appliedIndex : Option Nat
  deriving DecidableEq

abbrev EntriesTree := Std.ExtTreeMap Nat Entry

structure Db where
  metaTree : MetaTree
  entriesTree : EntriesTree
  snapshotsTree : Option Snapshot

def Db.new : Db := ⟨⟨none, none, none⟩, ∅, none⟩

inductive TreeName where
  | metaTree
  | entriesTree
  | snapshotsTree
  deriving DecidableEq, Repr

inductive SledOp where
  | insertHardstate (hs : HardState)
  | insertConfstate (cs : ConfState)
  | insertAppliedIndex (index : Nat)
  | insertEntry (key : Nat) (entry : Entry)
  | removeEntry (key : Nat)
  | insertSnapshot (snapshot : Snapshot)
  | iterNext
  | flush (tree : TreeName)
  deriving DecidableEq, Repr

/-- This function is the effect of one completed sled call. -/
def Db.run (db : Db) : SledOp → Db
  | .insertHardstate hs => { db with metaTree := { db.metaTree with hardstate := some hs } }
  | .insertConfstate cs => { db with metaTree := { db.metaTree with confstate := some cs } }
  | .insertAppliedIndex index => { db with metaTree := { db.metaTree with appliedIndex := some index } }
  | .insertEntry key entry => { db with entriesTree := db.entriesTree.insert key entry }
  | .removeEntry key => { db with entriesTree := db.entriesTree.erase key }
  | .insertSnapshot snapshot => { db with snapshotsTree := some snapshot }
  | .iterNext => db
  | .flush _ => db

/-- The handle caches the applied index. It also lists the failures to come and the completed calls. -/
structure DiskStorage where
  db : Db
  appliedIndex : Nat
  faults : List Bool
  journal : List SledOp

namespace DiskStorage

def openDb (db : Db) (faults : List Bool) : DiskStorage :=
  { db, appliedIndex := db.metaTree.appliedIndex.getD 0, faults, journal := [] }

/-- One sled call fails without effect, or it completes and enters the journal. -/
def sled (op : SledOp) : Attempt DiskStorage RaftError Unit := fun storage =>
  if storage.faults.headD false then
    (.error (.store .other), { storage with faults := storage.faults.tail })
  else
    (.ok (), { storage with
      db := storage.db.run op
      faults := storage.faults.tail
      journal := storage.journal ++ [op] })

/-- The cached copy changes before the write that may fail. -/
def setAppliedIndex (index : Nat) : Attempt DiskStorage RaftError Unit := do
  Attempt.modify fun storage => { storage with appliedIndex := index }
  sled (.insertAppliedIndex index)
  sled (.flush .metaTree)

def append (entries : List Entry) : Attempt DiskStorage RaftError Unit := do
  Attempt.forEach (fun entry => sled (.insertEntry entry.index entry)) entries
  sled (.flush .entriesTree)

def keysUpTo (index : Nat) : Attempt DiskStorage RaftError (List Nat) := do
  let keys := (← Attempt.get).db.entriesTree.keys
  Attempt.forEach (fun _ => sled .iterNext) keys
  pure (keys.filter (· ≤ index))

def applySnapshot (snapshot : Snapshot) : Attempt DiskStorage RaftError Unit := do
  sled (.insertSnapshot snapshot)
  sled (.insertConfstate snapshot.metadata.confState)
  let toRemove ← keysUpTo snapshot.metadata.index
  Attempt.forEach (fun key => sled (.removeEntry key)) toRemove
  sled (.flush .snapshotsTree)
  sled (.flush .metaTree)
  sled (.flush .entriesTree)

def setHardstate (hs : HardState) : Attempt DiskStorage RaftError Unit := do
  sled (.insertHardstate hs)
  sled (.flush .metaTree)

def setConfState (cs : ConfState) : Attempt DiskStorage RaftError Unit := do
  sled (.insertConfstate cs)
  sled (.flush .metaTree)

def compact (compactIndex : Nat) : Attempt DiskStorage RaftError Unit := do
  let toRemove ← keysUpTo compactIndex
  Attempt.forEach (fun key => sled (.removeEntry key)) toRemove
  sled (.flush .entriesTree)

def getLatestSnapshot (storage : DiskStorage) : Option Snapshot := storage.db.snapshotsTree

def getEntry (storage : DiskStorage) (index : Nat) : Option Entry := storage.db.entriesTree[index]?

def initialState (storage : DiskStorage) : HardState × ConfState :=
  (storage.db.metaTree.hardstate.getD .default, storage.db.metaTree.confstate.getD .default)

/-- This loop reads `count` indices from `index` on. -/
def entriesLoop (encodedLen : Entry → Nat) (storage : DiskStorage) (maxSize : Nat) :
    (count index totalSize : Nat) → List Entry → Except RaftError (List Entry)
  | 0, _, _, entries => .ok entries
  | count + 1, index, totalSize, entries =>
      match storage.getEntry index with
      | some entry =>
          if totalSize + encodedLen entry > maxSize ∧ entries ≠ [] then .ok entries
          else entriesLoop encodedLen storage maxSize count (index + 1)
            (totalSize + encodedLen entry) (entries ++ [entry])
      | none =>
          match storage.getLatestSnapshot with
          | some snapshot =>
              if index ≤ snapshot.metadata.index then .error (.store .compacted) else .ok entries
          | none => .ok entries

def entries (encodedLen : Entry → Nat) (storage : DiskStorage) (low high : Nat)
    (maxSize : Option Nat) : Except RaftError (List Entry) :=
  entriesLoop encodedLen storage (maxSize.getD (2 ^ 64 - 1)) (high - low) low 0 []

def term (storage : DiskStorage) (index : Nat) : Except RaftError Nat :=
  match storage.getLatestSnapshot with
  | some snapshot =>
      if index = snapshot.metadata.index then .ok snapshot.metadata.term
      else if index < snapshot.metadata.index then .error (.store .compacted)
      else stored
  | none => stored
where
  stored := match storage.getEntry index with
    | some entry => .ok entry.term
    | none => .error (.store .unavailable)

/-- No result is the panic of an overflow. -/
def firstIndex (build : Build) (storage : DiskStorage) : Option Nat :=
  match storage.getLatestSnapshot with
  | some snapshot => build.succ snapshot.metadata.index
  | none =>
      match storage.db.entriesTree.keys.head? with
      | some key => some key
      | none => some 1

def lastIndex (storage : DiskStorage) : Nat :=
  match storage.db.entriesTree.keys.getLast? with
  | some key => key
  | none =>
      match storage.getLatestSnapshot with
      | some snapshot => snapshot.metadata.index
      | none => 0

def snapshot (storage : DiskStorage) (_requestIndex _to : Nat) : Snapshot :=
  storage.getLatestSnapshot.getD .default

end DiskStorage

end RaftATui
