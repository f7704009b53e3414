import RaftATui.Construction.RaftStorage

/-
This file models raft-rs's `MemStorage`. Calls that the crate aborts on return the storage unchanged.
-/

namespace RaftATui

structure MemStorage where
  hardState : HardState
  confState : ConfState
  entries : List Entry
  snapshotMetadata : SnapshotMetadata
  deriving DecidableEq, Repr

namespace MemStorage

def new : MemStorage := ⟨.default, .default, [], ⟨.default, 0, 0⟩⟩

def firstIndex (mem : MemStorage) : Nat :=
  match mem.entries.head? with
  | some entry => entry.index
  | none => mem.snapshotMetadata.index + 1

def lastIndex (mem : MemStorage) : Nat :=
  match mem.entries.getLast? with
  | some entry => entry.index
  | none => mem.snapshotMetadata.index

def append (batch : List Entry) (mem : MemStorage) : Except RaftError Unit × MemStorage :=
  match batch.head? with
  | none => (.ok (), mem)
  | some entry =>
      if entry.index < mem.firstIndex ∨ mem.lastIndex + 1 < entry.index then (.error (.store .other), mem)
      else (.ok (), { mem with entries := mem.entries.take (entry.index - mem.firstIndex) ++ batch })

def applySnapshot (snapshot : Snapshot) (mem : MemStorage) : Except RaftError Unit × MemStorage :=
  if snapshot.metadata.index < mem.firstIndex then (.error (.store .snapshotOutOfDate), mem)
  else (.ok (), {
    hardState := { mem.hardState with
      term := max mem.hardState.term snapshot.metadata.term
      commit := snapshot.metadata.index }
    confState := snapshot.metadata.confState
    entries := []
    snapshotMetadata := snapshot.metadata })

def compact (compactIndex : Nat) (mem : MemStorage) : Except RaftError Unit × MemStorage :=
  if compactIndex ≤ mem.firstIndex ∨ mem.lastIndex + 1 < compactIndex then (.ok (), mem)
  else (.ok (), { mem with entries := mem.entries.drop (compactIndex - mem.firstIndex) })

def getEntry (mem : MemStorage) (index : Nat) : Option Entry :=
  if index < mem.firstIndex then none else mem.entries[index - mem.firstIndex]?

def term (mem : MemStorage) (index : Nat) : Except RaftError Nat :=
  if index = mem.snapshotMetadata.index then .ok mem.snapshotMetadata.term
  else if index < mem.firstIndex then .error (.store .compacted)
  else match mem.getEntry index with
    | some entry => .ok entry.term
    | none => .error (.store .unavailable)

def limitSize (encodedLen : Entry → Nat) (maxSize : Nat) : (total : Nat) → List Entry → List Entry
  | _, [] => []
  | total, entry :: rest =>
      if total ≠ 0 ∧ maxSize < total + encodedLen entry then []
      else entry :: limitSize encodedLen maxSize (total + encodedLen entry) rest

def range (encodedLen : Entry → Nat) (mem : MemStorage) (low high : Nat) (maxSize : Option Nat) :
    Except RaftError (List Entry) :=
  if low < mem.firstIndex then .error (.store .compacted)
  else
    let found := (mem.entries.drop (low - mem.firstIndex)).take (high - low)
    match maxSize with
    | some size => .ok (limitSize encodedLen size 0 found)
    | none => .ok found

/-- The snapshot describes the committed log and carries no data. -/
def snapshot (mem : MemStorage) (requestIndex _to : Nat) : Except RaftError Snapshot :=
  let term := match mem.getEntry mem.hardState.commit with
    | some entry => entry.term
    | none => mem.snapshotMetadata.term
  .ok ⟨[], ⟨mem.confState, max mem.hardState.commit requestIndex, term⟩⟩

def api (encodedLen : Entry → Nat) : MemStorageApi MemStorage where
  new := new
  initializeWithConfState confState mem := { mem with confState := confState }
  append := append
  applySnapshot := applySnapshot
  setHardstate hs mem := { mem with hardState := hs }
  setConfState cs mem := { mem with confState := cs }
  compact := compact
  initialState mem := (mem.hardState, mem.confState)
  entries := range encodedLen
  term := term
  firstIndex := firstIndex
  lastIndex := lastIndex
  snapshot := snapshot

end MemStorage

end RaftATui
