import RaftATui.Construction.DiskStorage

/-
This file models the storage enum over both backends. The memory backend is raft-rs's own.
-/

namespace RaftATui
open Machinery

structure MemStorageApi (Mem : Type) where
  new : Mem
  initializeWithConfState : ConfState → Mem → Mem
  append : List Entry → Mem → Except RaftError Unit × Mem
  applySnapshot : Snapshot → Mem → Except RaftError Unit × Mem
  setHardstate : HardState → Mem → Mem
  setConfState : ConfState → Mem → Mem
  compact : Nat → Mem → Except RaftError Unit × Mem
  initialState : Mem → HardState × ConfState
  entries : Mem → (low high : Nat) → Option Nat → Except RaftError (List Entry)
  term : Mem → Nat → Except RaftError Nat
  firstIndex : Mem → Nat
  lastIndex : Mem → Nat
  snapshot : Mem → (requestIndex «to» : Nat) → Except RaftError Snapshot

inductive RaftStorage (Mem : Type) where
  | memory (inner : Mem) (appliedIndex : Nat)
  | disk (storage : DiskStorage)

namespace RaftStorage

variable {Mem : Type}

/-- One call runs the arm of the stored backend and keeps the other data. -/
def both {Value : Type} (onMemory : Mem → Except RaftError Value × Mem)
    (onDisk : Attempt DiskStorage RaftError Value) :
    Attempt (RaftStorage Mem) RaftError Value
  | .memory inner appliedIndex => ((onMemory inner).1, .memory (onMemory inner).2 appliedIndex)
  | .disk storage => ((onDisk storage).1, .disk (onDisk storage).2)

def new (mem : MemStorageApi Mem) : RaftStorage Mem := .memory mem.new 0

def newWithDisk (db : Db) (faults : List Bool) : RaftStorage Mem := .disk (.openDb db faults)

/-- The disk is initialized only without voters. The result of the install is ignored. -/
def initializeDisk (confState : ConfState) : Attempt DiskStorage RaftError Unit := do
  let disk ← Attempt.get
  if disk.initialState.2.voters.isEmpty then
    let _ ← (Attempt.outcome (DiskStorage.applySnapshot ⟨[], ⟨confState, 0, 0⟩⟩) :
      Attempt DiskStorage RaftError (Except RaftError Unit))
  else pure ()

def initializeWithConfState (mem : MemStorageApi Mem) (confState : ConfState) :
    Attempt (RaftStorage Mem) RaftError Unit :=
  both (fun inner => (.ok (), mem.initializeWithConfState confState inner)) (initializeDisk confState)

def appliedIndex : RaftStorage Mem → Nat
  | .memory _ appliedIndex => appliedIndex
  | .disk storage => storage.appliedIndex

def setAppliedIndex (index : Nat) : Attempt (RaftStorage Mem) RaftError Unit
  | .memory inner _ => (.ok (), .memory inner index)
  | .disk storage => ((DiskStorage.setAppliedIndex index storage).1,
      .disk (DiskStorage.setAppliedIndex index storage).2)

def append (mem : MemStorageApi Mem) (entries : List Entry) : Attempt (RaftStorage Mem) RaftError Unit :=
  both (mem.append entries) (DiskStorage.append entries)

def applySnapshot (mem : MemStorageApi Mem) (snapshot : Snapshot) :
    Attempt (RaftStorage Mem) RaftError Unit :=
  both (mem.applySnapshot snapshot) (DiskStorage.applySnapshot snapshot)

def setHardstate (mem : MemStorageApi Mem) (hs : HardState) : Attempt (RaftStorage Mem) RaftError Unit :=
  both (fun inner => (.ok (), mem.setHardstate hs inner)) (DiskStorage.setHardstate hs)

def setConfState (mem : MemStorageApi Mem) (cs : ConfState) : Attempt (RaftStorage Mem) RaftError Unit :=
  both (fun inner => (.ok (), mem.setConfState cs inner)) (DiskStorage.setConfState cs)

def compact (mem : MemStorageApi Mem) (compactIndex : Nat) : Attempt (RaftStorage Mem) RaftError Unit :=
  both (mem.compact compactIndex) (DiskStorage.compact compactIndex)

def initialState (mem : MemStorageApi Mem) : RaftStorage Mem → HardState × ConfState
  | .memory inner _ => mem.initialState inner
  | .disk storage => storage.initialState

def entries (mem : MemStorageApi Mem) (encodedLen : Entry → Nat) (low high : Nat)
    (maxSize : Option Nat) : RaftStorage Mem → Except RaftError (List Entry)
  | .memory inner _ => mem.entries inner low high maxSize
  | .disk storage => storage.entries encodedLen low high maxSize

def term (mem : MemStorageApi Mem) (index : Nat) : RaftStorage Mem → Except RaftError Nat
  | .memory inner _ => mem.term inner index
  | .disk storage => storage.term index

def firstIndex (mem : MemStorageApi Mem) (build : Build) : RaftStorage Mem → Option Nat
  | .memory inner _ => some (mem.firstIndex inner)
  | .disk storage => storage.firstIndex build

def lastIndex (mem : MemStorageApi Mem) : RaftStorage Mem → Nat
  | .memory inner _ => mem.lastIndex inner
  | .disk storage => storage.lastIndex

def snapshot (mem : MemStorageApi Mem) (requestIndex «to» : Nat) :
    RaftStorage Mem → Except RaftError Snapshot
  | .memory inner _ => mem.snapshot inner requestIndex «to»
  | .disk storage => .ok (storage.snapshot requestIndex «to»)

end RaftStorage

end RaftATui
