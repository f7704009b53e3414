import RaftATui.Construction.RaftStorage
import RaftATui.Construction.Node

/-
This file states what the driver owns and the crates that it calls.
-/

namespace RaftATui
open Machinery

/-- These are the calls of raft-rs's `RawNode` over its volatile state and its storage. -/
structure RawNodeApi (Raft Mem Change : Type) where
  id : Raft → Nat
  term : Raft → Nat
  role : Raft → StateRole
  leaderId : Raft → Nat
  committed : Raft → Nat
  clusterSize : Raft → Nat
  propose : (context data : Bytes) → RaftStorage Mem → Attempt Raft RaftError Unit
  step : Message → RaftStorage Mem → Attempt Raft RaftError Unit
  tick : RaftStorage Mem → Raft → Raft
  campaign : RaftStorage Mem → Attempt Raft RaftError Unit
  hasReady : RaftStorage Mem → Raft → Bool
  ready : RaftStorage Mem → Raft → Ready × Raft
  advance : Ready → RaftStorage Mem → Raft → LightReady × Raft
  applyConfChange : Change → RaftStorage Mem → Attempt Raft RaftError ConfState

structure Externals where
  Raft : Type
  Mem : Type
  Change : Type
  Network : Type
  raw : RawNodeApi Raft Mem Change
  mem : MemStorageApi Mem
  decodeConfChange : Bytes → Except String Change
  decodeConfChangeV2 : Bytes → Except String Change
  send : («to» : Nat) → Message → Attempt Network TransportError Unit
  kvCodec : KvCodec
  snapshotCodec : SnapshotCodec
  quote : String → String

/-- A oneshot sender is named by its channel. -/
abbrev Channel := Nat

structure RaftState where
  nodeId : Nat
  term : Nat
  role : StateRole
  leaderId : Nat
  commitIndex : Nat
  appliedIndex : Nat
  clusterSize : Nat
  deriving DecidableEq, Repr

inductive StateUpdate where
  | raftState (state : RaftState)
  | kvUpdate (key value : String)
  | logEntry (index term : Nat) (data : String)
  | systemMessage (text : String)
  deriving DecidableEq, Repr

inductive RaftLoopError where
  | commandChannelClosed
  | messageChannelClosed
  | storage (error : RaftError)
  | other (text : String)
  deriving DecidableEq, Repr

/-- The trace lists what the driver exchanged with its surroundings, in order. -/
inductive Effect where
  | ready (rd : Ready)
  | light (rd : LightReady)
  | proposed (id data : Bytes) (callback : Option Channel) (result : Except RaftError Unit)
  | sled (op : SledOp)
  | send («to» : Nat) (msg : Message)
  | notify (update : StateUpdate)
  | reply (channel : Channel) (result : Except String Unit)
  | replyGet (channel : Channel) (value : Option String)
  | applied (entry : Entry) (kv : KvMap)

/-- This is `RaftDriver` with its `RaftNode` and its trace. `tuiOpen` tells for each length of the trace
whether the receiver of the updates is still there. -/
structure Driver (X : Externals) where
  raft : X.Raft
  store : RaftStorage X.Mem
  callbacks : Std.ExtTreeMap Bytes Channel
  kvNode : Node
  network : X.Network
  previousLeaderId : Option Nat
  tuiOpen : Nat → Bool
  uuids : Nat → Bytes
  drawn : Nat
  trace : List Effect

namespace RaftStorage

variable {Mem : Type}

def journal : RaftStorage Mem → List SledOp
  | .memory _ _ => []
  | .disk storage => storage.journal

def clearJournal : RaftStorage Mem → RaftStorage Mem
  | .memory inner appliedIndex => .memory inner appliedIndex
  | .disk storage => .disk { storage with journal := [] }

end RaftStorage

namespace Driver

variable {X : Externals} {Error Value : Type}

def emit (effect : Effect) : Attempt (Driver X) Error Unit :=
  Attempt.modify fun driver => { driver with trace := driver.trace ++ [effect] }

/-- A storage call appends its completed sled calls to the trace. -/
def withStore (call : Attempt (RaftStorage X.Mem) RaftError Value) :
    Attempt (Driver X) RaftError Value := fun driver =>
  let result := call driver.store.clearJournal
  (result.1, { driver with
    store := result.2
    trace := driver.trace ++ result.2.journal.map .sled })

/-- A raft call reads the storage and changes the volatile state only. -/
def withRaft (call : RaftStorage X.Mem → Attempt X.Raft RaftError Value) :
    Attempt (Driver X) RaftError Value := fun driver =>
  let result := call driver.store driver.raft
  (result.1, { driver with raft := result.2 })

/-- This is `state_tx.send`, whose result every caller ignores. -/
def notify (update : StateUpdate) : Attempt (Driver X) Error Unit := do
  let driver ← Attempt.get
  if driver.tuiOpen driver.trace.length then emit (.notify update) else pure ()

/-- This is a oneshot `send` to a waiting PUT, whose result every caller ignores. -/
def reply (channel : Channel) (result : Except String Unit) : Attempt (Driver X) Error Unit :=
  emit (.reply channel result)

end Driver

end RaftATui
