import RaftATui.Construction.Driver.State

namespace RaftATui
open Machinery

namespace Driver

variable {X : Externals}

def isLeader (driver : Driver X) : Bool := X.raw.role driver.raft == .leader

def getState (driver : Driver X) : RaftState where
  nodeId := X.raw.id driver.raft
  term := X.raw.term driver.raft
  role := X.raw.role driver.raft
  leaderId := X.raw.leaderId driver.raft
  commitIndex := X.raw.committed driver.raft
  appliedIndex := driver.store.appliedIndex
  clusterSize := X.raw.clusterSize driver.raft

def newUuid : Attempt (Driver X) RaftError Bytes := fun driver =>
  (.ok (driver.uuids driver.drawn), { driver with drawn := driver.drawn + 1 })

def insertCallback (id : Bytes) (callback : Option Channel) : Attempt (Driver X) RaftError Unit :=
  Attempt.modify fun driver =>
    match callback with
    | some channel => { driver with callbacks := driver.callbacks.insert id channel }
    | none => driver

/-- This is the call of `RawNode::propose`, which enters the trace with its result. -/
def rawPropose (id data : Bytes) (callback : Option Channel) : Attempt (Driver X) RaftError Unit :=
  fun driver =>
    let result := X.raw.propose id data driver.store driver.raft
    (result.1, { driver with
      raft := result.2
      trace := driver.trace ++ [.proposed id data callback result.1] })

def proposeCommand (key value : String) (callback : Option Channel) :
    Attempt (Driver X) RaftError Unit := do
  let driver ← Attempt.get
  if driver.isLeader then
    let callbackId ← newUuid
    let data := X.kvCodec.encodePutCommand key value
    insertCallback callbackId callback
    rawPropose callbackId data callback
  else Attempt.fail .proposalDropped

/-- This call removes the callback of a context and returns its channel. -/
def takeCallback {Error : Type} (context : Bytes) : Attempt (Driver X) Error (Option Channel) := fun driver =>
  (.ok driver.callbacks[context]?, { driver with callbacks := driver.callbacks.erase context })

end Driver

/-- This is `RaftNode::new` up to the volatile state, which the raft crate builds from the storage. -/
def RaftNode.newStore {Mem : Type} (mem : MemStorageApi Mem) (peers : List Nat)
    (storage : RaftStorage Mem) : RaftStorage Mem :=
  (RaftStorage.initializeWithConfState mem { voters := peers } storage).2

end RaftATui
