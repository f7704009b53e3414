import RaftATui.Construction.Driver.RaftNode

namespace RaftATui
open Machinery

inductive RpcCommand where
  | put (key value : String) (resp : Channel)
  | get (key : String) (resp : Channel)
  deriving DecidableEq, Repr

inductive ServerCommand where
  | user (cmd : UserCommand)
  | rpc (cmd : RpcCommand)
  deriving DecidableEq, Repr

/-- This is the display text of an error other than a dropped proposal. -/
def StorageError.display : StorageError → String
  | .compacted => "log compacted"
  | .unavailable => "log unavailable"
  | .snapshotOutOfDate => "snapshot out of date"
  | .other => "unknown error"

def RaftError.display : RaftError → String
  | .proposalDropped => "raft: proposal dropped"
  | .store error => error.display
  | .other display => display

namespace Driver

variable {X : Externals}

/-- A failed proposal of an RPC command is only logged. -/
def handleRpcCommand : RpcCommand → Attempt (Driver X) RaftLoopError Unit
  | .put key value resp => do
      let driver ← Attempt.get
      if driver.isLeader then
        let _ ← Attempt.outcome (proposeCommand key value (some resp))
      else reply resp (.error s!"Not leader: {driver.getState.leaderId}")
  | .get key resp => do
      let driver ← Attempt.get
      emit (.replyGet resp driver.kvNode.kv[key]?)

def leaderHint (leaderId : Nat) : String :=
  if leaderId = 0 then "no leader elected yet" else s!"leader is node {leaderId}"

def statusMessage (state : RaftState) : String :=
  s!"STATUS:\n  Node ID: {state.nodeId}\n  Term: {state.term}\n  Role: {state.role.debug}\n" ++
    s!"  Leader ID: {state.leaderId}\n  Cluster Size: {state.clusterSize} nodes\n" ++
    s!"  Commit Index: {state.commitIndex}\n  Applied Index: {state.appliedIndex}"

def applyLocally (cmd : UserCommand) : Attempt (Driver X) RaftLoopError NodeOutput := fun driver =>
  let result := Node.applyUserCommand X.quote cmd driver.kvNode
  (.ok result.1, { driver with kvNode := result.2 })

/-- A dropped proposal is reported as a missing leadership. -/
def reportProposal (key value : String) :
    Except RaftError Unit → Attempt (Driver X) RaftLoopError Unit
  | .ok _ => notify (.systemMessage s!"Proposed: PUT {key} = {value}")
  | .error .proposalDropped => do
      let driver ← Attempt.get
      let hint := leaderHint driver.getState.leaderId
      notify (.systemMessage s!"ERROR: Not leader ({hint}) - writes must go to leader")
  | .error error => notify (.systemMessage s!"Error: Failed to propose PUT ({error.display})")

def reportCampaign : Except RaftError Unit → Attempt (Driver X) RaftLoopError Unit
  | .ok _ => notify (.systemMessage "Starting election campaign")
  | .error _ => pure ()

def reportOutput : NodeOutput → Attempt (Driver X) RaftLoopError Unit
  | .text text => notify (.systemMessage text)
  | .none => pure ()

def handleUserCommand : UserCommand → Attempt (Driver X) RaftLoopError Unit
  | .put key value => do
      let result ← Attempt.outcome (proposeCommand key value none)
      reportProposal key value result
  | .campaign => do
      let result ← Attempt.outcome (withRaft X.raw.campaign)
      reportCampaign result
  | .status => do
      let driver ← Attempt.get
      notify (.systemMessage (statusMessage driver.getState))
  | .get key => do
      let output ← applyLocally (.get key)
      reportOutput output
  | .keys => do
      let output ← applyLocally .keys
      reportOutput output

def handleCommand : ServerCommand → Attempt (Driver X) RaftLoopError Unit
  | .user cmd => handleUserCommand cmd
  | .rpc cmd => handleRpcCommand cmd

end Driver

end RaftATui
