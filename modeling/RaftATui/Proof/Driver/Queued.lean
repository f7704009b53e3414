import RaftATui.Proof.Driver.NodeLog

namespace RaftATui
open Machinery

/-- This raft keeps its own entries until a ready has handed them to the storage. Each message brings the batch of
a new leader, and each ready commits the entries that are next in the script. -/
structure QueuedRaft where
  role : StateRole
  offset : Nat
  unstable : List Entry
  consecutive : Consecutive offset unstable
  inbox : List (List Entry)
  commits : List (List Entry)

namespace QueuedRaft

/-- A leader with an empty log. -/
def begin (inbox commits : List (List Entry)) : QueuedRaft := ⟨.leader, 1, [], trivial, inbox, commits⟩

def propose (context data : Bytes) (_store : RaftStorage MemStorage) : Attempt QueuedRaft RaftError Unit := fun raft =>
  if raft.role = .leader then
    let entry : Entry := ⟨.entryNormal, 1, raft.offset + raft.unstable.length, data, context⟩
    (.ok (), { raft with
      unstable := raft.unstable ++ [entry]
      consecutive := raft.consecutive.append ⟨rfl, trivial⟩ })
  else (.error .proposalDropped, raft)

/-- The batch replaces all own entries, and the node follows its sender. -/
def step (_msg : Message) (_store : RaftStorage MemStorage) : Attempt QueuedRaft RaftError Unit := fun raft =>
  match raft.inbox with
  | (first :: rest) :: inbox =>
      if fits : Consecutive first.index (first :: rest) ∧ first.index ≤ raft.offset ∧ first ∉ raft.unstable then
        (.ok (), { raft with
          role := .follower
          offset := first.index
          unstable := first :: rest
          consecutive := fits.1
          inbox := inbox })
      else (.error (.other "raft: cannot step raft local message"), raft)
  | _ => (.error (.other "raft: cannot step raft local message"), raft)

def ready (_store : RaftStorage MemStorage) (raft : QueuedRaft) : Ready × QueuedRaft :=
  ({ Ready.default with
      entries := raft.unstable
      committedEntries := raft.commits.headD [] }, { raft with commits := raft.commits.tail })

def advance (_ready : Ready) (_store : RaftStorage MemStorage) (raft : QueuedRaft) : LightReady × QueuedRaft :=
  (.default, { raft with
    offset := raft.offset + raft.unstable.length
    unstable := []
    consecutive := trivial })

def raw : RawNodeApi QueuedRaft MemStorage ScriptedRaft.Change where
  id _ := 1
  term _ := 1
  role raft := raft.role
  leaderId _ := 1
  committed _ := 0
  clusterSize _ := 1
  propose := propose
  step := step
  tick _ raft := raft
  campaign _ := pure ()
  hasReady _ raft := !raft.unstable.isEmpty
  ready := ready
  advance := advance
  applyConfChange _ _ := Attempt.fail (.other "cannot leave a non-joint config")

end QueuedRaft

abbrev queued : Externals := { scripted with
  Raft := QueuedRaft
  raw := QueuedRaft.raw }

end RaftATui
