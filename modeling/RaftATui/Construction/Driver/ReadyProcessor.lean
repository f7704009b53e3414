import RaftATui.Construction.Driver.EntryApplicator

namespace RaftATui
open Machinery

namespace Driver

variable {X : Externals}

/-- A message enters the trace when it is handed to the transport. A failed send is only logged. -/
def sendMessage (msg : Message) : Attempt (Driver X) RaftLoopError Unit := fun driver =>
  (.ok (), { driver with
    network := (X.send msg.to msg driver.network).2
    trace := driver.trace ++ [.send msg.to msg] })

def sendMessages (messages : List Message) : Attempt (Driver X) RaftLoopError Unit :=
  Attempt.forEach sendMessage messages

def applySnapshot (snapshot : Snapshot) : Attempt (Driver X) RaftLoopError Unit := do
  let snapshotIndex := snapshot.metadata.index
  let snapshotTerm := snapshot.metadata.term
  Attempt.relabel .storage (withStore (RaftStorage.applySnapshot X.mem snapshot))
  restoreSnapshot snapshot.data
  setAppliedIndex snapshotIndex
  notify (.systemMessage s!"📸 Applied snapshot at index {snapshotIndex} (term {snapshotTerm})")

def appendEntries (entries : List Entry) : Attempt (Driver X) RaftLoopError Unit :=
  Attempt.relabel .storage (withStore (RaftStorage.append X.mem entries))

def persistHardstate (hs : HardState) : Attempt (Driver X) RaftLoopError Unit :=
  Attempt.relabel .storage (withStore (RaftStorage.setHardstate X.mem hs))

def leadershipMessage (previous : Nat) (state : RaftState) : String :=
  if previous = 0 then s!"New leader elected: {state.leaderId} (term {state.term})"
  else s!"Leadership changed: {previous} → {state.leaderId} (term {state.term})"

/-- A changed leader is announced once the driver knows an earlier one. -/
def announceLeader (raftState : RaftState) : Option Nat → Attempt (Driver X) RaftLoopError Unit
  | some previous =>
      if previous ≠ raftState.leaderId ∧ raftState.leaderId ≠ 0 then
        notify (.systemMessage (leadershipMessage previous raftState))
      else pure ()
  | none => pure ()

def updateTuiState : Attempt (Driver X) RaftLoopError Unit := do
  let driver ← Attempt.get
  announceLeader driver.getState driver.previousLeaderId
  Attempt.modify fun later => { later with previousLeaderId := some driver.getState.leaderId }
  notify (.raftState driver.getState)

def takeReady : Attempt (Driver X) RaftLoopError Ready := fun driver =>
  let result := X.raw.ready driver.store driver.raft
  (.ok result.1, { driver with raft := result.2, trace := driver.trace ++ [.ready result.1] })

def advance (ready : Ready) : Attempt (Driver X) RaftLoopError LightReady := fun driver =>
  let result := X.raw.advance ready driver.store driver.raft
  (.ok result.1, { driver with raft := result.2, trace := driver.trace ++ [.light result.1] })

/-- The taken parts of a `Ready` are empty when it is handed back. -/
def Ready.taken (ready : Ready) : Ready :=
  { ready with messages := [], persistedMessages := [], committedEntries := [] }

def applySnapshotPart (ready : Ready) : Attempt (Driver X) RaftLoopError Unit :=
  if ready.snapshot.isEmpty then pure () else applySnapshot ready.snapshot

def appendEntriesPart (ready : Ready) : Attempt (Driver X) RaftLoopError Unit :=
  if ready.entries.isEmpty then pure () else appendEntries ready.entries

def persistHardstatePart (ready : Ready) : Attempt (Driver X) RaftLoopError Unit :=
  match ready.hs with
  | some hs => persistHardstate hs
  | none => pure ()

/-- The commit index of the light ready is only logged. -/
def processReady : Attempt (Driver X) RaftLoopError Unit := do
  let ready ← takeReady
  sendMessages ready.messages
  applySnapshotPart ready
  appendEntriesPart ready
  persistHardstatePart ready
  sendMessages ready.persistedMessages
  applyEntries ready.committedEntries
  updateTuiState
  let lightRd ← advance (Ready.taken ready)
  sendMessages lightRd.messages
  applyEntries lightRd.committedEntries

end Driver

end RaftATui
