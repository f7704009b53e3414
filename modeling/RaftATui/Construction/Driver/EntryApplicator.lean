import RaftATui.Construction.Driver.RaftNode

namespace RaftATui
open Machinery

namespace Driver

variable {X : Externals}

/-- The state machine runs one command. The trace records the map that results. -/
def applyKvCommand (entry : Entry) : Attempt (Driver X) RaftLoopError (Except String Unit) := fun driver =>
  let result := Node.applyKvCommand X.kvCodec entry.data driver.kvNode
  (.ok result.1, { driver with
    kvNode := result.2
    trace := driver.trace ++ [.applied entry result.2.kv] })

def acceptCallback (entry : Entry) : Attempt (Driver X) RaftLoopError Unit := do
  match ← takeCallback entry.context with
  | some callback => reply callback (.ok ())
  | none => pure ()

def notifyKvUpdate (entry : Entry) : Attempt (Driver X) RaftLoopError Unit :=
  match X.kvCodec.decode entry.data with
  | .ok ⟨some put⟩ => do
      notify (.kvUpdate put.key put.value)
      notify (.logEntry entry.index entry.term s!"PUT {put.key} = {put.value}")
      acceptCallback entry
  | .ok ⟨none⟩ => pure ()
  | .error _ => pure ()

def setAppliedIndex (index : Nat) : Attempt (Driver X) RaftLoopError Unit :=
  Attempt.relabel .storage (withStore (RaftStorage.setAppliedIndex index))

/-- A command that does not decode answers its own callback with the reason. -/
def rejectCallback (entry : Entry) (text : String) : Attempt (Driver X) RaftLoopError Unit := do
  match ← takeCallback entry.context with
  | some callback => reply callback (.error s!"Apply failed: {text}")
  | none => pure ()

def reportApplied (entry : Entry) : Except String Unit → Attempt (Driver X) RaftLoopError Unit
  | .ok _ => notifyKvUpdate entry
  | .error text => rejectCallback entry text

def applyNormalEntry (entry : Entry) : Attempt (Driver X) RaftLoopError Unit := do
  let result ← applyKvCommand entry
  reportApplied entry result
  setAppliedIndex entry.index

/-- An accepted change is persisted with the configuration that raft returned. -/
def persistConfState (entry : Entry) (cs : ConfState) : Attempt (Driver X) RaftLoopError Unit := do
  Attempt.relabel .storage (withStore (RaftStorage.setConfState X.mem cs))
  setAppliedIndex entry.index

/-- Both conf-change handlers differ in the decoder only. -/
def applyConfEntry (decode : Bytes → Except String X.Change) (entry : Entry) :
    Attempt (Driver X) RaftLoopError Unit :=
  match decode entry.data with
  | .error _ => pure ()
  | .ok change => do
      match ← Attempt.outcome (withRaft (X.raw.applyConfChange change)) with
      | .error _ => pure ()
      | .ok cs => persistConfState entry cs

def applyConfChange (entry : Entry) : Attempt (Driver X) RaftLoopError Unit :=
  applyConfEntry X.decodeConfChange entry

def applyConfChangeV2 (entry : Entry) : Attempt (Driver X) RaftLoopError Unit :=
  applyConfEntry X.decodeConfChangeV2 entry

/-- This is the loop body of `apply_entries`. An empty entry is skipped whatever its type is. -/
def applyEntry (entry : Entry) : Attempt (Driver X) RaftLoopError Unit :=
  if entry.data.isEmpty then pure ()
  else match entry.entryType with
    | .entryNormal => applyNormalEntry entry
    | .entryConfChange => applyConfChange entry
    | .entryConfChangeV2 => applyConfChangeV2 entry

def applyEntries (entries : List Entry) : Attempt (Driver X) RaftLoopError Unit :=
  Attempt.forEach applyEntry entries

def restoreSnapshot (snapshotData : Bytes) : Attempt (Driver X) RaftLoopError Unit := fun driver =>
  let result := Node.restoreFromSnapshot X.snapshotCodec snapshotData driver.kvNode
  (result.1.mapError fun error => .other s!"Failed to restore snapshot: {error.display}",
    { driver with kvNode := result.2 })

end Driver

end RaftATui
