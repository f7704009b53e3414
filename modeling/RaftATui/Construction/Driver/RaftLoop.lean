import RaftATui.Construction.Driver.CommandHandler
import RaftATui.Construction.Driver.ReadyProcessor

namespace RaftATui
open Machinery

inductive Input where
  | command (cmd : ServerCommand)
  | commandChannelClosed
  | message (msg : Message)
  | messageChannelClosed
  | shutdown
  | timeout
  deriving DecidableEq, Repr

/-- One turn of the loop receives an input and may find the tick interval elapsed. -/
structure Turn where
  input : Input
  elapsed : Bool
  deriving DecidableEq, Repr

namespace Driver

variable {X : Externals}

/-- A message that raft refuses is only logged. -/
def handleRaftMessage (msg : Message) : Attempt (Driver X) RaftLoopError Unit := do
  let _ ← Attempt.outcome (withRaft (X.raw.step msg))

def tick : Attempt (Driver X) RaftLoopError Unit :=
  Attempt.modify fun driver => { driver with raft := X.raw.tick driver.store driver.raft }

/-- The input phase tells whether the loop goes on. -/
def receive : Input → Attempt (Driver X) RaftLoopError Bool
  | .command cmd => do handleCommand cmd; pure true
  | .commandChannelClosed => Attempt.fail .commandChannelClosed
  | .message msg => do handleRaftMessage msg; pure true
  | .messageChannelClosed => Attempt.fail .messageChannelClosed
  | .shutdown => pure false
  | .timeout => pure true

def settle (elapsed : Bool) : Attempt (Driver X) RaftLoopError Unit := do
  Attempt.modify fun driver =>
    if elapsed then { driver with raft := X.raw.tick driver.store driver.raft } else driver
  let driver ← Attempt.get
  if X.raw.hasReady driver.store driver.raft then processReady else pure ()

/-- This is the loop over the turns that the surroundings offer. -/
def run : List Turn → Attempt (Driver X) RaftLoopError Unit
  | [] => pure ()
  | turn :: rest => do
      let goesOn ← receive turn.input
      if goesOn then do
        settle turn.elapsed
        run rest
      else pure ()

end Driver

inductive Action where
  | command (cmd : ServerCommand)
  | message (msg : Message)
  | tick
  | ready
  deriving DecidableEq, Repr

namespace Driver

variable {X : Externals}

def perform : Action → Attempt (Driver X) RaftLoopError Unit
  | .command cmd => handleCommand cmd
  | .message msg => handleRaftMessage msg
  | .tick => tick
  | .ready => processReady

/-- A run performs actions in any order and stops at the first error. -/
def performAll (actions : List Action) : Attempt (Driver X) RaftLoopError Unit :=
  Attempt.forEach perform actions

end Driver

end RaftATui
