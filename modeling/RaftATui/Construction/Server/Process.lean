import RaftATui.Construction.Driver.RaftLoop
import RaftATui.Construction.Server.Tui
import RaftATui.Library.Queue

/-
This file models the threads of one server process and the channels between them.
-/

namespace RaftATui.Server
open Machinery

/-- The TUI's loop first takes all updates that wait and then polls for a key, until it is left with a result. -/
inductive Phase where
  | draining
  | polling
  | left (result : Except String Unit)

/-- The exit is the result of the driver's loop, and a quit of the TUI sets the shutdown signal. -/
structure Process (X : Externals) where
  tui : Tui
  phase : Phase
  driver : Driver X
  exit : Option (Except RaftLoopError Unit)
  commands : Queue ServerCommand
  stateUpdates : Queue StateUpdate
  shutdown : Bool

/-- A poll fails with the terminal, times out or brings a key. -/
inductive Event where
  | tryRecv
  | poll (polled : Except String (Option KeyEvent))
  | request (cmd : RpcCommand)
  | turn (turn : Turn)

namespace Process

variable {X : Externals}

/-- The receiver of the updates outlives the driver's loop. -/
def start (nodeId : Nat) (driver : Driver X) : Process X where
  tui := .new nodeId
  phase := .draining
  driver := { driver with tuiOpen := fun _ => true }
  exit := none
  commands := .empty
  stateUpdates := .empty
  shutdown := false

def tryRecv (process : Process X) : Option (Process X) :=
  match process.phase with
  | .draining =>
      match process.stateUpdates.receive with
      | some (update, updates) => some { process with
          tui := { process.tui with app := process.tui.app.applyStateUpdate update }
          stateUpdates := updates }
      | none => some { process with phase := .polling }
  | _ => none

/-- A quit leaves the loop, and its signal fails when the driver is gone. -/
def quit (process : Process X) : Process X :=
  if process.exit.isSome then { process with phase := .left (.error "sending on a disconnected channel") }
  else { process with phase := .left (.ok ()), shutdown := true }

/-- The TUI handles a key and sends its command, if it has one. -/
def press (key : KeyEvent) (process : Process X) : Option (Process X) :=
  (process.tui.handleKeyEvent process.exit.isNone key).map fun handled =>
    let fed := { process with
      tui := handled.2
      commands := process.commands.sendAll ((handled.2.sent.drop process.tui.sent.length).map .user) }
    match handled.1 with
    | .error error => { fed with phase := .left (.error error) }
    | .ok .quit => fed.quit
    | .ok .«continue» => { fed with phase := .draining }

def poll (polled : Except String (Option KeyEvent)) (process : Process X) : Option (Process X) :=
  match process.phase, polled with
  | .polling, .error error => some { process with phase := .left (.error error) }
  | .polling, .ok none => some { process with phase := .draining }
  | .polling, .ok (some key) => process.press key
  | _, _ => none

/-- The service takes a request only while the driver's loop runs. -/
def request (cmd : RpcCommand) (process : Process X) : Option (Process X) :=
  if process.exit.isSome then none else some { process with commands := process.commands.sendAll [.rpc cmd] }

/-- A turn receives what is there to receive. The senders of commands outlive the loop. -/
def take (input : Input) (process : Process X) : Option (Process X) :=
  match input with
  | .command cmd =>
      match process.commands.receive with
      | some (first, commands) => if first = cmd then some { process with commands := commands } else none
      | none => none
  | .commandChannelClosed => none
  | .shutdown => if process.shutdown then some process else none
  | _ => some process

/-- The updates of a turn enter their channel, and the loop ends by an error or a shutdown. -/
def finish (turn : Turn) (result : Except RaftLoopError Unit × Driver X) (process : Process X) : Process X :=
  { process with
    driver := result.2
    stateUpdates := process.stateUpdates.sendAll ((updates result.2.trace).drop (updates process.driver.trace).length)
    exit := match result.1 with
      | .error error => some (.error error)
      | .ok _ => if turn.input = .shutdown then some (.ok ()) else none }

def turn (turn : Turn) (process : Process X) : Option (Process X) :=
  if process.exit.isSome then none
  else (process.take turn.input).map fun taken => taken.finish turn (Driver.run [turn] taken.driver)

/-- No result is an event that cannot happen now, or a panic. -/
def step : Event → Process X → Option (Process X)
  | .tryRecv => tryRecv
  | .poll polled => poll polled
  | .request cmd => request cmd
  | .turn turn => Process.turn turn

/-- The events come in any order that is possible. -/
def run : List Event → Process X → Option (Process X)
  | [], process => some process
  | event :: rest, process => (process.step event).bind (run rest)

end Process

end RaftATui.Server
