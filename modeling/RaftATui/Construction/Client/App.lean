import RaftATui.Construction.Server.RaftKvService

/-
This file gives the client's hint of the leader and its attempts of a PUT.
-/

namespace RaftATui.Client
open Machinery

/-- This is the client's `App` without its input line, and the peer list is never empty. -/
structure App where
  messages : List String
  peers : List String
  leaderAddr : Option String
  peers_nonempty : 0 < peers.length

inductive Dial where
  | refused
  | answered (result : Except Status Unit)

def grpcUrl {Ip : Type} (text : SocketAddrText Ip) (addr : SocketAddr Ip) : String :=
  "http://" ++ text.display addr

def withScheme (addr : String) : String :=
  if (Text.behind "http" addr).isSome then addr else "http://" ++ addr

/-- This is the address of the leader in the metadata of a rejected PUT. -/
def redirectTarget {Ip : Type} (text : SocketAddrText Ip) (status : Status) : Option (SocketAddr Ip) :=
  if status.code = .failedPrecondition then
    status.metadata["x-raft-leader-addr"]?.bind fun newAddr =>
      if newAddr.toList.all isVisible then text.parse newAddr else none
  else none

namespace App

variable {Ip : Type}

/-- The number picks a peer as the random choice does. -/
def getTargetAddr (app : App) (pick : Nat) : String :=
  match app.leaderAddr with
  | some leader => leader
  | none => app.peers.get ⟨pick % app.peers.length, Nat.mod_lt _ app.peers_nonempty⟩

/-- This is the error branch of an attempt, and no result is a panic. -/
def handleStatus (text : SocketAddrText Ip) (build : Build) (status : Status) (app : App) : Option App :=
  match redirectTarget text status with
  | none => some { app with leaderAddr := none }
  | some socketAddr =>
      (socketAddr.grpc build).map fun grpcSocket => { app with
        messages := app.messages ++ [s!"Redirecting to leader: {grpcUrl text grpcSocket}"]
        leaderAddr := some (grpcUrl text grpcSocket) }

/-- This is one attempt of a PUT, which tells whether the command is done. -/
def putAttempt (text : SocketAddrText Ip) (build : Build) (pick : Nat) (dial : String → Dial) (app : App) :
    Option (Bool × App) :=
  match dial (withScheme (app.getTargetAddr pick)) with
  | .refused => some (false, { app with leaderAddr := none })
  | .answered (.ok _) => some (true, app)
  | .answered (.error status) => (app.handleStatus text build status).map fun after => (false, after)

def putAttempts (text : SocketAddrText Ip) (build : Build) (picks : Nat → Nat)
    (dials : Nat → String → Dial) : Nat → App → Option (Except String Unit × App)
  | 0, app => some (.error "Max retries exceeded", app)
  | left + 1, app => do
      let (done, after) ← app.putAttempt text build (picks left) (dials left)
      if done then some (.ok (), after) else putAttempts text build picks dials left after

/-- This is `App::put` with its five attempts. -/
def put (text : SocketAddrText Ip) (build : Build) (picks : Nat → Nat) (dials : Nat → String → Dial)
    (app : App) : Option (Except String Unit × App) := app.putAttempts text build picks dials 5

end App

end RaftATui.Client
