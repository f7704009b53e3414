import RaftATui.Construction.SocketAddr

/-
This file gives the gRPC service of a server and the answers that it maps to a status.
-/

namespace RaftATui
open Machinery

inductive Code where
  | failedPrecondition
  | internal
  deriving DecidableEq, Repr

structure Status where
  code : Code
  message : String
  metadata : Std.ExtTreeMap String String

namespace Status

def failedPrecondition (message : String) : Status := ⟨.failedPrecondition, message, ∅⟩

def internal (message : String) : Status := ⟨.internal, message, ∅⟩

end Status

abbrev PeerMap (Ip : Type) := Std.ExtTreeMap Nat (SocketAddr Ip)

structure RaftKvService (Ip : Type) where
  peersMap : PeerMap Ip

/-- This is `spawn_grpc_server` up to the service and its listener, and no result is a panic. -/
def spawnGrpcServer {Ip : Type} (build : Build) (myAddr : SocketAddr Ip) (peersMap : PeerMap Ip) :
    Option (SocketAddr Ip × RaftKvService Ip) := do
  let grpcAddr ← myAddr.grpc build
  if peersMap.toList.all fun peer => (peer.2.grpc build).isSome then
    some (grpcAddr, { peersMap := peersMap.map fun _ addr => { addr with port := addr.port + 1000 } })
  else none

structure GetResponse where
  value : String
  found : Bool

namespace RaftKvService

variable {Ip : Type}

def leaderId (error : String) : Option Nat := do
  let text ← Text.behind "Not leader: " error
  Text.parseUnsigned (2 ^ 64) (Text.trim text.toList)

/-- This is the status of a rejected command, which names the leader when the map has it. -/
def notLeader (text : SocketAddrText Ip) (service : RaftKvService Ip) (error : String) : Status :=
  let status := Status.failedPrecondition "Not the leader"
  match leaderId error with
  | none => status
  | some id =>
      match service.peersMap[id]? with
      | none => status
      | some addr => { status with
          metadata := (status.metadata.insert "x-raft-leader-id" (toString id)).insert
            "x-raft-leader-addr" (text.display addr) }

/-- This is `put` over the driver's answer, and no answer is a dropped sender. -/
def put (text : SocketAddrText Ip) (service : RaftKvService Ip) (delivered : Bool)
    (answer : Option (Except String Unit)) : Except Status Unit :=
  if !delivered then .error (.internal "Raft driver channel closed")
  else match answer with
    | some (.ok _) => .ok ()
    | some (.error error) =>
        if (Text.behind "Not leader" error).isSome then .error (service.notLeader text error)
        else .error (.internal s!"Raft error: {error}")
    | none => .error (.internal "Raft driver dropped callback")

/-- This is `get` over the driver's answer, and no answer is a dropped sender. -/
def get (delivered : Bool) (answer : Option (Option String)) : Except Status GetResponse :=
  if !delivered then .error (.internal "Raft driver channel closed")
  else match answer with
    | some (some val) => .ok { value := val, found := true }
    | some none => .ok { value := "", found := false }
    | none => .error (.internal "Raft driver dropped callback")

end RaftKvService

end RaftATui
