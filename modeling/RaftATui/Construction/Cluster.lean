import RaftATui.Construction.Driver.RaftLoop
import RaftATui.Construction.TcpNetwork

/-
This file models the servers of a cluster, which own a driver each and reach each other over TCP.
-/

namespace RaftATui
open Machinery
open Tcp (TcpTransport PeerSender ConnectionId Handler Surroundings Fabric NetEvent)

abbrev Externals.overTcp (X : Externals) : Externals := { X with Network := TcpTransport, send := TcpTransport.send }

/-- The channels of each driver are its transport's queues and its inbox, of which it has taken some messages. -/
structure Cluster (X : Externals) where
  drivers : Nat → Driver X.overTcp
  running : Nat → Bool
  taken : Nat → Nat
  senders : (src dst : Nat) → PeerSender
  handlers : ConnectionId → Handler
  inboxes : Nat → List (ConnectionId × Message)

/-- The threads of all servers run in any order. -/
inductive ClusterEvent where
  | command (node : Nat) (cmd : ServerCommand)
  | tick (node : Nat)
  | ready (node : Nat)
  | receive (node : Nat)
  | transmit (src dst : Nat)
  | arrive (id : ConnectionId) (count : Nat)
  | read (id : ConnectionId)
  | stop (id : ConnectionId)
  deriving DecidableEq, Repr

namespace Cluster

variable {X : Externals}

def start (drivers : Nat → Driver X.overTcp) : Cluster X :=
  ⟨drivers, fun _ => true, fun _ => 0, fun _ _ => .start, fun _ => .start, fun _ => []⟩

def fabric (cluster : Cluster X) : Fabric :=
  ⟨fun node => (cluster.drivers node).network, cluster.senders, cluster.handlers, cluster.inboxes⟩

def setDriver (node : Nat) (driver : Driver X.overTcp) (cluster : Cluster X) : Cluster X :=
  { cluster with drivers := Function.update cluster.drivers node driver }

/-- A driver that returns an error takes no more actions. -/
def act (node : Nat) (action : Action) (cluster : Cluster X) : Cluster X :=
  if cluster.running node then
    match Driver.perform action (cluster.drivers node) with
    | (.ok (), after) => cluster.setDriver node after
    | (.error _, after) => { cluster.setDriver node after with
        running := Function.update cluster.running node false }
  else cluster

def receive (node : Nat) (cluster : Cluster X) : Cluster X :=
  match (cluster.inboxes node)[cluster.taken node]? with
  | some delivery =>
      if cluster.running node then
        { cluster.act node (.message delivery.2) with
          taken := Function.update cluster.taken node (cluster.taken node + 1) }
      else cluster
  | none => cluster

/-- The network threads leave the drivers but for the queues of their transports. -/
def move (world : Surroundings) (event : NetEvent) (cluster : Cluster X) : Cluster X :=
  let after := cluster.fabric.step world event
  { cluster with
    drivers := fun node => { cluster.drivers node with network := after.transports node }
    senders := after.senders
    handlers := after.handlers
    inboxes := after.inboxes }

def step (world : Surroundings) (cluster : Cluster X) : ClusterEvent → Cluster X
  | .command node cmd => cluster.act node (.command cmd)
  | .tick node => cluster.act node .tick
  | .ready node => cluster.act node .ready
  | .receive node => cluster.receive node
  | .transmit src dst => cluster.move world (.transmit src dst)
  | .arrive id count => cluster.move world (.arrive id count)
  | .read id => cluster.move world (.read id)
  | .stop id => cluster.move world (.stop id)

def run (world : Surroundings) (events : List ClusterEvent) (cluster : Cluster X) : Cluster X :=
  events.foldl (step world) cluster

def stepped (cluster : Cluster X) (node : Nat) : List Message :=
  ((cluster.inboxes node).take (cluster.taken node)).map Prod.snd

end Cluster

end RaftATui
