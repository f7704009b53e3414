import RaftATui.Construction.TcpTransport
import RaftATui.Library.OrderedTree

/-
This file models the TCP transports of all nodes with their sender threads, connections and handler threads.
-/

namespace RaftATui.Tcp
open Machinery

structure PeerQueue where
  waiting : List Message
  connected : Bool
  deriving DecidableEq, Repr

def PeerQueue.unbounded : PeerQueue := ⟨[], true⟩

structure TcpTransport where
  nodeId : Nat
  peerSenders : Std.ExtTreeMap Nat PeerQueue

namespace TcpTransport

/-- No sender is spawned for the node itself. -/
def new (nodeId : Nat) (peers : List Nat) : TcpTransport where
  nodeId := nodeId
  peerSenders := (peers.filter (· ≠ nodeId)).foldl (fun senders peer => senders.insert peer .unbounded) ∅

/-- The transport fills in the sender of each message. -/
def send («to» : Nat) (msg : Message) : Attempt TcpTransport TransportError Unit := fun transport =>
  match transport.peerSenders[«to»]? with
  | some queue =>
      if queue.connected then
        let queued := { queue with waiting := queue.waiting ++ [{ msg with sender := transport.nodeId }] }
        (.ok (), { transport with peerSenders := transport.peerSenders.insert «to» queued })
      else (.error (.channelClosed «to»), transport)
  | none => (.error (.peerNotFound «to»), transport)

def receive (peer : Nat) (transport : TcpTransport) : Option (Message × TcpTransport) :=
  match transport.peerSenders[peer]? with
  | some ⟨msg :: rest, connected⟩ => some (msg, { transport with
      peerSenders := transport.peerSenders.insert peer ⟨rest, connected⟩ })
  | _ => none

def waiting (transport : TcpTransport) (peer : Nat) : List Message :=
  (transport.peerSenders[peer]?.map PeerQueue.waiting).getD []

def reaches (transport : TcpTransport) (peer : Nat) : Bool :=
  (transport.peerSenders[peer]?.map PeerQueue.connected).getD false

end TcpTransport

structure ConnectionId where
  src : Nat
  dst : Nat
  number : Nat
  deriving DecidableEq, Repr

/-- This is the thread of one accepted connection with the bytes that arrived so far. -/
structure Handler where
  arrived : Nat
  unread : Bytes
  finished : Bool
  deriving DecidableEq, Repr

namespace Handler

def start : Handler := ⟨0, [], false⟩

def arrive (written : Bytes) (count : Nat) (handler : Handler) : Handler :=
  let more := (written.drop handler.arrived).take count
  { handler with arrived := handler.arrived + more.length, unread := handler.unread ++ more }

/-- A read that asks for more bytes than arrived waits. -/
def blocked : IoError := ⟨.connection, "blocked"⟩

/-- This is one turn of the handler's loop. It tells the message for the ready loop. -/
def read (codec : MessageCodec) (nodeId : Nat) (handler : Handler) : Option Message × Handler :=
  if handler.finished then (none, handler)
  else match readMessage codec ⟨handler.unread, blocked⟩ with
    | (.ok msg, rest) =>
        (if msg.to = nodeId then some msg else none, { handler with unread := rest.bytes })
    | (.error error, _) =>
        if error = blocked then (none, handler) else (none, { handler with finished := true })

end Handler

/-- The surroundings fix the codec, the outcomes of all connects and writes, and for each connection the
node whose listener accepted it. -/
structure Surroundings where
  codec : MessageCodec
  dialer : (src dst : Nat) → Dialer
  acceptor : ConnectionId → Nat

/-- An inbox lists everything that the handlers forwarded, in order. -/
structure Fabric where
  transports : Nat → TcpTransport
  senders : (src dst : Nat) → PeerSender
  handlers : ConnectionId → Handler
  inboxes : Nat → List (ConnectionId × Message)

/-- A handler sees any part of what is written, so a sender thread may make all attempts of a message in one
event. A handler also stops when its connection or the ready loop is gone. -/
inductive NetEvent where
  | submit (src «to» : Nat) (msg : Message)
  | transmit (src dst : Nat)
  | arrive (id : ConnectionId) (count : Nat)
  | read (id : ConnectionId)
  | stop (id : ConnectionId)
  deriving DecidableEq, Repr

namespace Fabric

def start (transports : Nat → TcpTransport) : Fabric :=
  ⟨transports, fun _ _ => .start, fun _ => .start, fun _ => []⟩

def written (fabric : Fabric) (id : ConnectionId) : Bytes :=
  (((fabric.senders id.src id.dst).connections[id.number]?).map TcpStream.written).getD []

def setTransport (src : Nat) (transport : TcpTransport) (fabric : Fabric) : Fabric :=
  { fabric with transports := Function.update fabric.transports src transport }

def setHandler (id : ConnectionId) (handler : Handler) (fabric : Fabric) : Fabric :=
  { fabric with handlers := Function.update fabric.handlers id handler }

def setSender (src dst : Nat) (sender : PeerSender) (fabric : Fabric) : Fabric :=
  { fabric with
    senders := Function.update fabric.senders src (Function.update (fabric.senders src) dst sender) }

def transmit (world : Surroundings) (src dst : Nat) (fabric : Fabric) : Fabric :=
  match (fabric.transports src).receive dst with
  | none => fabric
  | some (msg, transport) =>
      (fabric.setTransport src transport).setSender src dst
        ((fabric.senders src dst).sendAttempts world.codec (world.dialer src dst) msg maxRetries).2

def forward (id : ConnectionId) (node : Nat) (found : Option Message) (fabric : Fabric) : Fabric :=
  match found with
  | none => fabric
  | some msg => { fabric with
      inboxes := Function.update fabric.inboxes node (fabric.inboxes node ++ [(id, msg)]) }

def step (world : Surroundings) (fabric : Fabric) : NetEvent → Fabric
  | .submit src «to» msg => fabric.setTransport src (TcpTransport.send «to» msg (fabric.transports src)).2
  | .transmit src dst => fabric.transmit world src dst
  | .arrive id count => fabric.setHandler id ((fabric.handlers id).arrive (fabric.written id) count)
  | .read id =>
      let result := (fabric.handlers id).read world.codec (world.acceptor id)
      (fabric.setHandler id result.2).forward id (world.acceptor id) result.1
  | .stop id => fabric.setHandler id { fabric.handlers id with finished := true }

def run (world : Surroundings) (events : List NetEvent) (fabric : Fabric) : Fabric :=
  events.foldl (step world) fabric

def forwarded (world : Surroundings) (fabric : Fabric) (id : ConnectionId) : List Message :=
  ((fabric.inboxes (world.acceptor id)).filter fun delivery => delivery.1 = id).map Prod.snd

end Fabric

end RaftATui.Tcp
