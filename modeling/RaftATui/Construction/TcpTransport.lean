import RaftATui.Library.Attempt
import RaftATui.Library.Framing
import RaftATui.Construction.RaftTypes

/-
This file models the frames of the TCP transport, its sender of one peer and its reader of one connection.
-/

namespace RaftATui.Tcp
open Machinery

inductive ErrorKind where
  | unexpectedEof
  | invalidData
  | other
  | connection
  deriving DecidableEq, Repr

structure IoError where
  kind : ErrorKind
  text : String
  deriving DecidableEq, Repr

/-- This is prost's codec of a raft message. `decode` is its `merge` into `Message::default()`. -/
structure MessageCodec where
  encode : Message → Except String Bytes
  decode : Bytes → Except String Message

def MessageCodec.Inverts (codec : MessageCodec) : Prop :=
  ∀ msg buf, codec.encode msg = .ok buf → codec.decode buf = .ok msg

/-- A failed `write_all` has still written an initial part of its buffer. -/
structure Write (Stream : Type) where
  written : Stream → Bytes
  writeAll : Bytes → Attempt Stream IoError Unit
  flush : Attempt Stream IoError Unit
  writeAll_part : ∀ buf stream, ∃ part, part <+: buf ∧
    written (writeAll buf stream).2 = written stream ++ part
  writeAll_ok : ∀ buf stream final, writeAll buf stream = (.ok (), final) →
    written final = written stream ++ buf
  flush_written : ∀ stream, written (flush stream).2 = written stream

/-- A vector takes every write. -/
def Write.vec : Write Bytes where
  written := id
  writeAll buf := Attempt.modify (· ++ buf)
  flush := pure ()
  writeAll_part buf _ := ⟨buf, List.prefix_rfl, rfl⟩
  writeAll_ok _ _ _ done := (congrArg Prod.snd done).symm
  flush_written _ := rfl

def lengthPrefix (buf : Bytes) : Bytes := Framing.bigEndian 4 (buf.length % 2 ^ 32)

def writeMessage {Stream : Type} (write : Write Stream) (codec : MessageCodec) (msg : Message) :
    Attempt Stream IoError Unit :=
  match codec.encode msg with
  | .error error => Attempt.fail ⟨.invalidData, s!"Failed to encode message: {error}"⟩
  | .ok buf => do
      write.writeAll (lengthPrefix buf)
      write.writeAll buf
      write.flush

/-- A read that asks for more bytes than are left consumes them and returns the error of the end. -/
structure Incoming where
  bytes : Bytes
  ending : IoError
  deriving DecidableEq, Repr

def readExact (count : Nat) : Attempt Incoming IoError Bytes := fun stream =>
  if stream.bytes.length < count then (.error stream.ending, { stream with bytes := [] })
  else (.ok (stream.bytes.take count), { stream with bytes := stream.bytes.drop count })

def maxMessageSize : Nat := 10 * 1024 * 1024

def readMessage (codec : MessageCodec) : Attempt Incoming IoError Message := do
  let lenBytes ← readExact 4
  let len := Framing.fromBigEndian lenBytes
  if maxMessageSize < len then Attempt.fail ⟨.invalidData, s!"Message too large: {len} bytes"⟩
  else do
    let buf ← readExact len
    match codec.decode buf with
    | .error error => Attempt.fail ⟨.invalidData, s!"Failed to decode message: {error}"⟩
    | .ok msg => pure msg

/-- The ready loop may drop its receiver after a number of messages. -/
structure MsgTx where
  received : List Message
  closesAfter : Option Nat
  deriving DecidableEq, Repr

def MsgTx.send (msg : Message) (msgTx : MsgTx) : Option MsgTx :=
  if msgTx.closesAfter = some msgTx.received.length then none
  else some { msgTx with received := msgTx.received ++ [msg] }

theorem readExact_ok {count : Nat} {stream rest : Incoming} {bytes : Bytes}
    (done : readExact count stream = (.ok bytes, rest)) :
    stream.bytes = bytes ++ rest.bytes ∧ bytes.length = count ∧ rest.ending = stream.ending := by
  unfold readExact at done
  split at done
  · cases done
  · cases done
    refine ⟨(List.take_append_drop count stream.bytes).symm, ?_, rfl⟩
    rw [List.length_take]
    omega

/-- A message that is read consumes its length prefix at least. -/
theorem readMessage_consumes {codec : MessageCodec} {stream rest : Incoming} {msg : Message}
    (done : readMessage codec stream = (.ok msg, rest)) : rest.bytes.length + 4 ≤ stream.bytes.length := by
  obtain ⟨lenBytes, middle, first, later⟩ := Attempt.bind_eq_ok.mp done
  obtain ⟨begins, width, _⟩ := readExact_ok first
  by_cases large : maxMessageSize < Framing.fromBigEndian lenBytes
  · rw [if_pos large] at later
    cases later
  · rw [if_neg large] at later
    obtain ⟨buf, last, second, decoded⟩ := Attempt.bind_eq_ok.mp later
    obtain ⟨continues, _, _⟩ := readExact_ok second
    have kept : rest = last := by
      cases answer : codec.decode buf with
      | error error => simp [answer] at decoded
      | ok msg =>
          simp only [answer] at decoded
          exact (congrArg Prod.snd decoded).symm
    rw [kept, begins, continues]
    simp only [List.length_append]
    omega

theorem readMessage_shrinks {codec : MessageCodec} {stream rest : Incoming} {msg : Message}
    (done : readMessage codec stream = (.ok msg, rest)) : rest.bytes.length < stream.bytes.length := by
  have consumed := readMessage_consumes done
  omega

def handleConnection (codec : MessageCodec) (nodeId : Nat) (stream : Incoming) (msgTx : MsgTx) :
    Except IoError Unit × MsgTx :=
  match _step : readMessage codec stream with
  | (.ok msg, rest) =>
      if msg.to ≠ nodeId then handleConnection codec nodeId rest msgTx
      else match msgTx.send msg with
        | none => (.error ⟨.other, "msg_tx channel closed"⟩, msgTx)
        | some after => handleConnection codec nodeId rest after
  | (.error error, _) =>
      if error.kind = .unexpectedEof then (.ok (), msgTx) else (.error error, msgTx)
termination_by stream.bytes.length
decreasing_by all_goals exact readMessage_shrinks _step

/-- A call that fails has still written a number of the bytes of its buffer. -/
structure Fault where
  wrote : Nat
  error : IoError

/-- The calls on a stream succeed except where the script has a fault. -/
structure TcpStream where
  written : Bytes
  faults : Nat → Option Fault
  calls : Nat

namespace TcpStream

def call (buf : Bytes) : Attempt TcpStream IoError Unit := fun stream =>
  match stream.faults stream.calls with
  | none => (.ok (), { stream with written := stream.written ++ buf, calls := stream.calls + 1 })
  | some fault => (.error fault.error, { stream with
      written := stream.written ++ buf.take fault.wrote, calls := stream.calls + 1 })

theorem call_part (buf : Bytes) (stream : TcpStream) :
    ∃ part, part <+: buf ∧ (call buf stream).2.written = stream.written ++ part := by
  unfold call
  split
  · exact ⟨buf, List.prefix_rfl, rfl⟩
  · exact ⟨_, List.take_prefix _ buf, rfl⟩

theorem call_ok {buf : Bytes} {stream final : TcpStream} (done : call buf stream = (.ok (), final)) :
    final.written = stream.written ++ buf := by
  unfold call at done
  split at done <;> cases done
  rfl

def write : Write TcpStream where
  written := written
  writeAll := call
  flush := call []
  writeAll_part := call_part
  writeAll_ok _ _ _ := call_ok
  flush_written stream := by
    obtain ⟨part, nothing, same⟩ := call_part [] stream
    rw [same, List.prefix_nil.mp nothing, List.append_nil]

end TcpStream

def maxRetries : Nat := 3

/-- The script tells for each connect whether it fails, or the faults of the new connection. -/
abbrev Dialer := Nat → Except IoError (Nat → Option Fault)

/-- These are the variables of the sender thread with the connections that it gave up, in order. -/
structure PeerSender where
  stream : Option TcpStream
  dropped : List TcpStream
  dials : Nat

namespace PeerSender

def start : PeerSender := ⟨none, [], 0⟩

def connections (sender : PeerSender) : List TcpStream := sender.dropped ++ sender.stream.toList

def ensureConnection (dialer : Dialer) (sender : PeerSender) : PeerSender :=
  match sender.stream with
  | some _ => sender
  | none =>
      match dialer sender.dials with
      | .ok faults => { sender with stream := some ⟨[], faults, 0⟩, dials := sender.dials + 1 }
      | .error _ => { sender with dials := sender.dials + 1 }

def sendAttempts (codec : MessageCodec) (dialer : Dialer) (msg : Message) :
    Nat → PeerSender → Bool × PeerSender
  | 0, sender => (false, sender)
  | left + 1, sender =>
      let ready := sender.ensureConnection dialer
      match ready.stream with
      | none => sendAttempts codec dialer msg left ready
      | some stream =>
          match writeMessage TcpStream.write codec msg stream with
          | (.ok (), after) => (true, { ready with stream := some after })
          | (.error _, after) => sendAttempts codec dialer msg left
              { ready with stream := none, dropped := ready.dropped ++ [after] }

/-- A message that no attempt sent is dropped. -/
def peerSenderThread (codec : MessageCodec) (dialer : Dialer) (queue : List Message)
    (sender : PeerSender) : PeerSender :=
  queue.foldl (fun sender msg => (sendAttempts codec dialer msg maxRetries sender).2) sender

end PeerSender

end RaftATui.Tcp
