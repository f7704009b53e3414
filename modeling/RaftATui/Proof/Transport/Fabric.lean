import RaftATui.Construction.TcpNetwork
import RaftATui.Proof.Transport.Carried

namespace RaftATui.Tcp
open Machinery
open Delivery (AtMost)

/-- These are the submitted messages of a link that its transport accepts, as the transport queues them. -/
def NetEvent.accepted (peers : Nat → List Nat) (src dst : Nat) : NetEvent → Option Message
  | .submit node «to» msg =>
      if node = src ∧ «to» = dst ∧ dst ∈ peers src ∧ dst ≠ src then some { msg with sender := src } else none
  | _ => none

def accepted (peers : Nat → List Nat) (events : List NetEvent) (src dst : Nat) : List Message :=
  events.filterMap (NetEvent.accepted peers src dst)

section Transports

variable {transport : TcpTransport} {msg : Message} {peer : Nat}

/-- A send keeps the node id. -/
theorem TcpTransport.send_nodeId («to» : Nat) (msg : Message) (transport : TcpTransport) :
    (send «to» msg transport).2.nodeId = transport.nodeId := by
  unfold send
  split
  · split <;> rfl
  · rfl

/-- A send keeps the peers that are reached. -/
theorem TcpTransport.send_reaches («to» : Nat) (msg : Message) (transport : TcpTransport) (peer : Nat) :
    (send «to» msg transport).2.reaches peer = transport.reaches peer := by
  unfold send
  split
  · case h_1 queue found =>
      split
      · simp only [reaches, OrderedTree.getElem?_insert]
        split
        · case isTrue same => rw [← same, found]; rfl
        · rfl
      · rfl
  · rfl

/-- A transport queues the messages to a peer that it reaches and no other ones. -/
theorem TcpTransport.send_waiting («to» : Nat) (msg : Message) (transport : TcpTransport) (peer : Nat) :
    (send «to» msg transport).2.waiting peer = transport.waiting peer ++
      if «to» = peer ∧ transport.reaches peer then [{ msg with sender := transport.nodeId }] else [] := by
  unfold send
  cases found : transport.peerSenders[«to»]? with
  | none =>
      have closed : ¬ («to» = peer ∧ transport.reaches peer = true) := by
        rintro ⟨rfl, known⟩
        simp [reaches, found] at known
      rw [if_neg closed, List.append_nil]
  | some queue =>
      simp only
      split
      · case isTrue isOpen =>
          by_cases same : «to» = peer
          · subst same
            have known : transport.reaches «to» = true := by simp [reaches, found, isOpen]
            simp [waiting, found, known]
          · simp [waiting, OrderedTree.getElem?_insert, same]
      · case isFalse shut =>
          have closed : ¬ («to» = peer ∧ transport.reaches peer = true) := by
            rintro ⟨rfl, known⟩
            rw [reaches, found] at known
            exact shut known
          rw [if_neg closed, List.append_nil]

/-- A thread takes the first message and leaves the other ones. -/
theorem TcpTransport.receive_eq_some {later : TcpTransport} (taken : transport.receive peer = some (msg, later)) :
    transport.waiting peer = msg :: later.waiting peer ∧ later.nodeId = transport.nodeId ∧
      (∀ other, later.reaches other = transport.reaches other) ∧
      ∀ other, other ≠ peer → later.waiting other = transport.waiting other := by
  unfold receive at taken
  split at taken
  · case h_1 first rest connected found =>
      simp only [Option.some.injEq, Prod.mk.injEq] at taken
      obtain ⟨rfl, rfl⟩ := taken
      refine ⟨by simp [waiting, found], rfl, fun other => ?_, fun other apart => ?_⟩
      · simp only [reaches, OrderedTree.getElem?_insert]
        split
        · case isTrue same => rw [← same, found]; rfl
        · rfl
      · simp [waiting, OrderedTree.getElem?_insert, apart.symm]
  · cases taken

/-- A new transport has an empty queue to each peer other than its own node. -/
theorem TcpTransport.new_peerSenders (nodeId : Nat) (peers : List Nat) (peer : Nat) :
    (new nodeId peers).peerSenders[peer]? =
      if peer ∈ peers ∧ peer ≠ nodeId then some .unbounded else none := by
  have lookup (known : List Nat) (senders : Std.ExtTreeMap Nat PeerQueue) :
      (known.foldl (fun senders peer => senders.insert peer .unbounded) senders)[peer]? =
        if peer ∈ known then some PeerQueue.unbounded else senders[peer]? := by
    induction known generalizing senders with
    | nil => simp
    | cons first rest ih =>
        rw [List.foldl_cons, ih, OrderedTree.getElem?_insert]
        by_cases later : peer ∈ rest
        · simp [later]
        · by_cases same : first = peer
          · simp [same]
          · simp [later, same, Ne.symm same]
  rw [new, lookup]
  simp

/-- A new transport reaches all peers but itself. -/
theorem TcpTransport.new_reaches (nodeId : Nat) (peers : List Nat) (peer : Nat) :
    (new nodeId peers).reaches peer = true ↔ peer ∈ peers ∧ peer ≠ nodeId := by
  rw [reaches, new_peerSenders]
  split
  · case isTrue known => exact ⟨fun _ => known, fun _ => rfl⟩
  · case isFalse unknown => exact ⟨fun isOpen => (by cases isOpen), fun known => absurd known unknown⟩

/-- The queues of a new transport are empty. -/
theorem TcpTransport.new_waiting (nodeId : Nat) (peers : List Nat) (peer : Nat) :
    (new nodeId peers).waiting peer = [] := by
  rw [waiting, new_peerSenders]
  split <;> rfl

end Transports

section Handlers

variable {codec : MessageCodec} {handler : Handler} {bytes : Bytes} {msgs : List Message}

/-- A message that is read depends on its own bytes only. -/
theorem readMessage_piece {stream rest : Incoming} {msg : Message}
    (done : readMessage codec stream = (.ok msg, rest)) : ∃ piece, stream.bytes = piece ++ rest.bytes ∧
      ∀ later ending, readMessage codec ⟨piece ++ later, ending⟩ = (.ok msg, ⟨later, ending⟩) := by
  obtain ⟨lenBytes, middle, first, continues⟩ := Attempt.bind_eq_ok.mp done
  obtain ⟨begins, width, _⟩ := readExact_ok first
  by_cases large : maxMessageSize < Framing.fromBigEndian lenBytes
  · rw [if_pos large] at continues
    cases continues
  · rw [if_neg large] at continues
    obtain ⟨buf, last, second, decoded⟩ := Attempt.bind_eq_ok.mp continues
    obtain ⟨goesOn, length, _⟩ := readExact_ok second
    have kept : codec.decode buf = .ok msg ∧ rest = last := by
      cases answer : codec.decode buf with
      | error error => simp [answer] at decoded
      | ok found =>
          simp only [answer, Attempt.pure_apply, Prod.mk.injEq, Except.ok.injEq] at decoded
          exact ⟨by rw [decoded.1], decoded.2.symm⟩
    obtain ⟨known, rfl⟩ := kept
    refine ⟨lenBytes ++ buf, by rw [begins, goesOn, List.append_assoc], fun later ending => ?_⟩
    rw [readMessage, List.append_assoc, Attempt.bind_ok _ (readExact_append width ending), if_neg large,
      Attempt.bind_ok _ (readExact_append length ending), known]
    rfl

/-- The handler has read these messages off the bytes that arrived. -/
structure Handler.Follows (codec : MessageCodec) (bytes : Bytes) (msgs : List Message) (handler : Handler) :
    Prop where
  within : handler.arrived ≤ bytes.length
  reads : ∃ consumed, bytes.take handler.arrived = consumed ++ handler.unread ∧ ∀ rest ending,
    messages codec ⟨consumed ++ rest, ending⟩ = msgs ++ messages codec ⟨rest, ending⟩

/-- A new handler has read nothing. -/
theorem Handler.Follows.start (codec : MessageCodec) (bytes : Bytes) :
    Handler.start.Follows codec bytes [] :=
  ⟨Nat.zero_le _, [], rfl, fun _ _ => rfl⟩

/-- A handler follows also a stream with more bytes. -/
theorem Handler.Follows.grow (follows : handler.Follows codec bytes msgs) {more : Bytes} (grows : bytes <+: more) :
    handler.Follows codec more msgs := by
  obtain ⟨added, rfl⟩ := grows
  obtain ⟨consumed, split, reads⟩ := follows.reads
  refine ⟨Nat.le_trans follows.within (by simp), consumed, ?_, reads⟩
  rw [List.take_append_of_le_length follows.within, split]

/-- Arrived bytes are not read yet. -/
theorem Handler.Follows.arrive (follows : handler.Follows codec bytes msgs) (count : Nat) :
    (handler.arrive bytes count).Follows codec bytes msgs := by
  have within := follows.within
  obtain ⟨consumed, split, reads⟩ := follows.reads
  have room : ((bytes.drop handler.arrived).take count).length ≤ bytes.length - handler.arrived := by
    rw [← List.length_drop]
    exact List.length_take_le' count _
  refine ⟨?_, consumed, ?_, reads⟩
  · show handler.arrived + _ ≤ _
    omega
  · show bytes.take (handler.arrived + _) = consumed ++ (handler.unread ++ _)
    rw [List.take_add, split, List.append_assoc,
      ← List.prefix_iff_eq_take.mp (List.take_prefix count (bytes.drop handler.arrived))]

/-- The handler's turn reads at most one more message. -/
theorem Handler.Follows.read (follows : handler.Follows codec bytes msgs) (nodeId : Nat) :
    ∃ more, (handler.read codec nodeId).2.Follows codec bytes (msgs ++ more) ∧
      (handler.read codec nodeId).1.toList = more.filter fun msg => msg.to = nodeId := by
  have idle : ∃ more, handler.Follows codec bytes (msgs ++ more) ∧
      (none : Option Message).toList = more.filter fun msg => msg.to = nodeId :=
    ⟨[], by rw [List.append_nil]; exact follows, rfl⟩
  unfold Handler.read
  split
  · exact idle
  · split
    · case h_1 msg rest done =>
        obtain ⟨piece, split, again⟩ := readMessage_piece done
        obtain ⟨consumed, arrived, reads⟩ := follows.reads
        refine ⟨[msg], ⟨follows.within, consumed ++ piece, ?_, fun rest ending => ?_⟩, ?_⟩
        · rw [arrived, List.append_assoc]
          exact congrArg _ split
        · rw [List.append_assoc, reads, messages_ok (again rest ending), List.append_assoc]
          rfl
        · by_cases addressed : msg.to = nodeId <;> simp [addressed]
    · split
      · exact idle
      · obtain ⟨more, kept, same⟩ := idle
        exact ⟨more, ⟨kept.within, kept.reads⟩, same⟩

end Handlers

section Threads

variable {codec : MessageCodec} {dialer : Dialer} {msg : Message} {sender : PeerSender}

/-- The connections of a thread keep their numbers and their bytes. -/
def PeerSender.Extends (before after : PeerSender) : Prop :=
  ∀ (number : Nat) (stream : TcpStream), before.connections[number]? = some stream →
    ∃ later, after.connections[number]? = some later ∧ stream.written <+: later.written

/-- A sender extends itself. -/
theorem PeerSender.Extends.refl (sender : PeerSender) : sender.Extends sender :=
  fun _ stream found => ⟨stream, found, List.prefix_rfl⟩

/-- Extensions compose. -/
theorem PeerSender.Extends.trans {first second third : PeerSender} (begins : first.Extends second)
    (continues : second.Extends third) : first.Extends third := by
  intro number stream found
  obtain ⟨middle, found', grows⟩ := begins number stream found
  obtain ⟨last, found'', grows'⟩ := continues number middle found'
  exact ⟨last, found'', grows.trans grows'⟩

/-- A connect adds at most one connection. -/
theorem PeerSender.ensureConnection_extends (dialer : Dialer) (sender : PeerSender) :
    sender.Extends (sender.ensureConnection dialer) := by
  unfold PeerSender.ensureConnection
  split
  · exact Extends.refl sender
  · case h_2 idle =>
      split
      · intro number stream found
        refine ⟨stream, ?_, List.prefix_rfl⟩
        rw [connections, idle, Option.toList_none, List.append_nil] at found
        exact List.getElem?_append_left (List.getElem?_eq_some_iff.mp found).1 ▸ found
      · exact Extends.refl sender

/-- The open connection may end in more bytes, whether the thread keeps it or gives it up. -/
theorem PeerSender.extends_of_open {stream after : TcpStream} (isOpen : sender.stream = some stream)
    (grows : stream.written <+: after.written) {later : PeerSender}
    (same : later.connections = sender.dropped ++ [after]) : sender.Extends later := by
  intro number found present
  rw [connections, isOpen, Option.toList_some] at present
  rw [same]
  rcases Nat.lt_or_ge number sender.dropped.length with given | last
  · rw [List.getElem?_append_left given] at present ⊢
    exact ⟨found, present, List.prefix_rfl⟩
  · rw [List.getElem?_append_right last] at present ⊢
    rw [List.getElem?_singleton] at present ⊢
    split at present
    · case isTrue zero =>
        rw [if_pos zero]
        rw [← Option.some.inj present]
        exact ⟨after, rfl, grows⟩
    · cases present

/-- A write only adds bytes. -/
theorem writeMessage_grows (codec : MessageCodec) (msg : Message) (stream : TcpStream) :
    stream.written <+: (writeMessage TcpStream.write codec msg stream).2.written := by
  cases framed : codec.frame msg with
  | none =>
      obtain ⟨_, same⟩ := writeMessage_unencoded TcpStream.write framed stream
      rw [same]
  | some bytes =>
      obtain ⟨part, _, wrote⟩ := writeMessage_part TcpStream.write framed stream
      exact ⟨part, wrote.symm⟩

/-- The attempts of a message only add bytes and connections. -/
theorem PeerSender.sendAttempts_extends (codec : MessageCodec) (dialer : Dialer) (msg : Message) (left : Nat)
    (sender : PeerSender) : sender.Extends (sender.sendAttempts codec dialer msg left).2 := by
  induction left generalizing sender with
  | zero => exact Extends.refl sender
  | succ left ih =>
      have ready := ensureConnection_extends dialer sender
      rw [sendAttempts]
      cases isOpen : (sender.ensureConnection dialer).stream with
      | none => exact ready.trans (ih _)
      | some stream =>
          have grows := writeMessage_grows codec msg stream
          rcases run : writeMessage TcpStream.write codec msg stream with ⟨error | _, after⟩
          · rw [run] at grows
            simp only [run]
            exact (ready.trans (extends_of_open isOpen grows (by simp [connections]))).trans (ih _)
          · rw [run] at grows
            simp only [run]
            exact ready.trans (extends_of_open isOpen grows (by simp [connections]))

end Threads

/-- Each thread sent what it took off its channel, each handler read what arrived, and each forwarded message
is in the inbox of the node that accepted its connection. -/
structure Fabric.Sound (world : Surroundings) (peers : Nat → List Nat) (events : List NetEvent)
    (fabric : Fabric) : Prop where
  nodeId : ∀ src, (fabric.transports src).nodeId = src
  reaches : ∀ src dst, (fabric.transports src).reaches dst = true ↔ dst ∈ peers src ∧ dst ≠ src
  queued : ∀ src dst, ∃ taken, taken ++ (fabric.transports src).waiting dst = accepted peers events src dst ∧
    fabric.senders src dst = PeerSender.start.peerSenderThread world.codec (world.dialer src dst) taken
  handled : ∀ id, ∃ msgs, (fabric.handlers id).Follows world.codec (fabric.written id) msgs ∧
    fabric.forwarded world id = msgs.filter fun msg => msg.to = world.acceptor id
  routed : ∀ node, ∀ delivery ∈ fabric.inboxes node, world.acceptor delivery.1 = node

section Runs

variable {world : Surroundings} {peers : Nat → List Nat} {events : List NetEvent} {fabric : Fabric}

/-- The last event may add one accepted message. -/
theorem accepted_concat (event : NetEvent) (src dst : Nat) : accepted peers (events ++ [event]) src dst =
    accepted peers events src dst ++ (event.accepted peers src dst).toList := by
  rw [accepted, accepted, List.filterMap_append]
  cases found : event.accepted peers src dst <;> simp [found]

namespace Fabric

/-- The fabric is sound at its start. -/
theorem Sound.start (world : Surroundings) (peers : Nat → List Nat) :
    Sound world peers [] (.start fun src => .new src (peers src)) where
  nodeId _ := rfl
  reaches src dst := TcpTransport.new_reaches src (peers src) dst
  queued src dst := ⟨[], TcpTransport.new_waiting src (peers src) dst, rfl⟩
  handled _ := ⟨[], .start world.codec _, rfl⟩
  routed _ _ inside := absurd inside List.not_mem_nil

/-- A submitted message waits in its queue at most. -/
theorem Sound.submit (sound : Sound world peers events fabric) (src «to» : Nat) (msg : Message) :
    Sound world peers (events ++ [.submit src «to» msg]) (fabric.step world (.submit src «to» msg)) := by
  have transport (node : Nat) : ((fabric.step world (.submit src «to» msg)).transports node) =
      if node = src then (TcpTransport.send «to» msg (fabric.transports src)).2 else fabric.transports node := by
    simp [step, setTransport, Function.update_apply]
  refine ⟨fun node => ?_, fun node dst => ?_, fun node dst => ?_, sound.handled, sound.routed⟩
  · rw [transport]
    split
    · case isTrue same => rw [TcpTransport.send_nodeId, sound.nodeId, same]
    · exact sound.nodeId node
  · rw [transport]
    split
    · case isTrue same => rw [TcpTransport.send_reaches, same, sound.reaches]
    · exact sound.reaches node dst
  · obtain ⟨taken, waits, sent⟩ := sound.queued node dst
    refine ⟨taken, ?_, sent⟩
    rw [transport, accepted_concat]
    by_cases same : node = src
    · subst same
      rw [if_pos rfl, TcpTransport.send_waiting, ← List.append_assoc, waits, sound.nodeId]
      congr 1
      by_cases known : dst ∈ peers node ∧ dst ≠ node
      · by_cases target : «to» = dst <;> simp [NetEvent.accepted, target, sound.reaches, known]
      · have closed : (fabric.transports node).reaches dst = false := by
          rw [← Bool.not_eq_true, sound.reaches]
          exact known
        have refused : ¬ (node = node ∧ «to» = dst ∧ dst ∈ peers node ∧ dst ≠ node) := fun all => known all.2.2
        rw [NetEvent.accepted, if_neg refused, closed, if_neg (fun all => Bool.false_ne_true all.2)]
        rfl
    · rw [if_neg same, waits]
      have other : ¬ (src = node ∧ «to» = dst ∧ dst ∈ peers node ∧ dst ≠ node) := fun all => same all.1.symm
      simp [NetEvent.accepted, other]

/-- The bytes of a connection follow its sender thread. -/
theorem written_grows {later : Fabric} {id : ConnectionId}
    (grows : (fabric.senders id.src id.dst).Extends (later.senders id.src id.dst)) :
    fabric.written id <+: later.written id := by
  rw [written, written]
  cases found : (fabric.senders id.src id.dst).connections[id.number]? with
  | none => exact List.nil_prefix
  | some stream =>
      obtain ⟨last, present, longer⟩ := grows id.number stream found
      rw [present]
      exact longer

/-- A transmitted message is on its connections at most. -/
theorem Sound.transmit (sound : Sound world peers events fabric) (src dst : Nat) :
    Sound world peers (events ++ [.transmit src dst]) (fabric.step world (.transmit src dst)) := by
  have same (node other : Nat) : accepted peers (events ++ [.transmit src dst]) node other =
      accepted peers events node other := by rw [accepted_concat]; exact List.append_nil _
  change Sound world peers _ (fabric.transmit world src dst)
  unfold Fabric.transmit
  cases taken : (fabric.transports src).receive dst with
  | none =>
      refine ⟨sound.nodeId, sound.reaches, fun node other => ?_, sound.handled, sound.routed⟩
      rw [same]
      exact sound.queued node other
  | some next =>
      obtain ⟨msg, transport⟩ := next
      obtain ⟨head, named, known, rest⟩ := TcpTransport.receive_eq_some taken
      let sender := ((fabric.senders src dst).sendAttempts world.codec (world.dialer src dst) msg maxRetries).2
      let after := (fabric.setTransport src transport).setSender src dst sender
      change Sound world peers _ after
      have transports (node : Nat) : after.transports node =
          if node = src then transport else fabric.transports node := Function.update_apply _ _ _ _
      have senders (node other : Nat) : after.senders node other =
          if node = src ∧ other = dst then sender else fabric.senders node other := by
        by_cases first : node = src <;> by_cases second : other = dst <;>
          simp [after, setSender, setTransport, first, second]
      refine ⟨fun node => ?_, fun node other => ?_, fun node other => ?_, fun id => ?_, sound.routed⟩
      · rw [transports]
        split
        · case isTrue equal => rw [named, sound.nodeId, equal]
        · exact sound.nodeId node
      · rw [transports]
        split
        · case isTrue equal => rw [known, equal, sound.reaches]
        · exact sound.reaches node other
      · rw [same, transports, senders]
        obtain ⟨earlier, waits, sent⟩ := sound.queued node other
        by_cases first : node = src
        · subst first
          by_cases second : other = dst
          · subst second
            refine ⟨earlier ++ [msg], ?_, ?_⟩
            · rw [if_pos rfl, List.append_assoc, ← waits, head]
              rfl
            · rw [if_pos ⟨rfl, rfl⟩, PeerSender.peerSenderThread, List.foldl_append]
              exact congrArg (fun sender =>
                (PeerSender.sendAttempts world.codec (world.dialer node other) msg maxRetries sender).2) sent
          · refine ⟨earlier, ?_, ?_⟩
            · rw [if_pos rfl, rest other second, waits]
            · rw [if_neg fun both => second both.2, sent]
        · refine ⟨earlier, ?_, ?_⟩
          · rw [if_neg first, waits]
          · rw [if_neg fun both => first both.1, sent]
      · obtain ⟨msgs, follows, forwards⟩ := sound.handled id
        refine ⟨msgs, follows.grow (written_grows ?_), forwards⟩
        rw [senders]
        split
        · case isTrue both =>
            rw [both.1, both.2]
            exact PeerSender.sendAttempts_extends _ _ _ _ _
        · exact PeerSender.Extends.refl _

/-- An event of one handler keeps all other threads. -/
theorem Sound.handle (sound : Sound world peers events fabric) {event : NetEvent} {id : ConnectionId}
    {handler : Handler} {found : Option Message}
    (silent : ∀ src dst, event.accepted peers src dst = none)
    (turn : ∀ msgs, (fabric.handlers id).Follows world.codec (fabric.written id) msgs →
      ∃ more, handler.Follows world.codec (fabric.written id) (msgs ++ more) ∧
        found.toList = more.filter fun msg => msg.to = world.acceptor id) :
    Sound world peers (events ++ [event])
      ((fabric.setHandler id handler).forward id (world.acceptor id) found) := by
  let after := (fabric.setHandler id handler).forward id (world.acceptor id) found
  have threads : after.transports = fabric.transports ∧ after.senders = fabric.senders ∧
      after.handlers = Function.update fabric.handlers id handler := by
    cases found <;> exact ⟨rfl, rfl, rfl⟩
  obtain ⟨transports, senders, handlers⟩ := threads
  have inboxes (node : Nat) : after.inboxes node = fabric.inboxes node ++
      if node = world.acceptor id then found.toList.map (Prod.mk id) else [] := by
    cases found with
    | none => simp [after, forward, setHandler]
    | some msg =>
        by_cases here : node = world.acceptor id <;>
          simp [after, forward, setHandler, here]
  change Sound world peers _ after
  refine ⟨?_, ?_, fun src dst => ?_, fun other => ?_, fun node delivery inside => ?_⟩
  · rw [transports]
    exact sound.nodeId
  · rw [transports]
    exact sound.reaches
  · rw [transports, senders, accepted_concat, silent, Option.toList_none, List.append_nil]
    exact sound.queued src dst
  · obtain ⟨msgs, read, forwards⟩ := sound.handled other
    have bytes : after.written other = fabric.written other := by rw [written, senders, written]
    rw [bytes, handlers, Function.update_apply, forwarded, inboxes, List.filter_append, List.map_append]
    by_cases same : other = id
    · subst same
      obtain ⟨more, follows, addressed⟩ := turn msgs read
      rw [if_pos rfl, if_pos rfl]
      refine ⟨msgs ++ more, follows, ?_⟩
      rw [List.filter_append, ← forwards, ← addressed, forwarded]
      cases found <;> simp
    · rw [if_neg same]
      refine ⟨msgs, read, ?_⟩
      rw [← forwards, forwarded]
      split
      · cases found <;> simp [Ne.symm same]
      · simp
  · rw [inboxes, List.mem_append] at inside
    rcases inside with old | new
    · exact sound.routed node delivery old
    · split at new
      · case isTrue here =>
          obtain ⟨msg, _, rfl⟩ := List.mem_map.mp new
          exact here.symm
      · exact absurd new List.not_mem_nil

/-- Every event keeps the invariant. -/
theorem Sound.step (sound : Sound world peers events fabric) (event : NetEvent) :
    Sound world peers (events ++ [event]) (fabric.step world event) := by
  cases event with
  | submit src «to» msg => exact sound.submit src «to» msg
  | transmit src dst => exact sound.transmit src dst
  | arrive id count =>
      change Sound world peers _ ((fabric.setHandler id _).forward id (world.acceptor id) none)
      refine sound.handle (fun _ _ => rfl) fun msgs follows => ⟨[], ?_, rfl⟩
      rw [List.append_nil]
      exact follows.arrive count
  | read id => exact sound.handle (fun _ _ => rfl) fun msgs follows => follows.read (world.acceptor id)
  | stop id =>
      change Sound world peers _ ((fabric.setHandler id _).forward id (world.acceptor id) none)
      refine sound.handle (fun _ _ => rfl) fun msgs follows => ⟨[], ?_, rfl⟩
      rw [List.append_nil]
      exact ⟨follows.within, follows.reads⟩

/-- The invariant holds after any events in any order. -/
theorem Sound.run (world : Surroundings) (peers : Nat → List Nat) (events : List NetEvent) :
    Sound world peers events (Fabric.run world events (.start fun src => .new src (peers src))) := by
  induction events using List.reverseRecOn with
  | nil => exact Sound.start world peers
  | append_singleton events event ih =>
      rw [Fabric.run, List.foldl_append]
      exact ih.step event

/-- A handler forwards messages that its connection yields, in their order. -/
theorem Sound.forwarded_sublist (sound : Sound world peers events fabric) (id : ConnectionId) (ending : IoError) :
    (fabric.forwarded world id).Sublist (messages world.codec ⟨fabric.written id, ending⟩) := by
  obtain ⟨msgs, follows, forwards⟩ := sound.handled id
  obtain ⟨consumed, split, reads⟩ := follows.reads
  have arrived : messages world.codec ⟨(fabric.written id).take (fabric.handlers id).arrived, ending⟩ =
      msgs ++ messages world.codec ⟨(fabric.handlers id).unread, ending⟩ := by rw [split, reads]
  have longer : messages world.codec ⟨(fabric.written id).take (fabric.handlers id).arrived, ending⟩ <+:
      messages world.codec ⟨fabric.written id, ending⟩ := by
    obtain ⟨more, whole⟩ := List.take_prefix (fabric.handlers id).arrived (fabric.written id)
    exact messages_mono ⟨more, whole.symm⟩
  rw [forwards]
  refine List.filter_sublist.trans (List.Sublist.trans ?_ longer.sublist)
  rw [arrived]
  exact List.sublist_append_left _ _

/-- All connections of a link together deliver each accepted message at most three times and in order. -/
theorem Sound.link_atMost (sound : Sound world peers events fabric) (inverts : world.codec.Inverts) {src dst : Nat}
    (fits : world.codec.Fits (accepted peers events src dst)) (count : Nat) :
    AtMost maxRetries (accepted peers events src dst)
      ((List.range count).flatMap fun number => fabric.forwarded world ⟨src, dst, number⟩) := by
  obtain ⟨taken, waits, sent⟩ := sound.queued src dst
  have earlier : taken.Sublist (accepted peers events src dst) := by
    rw [← waits]
    exact List.sublist_append_left _ _
  obtain ⟨wholes, bounded, yields⟩ := connections_atMost inverts (world.dialer src dst) taken
    fun msg inside => fits msg (earlier.subset inside)
  rw [← sent] at yields
  obtain ⟨same, each⟩ := List.forall₂_iff_get.mp yields
  refine (bounded.shrink (Delivery.flatMap_range_sublist (fun number => ?_) count)).mono earlier
  refine (sound.forwarded_sublist ⟨src, dst, number⟩ Handler.blocked).trans ?_
  rcases Nat.lt_or_ge number wholes.length with present | absent
  · have held := each number present (same ▸ present) Handler.blocked
    rw [written, List.getElem?_eq_getElem (same ▸ present), List.getElem?_eq_getElem present]
    exact held
  · rw [written, List.getElem?_eq_none (same ▸ absent), List.getElem?_eq_none absent]
    rw [Option.map_none, Option.getD_none, messages_nil]
    exact List.nil_sublist _

/-- A node gets a message that is addressed to it from the node that submitted it. -/
theorem Sound.origin (sound : fabric.Sound world peers events) (inverts : world.codec.Inverts)
    (fits : ∀ src dst, world.codec.Fits (accepted peers events src dst)) {node : Nat} {delivery : ConnectionId × Message}
    (inside : delivery ∈ fabric.inboxes node) : delivery.2.to = node ∧ delivery.2.sender = delivery.1.src ∧
      delivery.2 ∈ accepted peers events delivery.1.src delivery.1.dst := by
  obtain ⟨id, msg⟩ := delivery
  have accepting : world.acceptor id = node := sound.routed node _ inside
  have forwards : msg ∈ fabric.forwarded world id := by
    rw [Fabric.forwarded, accepting]
    exact List.mem_map.mpr ⟨(id, msg), List.mem_filter.mpr ⟨inside, by simp⟩, rfl⟩
  have sent : msg ∈ accepted peers events id.src id.dst :=
    (sound.link_atMost inverts (fits id.src id.dst) (id.number + 1)).mem
      (List.mem_flatMap.mpr ⟨id.number, List.mem_range.mpr (Nat.lt_succ_self _), forwards⟩)
  refine ⟨?_, ?_, sent⟩
  · obtain ⟨msgs, _, same⟩ := sound.handled id
    rw [same, List.mem_filter] at forwards
    rw [← accepting]
    simpa using forwards.2
  · obtain ⟨event, _, taken⟩ := List.mem_filterMap.mp sent
    cases event with
    | submit node «to» original =>
        simp only [NetEvent.accepted] at taken
        split at taken
        · rw [← Option.some.inj taken]
        · cases taken
    | _ => cases taken

end Fabric

end Runs

/-- Whatever fails and in whatever order the threads run, a node gets only messages addressed to it, each from
the node that submitted it. Each link repeats a message at most as often as it is attempted and keeps the
order. -/
theorem fabric_delivers {world : Surroundings} (inverts : world.codec.Inverts) (peers : Nat → List Nat)
    {events : List NetEvent} (fits : ∀ src dst, world.codec.Fits (accepted peers events src dst)) :
    let fabric := Fabric.run world events (.start fun src => .new src (peers src))
    (∀ node, ∀ delivery ∈ fabric.inboxes node, delivery.2.to = node ∧ delivery.2.sender = delivery.1.src ∧
      delivery.2 ∈ accepted peers events delivery.1.src delivery.1.dst) ∧
    ∀ src dst count, AtMost maxRetries (accepted peers events src dst)
      ((List.range count).flatMap fun number => fabric.forwarded world ⟨src, dst, number⟩) := by
  intro fabric
  have sound : fabric.Sound world peers events := Fabric.Sound.run world peers events
  constructor
  · exact fun node delivery inside => sound.origin inverts fits inside
  · exact fun src dst => sound.link_atMost inverts (fits src dst)

/-- The first write of the second message breaks and a second connection carries it again. -/
def flakySurroundings : Surroundings where
  codec := .fields
  dialer _ _ := flakyDialer
  acceptor id := id.dst

def flakyEvents : List NetEvent :=
  [.submit 1 2 ⟨2, 0, []⟩, .submit 1 3 ⟨3, 0, []⟩, .transmit 1 2, .submit 1 2 ⟨2, 0, [32, 5]⟩,
    .arrive ⟨1, 2, 0⟩ 5, .read ⟨1, 2, 0⟩, .transmit 1 2, .arrive ⟨1, 2, 0⟩ 50, .read ⟨1, 2, 0⟩,
    .arrive ⟨1, 2, 1⟩ 50, .read ⟨1, 2, 1⟩, .read ⟨1, 2, 0⟩]

/-- The flaky link accepts the messages of its queue. -/
theorem flakyEvents_accepted (src dst : Nat) :
    ∀ msg ∈ accepted (fun _ => [1, 2]) flakyEvents src dst, msg ∈ flakyQueue := by
  intro msg inside
  obtain ⟨event, known, taken⟩ := List.mem_filterMap.mp inside
  cases event with
  | submit node «to» original =>
      obtain ⟨⟨rfl, rfl, reached, _⟩, same⟩ := Option.ite_none_right_eq_some.mp taken
      obtain rfl := Option.some.inj same
      simp only [flakyEvents, List.mem_cons, List.not_mem_nil, NetEvent.submit.injEq, reduceCtorEq, or_false,
        false_or] at known
      rcases known with ⟨rfl, rfl, rfl⟩ | ⟨rfl, rfl, rfl⟩ | ⟨rfl, rfl, rfl⟩
      · decide
      · exact absurd reached (by decide)
      · decide
  | _ => cases taken

/-- The flaky link delivers a part of its queue. -/
theorem fabric_delivers_flaky :
    let fabric := Fabric.run flakySurroundings flakyEvents (.start fun src => .new src [1, 2])
    fabric.inboxes 2 = [(⟨1, 2, 0⟩, ⟨2, 1, []⟩), (⟨1, 2, 1⟩, ⟨2, 1, [32, 5]⟩)] ∧
      AtMost maxRetries (accepted (fun _ => [1, 2]) flakyEvents 1 2)
        ((List.range 2).flatMap fun number => fabric.forwarded flakySurroundings ⟨1, 2, number⟩) := by
  have short : ∀ msg ∈ flakyQueue, ∀ buf, flakySurroundings.codec.encode msg = .ok buf → buf.length < 2 ^ 32 := by
    intro msg inside buf encoded
    obtain ⟨_, rfl⟩ := MessageCodec.fields_encode encoded
    revert msg
    decide
  have fits (src dst : Nat) : flakySurroundings.codec.Fits (accepted (fun _ => [1, 2]) flakyEvents src dst) :=
    fun msg inside => short msg (flakyEvents_accepted src dst msg inside)
  exact ⟨by decide +kernel, (fabric_delivers MessageCodec.fields_inverts (fun _ => [1, 2]) fits).2 1 2 2⟩

section Quiet

variable {codec : MessageCodec} {dialer : Dialer}

/-- Every message is encoded within the limit of the reader. -/
def MessageCodec.Sends (codec : MessageCodec) (msgs : List Message) : Prop :=
  ∀ msg ∈ msgs, ∃ buf, codec.encode msg = .ok buf ∧ buf.length ≤ maxMessageSize

/-- The thread has one connection, which has no faults and holds the frames of these messages. -/
structure PeerSender.Smooth (codec : MessageCodec) (msgs : List Message) (sender : PeerSender) : Prop where
  kept : sender.dropped = []
  opened : ∀ stream, sender.stream = some stream →
    (∀ call, stream.faults call = none) ∧ stream.written = (msgs.filterMap codec.frame).flatten
  closed : sender.stream = none → msgs = []

/-- A write without faults writes the whole frame. -/
theorem writeMessage_smooth {msg : Message} {buf : Bytes} (encoded : codec.encode msg = .ok buf)
    {stream : TcpStream} (healthy : ∀ call, stream.faults call = none) :
    ∃ after, writeMessage TcpStream.write codec msg stream = (.ok (), after) ∧ after.faults = stream.faults ∧
      after.written = stream.written ++ frame buf := by
  have call (bytes : Bytes) (stream : TcpStream) (healthy : ∀ call, stream.faults call = none) :
      TcpStream.call bytes stream =
        (.ok (), { stream with written := stream.written ++ bytes, calls := stream.calls + 1 }) := by
    rw [TcpStream.call, healthy]
  have first := call (lengthPrefix buf) stream healthy
  have second := call buf _ (show ∀ number, (TcpStream.call (lengthPrefix buf) stream).2.faults number = none by
    rw [first]; exact healthy)
  have third := call [] _ (show ∀ number, (TcpStream.call buf (TcpStream.call (lengthPrefix buf) stream).2).2.faults
    number = none by rw [second, first]; exact healthy)
  rw [second, first] at third
  rw [first] at second
  rw [writeMessage, encoded]
  refine ⟨_, (Attempt.bind_ok _ first).trans ((Attempt.bind_ok _ second).trans third), rfl, ?_⟩
  simp [frame]

/-- The first attempt sends a message when nothing fails. -/
theorem PeerSender.Smooth.sendAttempts (connects : ∀ dial, dialer dial = .ok fun _ => none) {msgs : List Message}
    {msg : Message} {sender : PeerSender} (smooth : sender.Smooth codec msgs) {buf : Bytes}
    (encoded : codec.encode msg = .ok buf) :
    (sender.sendAttempts codec dialer msg maxRetries).2.Smooth codec (msgs ++ [msg]) := by
  have framed := MessageCodec.frame_eq_some.mpr ⟨buf, encoded, rfl⟩
  have ready : ∃ stream, (sender.ensureConnection dialer).stream = some stream ∧
      (sender.ensureConnection dialer).dropped = [] ∧ (∀ call, stream.faults call = none) ∧
      stream.written = (msgs.filterMap codec.frame).flatten := by
    unfold PeerSender.ensureConnection
    split
    · case h_1 stream isOpen => exact ⟨stream, isOpen, smooth.kept, smooth.opened stream isOpen⟩
    · case h_2 idle =>
        rw [connects]
        refine ⟨_, rfl, smooth.kept, fun _ => rfl, ?_⟩
        rw [smooth.closed idle]
        rfl
  obtain ⟨stream, isOpen, kept, healthy, wrote⟩ := ready
  obtain ⟨after, done, faults, written⟩ := writeMessage_smooth encoded healthy
  rw [maxRetries, PeerSender.sendAttempts, isOpen]
  simp only [done]
  refine ⟨kept, fun later same => ?_, fun same => by cases same⟩
  obtain rfl := Option.some.inj same
  refine ⟨faults ▸ healthy, ?_⟩
  rw [written, wrote]
  simp [List.filterMap_append, framed]

/-- A thread without faults writes the frames of its whole queue. -/
theorem PeerSender.Smooth.peerSenderThread (connects : ∀ dial, dialer dial = .ok fun _ => none)
    {queue : List Message} (sends : codec.Sends queue) {msgs : List Message} {sender : PeerSender}
    (smooth : sender.Smooth codec msgs) : (sender.peerSenderThread codec dialer queue).Smooth codec (msgs ++ queue) := by
  induction queue generalizing sender msgs with
  | nil => simpa [PeerSender.peerSenderThread] using smooth
  | cons msg rest ih =>
      obtain ⟨buf, encoded, _⟩ := sends msg List.mem_cons_self
      rw [← List.singleton_append, ← List.append_assoc]
      exact ih (fun next inside => sends next (List.mem_cons_of_mem msg inside))
        (smooth.sendAttempts connects encoded)

end Quiet

/-- The link has nothing left to do: its channel is empty, all bytes arrived and its handler waits for more. -/
structure Fabric.Settled (world : Surroundings) (src dst : Nat) (fabric : Fabric) : Prop where
  waiting : (fabric.transports src).waiting dst = []
  arrived : (fabric.handlers ⟨src, dst, 0⟩).arrived = (fabric.written ⟨src, dst, 0⟩).length
  running : (fabric.handlers ⟨src, dst, 0⟩).finished = false
  waits : (fabric.handlers ⟨src, dst, 0⟩).read world.codec (world.acceptor ⟨src, dst, 0⟩) =
    (none, fabric.handlers ⟨src, dst, 0⟩)

/-- Every connect and every write succeeds. -/
def smoothSurroundings : Surroundings where
  codec := .fields
  dialer _ _ _ := .ok fun _ => none
  acceptor id := id.dst

end RaftATui.Tcp
