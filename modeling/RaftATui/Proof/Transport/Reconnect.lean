import RaftATui.Proof.Transport.RoundTrip

namespace RaftATui.Tcp
open Machinery
open Framing (Unbroken Torn)

/-- The open connection holds whole frames, and at most the last one is torn on each of the others. -/
structure PeerSender.Framed (whole torn : List Bytes) (sender : PeerSender) : Prop where
  opened : ∀ stream, sender.stream = some stream → Unbroken whole stream.written
  given : ∀ stream ∈ sender.dropped, Torn torn stream.written

section Sending

variable {codec : MessageCodec} {dialer : Dialer} {msg : Message} {frames torn more : List Bytes}
  {sender : PeerSender}

/-- A framed sender is framed also among more frames. -/
theorem PeerSender.Framed.mono (framed : sender.Framed frames torn) (grows : frames.Sublist more)
    (tears : torn.Sublist more) : sender.Framed more more where
  opened stream isOpen := (framed.opened stream isOpen).mono grows
  given stream inside := (framed.given stream inside).mono tears

/-- A new connection holds no bytes. -/
theorem PeerSender.Framed.ensureConnection (framed : sender.Framed frames torn) :
    (sender.ensureConnection dialer).Framed frames torn := by
  unfold PeerSender.ensureConnection
  split
  · exact framed
  · split
    · refine ⟨fun stream isOpen => ?_, framed.given⟩
      obtain rfl := Option.some.inj isOpen
      exact Framing.unbroken_nil
    · exact ⟨framed.opened, framed.given⟩

/-- An attempt leaves whole frames on the stream that it puts back, and tears only the other ones. -/
theorem writeMessage_framed (codec : MessageCodec) (msg : Message) {stream : TcpStream} (whole : Unbroken frames stream.written) :
    match writeMessage TcpStream.write codec msg stream with
    | (.ok (), after) => Unbroken (frames ++ (codec.frame msg).toList) after.written
    | (.error _, after) => Torn (frames ++ (codec.frame msg).toList) after.written := by
  rcases run : writeMessage TcpStream.write codec msg stream with ⟨error | _, after⟩
  · cases framed : codec.frame msg with
    | none =>
        obtain ⟨_, same⟩ := writeMessage_unencoded TcpStream.write framed stream
        rw [run] at same
        cases same
        exact Or.inl (whole.mono (List.sublist_append_left _ _))
    | some bytes =>
        obtain ⟨part, begun, wrote⟩ := writeMessage_part TcpStream.write framed stream
        rw [run] at wrote
        change after.written = stream.written ++ part at wrote
        show Torn (frames ++ [bytes]) after.written
        rw [wrote]
        exact whole.tear begun
  · obtain ⟨buf, encoded, wrote⟩ := writeMessage_ok TcpStream.write run
    change after.written = stream.written ++ frame buf at wrote
    have framed := MessageCodec.frame_eq_some.mpr ⟨buf, encoded, rfl⟩
    rw [framed]
    show Unbroken (frames ++ [frame buf]) after.written
    rw [wrote]
    exact whole.snoc

/-- The attempts of one message put at most its frame behind those of the earlier messages. -/
theorem sendAttempts_framed (left : Nat) (framed : sender.Framed frames (frames ++ (codec.frame msg).toList)) :
    (PeerSender.sendAttempts codec dialer msg left sender).2.Framed (frames ++ (codec.frame msg).toList)
      (frames ++ (codec.frame msg).toList) := by
  induction left generalizing sender with
  | zero => exact framed.mono (List.sublist_append_left _ _) (List.Sublist.refl _)
  | succ left ih =>
      have ready : (sender.ensureConnection dialer).Framed frames _ := framed.ensureConnection
      rw [PeerSender.sendAttempts]
      cases opened : (sender.ensureConnection dialer).stream with
      | none =>
          exact ih ready
      | some stream =>
          have attempt := writeMessage_framed codec msg (ready.opened stream opened)
          rcases run : writeMessage TcpStream.write codec msg stream with ⟨error | _, after⟩
          · rw [run] at attempt
            simp only [run]
            refine ih ⟨by simp, fun given inside => ?_⟩
            rcases List.mem_append.mp inside with old | new
            · exact ready.given given old
            · rw [List.mem_singleton.mp new]
              exact attempt
          · rw [run] at attempt
            simp only [run]
            refine ⟨fun later isOpen => ?_, ready.given⟩
            obtain rfl := Option.some.inj isOpen
            exact attempt

/-- The thread keeps the frames of the messages that it took in their order. -/
theorem peerSenderThread_framed (queue : List Message) (framed : sender.Framed frames frames) :
    (PeerSender.peerSenderThread codec dialer queue sender).Framed (frames ++ queue.filterMap codec.frame)
      (frames ++ queue.filterMap codec.frame) := by
  induction queue generalizing sender frames with
  | nil => simpa [PeerSender.peerSenderThread] using framed
  | cons msg rest ih =>
      have wider : sender.Framed frames (frames ++ (codec.frame msg).toList) :=
        ⟨framed.opened, fun stream inside => (framed.given stream inside).mono (List.sublist_append_left _ _)⟩
      have step : (PeerSender.sendAttempts codec dialer msg maxRetries sender).2.Framed _ _ :=
        sendAttempts_framed maxRetries wider
      have later := ih step
      have split : (msg :: rest).filterMap codec.frame =
          (codec.frame msg).toList ++ rest.filterMap codec.frame := by
        rw [List.filterMap_cons]
        cases codec.frame msg <;> rfl
      rw [split, ← List.append_assoc]
      exact later

end Sending

section Receiving

variable {codec : MessageCodec} {nodeId : Nat} {msgTx : MsgTx} {stream rest : Incoming} {msg : Message}

/-- An error ends the connection and delivers nothing. -/
theorem handleConnection_error {error : IoError} (stopped : readMessage codec stream = (.error error, rest)) :
    (handleConnection codec nodeId stream msgTx).2 = msgTx := by
  rw [handleConnection]
  split
  · rename_i same
    cases stopped.symm.trans same
  · split <;> rfl

/-- A message that is read is delivered when it is for this node. -/
theorem handleConnection_ok (read : readMessage codec stream = (.ok msg, rest)) :
    handleConnection codec nodeId stream msgTx =
      if msg.to ≠ nodeId then handleConnection codec nodeId rest msgTx
      else match msgTx.send msg with
        | none => (.error ⟨.other, "msg_tx channel closed"⟩, msgTx)
        | some after => handleConnection codec nodeId rest after := by
  rw [handleConnection]
  split
  · rename_i same
    cases read.symm.trans same
    rfl
  · rename_i same
    cases read.symm.trans same

/-- One connection hands the first of the given messages to the ready loop, and all of them while the loop
keeps its receiver. -/
def Delivers (before after : MsgTx) (msgs : List Message) : Prop :=
  ∃ delivered, after.received = before.received ++ delivered ∧ delivered <+: msgs ∧
    (before.closesAfter = none → delivered = msgs)

/-- No message leaves the channel as it is. -/
theorem delivers_nil (msgTx : MsgTx) : Delivers msgTx msgTx [] :=
  ⟨[], (List.append_nil _).symm, List.nil_prefix, fun _ => rfl⟩

/-- A closed channel takes none of the messages. -/
theorem delivers_closed {msgs : List Message} (closed : msgTx.send msg = none) : Delivers msgTx msgTx msgs := by
  refine ⟨[], (List.append_nil _).symm, List.nil_prefix, fun isOpen => ?_⟩
  simp [MsgTx.send, isOpen] at closed

/-- A received message comes before the later ones. -/
theorem Delivers.cons {sent after : MsgTx} {msgs : List Message} (accepted : msgTx.send msg = some sent)
    (later : Delivers sent after msgs) : Delivers msgTx after (msg :: msgs) := by
  obtain ⟨delivered, grows, initial, all⟩ := later
  have taken : sent = { msgTx with received := msgTx.received ++ [msg] } := by
    unfold MsgTx.send at accepted
    split at accepted <;> cases accepted
    rfl
  rw [taken] at grows all
  refine ⟨msg :: delivered, ?_, List.cons_prefix_cons.mpr ⟨rfl, initial⟩, fun isOpen => ?_⟩
  · rw [grows, List.append_assoc]
    rfl
  · rw [all isOpen]

/-- The bytes are the whole frames of these messages of the queue and then at most a part of a later frame. -/
structure Seen (codec : MessageCodec) (queue : List Message) (seen : Bytes) (sent : List Message) : Prop where
  order : sent.Sublist queue
  framed : ∀ msg ∈ sent, (codec.frame msg).isSome
  bytes : seen = (sent.filterMap codec.frame).flatten ∨ ∃ last part bytes, (sent ++ [last]).Sublist queue ∧
    codec.frame last = some bytes ∧ part <+: bytes ∧ part ≠ bytes ∧
    seen = (sent.filterMap codec.frame).flatten ++ part

/-- A message that has no encoding has no frame. -/
theorem filterMap_framed (sent : List Message) :
    (sent.filter fun msg => (codec.frame msg).isSome).filterMap codec.frame = sent.filterMap codec.frame := by
  rw [List.filterMap_filter]
  refine List.filterMap_congr fun msg _ => ?_
  cases codec.frame msg <;> rfl

/-- Bytes of a torn stream of frames show some messages of the queue. -/
theorem seen_of_torn {queue : List Message} {seen : Bytes} (torn : Torn (queue.filterMap codec.frame) seen) :
    ∃ sent, Seen codec queue seen sent := by
  rcases torn with ⟨whole, order, rfl⟩ | ⟨whole, bytes, part, order, rfl, begun, short⟩
  · obtain ⟨sent, inside, rfl⟩ := List.sublist_filterMap_iff.mp order
    refine ⟨sent.filter fun msg => (codec.frame msg).isSome, List.filter_sublist.trans inside,
      fun msg member => (List.mem_filter.mp member).2, Or.inl ?_⟩
    rw [filterMap_framed]
  · obtain ⟨both, inside, same⟩ := List.sublist_filterMap_iff.mp order
    obtain ⟨sent, after, rfl, rfl, rest⟩ := List.filterMap_eq_append_iff.mp same.symm
    obtain ⟨skipped, last, later, rfl, _, framed, _⟩ := List.filterMap_eq_cons_iff.mp rest
    have ends : [last].Sublist (skipped ++ last :: later) :=
      List.singleton_sublist.mpr (List.mem_append_right skipped List.mem_cons_self)
    have order : ((sent.filter fun msg => (codec.frame msg).isSome) ++ [last]).Sublist queue :=
      (List.filter_sublist.append ends).trans inside
    refine ⟨sent.filter fun msg => (codec.frame msg).isSome, (List.sublist_append_left _ [last]).trans order,
      fun msg member => (List.mem_filter.mp member).2, Or.inr ⟨last, part, bytes, order, framed, begun, short, ?_⟩⟩
    rw [filterMap_framed]

/-- A reader takes the messages of whole frames that are addressed to it. -/
theorem handleConnection_delivers (inverts : codec.Inverts) {sent : List Message}
    (framed : ∀ msg ∈ sent, (codec.frame msg).isSome)
    (small : ∀ msg ∈ sent, ∀ buf, codec.encode msg = .ok buf → buf.length ≤ maxMessageSize) {part : Bytes}
    {ending error : IoError} (stops : (readMessage codec ⟨part, ending⟩).1 = .error error) (msgTx : MsgTx) :
    Delivers msgTx
      (handleConnection codec nodeId ⟨(sent.filterMap codec.frame).flatten ++ part, ending⟩ msgTx).2
      (sent.filter fun msg => msg.to = nodeId) := by
  induction sent generalizing msgTx with
  | nil =>
      have idle : (handleConnection codec nodeId ⟨part, ending⟩ msgTx).2 = msgTx :=
        handleConnection_error (Prod.ext stops rfl)
      rw [List.filterMap_nil, List.flatten_nil, List.nil_append, idle]
      exact delivers_nil msgTx
  | cons msg rest ih =>
      have later := ih (fun next inside => framed next (List.mem_cons_of_mem msg inside))
        fun next inside => small next (List.mem_cons_of_mem msg inside)
      obtain ⟨bytes, encoded⟩ := Option.isSome_iff_exists.mp (framed msg List.mem_cons_self)
      obtain ⟨buf, same, rfl⟩ := MessageCodec.frame_eq_some.mp encoded
      have read := readMessage_frame (small msg List.mem_cons_self buf same) (inverts msg buf same)
        ((rest.filterMap codec.frame).flatten ++ part) ending
      rw [List.filterMap_cons_some encoded, List.flatten_cons, List.append_assoc, handleConnection_ok read]
      by_cases addressed : msg.to = nodeId
      · rw [if_neg (not_not.mpr addressed), List.filter_cons_of_pos (by simpa using addressed)]
        cases accepted : msgTx.send msg with
        | none => exact delivers_closed accepted
        | some after => exact (later after).cons accepted
      · rw [if_pos addressed, List.filter_cons_of_neg (by simpa using addressed)]
        exact later msgTx

/-- The torn frame at the end of a connection delivers nothing. -/
theorem Seen.delivers (inverts : codec.Inverts) {queue sent : List Message}
    (small : ∀ msg ∈ queue, ∀ buf, codec.encode msg = .ok buf → buf.length ≤ maxMessageSize) {seen : Bytes}
    (shown : Seen codec queue seen sent) (ending : IoError) (nodeId : Nat) (msgTx : MsgTx) :
    Delivers msgTx (handleConnection codec nodeId ⟨seen, ending⟩ msgTx).2
      (sent.filter fun msg => msg.to = nodeId) := by
  have narrow (msg : Message) (inside : msg ∈ sent) := small msg (shown.order.subset inside)
  rcases shown.bytes with rfl | ⟨last, part, bytes, order, framed, begun, short, rfl⟩
  · have stops : (readMessage codec ⟨[], ending⟩).1 = .error ending := rfl
    have rest : Delivers msgTx (handleConnection codec nodeId
        ⟨(sent.filterMap codec.frame).flatten ++ [], ending⟩ msgTx).2 (sent.filter fun msg => msg.to = nodeId) :=
      handleConnection_delivers inverts shown.framed narrow stops msgTx
    rw [List.append_nil] at rest
    exact rest
  · obtain ⟨buf, encoded, rfl⟩ := MessageCodec.frame_eq_some.mp framed
    have inside : last ∈ queue := order.subset (by simp)
    have stops : (readMessage codec ⟨part, ending⟩).1 = .error ending :=
      congrArg Prod.fst (readMessage_torn (small last inside buf encoded) begun short ending)
    exact handleConnection_delivers inverts shown.framed narrow stops msgTx

end Receiving

/-- Each connection carries whole frames and then at most a torn one. A reader of any initial part gets
exactly the whole frames in it whose messages are for its node. -/
theorem connection_delivers_queued {codec : MessageCodec} (inverts : codec.Inverts) (dialer : Dialer)
    {queue : List Message}
    (small : ∀ msg ∈ queue, ∀ buf, codec.encode msg = .ok buf → buf.length ≤ maxMessageSize)
    {connection : TcpStream}
    (opened : connection ∈ (PeerSender.start.peerSenderThread codec dialer queue).connections) :
    Torn (queue.filterMap codec.frame) connection.written ∧
      ∀ seen, seen <+: connection.written → ∃ sent, Seen codec queue seen sent ∧
        ∀ ending nodeId msgTx, Delivers msgTx (handleConnection codec nodeId ⟨seen, ending⟩ msgTx).2
          (sent.filter fun msg => msg.to = nodeId) := by
  have begins : PeerSender.start.Framed [] [] := ⟨by simp [PeerSender.start], by simp [PeerSender.start]⟩
  have framed : (PeerSender.start.peerSenderThread codec dialer queue).Framed _ _ :=
    peerSenderThread_framed queue begins
  rw [List.nil_append] at framed
  have torn : Torn (queue.filterMap codec.frame) connection.written := by
    rcases List.mem_append.mp opened with given | isOpen
    · exact framed.given connection given
    · exact Or.inl (framed.opened connection (Option.mem_toList.mp isOpen))
  refine ⟨torn, fun seen initial => ?_⟩
  obtain ⟨sent, shown⟩ := seen_of_torn (torn.shrink initial)
  exact ⟨sent, shown, shown.delivers inverts small⟩

/-- The first connect fails and the first connection breaks inside its second message. -/
def flakyDialer : Dialer
  | 0 => .error ⟨.connection, "Connection refused (os error 111)"⟩
  | 1 => .ok fun call => if call = 4 then some ⟨3, ⟨.connection, "Broken pipe (os error 32)"⟩⟩ else none
  | _ => .ok fun _ => none

def flakyQueue : List Message := [⟨2, 1, []⟩, ⟨2, 1, [32, 5]⟩]

def flakyConnection : TcpStream where
  written := [0, 0, 0, 4, 16, 2, 24, 1, 0, 0, 0, 6, 16, 2, 24]
  faults call := if call = 4 then some ⟨3, ⟨.connection, "Broken pipe (os error 32)"⟩⟩ else none
  calls := 5

/-- The broken connection shows one whole frame and a part of the other. -/
theorem connection_delivers_queued_flaky :
    Torn (flakyQueue.filterMap MessageCodec.fields.frame) flakyConnection.written ∧
      ∀ seen, seen <+: flakyConnection.written → ∃ sent, Seen .fields flakyQueue seen sent ∧
        ∀ ending nodeId msgTx, Delivers msgTx (handleConnection .fields nodeId ⟨seen, ending⟩ msgTx).2
          (sent.filter fun msg => msg.to = nodeId) := by
  apply connection_delivers_queued MessageCodec.fields_inverts flakyDialer
  · intro msg inside buf encoded
    obtain ⟨_, rfl⟩ := MessageCodec.fields_encode encoded
    revert msg
    decide
  · exact List.mem_cons_self

end RaftATui.Tcp
