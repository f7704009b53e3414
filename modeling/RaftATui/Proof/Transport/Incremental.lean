import RaftATui.Library.Agreement
import RaftATui.Library.Loop
import RaftATui.Proof.Transport.Reconnect

namespace RaftATui.Tcp
open Machinery
open Machinery.Attempt (Repeats)

/-- The first stream ends inside the second one, in any way. -/
def Incoming.Begins (part whole : Incoming) : Prop := ∃ more, whole.bytes = part.bytes ++ more

/-- A read repeats on each longer stream. -/
theorem readExact_repeats (count : Nat) : Repeats Incoming.Begins (readExact count) (readExact count) := by
  rintro part whole bytes rest ⟨more, longer⟩ done
  obtain ⟨begins, width, _⟩ := readExact_ok done
  refine ⟨⟨rest.bytes ++ more, whole.ending⟩, ?_, more, rfl⟩
  rw [← readExact_append width whole.ending, ← List.append_assoc, ← begins, ← longer]

/-- A message is read again from each longer stream. -/
theorem readMessage_repeats (codec : MessageCodec) :
    Repeats Incoming.Begins (readMessage codec) (readMessage codec) := by
  apply (readExact_repeats 4).bind
  intro lenBytes
  by_cases large : maxMessageSize < Framing.fromBigEndian lenBytes
  · simp only [if_pos large]
    exact Repeats.fail _ _
  · simp only [if_neg large]
    apply (readExact_repeats _).bind
    intro buf
    cases codec.decode buf with
    | error error => exact Repeats.fail _ _
    | ok msg => exact Repeats.pure msg

/-- These are the messages that are read until the first error. -/
def messages (codec : MessageCodec) (stream : Incoming) : List Message :=
  match _step : readMessage codec stream with
  | (.ok msg, rest) => msg :: messages codec rest
  | (.error _, _) => []
termination_by stream.bytes.length
decreasing_by exact readMessage_shrinks _step

section Messages

variable {codec : MessageCodec} {stream rest part whole : Incoming} {msg : Message}

/-- A message that is read comes first. -/
theorem messages_ok (read : readMessage codec stream = (.ok msg, rest)) :
    messages codec stream = msg :: messages codec rest := by
  rw [messages]
  split
  · rename_i same
    cases read.symm.trans same
    rfl
  · rename_i same
    cases read.symm.trans same

/-- An error ends the messages. -/
theorem messages_error {error : IoError} (stopped : readMessage codec stream = (.error error, rest)) :
    messages codec stream = [] := by
  rw [messages]
  split
  · rename_i same
    cases stopped.symm.trans same
  · rfl

/-- More bytes only add messages at the end. -/
theorem messages_mono (begins : part.Begins whole) : messages codec part <+: messages codec whole := by
  induction size : part.bytes.length using Nat.strongRecOn generalizing part whole with
  | ind size ih =>
      rcases run : readMessage codec part with ⟨error | msg, rest⟩
      · rw [messages_error run]
        exact List.nil_prefix
      · obtain ⟨later, read, continues⟩ := readMessage_repeats codec part whole msg rest begins run
        rw [messages_ok run, messages_ok read]
        have shorter := readMessage_shrinks run
        exact List.cons_prefix_cons.mpr ⟨rfl, ih _ (size ▸ shorter) continues rfl⟩

end Messages

section Frames

variable {codec : MessageCodec} {buf part : Bytes}

/-- A frame that cannot be decoded is consumed. -/
theorem readMessage_undecoded {error : String} (fits : buf.length ≤ maxMessageSize)
    (broken : codec.decode buf = .error error) (rest : Bytes) (ending : IoError) :
    readMessage codec ⟨frame buf ++ rest, ending⟩ =
      (.error ⟨.invalidData, s!"Failed to decode message: {error}"⟩, ⟨rest, ending⟩) := by
  rw [readMessage_fits fits, broken]

/-- An incomplete frame yields no message, also one that the reader would refuse. -/
theorem messages_incomplete (width : buf.length < 2 ^ 32) (begun : part <+: frame buf)
    (short : part ≠ frame buf) (ending : IoError) : messages codec ⟨part, ending⟩ = [] := by
  by_cases fits : buf.length ≤ maxMessageSize
  · exact messages_error (readMessage_torn fits begun short ending)
  · rcases Framing.begins_append begun with ⟨inside, missing⟩ | ⟨later, inside, rfl⟩
    · exact messages_error (readMessage_torn_length inside missing ending)
    · exact messages_error (readMessage_refuses_length (Nat.not_le.mp fits) width later ending)

/-- Whole frames give their messages. -/
theorem messages_whole {sent : List (Bytes × Message)}
    (decoded : ∀ one ∈ sent, one.1.length ≤ maxMessageSize ∧ codec.decode one.1 = .ok one.2) (ending : IoError) :
    messages codec ⟨(sent.map fun one => frame one.1).flatten, ending⟩ = sent.map Prod.snd := by
  induction sent with
  | nil => exact messages_error (rfl : readMessage codec ⟨[], ending⟩ = (.error ending, ⟨[], ending⟩))
  | cons one rest ih =>
      obtain ⟨fits, same⟩ := decoded one List.mem_cons_self
      have later := ih fun next inside => decoded next (List.mem_cons_of_mem one inside)
      rw [List.map_cons, List.flatten_cons, messages_ok (readMessage_frame fits same _ ending), later]
      rfl

/-- Behind the same whole frames the selected messages differ only by those of the ends. -/
theorem messages_frames {select : Message → Bool} {one two : Bytes} {ending : IoError} {bufs : List Bytes}
    (width : ∀ buf ∈ bufs, buf.length < 2 ^ 32)
    (same : (messages codec ⟨one, ending⟩).filter select = (messages codec ⟨two, ending⟩).filter select) :
    (messages codec ⟨(bufs.map frame).flatten ++ one, ending⟩).filter select =
      (messages codec ⟨(bufs.map frame).flatten ++ two, ending⟩).filter select := by
  induction bufs with
  | nil => simpa using same
  | cons buf rest ih =>
      have later := ih fun next inside => width next (List.mem_cons_of_mem buf inside)
      simp only [List.map_cons, List.flatten_cons, List.append_assoc]
      by_cases fits : buf.length ≤ maxMessageSize
      · cases decoded : codec.decode buf with
        | error error =>
            rw [messages_error (readMessage_undecoded fits decoded _ ending),
              messages_error (readMessage_undecoded fits decoded _ ending)]
        | ok msg =>
            rw [messages_ok (readMessage_frame fits decoded _ ending),
              messages_ok (readMessage_frame fits decoded _ ending), List.filter_cons, List.filter_cons, later]
      · have large := Nat.not_le.mp fits
        have narrow := width buf List.mem_cons_self
        rw [messages_error (readMessage_refuses large narrow _ ending),
          messages_error (readMessage_refuses large narrow _ ending)]

end Frames

section Connection

variable {codec : MessageCodec} {nodeId : Nat} {stream rest : Incoming} {msg : Message}

/-- One turn of the loop goes on with a later stream or returns. -/
def connectionTurn (codec : MessageCodec) (nodeId : Nat) :
    Incoming × MsgTx → (Incoming × MsgTx) ⊕ (Except IoError Unit × MsgTx)
  | (stream, msgTx) =>
      match readMessage codec stream with
      | (.ok msg, rest) =>
          if msg.to ≠ nodeId then .inl (rest, msgTx)
          else match msgTx.send msg with
            | none => .inr (.error ⟨.other, "msg_tx channel closed"⟩, msgTx)
            | some after => .inl (rest, after)
      | (.error error, _) =>
          if error.kind = .unexpectedEof then .inr (.ok (), msgTx) else .inr (.error error, msgTx)

/-- The handler is one turn and then itself. -/
theorem handleConnection_turn (stream : Incoming) (msgTx : MsgTx) :
    handleConnection codec nodeId stream msgTx =
      match connectionTurn codec nodeId (stream, msgTx) with
      | .inl (rest, after) => handleConnection codec nodeId rest after
      | .inr result => result := by
  rcases read : readMessage codec stream with ⟨error | msg, rest⟩
  · rw [handleConnection]
    simp only [connectionTurn, read]
    split
    · rename_i same
      cases read.symm.trans same
    · rename_i same
      cases read.symm.trans same
      split <;> rfl
  · rw [handleConnection_ok read]
    simp only [connectionTurn, read]
    by_cases other : msg.to ≠ nodeId
    · simp only [if_pos other]
    · simp only [if_neg other]
      cases msgTx.send msg <;> rfl

/-- The loop takes one turn for each four bytes of the stream at most, and one at its end. -/
theorem handleConnection_iterate (codec : MessageCodec) (nodeId : Nat) (stream : Incoming) (msgTx : MsgTx) :
    Loop.iterate (connectionTurn codec nodeId) (stream.bytes.length / 4 + 1) (stream, msgTx) =
      some (handleConnection codec nodeId stream msgTx) := by
  have shrinks (state next : Incoming × MsgTx) (step : connectionTurn codec nodeId state = .inl next) :
      next.1.bytes.length / 4 < state.1.bytes.length / 4 := by
    obtain ⟨stream, msgTx⟩ := state
    rcases read : readMessage codec stream with ⟨error | msg, rest⟩
    · simp only [connectionTurn, read] at step
      split at step <;> cases step
    · have consumed := readMessage_consumes read
      have later : next.1 = rest := by
        simp only [connectionTurn, read] at step
        split at step
        · cases step
          rfl
        · split at step <;> cases step
          rfl
      show next.1.bytes.length / 4 < stream.bytes.length / 4
      rw [later]
      omega
  apply Loop.iterate_eq_some (fun state : Incoming × MsgTx => state.1.bytes.length / 4)
    (fun state => handleConnection codec nodeId state.1 state.2) shrinks
  · intro state next step
    show handleConnection codec nodeId state.1 state.2 = _
    rw [handleConnection_turn, step]
  · intro state result step
    show handleConnection codec nodeId state.1 state.2 = _
    rw [handleConnection_turn, step]
  · show stream.bytes.length / 4 < stream.bytes.length / 4 + 1
    omega

/-- These are the messages that an open channel receives from a stream. -/
def delivered (codec : MessageCodec) (nodeId : Nat) (stream : Incoming) : List Message :=
  (handleConnection codec nodeId stream ⟨[], none⟩).2.received

/-- An open channel receives all messages for its node. -/
theorem handleConnection_open (codec : MessageCodec) (nodeId : Nat) (stream : Incoming) (received : List Message) :
    (handleConnection codec nodeId stream ⟨received, none⟩).2 =
      ⟨received ++ (messages codec stream).filter fun msg => msg.to = nodeId, none⟩ := by
  induction size : stream.bytes.length using Nat.strongRecOn generalizing stream received with
  | ind size ih =>
      rcases read : readMessage codec stream with ⟨error | msg, rest⟩
      · rw [handleConnection_error read, messages_error read, List.filter_nil, List.append_nil]
      · have shorter := readMessage_shrinks read
        rw [handleConnection_ok read, messages_ok read]
        by_cases addressed : msg.to = nodeId
        · have sent : MsgTx.send msg ⟨received, none⟩ = some ⟨received ++ [msg], none⟩ := rfl
          rw [if_neg (not_not.mpr addressed), sent]
          simp only
          rw [ih _ (size ▸ shorter) rest _ rfl, List.filter_cons_of_pos (by simpa using addressed),
            List.append_assoc]
          rfl
        · rw [if_pos addressed, ih _ (size ▸ shorter) rest _ rfl,
            List.filter_cons_of_neg (by simpa using addressed)]

/-- The delivered messages are those for the node among all that are read. -/
theorem delivered_eq (codec : MessageCodec) (nodeId : Nat) (stream : Incoming) :
    delivered codec nodeId stream = (messages codec stream).filter fun msg => msg.to = nodeId := by
  rw [delivered, handleConnection_open]
  rfl

end Connection

/-- A reader with an open channel stops, delivers exactly its own messages of the whole frames that it can
decode, and never takes one back. -/
structure Incremental (codec : MessageCodec) (nodeId : Nat) : Prop where
  stops : ∀ stream msgTx, Loop.iterate (connectionTurn codec nodeId) (stream.bytes.length / 4 + 1) (stream, msgTx) =
    some (handleConnection codec nodeId stream msgTx)
  appends : ∀ stream received, (handleConnection codec nodeId stream ⟨received, none⟩).2 =
    ⟨received ++ delivered codec nodeId stream, none⟩
  reads : ∀ stream, delivered codec nodeId stream = (messages codec stream).filter fun msg => msg.to = nodeId
  whole : ∀ (sent : List (Bytes × Message)) (ending : IoError),
    (∀ one ∈ sent, one.1.length ≤ maxMessageSize ∧ codec.decode one.1 = .ok one.2) →
    delivered codec nodeId ⟨(sent.map fun one => frame one.1).flatten, ending⟩ =
      (sent.map Prod.snd).filter fun msg => msg.to = nodeId
  addressed : ∀ stream, ∀ msg ∈ delivered codec nodeId stream, msg.to = nodeId
  grows : ∀ part whole ending closing, part <+: whole →
    delivered codec nodeId ⟨part, ending⟩ <+: delivered codec nodeId ⟨whole, closing⟩
  torn : ∀ (bufs : List Bytes) (last part : Bytes) (ending : IoError), (∀ buf ∈ bufs, buf.length < 2 ^ 32) →
    last.length < 2 ^ 32 → part <+: frame last → part ≠ frame last →
    delivered codec nodeId ⟨(bufs.map frame).flatten ++ part, ending⟩ =
      delivered codec nodeId ⟨(bufs.map frame).flatten, ending⟩
  skips : ∀ (bufs : List Bytes) (buf rest : Bytes) (msg : Message) (ending : IoError),
    (∀ buf ∈ bufs, buf.length < 2 ^ 32) → buf.length ≤ maxMessageSize → codec.decode buf = .ok msg →
    msg.to ≠ nodeId →
    delivered codec nodeId ⟨(bufs.map frame).flatten ++ (frame buf ++ rest), ending⟩ =
      delivered codec nodeId ⟨(bufs.map frame).flatten ++ rest, ending⟩

/-- The handler reads each connection incrementally. -/
theorem handleConnection_incremental (codec : MessageCodec) (nodeId : Nat) : Incremental codec nodeId where
  stops := handleConnection_iterate codec nodeId
  appends stream received := by rw [handleConnection_open, delivered_eq]
  reads := delivered_eq codec nodeId
  whole sent ending decoded := by rw [delivered_eq, messages_whole decoded]
  addressed stream msg inside := by
    rw [delivered_eq, List.mem_filter] at inside
    simpa using inside.2
  grows part whole ending closing begins := by
    obtain ⟨more, longer⟩ := begins
    have mono : messages codec ⟨part, ending⟩ <+: messages codec ⟨whole, closing⟩ :=
      messages_mono ⟨more, longer.symm⟩
    rw [delivered_eq, delivered_eq]
    exact mono.filter _
  torn bufs last part ending width narrow begun short := by
    have idle : readMessage codec ⟨[], ending⟩ = (.error ending, ⟨[], ending⟩) := rfl
    have nothing : messages codec ⟨part, ending⟩ = messages codec ⟨[], ending⟩ := by
      rw [messages_incomplete narrow begun short, messages_error idle]
    have same := messages_frames width (congrArg (List.filter fun msg => msg.to = nodeId) nothing)
    rw [delivered_eq, delivered_eq, same, List.append_nil]
  skips bufs buf rest msg ending width fits decoded other := by
    rw [delivered_eq, delivered_eq]
    apply messages_frames width
    rw [messages_ok (readMessage_frame fits decoded rest ending), List.filter_cons_of_neg (by simpa using other)]

end RaftATui.Tcp
