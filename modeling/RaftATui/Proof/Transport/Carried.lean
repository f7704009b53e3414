import Mathlib.Data.List.Forall2
import RaftATui.Library.Delivery
import RaftATui.Proof.Transport.Incremental

namespace RaftATui.Tcp
open Machinery
open Delivery (AtMost)

/-- The length of each encoded message fits into the prefix. -/
def MessageCodec.Fits (codec : MessageCodec) (msgs : List Message) : Prop :=
  ∀ msg ∈ msgs, ∀ buf, codec.encode msg = .ok buf → buf.length < 2 ^ 32

section Reading

variable {codec : MessageCodec} {msgs : List Message} {part : Bytes}

/-- Behind whole frames the reader yields at most their messages. -/
theorem messages_sublist (inverts : codec.Inverts) (fits : codec.Fits msgs) {ending : IoError}
    (nothing : messages codec ⟨part, ending⟩ = []) :
    (messages codec ⟨(msgs.filterMap codec.frame).flatten ++ part, ending⟩).Sublist msgs := by
  induction msgs with
  | nil =>
      rw [List.filterMap_nil, List.flatten_nil, List.nil_append, nothing]
  | cons msg rest ih =>
      have later := ih fun next inside => fits next (List.mem_cons_of_mem msg inside)
      cases framed : codec.frame msg with
      | none =>
          rw [List.filterMap_cons_none framed]
          exact later.cons msg
      | some bytes =>
          obtain ⟨buf, encoded, rfl⟩ := MessageCodec.frame_eq_some.mp framed
          rw [List.filterMap_cons_some framed, List.flatten_cons, List.append_assoc]
          rcases Nat.lt_or_ge maxMessageSize buf.length with large | small
          · have width := fits msg List.mem_cons_self buf encoded
            rw [messages_error (readMessage_refuses large width _ ending)]
            exact List.nil_sublist _
          · rw [messages_ok (readMessage_frame small (inverts msg buf encoded) _ ending)]
            exact later.cons_cons msg

/-- No bytes give no message. -/
theorem messages_nil (codec : MessageCodec) (ending : IoError) : messages codec ⟨[], ending⟩ = [] :=
  messages_error (show readMessage codec ⟨[], ending⟩ = (.error ending, ⟨[], ending⟩) from rfl)

/-- A part of one more frame adds at most its message. -/
theorem messages_part_sublist (inverts : codec.Inverts) {msg : Message} (fits : codec.Fits (msgs ++ [msg]))
    {bytes : Bytes} (framed : codec.frame msg = some bytes) (begun : part <+: bytes) (ending : IoError) :
    (messages codec ⟨(msgs.filterMap codec.frame).flatten ++ part, ending⟩).Sublist (msgs ++ [msg]) := by
  by_cases complete : part = bytes
  · have joined : (msgs.filterMap codec.frame).flatten ++ part =
        ((msgs ++ [msg]).filterMap codec.frame).flatten ++ [] := by
      simp [List.filterMap_append, framed, complete]
    rw [joined]
    exact messages_sublist inverts fits (messages_nil codec ending)
  · obtain ⟨buf, encoded, rfl⟩ := MessageCodec.frame_eq_some.mp framed
    have width := fits msg (by simp) buf encoded
    have earlier : codec.Fits msgs := fun next inside => fits next (List.mem_append_left _ inside)
    exact (messages_sublist inverts earlier (messages_incomplete width begun complete ending)).trans
      (List.sublist_append_left _ _)

end Reading

/-- A connection that was given up yields at most its messages, the open one holds exactly the frames of its
messages, and all of them together are among the attempted ones in order. -/
structure Carries (codec : MessageCodec) (attempted : List Message) (given : List (List Message))
    (current : List Message) (sender : PeerSender) : Prop where
  yields : List.Forall₂ (fun whole (stream : TcpStream) =>
    ∀ ending, (messages codec ⟨stream.written, ending⟩).Sublist whole) given sender.dropped
  opened : ∀ stream, sender.stream = some stream → stream.written = (current.filterMap codec.frame).flatten
  closed : sender.stream = none → current = []
  inOrder : (given.flatten ++ current).Sublist attempted

section Sending

variable {codec : MessageCodec} {msg : Message} {attempted : List Message}
  {given : List (List Message)} {current : List Message} {sender : PeerSender}

/-- A sender carries also among more attempted messages. -/
theorem Carries.mono (carries : Carries codec attempted given current sender) {more : List Message}
    (grows : attempted.Sublist more) : Carries codec more given current sender :=
  ⟨carries.yields, carries.opened, carries.closed, carries.inOrder.trans grows⟩

/-- A new connection carries nothing. -/
theorem Carries.ensureConnection (carries : Carries codec attempted given current sender) (dialer : Dialer) :
    Carries codec attempted given current (sender.ensureConnection dialer) := by
  unfold PeerSender.ensureConnection
  split
  · exact carries
  · case h_2 idle =>
      split
      · refine ⟨carries.yields, fun stream isOpen => ?_, fun same => (by cases same), carries.inOrder⟩
        obtain rfl := Option.some.inj isOpen
        rw [carries.closed idle]
        rfl
      · exact ⟨carries.yields, carries.opened, carries.closed, carries.inOrder⟩

/-- A failed attempt leaves at most the message behind those of its connection. -/
theorem Carries.abandon (inverts : codec.Inverts) (fits : codec.Fits (attempted ++ [msg]))
    (carries : Carries codec attempted given current sender) {stream after : TcpStream} {error : IoError}
    (isOpen : sender.stream = some stream)
    (failed : writeMessage TcpStream.write codec msg stream = (.error error, after)) :
    Carries codec (attempted ++ [msg]) (given ++ [current ++ [msg]]) []
      { sender with stream := none, dropped := sender.dropped ++ [after] } := by
  have known : codec.Fits (current ++ [msg]) := by
    intro next inside
    refine fits next ?_
    rcases List.mem_append.mp inside with old | new
    · exact List.mem_append_left _ (carries.inOrder.subset (List.mem_append_right _ old))
    · exact List.mem_append_right _ new
  have left (ending : IoError) : (messages codec ⟨after.written, ending⟩).Sublist (current ++ [msg]) := by
    cases framed : codec.frame msg with
    | none =>
        obtain ⟨_, same⟩ := writeMessage_unencoded TcpStream.write framed stream
        cases failed.symm.trans same
        rw [carries.opened stream isOpen, ← List.append_nil (List.flatten _)]
        exact (messages_sublist inverts (fun next inside => known next (List.mem_append_left _ inside))
          (messages_nil codec ending)).trans (List.sublist_append_left _ _)
    | some bytes =>
        obtain ⟨part, begun, wrote⟩ := writeMessage_part TcpStream.write framed stream
        rw [failed] at wrote
        change after.written = stream.written ++ part at wrote
        rw [wrote, carries.opened stream isOpen]
        exact messages_part_sublist inverts known framed begun ending
  refine ⟨?_, fun _ same => (by cases same), fun _ => rfl, ?_⟩
  · exact List.rel_append carries.yields (.cons left .nil)
  · rw [List.flatten_append, List.flatten_singleton, List.append_nil, ← List.append_assoc]
    exact carries.inOrder.append (List.Sublist.refl _)

/-- A successful attempt puts the frame behind those of the open connection. -/
theorem Carries.extend (carries : Carries codec attempted given current sender) {stream after : TcpStream}
    (isOpen : sender.stream = some stream)
    (done : writeMessage TcpStream.write codec msg stream = (.ok (), after)) :
    Carries codec (attempted ++ [msg]) given (current ++ [msg]) { sender with stream := some after } := by
  obtain ⟨buf, encoded, wrote⟩ := writeMessage_ok TcpStream.write done
  have framed := MessageCodec.frame_eq_some.mpr ⟨buf, encoded, rfl⟩
  change after.written = stream.written ++ frame buf at wrote
  refine ⟨carries.yields, fun later same => ?_, fun same => (by cases same), ?_⟩
  · obtain rfl := Option.some.inj same
    rw [wrote, carries.opened stream isOpen]
    simp [List.filterMap_append, framed]
  · rw [← List.append_assoc]
    exact carries.inOrder.append (List.Sublist.refl _)

/-- The attempts of a message put it behind the earlier ones at most once each. -/
theorem Carries.sendAttempts (inverts : codec.Inverts) (dialer : Dialer) (left : Nat)
    (fits : codec.Fits (attempted ++ List.replicate left msg))
    (carries : Carries codec attempted given current sender) :
    ∃ later last, Carries codec (attempted ++ List.replicate left msg) later last
      (sender.sendAttempts codec dialer msg left).2 := by
  induction left generalizing sender attempted given current with
  | zero => exact ⟨given, current, by simpa [PeerSender.sendAttempts] using carries⟩
  | succ left ih =>
      have split : attempted ++ List.replicate (left + 1) msg =
          (attempted ++ [msg]) ++ List.replicate left msg := by
        rw [List.replicate_succ, List.append_assoc]
        rfl
      have once : codec.Fits (attempted ++ [msg]) := fun next inside =>
        fits next (by rw [split]; exact List.mem_append_left _ inside)
      have ready : Carries codec attempted given current (sender.ensureConnection dialer) :=
        carries.ensureConnection dialer
      rw [split] at fits ⊢
      rw [PeerSender.sendAttempts]
      cases isOpen : (sender.ensureConnection dialer).stream with
      | none => exact ih fits (ready.mono (List.sublist_append_left _ _))
      | some stream =>
          rcases run : writeMessage TcpStream.write codec msg stream with ⟨error | _, after⟩
          · simp only [run]
            exact ih fits (ready.abandon inverts once isOpen run)
          · simp only [run]
            exact ⟨_, _, (ready.extend isOpen run).mono (List.sublist_append_left _ _)⟩

/-- The thread makes at most three attempts of each message in the order of its channel. -/
theorem Carries.peerSenderThread (inverts : codec.Inverts) (dialer : Dialer) (queue : List Message)
    (fits : codec.Fits (attempted ++ queue.flatMap (List.replicate maxRetries)))
    (carries : Carries codec attempted given current sender) :
    ∃ later last, Carries codec (attempted ++ queue.flatMap (List.replicate maxRetries)) later last
      (sender.peerSenderThread codec dialer queue) := by
  induction queue generalizing sender attempted given current with
  | nil => exact ⟨given, current, by simpa [PeerSender.peerSenderThread] using carries⟩
  | cons msg rest ih =>
      rw [List.flatMap_cons, ← List.append_assoc] at fits ⊢
      have once : codec.Fits (attempted ++ List.replicate maxRetries msg) := fun next inside =>
        fits next (List.mem_append_left _ inside)
      obtain ⟨later, last, step⟩ := carries.sendAttempts inverts dialer maxRetries once
      exact ih fits step

/-- The connections of a thread yield the messages of its queue in order, and each at most three times. -/
theorem connections_atMost (inverts : codec.Inverts) (dialer : Dialer) (queue : List Message)
    (fits : codec.Fits queue) :
    ∃ wholes : List (List Message), AtMost maxRetries queue wholes.flatten ∧
      List.Forall₂ (fun whole (stream : TcpStream) =>
        ∀ ending, (messages codec ⟨stream.written, ending⟩).Sublist whole)
        wholes (PeerSender.start.peerSenderThread codec dialer queue).connections := by
  have begins : Carries codec [] [] [] PeerSender.start :=
    ⟨.nil, fun _ same => (by cases same), fun _ => rfl, List.Sublist.refl _⟩
  have repeated : codec.Fits (queue.flatMap (List.replicate maxRetries)) := by
    intro msg inside
    obtain ⟨source, known, copied⟩ := List.mem_flatMap.mp inside
    rw [List.eq_of_mem_replicate copied]
    exact fits source known
  obtain ⟨given, current, carries⟩ := begins.peerSenderThread inverts dialer queue repeated
  rw [List.nil_append] at carries
  have known : codec.Fits current := fun msg inside =>
    repeated msg (carries.inOrder.subset (List.mem_append_right _ inside))
  cases isOpen : (PeerSender.start.peerSenderThread codec dialer queue).stream with
  | none =>
      refine ⟨given, (List.sublist_append_left _ _).trans carries.inOrder, ?_⟩
      rw [PeerSender.connections, isOpen, Option.toList_none, List.append_nil]
      exact carries.yields
  | some stream =>
      refine ⟨given ++ [current], ?_, ?_⟩
      · rw [List.flatten_append, List.flatten_singleton]
        exact carries.inOrder
      · rw [PeerSender.connections, isOpen, Option.toList_some]
        refine List.rel_append carries.yields (.cons (fun ending => ?_) .nil)
        rw [carries.opened stream isOpen, ← List.append_nil (List.flatten _)]
        exact messages_sublist inverts known (messages_nil codec ending)

end Sending

end RaftATui.Tcp
