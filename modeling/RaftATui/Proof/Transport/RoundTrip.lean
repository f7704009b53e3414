import RaftATui.Construction.Protobuf
import RaftATui.Construction.TcpTransport

namespace RaftATui.Tcp
open Machinery
open Framing (bigEndian fromBigEndian)

def frame (buf : Bytes) : Bytes := lengthPrefix buf ++ buf

/-- This is what a complete write of a message appends. -/
def MessageCodec.frame (codec : MessageCodec) (msg : Message) : Option Bytes :=
  match codec.encode msg with
  | .error _ => none
  | .ok buf => some (Tcp.frame buf)

/-- A frame is the length and the bytes of an encoded message. -/
theorem MessageCodec.frame_eq_some {codec : MessageCodec} {msg : Message} {bytes : Bytes} :
    codec.frame msg = some bytes ↔ ∃ buf, codec.encode msg = .ok buf ∧ bytes = Tcp.frame buf := by
  unfold MessageCodec.frame
  cases codec.encode msg with
  | error error => simp
  | ok buf => simp [eq_comm]

@[simp] theorem length_lengthPrefix (buf : Bytes) : (lengthPrefix buf).length = 4 :=
  Framing.length_bigEndian 4 _

/-- The prefix holds a length that fits into a `u32`. -/
theorem fromBigEndian_lengthPrefix {buf : Bytes} (fits : buf.length < 2 ^ 32) :
    fromBigEndian (lengthPrefix buf) = buf.length := by
  rw [lengthPrefix, Framing.fromBigEndian_bigEndian, Nat.mod_eq_of_lt fits]
  omega

/-- The limit of the reader fits into the length prefix. -/
theorem maxMessageSize_lt : maxMessageSize < 2 ^ 32 := by decide

section Writing

variable {Stream : Type} (write : Write Stream) {codec : MessageCodec} {msg : Message}

/-- A successful write writes one frame. -/
theorem writeMessage_ok {stream final : Stream} (done : writeMessage write codec msg stream = (.ok (), final)) :
    ∃ buf, codec.encode msg = .ok buf ∧ write.written final = write.written stream ++ frame buf := by
  unfold writeMessage at done
  cases encoded : codec.encode msg with
  | error error => simp [encoded] at done
  | ok buf =>
      simp only [encoded] at done
      obtain ⟨_, first, begun, later⟩ := Attempt.bind_eq_ok.mp done
      obtain ⟨_, second, filled, flushed⟩ := Attempt.bind_eq_ok.mp later
      have last := write.flush_written second
      rw [flushed, write.writeAll_ok buf first second filled,
        write.writeAll_ok (lengthPrefix buf) stream first begun, List.append_assoc] at last
      exact ⟨buf, rfl, last⟩

/-- A write appends an initial part of the frame, whatever its outcome is. -/
theorem writeMessage_part {bytes : Bytes} (encoded : codec.frame msg = some bytes) (stream : Stream) :
    ∃ part, part <+: bytes ∧
      write.written (writeMessage write codec msg stream).2 = write.written stream ++ part := by
  obtain ⟨buf, same, rfl⟩ := MessageCodec.frame_eq_some.mp encoded
  simp only [writeMessage, same, frame]
  obtain ⟨begun, initial, wrote⟩ := write.writeAll_part (lengthPrefix buf) stream
  rcases first : write.writeAll (lengthPrefix buf) stream with ⟨error | _, middle⟩
  · rw [Attempt.bind_error _ first]
    rw [first] at wrote
    exact ⟨begun, initial.trans (List.prefix_append _ buf), wrote⟩
  · have whole := write.writeAll_ok (lengthPrefix buf) stream middle first
    rw [Attempt.bind_ok _ first]
    obtain ⟨filled, inside, more⟩ := write.writeAll_part buf middle
    refine ⟨lengthPrefix buf ++ filled, (List.prefix_append_right_inj _).mpr inside, ?_⟩
    rw [← List.append_assoc, ← whole, ← more]
    rcases second : write.writeAll buf middle with ⟨error | _, last⟩
    · rw [Attempt.bind_error _ second]
    · rw [Attempt.bind_ok _ second, write.flush_written]

/-- A message that is not encoded writes nothing. -/
theorem writeMessage_unencoded (absent : codec.frame msg = none) (stream : Stream) :
    ∃ error, writeMessage write codec msg stream = (.error error, stream) := by
  unfold MessageCodec.frame at absent
  cases encoded : codec.encode msg with
  | error error =>
      simp only [writeMessage, encoded]
      exact ⟨_, rfl⟩
  | ok buf => simp [encoded] at absent

end Writing

section Reading

variable {codec : MessageCodec} {buf : Bytes} {msg : Message}

/-- Enough bytes are taken from the front. -/
theorem readExact_append {bytes rest : Bytes} {count : Nat} (width : bytes.length = count) (ending : IoError) :
    readExact count ⟨bytes ++ rest, ending⟩ = (.ok bytes, ⟨rest, ending⟩) := by
  have enough : ¬ (bytes ++ rest).length < count := by
    rw [List.length_append]
    omega
  rw [readExact, if_neg enough, List.take_left' width, List.drop_left' width]

/-- Too few bytes are consumed, and the end returns its error. -/
theorem readExact_short {bytes : Bytes} {count : Nat} (short : bytes.length < count) (ending : IoError) :
    readExact count ⟨bytes, ending⟩ = (.error ending, ⟨[], ending⟩) := by
  rw [readExact, if_pos short]

/-- The reader takes a frame within its limit, decodes it and stops right behind it. -/
theorem readMessage_fits (fits : buf.length ≤ maxMessageSize) (rest : Bytes) (ending : IoError) :
    readMessage codec ⟨frame buf ++ rest, ending⟩ =
      (match codec.decode buf with
        | .error error => .error ⟨.invalidData, s!"Failed to decode message: {error}"⟩
        | .ok msg => .ok msg, ⟨rest, ending⟩) := by
  have length := fromBigEndian_lengthPrefix (lt_of_le_of_lt fits maxMessageSize_lt)
  rw [readMessage, frame, List.append_assoc,
    Attempt.bind_ok _ (readExact_append (length_lengthPrefix buf) ending), length,
    if_neg (Nat.not_lt.mpr fits), Attempt.bind_ok _ (readExact_append rfl ending)]
  cases codec.decode buf <;> rfl

/-- A frame of a decodable message is read back. -/
theorem readMessage_frame (fits : buf.length ≤ maxMessageSize) (decoded : codec.decode buf = .ok msg)
    (rest : Bytes) (ending : IoError) :
    readMessage codec ⟨frame buf ++ rest, ending⟩ = (.ok msg, ⟨rest, ending⟩) := by
  rw [readMessage_fits fits, decoded]

/-- The reader refuses a length above its limit right behind the prefix. -/
theorem readMessage_refuses_length (large : maxMessageSize < buf.length) (fits : buf.length < 2 ^ 32)
    (rest : Bytes) (ending : IoError) :
    readMessage codec ⟨lengthPrefix buf ++ rest, ending⟩ =
      (.error ⟨.invalidData, s!"Message too large: {buf.length} bytes"⟩, ⟨rest, ending⟩) := by
  rw [readMessage, Attempt.bind_ok _ (readExact_append (length_lengthPrefix buf) ending),
    fromBigEndian_lengthPrefix fits, if_pos large, Attempt.fail_apply]

/-- The reader refuses a frame above its limit when the prefix still holds the length. -/
theorem readMessage_refuses (large : maxMessageSize < buf.length) (fits : buf.length < 2 ^ 32)
    (rest : Bytes) (ending : IoError) :
    readMessage codec ⟨frame buf ++ rest, ending⟩ =
      (.error ⟨.invalidData, s!"Message too large: {buf.length} bytes"⟩, ⟨buf ++ rest, ending⟩) := by
  rw [frame, List.append_assoc]
  exact readMessage_refuses_length large fits (buf ++ rest) ending

/-- The reader waits inside the prefix until the connection ends. -/
theorem readMessage_torn_length {part : Bytes} (inside : part <+: lengthPrefix buf)
    (missing : part ≠ lengthPrefix buf) (ending : IoError) :
    readMessage codec ⟨part, ending⟩ = (.error ending, ⟨[], ending⟩) := by
  have few : part.length < 4 := by
    have bound := inside.length_le
    rw [length_lengthPrefix] at bound
    refine lt_of_le_of_ne bound fun full => missing (inside.eq_of_length ?_)
    rw [full, length_lengthPrefix]
  rw [readMessage, Attempt.bind_error _ (readExact_short few ending)]

/-- The reader waits at an incomplete frame until the connection ends. -/
theorem readMessage_torn {part : Bytes} (fits : buf.length ≤ maxMessageSize) (begun : part <+: frame buf)
    (short : part ≠ frame buf) (ending : IoError) :
    readMessage codec ⟨part, ending⟩ = (.error ending, ⟨[], ending⟩) := by
  rcases Framing.begins_append begun with ⟨inside, missing⟩ | ⟨later, inside, rfl⟩
  · exact readMessage_torn_length inside missing ending
  · have length := fromBigEndian_lengthPrefix (lt_of_le_of_lt fits maxMessageSize_lt)
    have few : later.length < buf.length := by
      refine lt_of_le_of_ne inside.length_le fun full => short ?_
      rw [inside.eq_of_length full, frame]
    rw [readMessage, Attempt.bind_ok _ (readExact_append (length_lengthPrefix buf) ending), length,
      if_neg (Nat.not_lt.mpr fits), Attempt.bind_error _ (readExact_short few ending)]

end Reading

/-- A written message is read back within the limit of the reader, and refused above it. -/
theorem readMessage_written {Stream : Type} (write : Write Stream) {codec : MessageCodec}
    (inverts : codec.Inverts) {msg : Message} {start final : Stream}
    (done : writeMessage write codec msg start = (.ok (), final)) :
    ∃ buf, codec.encode msg = .ok buf ∧ write.written final = write.written start ++ frame buf ∧
      ∀ rest ending,
        (buf.length ≤ maxMessageSize →
          readMessage codec ⟨frame buf ++ rest, ending⟩ = (.ok msg, ⟨rest, ending⟩)) ∧
        (maxMessageSize < buf.length → buf.length < 2 ^ 32 →
          readMessage codec ⟨frame buf ++ rest, ending⟩ =
            (.error ⟨.invalidData, s!"Message too large: {buf.length} bytes"⟩, ⟨buf ++ rest, ending⟩)) := by
  obtain ⟨buf, encoded, wrote⟩ := writeMessage_ok write done
  refine ⟨buf, encoded, wrote, fun rest ending => ⟨fun fits => ?_, fun large fits => ?_⟩⟩
  · exact readMessage_frame fits (inverts msg buf encoded) rest ending
  · exact readMessage_refuses large fits rest ending

/-- The payload is the rest behind both fields. -/
def readFields : Protobuf.Reader Message := do
  let _ ← Protobuf.decodeVarint
  let «to» ← Protobuf.decodeVarint
  let _ ← Protobuf.decodeVarint
  let sender ← Protobuf.decodeVarint
  let payload ← Attempt.get
  pure ⟨«to», sender, payload⟩

def writeFields (msg : Message) : Bytes :=
  Protobuf.encodeVarint (2 * 8) ++ (Protobuf.encodeVarint msg.to ++
    (Protobuf.encodeVarint (3 * 8) ++ (Protobuf.encodeVarint msg.sender ++ msg.payload)))

/-- This codec writes the `u64` fields `to` and `from` like prost, and the payload holds the other fields as bytes. -/
def MessageCodec.fields : MessageCodec where
  encode msg := if msg.to < 2 ^ 64 ∧ msg.sender < 2 ^ 64 then .ok (writeFields msg) else .error "no u64"
  decode bytes := (readFields bytes).1.mapError Protobuf.DecodeError.display

/-- The codec of fields writes both fields of a message that fits. -/
theorem MessageCodec.fields_encode {msg : Message} {buf : Bytes} (encoded : MessageCodec.fields.encode msg = .ok buf) :
    (msg.to < 2 ^ 64 ∧ msg.sender < 2 ^ 64) ∧ buf = writeFields msg := by
  simp only [MessageCodec.fields] at encoded
  split at encoded
  · case isTrue fits => exact ⟨fits, (Except.ok.inj encoded).symm⟩
  · cases encoded

/-- The codec of fields reads back what it writes. -/
theorem MessageCodec.fields_inverts : MessageCodec.fields.Inverts := by
  intro msg buf encoded
  obtain ⟨fits, rfl⟩ := MessageCodec.fields_encode encoded
  have reads {value : Nat} (small : value < 2 ^ 64) (rest : Bytes) :
      Protobuf.decodeVarint (Protobuf.encodeVarint value ++ rest) = (.ok value, rest) :=
    Protobuf.decodeVarint_encodeVarint (Or.inl small)
  have first : 2 * 8 < 2 ^ 64 := by decide
  have second : 3 * 8 < 2 ^ 64 := by decide
  simp only [MessageCodec.fields]
  rw [writeFields, readFields, Attempt.bind_ok _ (reads first _), Attempt.bind_ok _ (reads fits.1 _),
    Attempt.bind_ok _ (reads second _), Attempt.bind_ok _ (reads fits.2 _), Attempt.get_bind]
  rfl

/-- The example is written as eight bytes and read back. -/
theorem readMessage_written_message :
    ∃ buf, MessageCodec.fields.encode ⟨2, 1, []⟩ = .ok buf ∧ [0, 0, 0, 4, 16, 2, 24, 1] = [] ++ frame buf ∧
      ∀ rest ending,
        (buf.length ≤ maxMessageSize →
          readMessage .fields ⟨frame buf ++ rest, ending⟩ = (.ok ⟨2, 1, []⟩, ⟨rest, ending⟩)) ∧
        (maxMessageSize < buf.length → buf.length < 2 ^ 32 →
          readMessage .fields ⟨frame buf ++ rest, ending⟩ =
            (.error ⟨.invalidData, s!"Message too large: {buf.length} bytes"⟩, ⟨buf ++ rest, ending⟩)) :=
  readMessage_written Write.vec MessageCodec.fields_inverts
    (show writeMessage Write.vec .fields ⟨2, 1, []⟩ [] = (.ok (), [0, 0, 0, 4, 16, 2, 24, 1]) by decide)

/-- This message carries a context of ten megabytes. -/
def largeMessage : Message := ⟨2, 1, [98, 128, 128, 128, 5] ++ List.replicate maxMessageSize 0⟩

def largeBody : Bytes := [16, 2, 24, 1, 98, 128, 128, 128, 5] ++ List.replicate maxMessageSize 0

theorem length_largeBody : largeBody.length = 9 + maxMessageSize := by
  rw [largeBody, List.length_append, List.length_replicate]
  rfl

/-- The vector takes the large message and the reader refuses it. -/
theorem large_message_refused :
    MessageCodec.fields.Inverts ∧ ∃ bytes, writeMessage Write.vec .fields largeMessage [] = (.ok (), bytes) ∧
      ∀ ending rest, readMessage .fields ⟨bytes, ending⟩ ≠ (.ok largeMessage, rest) := by
  have encoded : MessageCodec.fields.encode largeMessage = .ok largeBody := rfl
  refine ⟨MessageCodec.fields_inverts, frame largeBody, ?_, ?_⟩
  · rw [writeMessage, encoded]
    rfl
  · intro ending rest accepted
    have refused := @readMessage_refuses .fields largeBody (by rw [length_largeBody]; omega)
      (by rw [length_largeBody]; decide) [] ending
    rw [List.append_nil, accepted] at refused
    cases congrArg Prod.fst refused

end RaftATui.Tcp
