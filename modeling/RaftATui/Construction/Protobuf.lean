import Mathlib.Algebra.GroupWithZero.Nat
import RaftATui.Construction.Node

/-
This file models how prost writes and reads `KvCommand`, and how it measures a raft entry. It is exact for
buffers of less than 2^64 bytes. A longer buffer has longer strings, and their lengths longer varints.
-/

namespace RaftATui.Protobuf
open Machinery

inductive WireType where
  | varint
  | sixtyFourBit
  | lengthDelimited
  | startGroup
  | endGroup
  | thirtyTwoBit
  deriving DecidableEq, Repr

def WireType.debug : WireType → String
  | .varint => "Varint"
  | .sixtyFourBit => "SixtyFourBit"
  | .lengthDelimited => "LengthDelimited"
  | .startGroup => "StartGroup"
  | .endGroup => "EndGroup"
  | .thirtyTwoBit => "ThirtyTwoBit"

def WireType.tryFrom : Nat → Option WireType
  | 0 => some .varint
  | 1 => some .sixtyFourBit
  | 2 => some .lengthDelimited
  | 3 => some .startGroup
  | 4 => some .endGroup
  | 5 => some .thirtyTwoBit
  | _ => none

def varintBytes : (room value : Nat) → Bytes
  | 0, value => [UInt8.ofNat value]
  | room + 1, value =>
      if value < 128 then [UInt8.ofNat value]
      else UInt8.ofNat (value % 128 + 128) :: varintBytes room (value / 128)

def encodeVarint (value : Nat) : Bytes := varintBytes value value

def utf8 (text : String) : Bytes := text.toUTF8.data.toList

def parseUtf8 (bytes : Bytes) : Option String := String.fromUTF8? ⟨bytes.toArray⟩

def encodeString (tag : Nat) (text : String) : Bytes :=
  if text = "" then []
  else encodeVarint (tag * 8 + 2) ++ encodeVarint (utf8 text).length ++ utf8 text

def encodePut (put : Put) : Bytes := encodeString 1 put.key ++ encodeString 2 put.value

def encode (command : KvCommand) : Bytes :=
  match command.cmd with
  | some put => encodeVarint (1 * 8 + 2) ++ encodeVarint (encodePut put).length ++ encodePut put
  | none => []

def entryTypeNumber : EntryType → Nat
  | .entryNormal => 0
  | .entryConfChange => 1
  | .entryConfChangeV2 => 2

/-- A scalar field with a tag below 16 is left out when it is zero. -/
def scalarLen (value : Nat) : Nat :=
  if value = 0 then 0 else 1 + (encodeVarint value).length

def bytesLen (bytes : Bytes) : Nat :=
  if bytes = [] then 0 else 1 + (encodeVarint bytes.length).length + bytes.length

def encodedLen (entry : Entry) : Nat :=
  scalarLen (entryTypeNumber entry.entryType) + scalarLen entry.term + scalarLen entry.index + bytesLen entry.data +
    bytesLen entry.context

structure DecodeError where
  stack : List (String × String)
  description : String
  deriving DecidableEq, Repr

/-- The stack begins with the innermost field. -/
def DecodeError.push (message field : String) (error : DecodeError) : DecodeError :=
  { error with stack := error.stack ++ [(message, field)] }

def DecodeError.display (error : DecodeError) : String :=
  "failed to decode Protobuf message: " ++
    String.join (error.stack.map fun (message, field) => s!"{message}.{field}: ") ++ error.description

abbrev Reader (Value : Type) := Attempt Bytes DecodeError Value

def invalid {Value : Type} (description : String) : Reader Value := Attempt.fail ⟨[], description⟩

def takeVarint : (room : Nat) → Bytes → Option (Nat × Bytes)
  | 0, _ => none
  | _, [] => none
  | room + 1, byte :: rest =>
      if byte.toNat < 128 then some (byte.toNat, rest)
      else (takeVarint room rest).map fun later => (byte.toNat - 128 + 128 * later.1, later.2)

/-- A varint has at most ten bytes and holds a `u64`. -/
def decodeVarint : Reader Nat := do
  let buffer ← Attempt.get
  let real := buffer.length < 2 ^ 64
  match takeVarint (if real then 10 else buffer.length) buffer with
  | some (value, rest) =>
      if real ∧ 2 ^ 64 ≤ value then invalid "invalid varint"
      else do
        Attempt.modify fun _ => rest
        pure value
  | none => invalid "invalid varint"

def takeBytes (count : Nat) : Reader Bytes := do
  let buffer ← Attempt.get
  if buffer.length < count then invalid "buffer underflow"
  else do
    Attempt.modify fun _ => buffer.drop count
    pure (buffer.take count)

def decodeKey : Reader (Nat × WireType) := do
  let key ← decodeVarint
  if 2 ^ 32 ≤ key then invalid s!"invalid key value: {key}"
  else match WireType.tryFrom (key % 8) with
    | none => invalid s!"invalid wire type value: {key % 8}"
    | some wireType =>
        if key / 8 = 0 then invalid "invalid tag value: 0" else pure (key / 8, wireType)

def checkWireType (expected actual : WireType) : Reader Unit :=
  if expected = actual then pure ()
  else invalid s!"invalid wire type: {actual.debug} (expected {expected.debug})"

def limitReached (limit : Nat) : Reader Unit :=
  if limit = 0 then invalid "recursion limit reached" else pure ()

def skipScalar : WireType → Reader Unit
  | .varint => do let _ ← decodeVarint; pure ()
  | .sixtyFourBit => do let _ ← takeBytes 8; pure ()
  | .thirtyTwoBit => do let _ ← takeBytes 4; pure ()
  | .lengthDelimited => do
      let len ← decodeVarint
      let _ ← takeBytes len
      pure ()
  | .startGroup => invalid "unexpected end group tag"
  | .endGroup => invalid "unexpected end group tag"

/-- This loop reads the fields of a group. Each turn consumes a byte of the buffer. -/
def skipGroup : (room limit tag : Nat) → Reader Unit
  | 0, _, _ => invalid "invalid varint"
  | room + 1, limit, tag => do
      let (innerTag, innerType) ← decodeKey
      match innerType with
      | .endGroup => if innerTag = tag then pure () else invalid "unexpected end group tag"
      | .startGroup => do
          limitReached (limit - 1)
          skipGroup room (limit - 1) innerTag
          skipGroup room limit tag
      | scalar => do
          limitReached (limit - 1)
          skipScalar scalar
          skipGroup room limit tag

def skipField (limit tag : Nat) (wireType : WireType) : Reader Unit := do
  limitReached limit
  match wireType with
  | .startGroup => do
      let buffer ← Attempt.get
      skipGroup (buffer.length + 1) limit tag
  | other => skipScalar other

def mergeString (wireType : WireType) : Reader String := do
  checkWireType .lengthDelimited wireType
  let len ← decodeVarint
  let bytes ← takeBytes len
  match parseUtf8 bytes with
  | some text => pure text
  | none => invalid "invalid string value: data is not UTF-8 encoded"

def mergePutField (tag : Nat) (wireType : WireType) (put : Put) : Reader Put :=
  if tag = 1 then do
    let key ← Attempt.relabel (.push "Put" "key") (mergeString wireType)
    pure { put with key := key }
  else if tag = 2 then do
    let value ← Attempt.relabel (.push "Put" "value") (mergeString wireType)
    pure { put with value := value }
  else do
    skipField 99 tag wireType
    pure put

/-- This loop merges fields until the buffer is down to the given length. -/
def mergePutFields : (room stop : Nat) → Put → Reader Put
  | 0, _, put => pure put
  | room + 1, stop, put => do
      let buffer ← Attempt.get
      if buffer.length ≤ stop then pure put
      else do
        let (tag, wireType) ← decodeKey
        let merged ← mergePutField tag wireType put
        mergePutFields room stop merged

def mergePut (put : Put) : Reader Put := do
  let len ← decodeVarint
  let buffer ← Attempt.get
  if buffer.length < len then invalid "buffer underflow"
  else do
    let stop := buffer.length - len
    let merged ← mergePutFields buffer.length stop put
    let rest ← Attempt.get
    if rest.length = stop then pure merged else invalid "delimited length exceeded"

def mergeCmd (wireType : WireType) (command : KvCommand) : Reader KvCommand := do
  checkWireType .lengthDelimited wireType
  let merged ← mergePut (command.cmd.getD ⟨"", ""⟩)
  pure ⟨some merged⟩

/-- A repeated command field merges into the earlier one. -/
def mergeField (tag : Nat) (wireType : WireType) (command : KvCommand) : Reader KvCommand :=
  if tag = 1 then Attempt.relabel (.push "KvCommand" "cmd") (mergeCmd wireType command)
  else do
    skipField 100 tag wireType
    pure command

def mergeFields : (room : Nat) → KvCommand → Reader KvCommand
  | 0, command => pure command
  | room + 1, command => do
      let buffer ← Attempt.get
      if buffer.isEmpty then pure command
      else do
        let (tag, wireType) ← decodeKey
        let merged ← mergeField tag wireType command
        mergeFields room merged

def decode (bytes : Bytes) : Except String KvCommand :=
  (mergeFields bytes.length ⟨none⟩ bytes).1.mapError DecodeError.display

theorem takeVarint_varintBytes {room value count : Nat} (bound : value ≤ room)
    (enough : (varintBytes room value).length ≤ count) (rest : Bytes) :
    takeVarint count (varintBytes room value ++ rest) = some (value, rest) := by
  induction room generalizing value count with
  | zero =>
      have zero : value = 0 := Nat.le_zero.mp bound
      subst zero
      obtain ⟨fewer, rfl⟩ := Nat.exists_eq_succ_of_ne_zero (Nat.pos_iff_ne_zero.mp enough)
      rfl
  | succ room ih =>
      rw [varintBytes] at enough ⊢
      by_cases small : value < 128
      · have byte : (UInt8.ofNat value).toNat = value := by simp; omega
        rw [if_pos small] at enough ⊢
        obtain ⟨fewer, rfl⟩ := Nat.exists_eq_succ_of_ne_zero (Nat.pos_iff_ne_zero.mp enough)
        simp only [List.cons_append, List.nil_append, takeVarint, byte, small, if_true]
      · have byte : (UInt8.ofNat (value % 128 + 128)).toNat = value % 128 + 128 := by simp; omega
        rw [if_neg small, List.length_cons] at enough
        rw [if_neg small]
        obtain ⟨fewer, rfl⟩ : ∃ fewer, count = fewer + 1 := ⟨count - 1, by omega⟩
        have later := @ih (value / 128) fewer (by omega) (by omega)
        simp only [List.cons_append, takeVarint, byte, later, show ¬ value % 128 + 128 < 128 by omega, if_false,
          Option.map_some]
        congr 2
        omega

theorem length_varintBytes {room value count : Nat} (small : value < 128 ^ (count + 1)) :
    (varintBytes room value).length ≤ count + 1 := by
  induction room generalizing value count with
  | zero => simp [varintBytes]
  | succ room ih =>
      rw [varintBytes]
      split
      · simp
      · case isFalse large =>
          cases count with
          | zero => exact absurd (by simpa using small) large
          | succ count =>
              rw [List.length_cons]
              refine Nat.succ_le_succ (ih (Nat.div_lt_of_lt_mul ?_))
              rw [Nat.pow_succ, Nat.mul_comm] at small
              exact small

/-- A written number reads back when it is a `u64` or the length of what follows. -/
theorem decodeVarint_encodeVarint {value : Nat} {rest : Bytes} (fits : value < 2 ^ 64 ∨ value ≤ rest.length) :
    decodeVarint (encodeVarint value ++ rest) = (.ok value, rest) := by
  have take {count : Nat} (enough : (encodeVarint value).length ≤ count) :
      takeVarint count (encodeVarint value ++ rest) = some (value, rest) :=
    takeVarint_varintBytes (Nat.le_refl value) enough rest
  rw [decodeVarint, Attempt.get_bind]
  by_cases real : (encodeVarint value ++ rest).length < 2 ^ 64
  · have small : value < 2 ^ 64 := by
      rw [List.length_append] at real
      omega
    have ten : (encodeVarint value).length ≤ 10 := length_varintBytes (Nat.lt_trans small (by decide))
    simp only [real, if_true, take ten, Nat.not_le.mpr small, and_false, if_false]
    rfl
  · simp only [real, if_false, take (List.length_append ▸ Nat.le_add_right _ _), false_and]
    rfl

@[simp] theorem takeBytes_append (first rest : Bytes) :
    takeBytes first.length (first ++ rest) = (.ok first, rest) := by
  rw [takeBytes, Attempt.get_bind, if_neg (by simp), Attempt.bind_ok _ (Attempt.modify_apply _ _)]
  simp

@[simp] theorem parseUtf8_utf8 (text : String) : parseUtf8 (utf8 text) = some text := by
  have valid : text.toUTF8.IsValidUTF8 := text.isValidUTF8
  have bytes : (⟨(utf8 text).toArray⟩ : ByteArray) = text.toUTF8 := rfl
  rw [parseUtf8, bytes, String.fromUTF8?, dif_pos valid]
  rfl

theorem decodeKey_encodeVarint {tag : Nat} (positive : 0 < tag) (small : tag < 2 ^ 20) (rest : Bytes) :
    decodeKey (encodeVarint (tag * 8 + 2) ++ rest) = (.ok (tag, .lengthDelimited), rest) := by
  unfold decodeKey
  rw [Attempt.bind_ok _ (decodeVarint_encodeVarint (Or.inl (by omega))), if_neg (by omega)]
  have low : (tag * 8 + 2) % 8 = 2 := by omega
  have high : (tag * 8 + 2) / 8 = tag := by omega
  simp only [low, high, WireType.tryFrom]
  rw [if_neg (by omega)]
  rfl

theorem mergeString_encode (text : String) (rest : Bytes) :
    mergeString .lengthDelimited (encodeVarint (utf8 text).length ++ (utf8 text ++ rest)) =
      (.ok text, rest) := by
  unfold mergeString
  have checked : checkWireType .lengthDelimited .lengthDelimited = pure () := rfl
  rw [checked, Attempt.pure_bind, Attempt.bind_ok _ (decodeVarint_encodeVarint (Or.inr (by simp))),
    Attempt.bind_ok _ (takeBytes_append _ _), parseUtf8_utf8]
  rfl

theorem encodeVarint_length_pos (value : Nat) : 0 < (encodeVarint value).length := by
  unfold encodeVarint
  cases value with
  | zero => simp [varintBytes]
  | succ room =>
      rw [varintBytes]
      split <;> simp

theorem mergePutFields_encodeVarint {tag room : Nat} {text : String} {rest : Bytes}
    {put merged : Put} (positive : 0 < tag) (small : tag < 2 ^ 20)
    (field : ∀ buffer after, mergeString .lengthDelimited buffer = (.ok text, after) →
      mergePutField tag .lengthDelimited put buffer = (.ok merged, after)) :
    mergePutFields (room + 1) 0 put
        (encodeVarint (tag * 8 + 2) ++ (encodeVarint (utf8 text).length ++ (utf8 text ++ rest))) =
      mergePutFields room 0 merged rest := by
  have filled := encodeVarint_length_pos (tag * 8 + 2)
  rw [mergePutFields, Attempt.get_bind, if_neg (by rw [List.length_append]; omega),
    Attempt.bind_ok _ (decodeKey_encodeVarint positive small _)]
  exact Attempt.bind_ok _ (field _ _ (mergeString_encode text rest))

theorem mergePutFields_encodeString {tag room : Nat} {text : String} {rest : Bytes}
    {put : Put} {result : Except DecodeError Put × Bytes} (merged : Put) (positive : 0 < tag)
    (small : tag < 2 ^ 20) (enough : (encodeString tag text ++ rest).length ≤ room) (absent : text = "" → merged = put)
    (field : ∀ buffer after, mergeString .lengthDelimited buffer = (.ok text, after) →
      mergePutField tag .lengthDelimited put buffer = (.ok merged, after))
    (later : ∀ room, rest.length ≤ room → mergePutFields room 0 merged rest = result) :
    mergePutFields room 0 put (encodeString tag text ++ rest) = result := by
  unfold encodeString at enough ⊢
  by_cases empty : text = ""
  · rw [if_pos empty, List.nil_append] at enough ⊢
    rw [← absent empty]
    exact later room enough
  · rw [if_neg empty, List.append_assoc, List.append_assoc] at enough ⊢
    have filled := encodeVarint_length_pos (tag * 8 + 2)
    simp only [List.length_append] at enough
    obtain ⟨fewer, rfl⟩ : ∃ fewer, room = fewer + 1 := ⟨room - 1, by omega⟩
    rw [mergePutFields_encodeVarint positive small field]
    exact later fewer (by omega)

theorem mergePutField_key {put : Put} {buffer after : Bytes} {key : String}
    (read : mergeString .lengthDelimited buffer = (.ok key, after)) :
    mergePutField 1 .lengthDelimited put buffer = (.ok { put with key := key }, after) :=
  Attempt.bind_ok _ (Attempt.relabel_ok _ read)

theorem mergePutField_value {put : Put} {buffer after : Bytes} {value : String}
    (read : mergeString .lengthDelimited buffer = (.ok value, after)) :
    mergePutField 2 .lengthDelimited put buffer = (.ok { put with value := value }, after) :=
  Attempt.bind_ok _ (Attempt.relabel_ok _ read)

theorem mergePutFields_nil (room : Nat) (put : Put) : mergePutFields room 0 put [] = (.ok put, []) := by
  cases room <;> rfl

theorem mergePutFields_encodePut (put : Put) (room : Nat) (enough : (encodePut put).length ≤ room) :
    mergePutFields room 0 ⟨"", ""⟩ (encodePut put) = (.ok put, []) := by
  apply mergePutFields_encodeString ⟨put.key, ""⟩ (by decide) (by decide) enough
  · intro empty
    rw [empty]
  · exact fun _ _ => mergePutField_key
  · intro room enough
    rw [← List.append_nil (encodeString 2 put.value)] at enough ⊢
    apply mergePutFields_encodeString put (by decide) (by decide) enough
    · intro empty
      rw [← empty]
    · exact fun _ _ => mergePutField_value
    · exact fun room _ => mergePutFields_nil room put

theorem mergePut_encodePut (put : Put) :
    mergePut ⟨"", ""⟩ (encodeVarint (encodePut put).length ++ encodePut put) = (.ok put, []) := by
  unfold mergePut
  rw [Attempt.bind_ok _ (decodeVarint_encodeVarint (Or.inr (Nat.le_refl _))), Attempt.get_bind,
    if_neg (Nat.lt_irrefl _)]
  simp only [Nat.sub_self]
  rw [Attempt.bind_ok _ (mergePutFields_encodePut put _ (Nat.le_refl _))]
  rfl

theorem mergeFields_encodePut (put : Put) (room : Nat) :
    mergeFields (room + 1) ⟨none⟩
        (encodeVarint (1 * 8 + 2) ++ (encodeVarint (encodePut put).length ++ encodePut put)) =
      (.ok ⟨some put⟩, []) := by
  have merged : mergeField 1 .lengthDelimited ⟨none⟩
      (encodeVarint (encodePut put).length ++ encodePut put) = (.ok ⟨some put⟩, []) :=
    Attempt.relabel_ok _ (Attempt.bind_ok _ (mergePut_encodePut put))
  have filled : (encodeVarint (1 * 8 + 2) ++
      (encodeVarint (encodePut put).length ++ encodePut put)).isEmpty = false := rfl
  have one : 0 < 1 := by decide
  rw [mergeFields, Attempt.get_bind, if_neg (by rw [filled]; exact Bool.false_ne_true),
    Attempt.bind_ok _ (decodeKey_encodeVarint one (by decide) _)]
  have finished : mergeFields room ⟨some put⟩ [] = (.ok ⟨some put⟩, []) := by cases room <;> rfl
  exact (Attempt.bind_ok _ merged).trans finished

/-- A written command reads back. -/
theorem decode_encode (command : KvCommand) : decode (encode command) = .ok command := by
  obtain ⟨_ | put⟩ := command
  · rfl
  · have written : encode ⟨some put⟩ =
        encodeVarint (1 * 8 + 2) ++ (encodeVarint (encodePut put).length ++ encodePut put) :=
      List.append_assoc _ _ _
    have filled : 0 < (encode ⟨some put⟩).length := by
      have key := encodeVarint_length_pos (1 * 8 + 2)
      rw [written, List.length_append]
      omega
    obtain ⟨room, enough⟩ : ∃ room, (encode ⟨some put⟩).length = room + 1 :=
      ⟨(encode ⟨some put⟩).length - 1, by omega⟩
    rw [decode, enough, written, mergeFields_encodePut]
    rfl

/-- An entry behind the start of the log has an index on the wire. -/
theorem encodedLen_ne_zero {entry : Entry} (placed : entry.index ≠ 0) : encodedLen entry ≠ 0 := by
  have index : scalarLen entry.index ≠ 0 := by
    rw [scalarLen, if_neg placed]
    omega
  unfold encodedLen
  omega

def kvCodec : KvCodec where
  encode := encode
  decode := decode
  decode_encode := decode_encode
  decode_nil := rfl

example : kvCodec.encodePutCommand "k" "v" = [10, 6, 10, 1, 107, 18, 1, 118] := by decide +kernel

end RaftATui.Protobuf
