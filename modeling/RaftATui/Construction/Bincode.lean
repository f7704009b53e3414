import RaftATui.Construction.Protobuf

/-
This file models the snapshot codec, which is bincode in its standard configuration. The texts of its
read errors name the kind only.
-/

namespace RaftATui.Bincode
open Machinery
open Protobuf (utf8 parseUtf8)

def littleEndian : (count value : Nat) → Bytes
  | 0, _ => []
  | count + 1, value => UInt8.ofNat (value % 256) :: littleEndian count (value / 256)

/-- A number above 250 is written after a marker of its width. -/
def encodeLen (value : Nat) : Bytes :=
  if value < 251 then [UInt8.ofNat value]
  else if value < 2 ^ 16 then 251 :: littleEndian 2 value
  else if value < 2 ^ 32 then 252 :: littleEndian 4 value
  else 253 :: littleEndian 8 value

def encodeString (text : String) : Bytes := encodeLen (utf8 text).length ++ utf8 text

def encodeMap (kv : KvMap) : Bytes :=
  encodeLen kv.size ++ kv.toList.flatMap fun pair => encodeString pair.1 ++ encodeString pair.2

abbrev Reader (Value : Type) := Attempt Bytes String Value

def takeBytes (count : Nat) : Reader Bytes := fun buffer =>
  if buffer.length < count then (.error "UnexpectedEnd", buffer)
  else (.ok (buffer.take count), buffer.drop count)

def fromLittleEndian (bytes : Bytes) : Nat :=
  bytes.foldr (fun byte value => byte.toNat + 256 * value) 0

def decodeLen : Reader Nat := do
  let marker ← takeBytes 1
  match fromLittleEndian marker with
  | 251 => do let bytes ← takeBytes 2; pure (fromLittleEndian bytes)
  | 252 => do let bytes ← takeBytes 4; pure (fromLittleEndian bytes)
  | 253 => do let bytes ← takeBytes 8; pure (fromLittleEndian bytes)
  | 254 => Attempt.fail "InvalidIntegerType"
  | 255 => Attempt.fail "InvalidIntegerType"
  | small => pure small

/-- A decoder stops with an error of the crate or with an abort of the process. -/
inductive Stop where
  | error (text : String)
  | abort
  deriving DecidableEq, Repr

abbrev Decoder (Value : Type) := Attempt Bytes Stop Value

/-- The allocator of the process refuses each size above `isize::MAX`, and it may refuse others. -/
structure Memory where
  allocates : Nat → Bool
  capacity : ∀ size, allocates size = true → size < 2 ^ 63

/-- This allocator refuses no other size. -/
def Memory.full : Memory where
  allocates size := size < 2 ^ 63
  capacity _ small := of_decide_eq_true small

/-- The standard configuration has no limit, so the allocator sees every announced length. -/
def allocate (memory : Memory) (size : Nat) : Decoder Unit :=
  if memory.allocates size then pure () else Attempt.fail .abort

/-- The buffer of a string is allocated before its bytes are read. -/
def decodeString (memory : Memory) : Decoder String := do
  let len ← Attempt.relabel .error decodeLen
  allocate memory len
  let bytes ← Attempt.relabel .error (takeBytes len)
  match parseUtf8 bytes with
  | some text => pure text
  | none => Attempt.fail (.error "Utf8")

def decodePairs (memory : Memory) : (count : Nat) → KvMap → Decoder KvMap
  | 0, kv => pure kv
  | count + 1, kv => do
      let key ← decodeString memory
      let value ← decodeString memory
      decodePairs memory count (kv.insert key value)

def decodeMap (memory : Memory) : Decoder KvMap := do
  let len ← Attempt.relabel .error decodeLen
  decodePairs memory len ∅

/-- These are the calls of the bincode crate in its standard configuration. A read returns the value with
the number of bytes that it took. No result is an abort. -/
structure Crate where
  encodeToVec : KvMap → Except String Bytes
  decodeFromSlice : Bytes → Option (Except String (KvMap × Nat))

namespace Crate

def encode (crate : Crate) (kv : KvMap) : Except SnapshotError Bytes := (crate.encodeToVec kv).mapError .encodeError

/-- This is `BincodeCodec::decode`. The number of bytes is dropped, and no result is an abort. -/
def decode (crate : Crate) (bytes : Bytes) : Option (Except SnapshotError KvMap) :=
  if bytes.isEmpty then some (.ok ∅)
  else (crate.decodeFromSlice bytes).map fun result => (result.mapError .decodeError).map Prod.fst

/-- This is `BincodeCodec` for the driver, which counts an abort as an error. -/
def codec (crate : Crate) : SnapshotCodec where
  encode := crate.encode
  decode bytes := (crate.decode bytes).getD (.error (.decodeError "capacity overflow"))

/-- This is `restore_from_snapshot` with `BincodeCodec`. No result is an abort. -/
def restoreFromSnapshot (crate : Crate) (data : Bytes) (node : Node) :
    Option (Except SnapshotError Unit × Node) :=
  (crate.decode data).map fun _ => Node.restoreFromSnapshot crate.codec data node

end Crate

/-- The number of the pairs fits into 64 bits, and each of their strings can be allocated. -/
def Held (memory : Memory) (pairs : List (String × String)) : Prop :=
  pairs.length < 2 ^ 64 ∧ ∀ pair ∈ pairs,
    memory.allocates (utf8 pair.1).length = true ∧ memory.allocates (utf8 pair.2).length = true

instance (memory : Memory) (pairs : List (String × String)) : Decidable (Held memory pairs) :=
  inferInstanceAs (Decidable (_ ∧ _))

/-- Every map in memory is held there, so the write of another one stands for nothing. -/
def standard (memory : Memory) : Crate where
  encodeToVec kv := if Held memory kv.toList then .ok (encodeMap kv) else .error "OutsideUsizeRange"
  decodeFromSlice bytes :=
    match decodeMap memory bytes with
    | (.ok kv, rest) => some (.ok (kv, bytes.length - rest.length))
    | (.error (.error text), _) => some (.error text)
    | (.error .abort, _) => none

def snapshotCodec : SnapshotCodec := (standard .full).codec

end RaftATui.Bincode
