import RaftATui.Proof.Snapshot.Format

namespace RaftATui
open Machinery

namespace Node

/-- A node applies the committed commands in order. A malformed one is only reported. -/
def applyAll (codec : KvCodec) (commands : List Bytes) (node : Node) : Node :=
  commands.foldl (fun node data => (applyKvCommand codec data node).2) node

/-- Two batches of commands are applied one after the other. -/
theorem applyAll_append (codec : KvCodec) (first second : List Bytes) (node : Node) :
    applyAll codec (first ++ second) node = applyAll codec second (applyAll codec first node) :=
  List.foldl_append

/-- A node restores the map of the node that created the snapshot, whatever it held before. -/
theorem restore_createSnapshot {crate : Bincode.Crate} (inverts : crate.Inverts) {node : Node} {data : Bytes}
    (created : node.createSnapshot crate.codec = .ok data) (prior : Node) :
    restoreFromSnapshot crate.codec data prior = (.ok (), node) := by
  obtain ⟨filled, read, decoded⟩ := inverts node.kv data (Bincode.Crate.codec_encode_iff.mp created)
  exact restoreFromSnapshot_ok_iff.mpr
    (Bincode.Crate.codec_decode_iff.mpr ((Bincode.Crate.decode_iff filled).mpr ⟨read, decoded⟩))

/-- A snapshot of a prefix and then the suffix give the map of the whole sequence. -/
theorem restore_applyAll {crate : Bincode.Crate} (inverts : crate.Inverts) (codec : KvCodec)
    (first second : List Bytes) (prior : Node) {data : Bytes}
    (created : (applyAll codec first Node.new).createSnapshot crate.codec = .ok data) :
    ∃ restored, restoreFromSnapshot crate.codec data prior = (.ok (), restored) ∧
      (applyAll codec second restored).kv = (applyAll codec (first ++ second) Node.new).kv := by
  refine ⟨applyAll codec first Node.new, restore_createSnapshot inverts created prior, ?_⟩
  rw [applyAll_append]

/-- These commands put a key, are no command at all, and put an empty value. -/
def someCommands : List Bytes :=
  [Protobuf.kvCodec.encodePutCommand "a" "1", [255], Protobuf.kvCodec.encodePutCommand "b" ""]

/-- A node with other data restores one pair and then applies the rest. -/
theorem restore_applyAll_split :
    ∃ restored, restoreFromSnapshot Bincode.snapshotCodec [1, 1, 97, 1, 49] ⟨{("z", "0")}⟩ = (.ok (), restored) ∧
      (applyAll Protobuf.kvCodec (someCommands.drop 1) restored).kv =
        (applyAll Protobuf.kvCodec (someCommands.take 1 ++ someCommands.drop 1) Node.new).kv :=
  restore_applyAll (Bincode.standard_standard .full).inverts Protobuf.kvCodec _ _ _ (by decide +kernel)

end Node

end RaftATui
