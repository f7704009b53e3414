import RaftATui.Library.Attempt
import RaftATui.Construction.RaftTypes

/-
This file models the key-value state machine over any command codec and snapshot codec.
-/

namespace RaftATui
open Machinery

abbrev KvMap := Std.ExtTreeMap String String

structure Put where
  key : String
  value : String
  deriving DecidableEq, Repr

structure KvCommand where
  cmd : Option Put
  deriving DecidableEq, Repr

/-- This codec writes and reads one `KvCommand`. A failed read carries its display text. -/
structure KvCodec where
  encode : KvCommand → Bytes
  decode : Bytes → Except String KvCommand
  decode_encode : ∀ command, decode (encode command) = .ok command
  decode_nil : decode [] = .ok ⟨none⟩

def KvCodec.encodePutCommand (codec : KvCodec) (key value : String) : Bytes :=
  codec.encode ⟨some ⟨key, value⟩⟩

inductive SnapshotError where
  | encodeError (text : String)
  | decodeError (text : String)
  deriving DecidableEq, Repr

def SnapshotError.display : SnapshotError → String
  | .encodeError text => s!"Failed to encode snapshot: {text}"
  | .decodeError text => s!"Failed to decode snapshot: {text}"

structure SnapshotCodec where
  encode : KvMap → Except SnapshotError Bytes
  decode : Bytes → Except SnapshotError KvMap

inductive UserCommand where
  | put (key value : String)
  | get (key : String)
  | keys
  | status
  | campaign
  deriving DecidableEq, Repr

inductive NodeOutput where
  | text (text : String)
  | none
  deriving DecidableEq, Repr

structure Node where
  kv : KvMap

namespace Node

def new : Node := ⟨∅⟩

/-- The quote function gives the `{:?}` text of a string. -/
def applyUserCommand (quote : String → String) (cmd : UserCommand) (node : Node) : NodeOutput × Node :=
  match cmd with
  | .put key value => (.text s!"OK: set {key} = {value}", ⟨node.kv.insert key value⟩)
  | .get key =>
      let text := match node.kv[key]? with
        | some value => s!"Some({quote value})"
        | none => "None"
      (.text text, node)
  | .keys =>
      let names := String.intercalate ", " (node.kv.keys.map quote)
      (.text s!"[{names}]", node)
  | .status => (.text "STATUS: standalone node", node)
  | .campaign => (.text "CAMPAIGN ignored (no Raft yet)", node)

def applyKvCommand (codec : KvCodec) (data : Bytes) : Attempt Node String Unit := fun node =>
  match codec.decode data with
  | .error text => (.error text, node)
  | .ok ⟨some put⟩ => (.ok (), ⟨node.kv.insert put.key put.value⟩)
  | .ok ⟨none⟩ => (.ok (), node)

def createSnapshot (codec : SnapshotCodec) (node : Node) : Except SnapshotError Bytes :=
  codec.encode node.kv

def restoreFromSnapshot (codec : SnapshotCodec) (data : Bytes) : Attempt Node SnapshotError Unit :=
  fun node =>
    match codec.decode data with
    | .error error => (.error error, node)
    | .ok restored => (.ok (), ⟨restored⟩)

end Node

end RaftATui
