import RaftATui.Construction.Bincode
import RaftATui.Construction.Driver.RaftLoop
import RaftATui.Construction.MemStorage

/-
This file gives a raft that plays a script. It stands for the raft crate in concrete runs.
-/

namespace RaftATui
open Machinery

/-- The script lists what later calls hand out, and what later messages make of the role and the log. The
commit index follows what the calls hand out. -/
structure ScriptedRaft where
  role : StateRole
  leaderId : Nat
  log : List Entry
  conf : ConfState
  readies : List Ready
  lights : List LightReady
  inbox : List (StateRole × List Entry)
  committed : Nat
  deriving DecidableEq, Repr

namespace ScriptedRaft

def begin (role : StateRole) (readies : List Ready) (lights : List LightReady)
    (inbox : List (StateRole × List Entry)) : ScriptedRaft :=
  ⟨role, 1, [], { voters := [1] }, readies, lights, inbox, 0⟩

/-- A leader puts the entry at the end of its log. -/
def propose (context data : Bytes) (_store : RaftStorage MemStorage) :
    Attempt ScriptedRaft RaftError Unit := fun raft =>
  if raft.role = .leader then
    let entry : Entry := ⟨.entryNormal, 1, raft.log.length + 1, data, context⟩
    (.ok (), { raft with log := raft.log ++ [entry] })
  else (.error .proposalDropped, raft)

def step (_msg : Message) (_store : RaftStorage MemStorage) : Attempt ScriptedRaft RaftError Unit :=
  fun raft => match raft.inbox with
    | [] => (.error (.other "raft: cannot step raft local message"), raft)
    | (role, log) :: rest => (.ok (), { raft with role, log, inbox := rest })

def ready (_store : RaftStorage MemStorage) (raft : ScriptedRaft) : Ready × ScriptedRaft :=
  match raft.readies with
  | [] => (.default, raft)
  | rd :: rest => (rd, { raft with
      readies := rest
      committed := (rd.hs.map HardState.commit).getD raft.committed })

def advance (_ready : Ready) (_store : RaftStorage MemStorage) (raft : ScriptedRaft) :
    LightReady × ScriptedRaft :=
  match raft.lights with
  | [] => (.default, raft)
  | light :: rest => (light, { raft with
      lights := rest
      committed := light.commitIndex.getD raft.committed })

/-- Two kinds of changes occur in scripts. The default one leaves a joint configuration. -/
inductive Change where
  | leaveJoint
  | addVoter (id : Nat)
  deriving DecidableEq, Repr

/-- A change is refused when it leaves no joint configuration or adds a known voter. -/
def changed (conf : ConfState) : Change → Except RaftError ConfState
  | .leaveJoint =>
      if conf.votersOutgoing.isEmpty then .error (.other "cannot leave a non-joint config")
      else .ok { conf with votersOutgoing := [], autoLeave := false }
  | .addVoter id =>
      if id ∈ conf.voters then .error (.other "already a voter")
      else .ok { conf with voters := conf.voters ++ [id] }

def applyConfChange (change : Change) (_store : RaftStorage MemStorage) :
    Attempt ScriptedRaft RaftError ConfState := fun raft =>
  match changed raft.conf change with
  | .ok conf => (.ok conf, { raft with conf })
  | .error error => (.error error, raft)

/-- The empty data is the default change. One byte names a new voter. -/
def decodeChange : Bytes → Except String Change
  | [] => .ok .leaveJoint
  | [id] => .ok (.addVoter id.toNat)
  | _ => .error "failed to decode Protobuf message: invalid tag value: 0"

def raw : RawNodeApi ScriptedRaft MemStorage Change where
  id _ := 1
  term _ := 1
  role raft := raft.role
  leaderId raft := raft.leaderId
  committed raft := raft.committed
  clusterSize raft := raft.conf.voters.length
  propose := propose
  step := step
  tick _ raft := raft
  campaign _ := pure ()
  hasReady _ raft := !raft.readies.isEmpty
  ready := ready
  advance := advance
  applyConfChange := applyConfChange

end ScriptedRaft

/-- The codecs are the real ones, and the transport drops every message. -/
abbrev scripted : Externals where
  Raft := ScriptedRaft
  Mem := MemStorage
  Change := ScriptedRaft.Change
  Network := Unit
  raw := ScriptedRaft.raw
  mem := MemStorage.api fun entry => entry.data.length + entry.context.length
  decodeConfChange := ScriptedRaft.decodeChange
  decodeConfChangeV2 := ScriptedRaft.decodeChange
  send _ _ := pure ()
  kvCodec := Protobuf.kvCodec
  snapshotCodec := Bincode.snapshotCodec
  quote text := "\"" ++ text ++ "\""

/-- The ids of a scripted driver are the unary numbers. -/
def scriptedUuids (number : Nat) : Bytes := List.replicate (number + 1) 0

theorem scriptedUuids_injective : Function.Injective scriptedUuids := by
  intro first second same
  have lengths := congrArg List.length same
  simpa [scriptedUuids] using lengths

def scriptedPut (term index number : Nat) (key value : String) : Entry :=
  ⟨.entryNormal, term, index, Protobuf.kvCodec.encodePutCommand key value, scriptedUuids number⟩

def scriptedDriver (raft : ScriptedRaft) (store : RaftStorage MemStorage) : Driver scripted where
  raft := raft
  store := store
  callbacks := ∅
  kvNode := Node.new
  network := ()
  previousLeaderId := none
  tuiOpen _ := true
  uuids := scriptedUuids
  drawn := 0
  trace := []

end RaftATui
