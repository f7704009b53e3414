import Std.Data.ExtTreeMap

/-
This file states the raft-rs records that the repository reads and writes.
-/

namespace RaftATui

abbrev Bytes := List UInt8

/-- The profile of a build decides what an overflow does. -/
inductive Build where
  | debug
  | release
  deriving DecidableEq, Repr

/-- This adds one to a `u64`, and no result is a panic. -/
def Build.succ (build : Build) (number : Nat) : Option Nat :=
  if build = .debug ∧ UInt64.size ≤ number + 1 then none else some ((number + 1) % UInt64.size)

theorem Build.succ_eq_some_iff {build : Build} {number : Nat} :
    build.succ number = some (number + 1) ↔ number + 1 < UInt64.size := by
  constructor
  · intro done
    rw [Build.succ] at done
    split at done
    · cases done
    · rw [← Option.some.inj done]
      exact Nat.mod_lt _ (by decide)
  · intro fits
    rw [Build.succ, if_neg fun overflow => absurd overflow.2 (Nat.not_le.mpr fits), Nat.mod_eq_of_lt fits]

/-- A debug build adds only what fits. -/
theorem Build.fits_of_succ {number next : Nat} (done : Build.debug.succ number = some next) :
    number + 1 < UInt64.size := by
  rw [Build.succ] at done
  split at done
  case isTrue => cases done
  case isFalse fits => exact Nat.lt_of_not_le fun overflow => fits ⟨rfl, overflow⟩

inductive EntryType where
  | entryNormal
  | entryConfChange
  | entryConfChangeV2
  deriving DecidableEq, Repr

structure Entry where
  entryType : EntryType
  term : Nat
  index : Nat
  data : Bytes
  context : Bytes
  deriving DecidableEq, Repr

structure HardState where
  term : Nat
  vote : Nat
  commit : Nat
  deriving DecidableEq, Repr

def HardState.default : HardState := ⟨0, 0, 0⟩

structure ConfState where
  voters : List Nat
  learners : List Nat := []
  votersOutgoing : List Nat := []
  learnersNext : List Nat := []
  autoLeave : Bool := false
  deriving DecidableEq, Repr

def ConfState.default : ConfState := { voters := [] }

structure SnapshotMetadata where
  confState : ConfState
  index : Nat
  term : Nat
  deriving DecidableEq, Repr

structure Snapshot where
  data : Bytes
  metadata : SnapshotMetadata
  deriving DecidableEq, Repr

def Snapshot.default : Snapshot := ⟨[], ⟨ConfState.default, 0, 0⟩⟩

def Snapshot.isEmpty (snapshot : Snapshot) : Bool := snapshot.metadata.index == 0

/-- The code routes a message by `to` and never looks into its payload. -/
structure Message where
  «to» : Nat
  sender : Nat
  payload : Bytes
  deriving DecidableEq, Repr

structure Ready where
  hs : Option HardState
  entries : List Entry
  snapshot : Snapshot
  committedEntries : List Entry
  messages : List Message
  persistedMessages : List Message
  deriving DecidableEq, Repr

def Ready.default : Ready := ⟨none, [], Snapshot.default, [], [], []⟩

structure LightReady where
  commitIndex : Option Nat
  committedEntries : List Entry
  messages : List Message
  deriving DecidableEq, Repr

def LightReady.default : LightReady := ⟨none, [], []⟩

inductive StateRole where
  | follower
  | candidate
  | leader
  | preCandidate
  deriving DecidableEq, Repr

def StateRole.debug : StateRole → String
  | .follower => "Follower"
  | .candidate => "Candidate"
  | .leader => "Leader"
  | .preCandidate => "PreCandidate"

inductive StorageError where
  | compacted
  | unavailable
  | snapshotOutOfDate
  | other
  deriving DecidableEq, Repr

/-- The last case carries the display text of every other raft error. -/
inductive RaftError where
  | proposalDropped
  | store (error : StorageError)
  | other (display : String)
  deriving DecidableEq, Repr

inductive TransportError where
  | peerNotFound (peer : Nat)
  | channelFull (peer : Nat)
  | channelClosed (peer : Nat)
  deriving DecidableEq, Repr

end RaftATui
