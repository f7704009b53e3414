import RaftATui.Library.Crash
import RaftATui.Library.Trace
import RaftATui.Proof.Driver.Calls

namespace RaftATui
open Machinery
open Machinery.Crash (Flushed Survives flushed_concat foldl_keeps)
open Machinery.Trace (Obeys obeys_concat obeys_append)

def SledOp.Flushes : SledOp → Prop
  | .flush _ => True
  | _ => False

instance : DecidablePred SledOp.Flushes
  | .flush _ => isTrue trivial
  | .insertHardstate _ | .insertConfstate _ | .insertAppliedIndex _ | .insertEntry _ _ | .removeEntry _
  | .insertSnapshot _ | .iterNext => isFalse id

def SledOp.hard (hs : HardState) : SledOp → HardState
  | .insertHardstate later => later
  | _ => hs

/-- This is the hard state on disk after these calls. -/
def written (hs : HardState) (ops : List SledOp) : HardState := ops.foldl SledOp.hard hs

def Effect.hard (hs : HardState) : Effect → HardState
  | .ready rd => rd.hs.getD hs
  | _ => hs

/-- This is the hard state that raft handed out last. -/
def current (hs : HardState) (trace : List Effect) : HardState := trace.foldl Effect.hard hs

/-- These messages were handed out last. The promises wait for the storage. -/
structure Outbox where
  free : List Message
  promised : List Message

def Effect.outbox (box : Outbox) : Effect → Outbox
  | .ready rd => ⟨rd.messages, rd.persistedMessages⟩
  | .light rd => ⟨[], rd.messages⟩
  | _ => box

def outbox (trace : List Effect) : Outbox := trace.foldl Effect.outbox ⟨[], []⟩

/-- Each event but a sled call finds the calls before it flushed. A written hard state is the current one. A sent
message is a free one, or the current hard state is on disk. -/
structure WriteAhead (hs : HardState) (before : List Effect) (event : Effect) : Prop where
  logged : event.sledOp = none → Flushed SledOp.Flushes (sledOps before)
  handed : ∀ later, event = .sled (.insertHardstate later) → current hs before = later
  kept : ∀ «to» msg, event = .send «to» msg → msg ∈ (outbox before).free ∨
    (msg ∈ (outbox before).promised ∧ written hs (sledOps before) = current hs before)

/-- These effects are no sled call, no message and no output of raft. -/
def Idle (effect : Effect) : Prop :=
  effect.sledOp = none ∧ effect.isOutput = false ∧ ∀ «to» msg, effect ≠ .send «to» msg

@[simp] theorem written_append (hs : HardState) (first second : List SledOp) :
    written hs (first ++ second) = written (written hs first) second := List.foldl_append

/-- The last effect may change the hard state in effect. -/
theorem current_concat {hs : HardState} {trace : List Effect} (event : Effect) :
    current hs (trace ++ [event]) = event.hard (current hs trace) := List.foldl_concat _ _ _ _

/-- The last effect may fill the outbox or empty it. -/
theorem outbox_concat {trace : List Effect} (event : Effect) :
    outbox (trace ++ [event]) = event.outbox (outbox trace) := List.foldl_concat _ _ _ _

/-- Silent effects keep the hard state in effect. -/
theorem current_append {hs : HardState} {first second : List Effect}
    (silent : ∀ effect ∈ second, effect.isOutput = false) : current hs (first ++ second) = current hs first := by
  rw [current, List.foldl_append, current]
  refine @foldl_keeps _ _ Effect.hard _ id second (fun effect inside state => ?_) _
  cases effect with
  | ready rd => exact absurd (silent _ inside) (by simp [Effect.isOutput])
  | _ => rfl

/-- Silent effects keep the outbox. -/
theorem outbox_append {first second : List Effect} (silent : ∀ effect ∈ second, effect.isOutput = false) :
    outbox (first ++ second) = outbox first := by
  rw [outbox, List.foldl_append, outbox]
  refine @foldl_keeps _ _ Effect.outbox _ id second (fun effect inside state => ?_) _
  cases effect with
  | ready rd => exact absurd (silent _ inside) (by simp [Effect.isOutput])
  | light rd => exact absurd (silent _ inside) (by simp [Effect.isOutput])
  | _ => rfl

namespace Driver

open Attempt (Within Keeps Triple)

variable {X : Externals} {hs : HardState} {box : Outbox} {owed : Option HardState}

section Plan

/-- These are the sled calls of a storage call. -/
def StoreCall.plan : StoreCall → Db → List SledOp
  | .applySnapshot snapshot, db => DiskStorage.snapshotOps snapshot db.entriesTree.keys
  | .append entries, _ => DiskStorage.appendOps entries
  | .setHardstate hs, _ => [.insertHardstate hs, .flush .metaTree]
  | .setConfState cs, _ => [.insertConfstate cs, .flush .metaTree]
  | .setAppliedIndex index, _ => [.insertAppliedIndex index, .flush .metaTree]

/-- A storage call ends with a flush. -/
theorem StoreCall.plan_flushes (call : StoreCall) (db : Db) : ∃ ops tree, call.plan db = ops ++ [.flush tree] := by
  cases call with
  | applySnapshot snapshot =>
      let flushes : List SledOp := [.flush .snapshotsTree, .flush .metaTree]
      exact ⟨_ ++ flushes, .entriesTree, (List.append_assoc _ flushes [.flush .entriesTree]).symm⟩
  | append entries => exact ⟨_, .entriesTree, rfl⟩
  | setHardstate hs => exact ⟨[_], .metaTree, rfl⟩
  | setConfState cs => exact ⟨[_], .metaTree, rfl⟩
  | setAppliedIndex index => exact ⟨[_], .metaTree, rfl⟩

/-- Only one call writes a hard state. -/
def StoreCall.Unhard : StoreCall → Prop
  | .setHardstate _ => False
  | _ => True

/-- Such a call never writes a hard state. -/
theorem StoreCall.plan_hard {call : StoreCall} (unhard : call.Unhard) (db : Db) :
    ∀ op ∈ call.plan db, ∀ hs, op ≠ .insertHardstate hs := by
  rintro op inside hs rfl
  revert inside
  cases call with
  | applySnapshot snapshot => simp [plan, DiskStorage.snapshotOps, DiskStorage.scanOps, DiskStorage.removeOps]
  | append entries => simp [plan, DiskStorage.appendOps]
  | setHardstate hs => exact absurd unhard id
  | setConfState cs => simp [plan]
  | setAppliedIndex index => simp [plan]

/-- Each storage call follows its plan. -/
theorem StoreCall.follows (call : StoreCall) :
    Follows call.plan (withStore (call.run X.mem) : Attempt (Driver X) RaftError Unit) := by
  have both {plan : Db → List SledOp} {onMemory : X.Mem → Except RaftError Unit × X.Mem}
      {onDisk : Attempt DiskStorage RaftError Unit}
      (code : ∀ storage, onDisk storage = DiskStorage.script (plan storage.db) storage) :
      Follows plan (withStore (RaftStorage.both onMemory onDisk) : Attempt (Driver X) RaftError Unit) := by
    refine withStore_follows (fun storage => ⟨rfl, rfl⟩ : ∀ storage : DiskStorage,
      (id storage).db = storage.db ∧ _) fun storage => ?_
    rw [RaftStorage.both, code, id]
  cases call with
  | applySnapshot snapshot => exact both (DiskStorage.applySnapshot_eq_script snapshot)
  | append entries => exact both (congrFun (DiskStorage.append_eq_script entries))
  | setHardstate hs => exact both (congrFun (DiskStorage.setHardstate_eq_script hs))
  | setConfState cs => exact both (congrFun (DiskStorage.setConfState_eq_script cs))
  | setAppliedIndex index =>
      refine withStore_follows (fun storage => ⟨rfl, rfl⟩ : ∀ storage : DiskStorage,
        { storage with appliedIndex := index }.db = storage.db ∧ _) fun storage => ?_
      rw [StoreCall.run, RaftStorage.setAppliedIndex, DiskStorage.setAppliedIndex_eq_script]
      rfl

end Plan

/-- The run writes ahead so far. Its calls are flushed, and the current hard state is on disk unless it is owed. -/
structure Kept (hs : HardState) (box : Outbox) (owed : Option HardState) (driver : Driver X) : Prop where
  disk : ∃ db, driver.store.db? = some db
  ahead : Obeys (WriteAhead hs) driver.trace
  flushed : Flushed SledOp.Flushes (sledOps driver.trace)
  box : outbox driver.trace = box
  hard : current hs driver.trace = owed.getD (written hs (sledOps driver.trace))

/-- Idle effects find all calls flushed. -/
theorem Kept.idle {before after : Driver X} (kept : Kept hs box owed before) (store : after.store = before.store)
    {added : List Effect} (trace : after.trace = before.trace ++ added) (idle : ∀ effect ∈ added, Idle effect) :
    Kept hs box owed after := by
  have silent {part : List Effect} (inside : part ⊆ added) : sledOps (before.trace ++ part) = sledOps before.trace :=
    sledOps_added rfl fun effect found => (idle effect (inside found)).1
  have hidden : ∀ effect ∈ added, effect.isOutput = false := fun effect inside => (idle effect inside).2.1
  constructor
  case disk => rw [store]; exact kept.disk
  case flushed => rw [trace, silent (List.Subset.refl _)]; exact kept.flushed
  case box => rw [trace, outbox_append hidden]; exact kept.box
  case hard => rw [trace, current_append hidden, silent (List.Subset.refl _)]; exact kept.hard
  case ahead =>
    rw [trace]
    refine obeys_append.mpr ⟨kept.ahead, fun earlier event later split => ?_⟩
    have own := idle event (by rw [split]; simp)
    refine ⟨fun _ => ?_, fun hard same => ?_, fun «to» msg same => absurd same (own.2.2 «to» msg)⟩
    · rw [silent (by rw [split]; exact List.subset_append_left _ _)]
      exact kept.flushed
    · rw [same] at own
      cases own.1

/-- A local effect is idle. -/
theorem idle_local {scope : Scope} (effect : Effect) (inside : Local scope effect) : Idle effect := by
  cases effect with
  | notify update => exact ⟨rfl, rfl, by simp⟩
  | reply channel result => exact ⟨rfl, rfl, by simp⟩
  | proposed id data callback result => exact ⟨rfl, rfl, by simp⟩
  | applied entry kv => exact ⟨rfl, rfl, by simp⟩
  | _ => exact absurd inside id

/-- A free message may leave at once, and a promise when nothing is owed. -/
theorem Kept.send {before after : Driver X} {«to» : Nat} {msg : Message} (kept : Kept hs box owed before)
    (store : after.store = before.store) (trace : after.trace = before.trace ++ [.send «to» msg])
    (allowed : msg ∈ box.free ∨ (msg ∈ box.promised ∧ owed = none)) : Kept hs box owed after := by
  have silent : sledOps after.trace = sledOps before.trace := sledOps_added trace (by simp [Effect.sledOp])
  constructor
  case disk => rw [store]; exact kept.disk
  case flushed => rw [silent]; exact kept.flushed
  case box => rw [trace, outbox_append (by simp [Effect.isOutput])]; exact kept.box
  case hard => rw [silent, trace, current_append (by simp [Effect.isOutput])]; exact kept.hard
  case ahead =>
    rw [trace]
    refine obeys_concat.mpr ⟨kept.ahead, fun _ => kept.flushed, by simp, fun other sent same => ?_⟩
    obtain ⟨rfl, rfl⟩ := Effect.send.inj same
    rw [kept.box, kept.hard]
    refine allowed.imp id fun promised => ⟨promised.1, ?_⟩
    rw [promised.2]
    rfl

/-- A storage call ends flushed. It writes no hard state but the owed one. -/
theorem kept_store (call : StoreCall) {later : Option HardState}
    (handed : ∀ db hard, .insertHardstate hard ∈ call.plan db → owed = some hard)
    (moves : ∀ db hard, later.getD (written hard (call.plan db)) = owed.getD hard) :
    Triple (Kept (X := X) hs box owed) (withStore (call.run X.mem)) (fun _ => Kept hs box later)
      fun driver => Obeys (WriteAhead hs) driver.trace := by
  intro driver kept
  obtain ⟨db, disk⟩ := kept.disk
  obtain ⟨ops, rest, split, calls, stored, whole⟩ := call.follows driver db disk
  obtain ⟨_, added, trace, sled⟩ := withStore_emits (call.run X.mem) driver
  have silent : ∀ effect ∈ added, effect.isOutput = false := by
    intro effect inside
    obtain ⟨op, rfl⟩ := sled effect inside
    rfl
  have planned : ∀ op, .sled op ∈ added → op ∈ call.plan db := by
    intro op inside
    have own : sledOps added = ops := by
      rw [trace, sledOps_append] at calls
      exact List.append_cancel_left calls
    rw [split, ← own]
    exact List.mem_append_left _ (List.mem_filterMap.mpr ⟨_, inside, rfl⟩)
  have ahead : Obeys (WriteAhead hs) (withStore (call.run X.mem) driver).2.trace := by
    rw [trace]
    refine obeys_append.mpr ⟨kept.ahead, fun earlier event after cut => ?_⟩
    have inside : event ∈ added := by rw [cut]; simp
    obtain ⟨op, rfl⟩ := sled event inside
    refine ⟨fun none => (by cases none), fun hard same => ?_, by simp⟩
    obtain rfl := Effect.sled.inj same
    rw [current_append fun effect found => silent effect (by rw [cut]; exact List.mem_append_left _ found), kept.hard,
      handed db hard (planned _ inside)]
    rfl
  rcases run : withStore (call.run X.mem) driver with ⟨error | _, final⟩
  · rw [run] at ahead
    exact ahead
  · rw [run] at ahead calls stored whole trace
    rw [whole () rfl, List.append_nil] at split
    obtain ⟨earlier, tree, ends⟩ := call.plan_flushes db
    refine ⟨⟨_, stored⟩, ahead, ?_, ?_, ?_⟩
    · rw [calls, ← split, ends, ← List.append_assoc]
      exact flushed_concat.mpr trivial
    · rw [trace, outbox_append silent]
      exact kept.box
    · rw [calls, ← split, written_append, moves, trace, current_append silent]
      exact kept.hard

/-- A call that writes no hard state owes as much as before. -/
theorem kept_unhard {call : StoreCall} (unhard : call.Unhard) :
    Triple (Kept (X := X) hs box owed) (withStore (call.run X.mem)) (fun _ => Kept hs box owed)
      fun driver => Obeys (WriteAhead hs) driver.trace := by
  refine kept_store call (fun db hard inside => absurd rfl (call.plan_hard unhard db _ inside hard)) fun db hard => ?_
  have same : written hard (call.plan db) = hard := by
    refine @foldl_keeps _ _ SledOp.hard _ id (call.plan db) (fun op inside state => ?_) hard
    cases op with
    | insertHardstate later => exact absurd rfl (call.plan_hard unhard db _ inside later)
    | _ => rfl
  rw [same]

/-- Only free messages are sent while a hard state is owed. -/
def Scope.owing (box : Outbox) (owed : Option HardState) : Scope where
  sends msg := msg ∈ box.free ∨ (msg ∈ box.promised ∧ owed = none)
  stores call := call.Unhard
  applies _ := True
  restores _ := True

/-- A call that is allowed while the outbox owes a hard state writes none. -/
theorem unhard_inside {call : StoreCall} (inside : call.Inside (.owing box owed)) : call.Unhard := by
  cases call with
  | setHardstate hs => exact inside
  | _ => trivial

/-- The calls behind a stored hard state keep what the outbox owes. -/
theorem keptCalls (hs : HardState) (box : Outbox) (owed : Option HardState) :
    Calls (.owing box owed) (Kept (X := X) hs box owed) fun driver => Obeys (WriteAhead hs) driver.trace := by
  refine callsOf (fun _ _ _ _ _ kept => kept.ahead) ?_ (fun msg allowed driver kept => kept.send rfl rfl allowed) fun call inside => ?_
  · intro before after emits store kept
    obtain ⟨_, added, trace, inside⟩ := emits
    exact kept.idle store trace fun effect found => idle_local effect (inside effect found)
  · exact kept_unhard (unhard_inside inside)

/-- Between two actions nothing is owed. -/
def Rested (hs : HardState) (driver : Driver X) : Prop := ∃ box, Kept hs box none driver

/-- The taken ready fills the outbox and owes its hard state. -/
theorem triple_takeReady_kept : Triple (Rested (X := X) hs) takeReady
    (fun rd => Kept hs ⟨rd.messages, rd.persistedMessages⟩ rd.hs) fun driver => Obeys (WriteAhead hs) driver.trace := by
  intro driver ⟨box, kept⟩
  have silent (rd : Ready) : sledOps (driver.trace ++ [.ready rd]) = sledOps driver.trace :=
    sledOps_added rfl (by simp [Effect.sledOp])
  constructor
  case disk => exact kept.disk
  case ahead => exact obeys_concat.mpr ⟨kept.ahead, fun _ => kept.flushed, by simp, by simp⟩
  case flushed => rw [silent]; exact kept.flushed
  case box => rw [outbox, List.foldl_concat]; rfl
  case hard =>
    rw [silent, current, List.foldl_concat, ← current, kept.hard]
    rfl

/-- The light ready brings no hard state. -/
theorem triple_advance_kept (ready : Ready) : Triple (Kept (X := X) hs box none) (advance ready)
    (fun light => Kept hs ⟨[], light.messages⟩ none) fun driver => Obeys (WriteAhead hs) driver.trace := by
  intro driver kept
  have silent (rd : LightReady) : sledOps (driver.trace ++ [.light rd]) = sledOps driver.trace :=
    sledOps_added rfl (by simp [Effect.sledOp])
  constructor
  case disk => exact kept.disk
  case ahead => exact obeys_concat.mpr ⟨kept.ahead, fun _ => kept.flushed, by simp, by simp⟩
  case flushed => rw [silent]; exact kept.flushed
  case box => rw [outbox, List.foldl_concat]; rfl
  case hard =>
    rw [silent, current, List.foldl_concat, ← current, kept.hard]
    rfl

/-- The hard state of a ready is owed until it is persisted. -/
theorem persistHardstatePart_kept (ready : Ready) :
    Triple (Kept (X := X) hs box ready.hs) (persistHardstatePart ready) (fun _ => Kept hs box none)
      fun driver => Obeys (WriteAhead hs) driver.trace := by
  unfold persistHardstatePart
  cases ready.hs with
  | none => exact Triple.pure fun _ => id
  | some later =>
      refine Triple.relabel _ (kept_store (.setHardstate later) (fun db hard inside => ?_) fun db hard => rfl)
      simpa [StoreCall.plan, eq_comm] using inside

/-- A ready sends nothing before its hard state is stored. -/
theorem processReady_kept : Triple (Rested (X := X) hs) processReady (fun _ => Rested hs)
    fun driver => Obeys (WriteAhead hs) driver.trace := by
  simp only [processReady]
  refine triple_takeReady_kept.bind fun ready => ?_
  have first := keptCalls (X := X) hs ⟨ready.messages, ready.persistedMessages⟩ ready.hs
  have second := keptCalls (X := X) hs ⟨ready.messages, ready.persistedMessages⟩ none
  refine (first.sendMessages fun _ => Or.inl).bind fun _ => ?_
  refine (first.applySnapshotPart fun _ => ⟨trivial, trivial⟩).bind fun _ => (first.appendEntriesPart trivial).bind fun _ => ?_
  refine (persistHardstatePart_kept ready).bind fun _ => ?_
  refine (second.sendMessages fun _ inside => Or.inr ⟨inside, rfl⟩).bind fun _ => ?_
  refine (second.applyEntries fun _ _ => trivial).bind fun _ => second.updateTuiState.bind fun _ => ?_
  refine (triple_advance_kept _).bind fun light => ?_
  have last := keptCalls (X := X) hs ⟨[], light.messages⟩ none
  refine (last.sendMessages fun _ inside => Or.inr ⟨inside, rfl⟩).bind fun _ => ?_
  exact (last.applyEntries fun _ _ => trivial).weaken fun _ _ kept => ⟨_, kept⟩

/-- Each action leaves the driver at rest. -/
theorem perform_kept (action : Action) : Triple (Rested (X := X) hs) (perform action) (fun _ => Rested hs)
    fun driver => Obeys (WriteAhead hs) driver.trace := by
  have calls : Calls (.owing ⟨[], []⟩ none) (Rested (X := X) hs) fun driver => Obeys (WriteAhead hs) driver.trace := by
    refine callsOf (fun _ _ _ _ _ ⟨_, kept⟩ => kept.ahead) ?_ (fun _ never => absurd never (by simp [Scope.owing]))
      fun call inside driver => ?_
    · intro before after ⟨_, added, trace, inside⟩ store ⟨box, kept⟩
      exact ⟨box, kept.idle store trace fun effect found => idle_local effect (inside effect found)⟩
    · intro ⟨box, kept⟩
      exact (kept_unhard (unhard_inside inside)).weaken (fun _ _ kept => ⟨box, kept⟩) driver kept
  refine calls.perform action (fun key resp _ driver ⟨box, kept⟩ => ⟨box, ?_⟩) processReady_kept
  exact kept.idle rfl rfl (by simp [Idle, Effect.sledOp, Effect.isOutput])

/-- Every run on disk writes ahead from any first hard state. -/
theorem performAll_kept {start : Driver X} {db : Db} (fresh : Fresh start) (disk : start.store.db? = some db)
    (hs : HardState) (actions : List Action) : Obeys (WriteAhead hs) (performAll actions start).2.trace := by
  have begins : Rested hs start :=
    ⟨⟨[], []⟩, ⟨db, disk⟩, by simp [fresh.trace], by simp [fresh.trace, sledOps], by rw [fresh.trace]; rfl,
      by rw [fresh.trace]; rfl⟩
  have whole := Triple.forEach actions fun action _ => @perform_kept X hs action
  refine (whole.weaken fun _ driver rested => ?_).final begins
  obtain ⟨_, kept⟩ := rested
  exact kept.ahead

end Driver

namespace Db

/-- These are the sled calls of a start. -/
def startOps (peers : List Nat) (db : Db) : List SledOp :=
  DiskStorage.snapshotOps (bootSnapshot peers) db.entriesTree.keys

/-- The directory holds the last written hard state. -/
theorem hardState_replay_written (db : Db) (ops : List SledOp) : (db.replay ops).hardState = written db.hardState ops := by
  induction ops generalizing db with
  | nil => rfl
  | cons op rest ih =>
      rw [replay_cons, ih, written, written, List.foldl_cons]
      congr 1
      cases op <;> rfl

/-- The calls of the start write no hard state. -/
theorem written_startOps {peers : List Nat} {db : Db} {done : List SledOp} (initial : done <+: db.startOps peers)
    (hs : HardState) : written hs done = hs := by
  refine @foldl_keeps _ _ SledOp.hard _ id done (fun op inside state => ?_) hs
  have planned : op ∈ db.startOps peers := initial.subset inside
  cases op with
  | insertHardstate later =>
      simp [startOps, DiskStorage.snapshotOps, DiskStorage.scanOps, DiskStorage.removeOps] at planned
  | _ => rfl

end Db

section Crash

variable {booted done : List SledOp} {reached before after : List Effect} {event : Effect} {hs : HardState}

/-- A crash cuts the start or the run. -/
theorem crash_cuts (initial : done <+: booted ++ sledOps reached) :
    done <+: booted ∨ ∃ part, part <+: reached ∧ done = booted ++ sledOps part := by
  rcases List.prefix_or_prefix_of_prefix initial (List.prefix_append booted _) with short | ⟨own, rfl⟩
  · exact Or.inl short
  · rw [List.prefix_append_right_inj] at initial
    obtain ⟨part, long, rfl⟩ := List.prefix_filterMap_iff.mp initial
    exact Or.inr ⟨part, long, rfl⟩

/-- A crash cuts behind each visible event that found some writes. -/
theorem crash_behind (ahead : Obeys (WriteAhead hs) reached) (split : reached = before ++ event :: after)
    (visible : event.sledOp = none) (wrote : booted = [] ∨ sledOps before ≠ [])
    (crash : Survives SledOp.Flushes done (booted ++ sledOps reached)) :
    ∃ part, part <+: after ∧ done = booted ++ sledOps (before ++ event :: part) := by
  have settled := (ahead before event after split).logged visible
  have whole : sledOps reached = sledOps before ++ sledOps after := by
    rw [split, sledOps_append]
    cases event with
    | sled op => cases visible
    | _ => rfl
  rw [whole, ← List.append_assoc] at crash
  have flushed : Flushed SledOp.Flushes (booted ++ sledOps before) := by
    rcases List.eq_nil_or_concat (sledOps before) with none | ⟨earlier, last, some⟩
    · have fresh : booted = [] := wrote.resolve_right (absurd none)
      rw [fresh, none]
      exact Crash.flushed_nil
    · rw [some, List.concat_eq_append] at settled ⊢
      rw [← List.append_assoc]
      exact flushed_concat.mpr (flushed_concat.mp settled)
  obtain ⟨extra, rfl⟩ := crash.flushes_kept flushed
  have more := crash.initial
  rw [List.prefix_append_right_inj] at more
  obtain ⟨part, long, rfl⟩ := List.prefix_filterMap_iff.mp more
  refine ⟨part, long, ?_⟩
  rw [sledOps_append, List.append_assoc]
  cases event with
  | sled op => cases visible
  | _ => rfl

end Crash

/-- A node lives on one directory after the other. Each life starts on what the crash of the last one left, runs
any actions and ends at any point of its trace. The law tells what raft does in a life on its directory. -/
inductive Lives (X : Externals) (peers : List Nat) (law : Db → List (List Effect) → List Effect → Prop) :
    Db → List (List Effect) → Prop
  | new : Lives X peers law Db.new []
  | live (db : Db) (past : List (List Effect)) (start : Driver X) (faults : List Bool) (actions : List Action)
      (booted done : List SledOp) (reached : List Effect) (lives : Lives X peers law db past)
      (fresh : Fresh start) (store : start.store = RaftNode.newStore X.mem peers (.newWithDisk db faults))
      (boots : booted <+: db.startOps peers) (idle : db.initialState.2.voters ≠ [] → booted = [])
      (disk : start.store.db? = some (db.replay booted)) (stops : reached <+: (Driver.performAll actions start).2.trace)
      (lawful : law (db.replay booted) past reached)
      (crash : Survives SledOp.Flushes done (booted ++ sledOps reached)) :
      Lives X peers law (db.replay done) (past ++ [reached])

/-- In each life every effect but a sled call finds the calls before it flushed. -/
theorem Lives.flushed {X : Externals} {peers : List Nat} {law : Db → List (List Effect) → List Effect → Prop} {db : Db}
    {past : List (List Effect)} (lives : Lives X peers law db past) {trace before after : List Effect} {effect : Effect}
    (inside : trace ∈ past) (split : trace = before ++ effect :: after) (visible : effect.sledOp = none) :
    Flushed SledOp.Flushes (sledOps before) := by
  induction lives with
  | new => cases inside
  | live db past start faults actions booted done reached lives fresh store boots idle disk stops lawful crash ih =>
      rcases List.mem_append.mp inside with old | new
      · exact ih old
      · rw [List.mem_singleton.mp new] at split
        have ahead : Obeys (WriteAhead db.hardState) reached :=
          (Driver.performAll_kept fresh disk db.hardState actions).shrink stops
        exact (ahead before effect after split).logged visible

/-- A scripted node starts on a directory and hands out one ready. -/
def scriptedLife (role : StateRole) (db : Db) (ready : Ready) : Driver scripted :=
  scriptedDriver (.begin role [ready] [] []) (RaftNode.newStore scripted.mem [1] (.newWithDisk db []))

def lifeTrace (role : StateRole) (actions : List Action) (db : Db) (ready : Ready) : List Effect :=
  (Driver.performAll actions (scriptedLife role db ready)).2.trace

end RaftATui
