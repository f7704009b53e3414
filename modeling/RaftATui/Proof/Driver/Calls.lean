import RaftATui.Proof.Driver.Journal

namespace RaftATui
open Machinery

deriving instance DecidableEq for Effect

namespace Driver

open Attempt (Within Keeps Triple)

variable {X : Externals}

/-- These are the storage calls of the driver. -/
inductive StoreCall where
  | applySnapshot (snapshot : Snapshot)
  | append (entries : List Entry)
  | setHardstate (hs : HardState)
  | setConfState (cs : ConfState)
  | setAppliedIndex (index : Nat)

def StoreCall.run {Mem : Type} (mem : MemStorageApi Mem) : StoreCall → Attempt (RaftStorage Mem) RaftError Unit
  | .applySnapshot snapshot => RaftStorage.applySnapshot mem snapshot
  | .append entries => RaftStorage.append mem entries
  | .setHardstate hs => RaftStorage.setHardstate mem hs
  | .setConfState cs => RaftStorage.setConfState mem cs
  | .setAppliedIndex index => RaftStorage.setAppliedIndex index

/-- An action may send these messages, store these parts of a ready, apply these entries and restore this data. -/
structure Scope where
  sends : Message → Prop
  stores : StoreCall → Prop
  applies : Entry → Prop
  restores : Bytes → Prop

def Scope.all : Scope := ⟨fun _ => True, fun _ => True, fun _ => True, fun _ => True⟩

/-- Applied entries store their progress in any scope. -/
def StoreCall.Inside (scope : Scope) : StoreCall → Prop
  | .setConfState _ | .setAppliedIndex _ => True
  | call => scope.stores call

/-- This scope covers a ready, but for its committed entries. -/
structure Scope.Covers (scope : Scope) (ready : Ready) : Prop where
  messages : ∀ msg ∈ ready.messages, scope.sends msg
  snapshot : ready.snapshot.isEmpty = false →
    scope.stores (.applySnapshot ready.snapshot) ∧ scope.restores ready.snapshot.data
  entries : scope.stores (.append ready.entries)
  hs : ∀ hs, ready.hs = some hs → scope.stores (.setHardstate hs)

/-- Each call that the stages of an action make in the scope keeps the property. A failed call ends the action with
the other property. -/
structure Calls (scope : Scope) (holds failed : Driver X → Prop) : Prop where
  notify : ∀ update, Triple holds (notify update : Attempt (Driver X) RaftLoopError Unit) (fun _ => holds) failed
  reply : ∀ channel result,
    Triple holds (reply channel result : Attempt (Driver X) RaftLoopError Unit) (fun _ => holds) failed
  store : ∀ call : StoreCall, call.Inside scope →
    Triple holds (withStore (call.run X.mem)) (fun _ => holds) failed
  raft : ∀ (driver : Driver X) (raft : X.Raft), holds driver → holds { driver with raft := raft }
  send : ∀ msg, scope.sends msg →
    Triple holds (sendMessage msg : Attempt (Driver X) RaftLoopError Unit) (fun _ => holds) failed
  take : ∀ context,
    Triple holds (takeCallback context : Attempt (Driver X) RaftLoopError (Option Channel)) (fun _ => holds) failed
  insert : ∀ id callback, Keeps holds (insertCallback id callback : Attempt (Driver X) RaftError Unit)
  draw : Keeps holds (newUuid : Attempt (Driver X) RaftError Bytes)
  propose : ∀ id data callback, Keeps holds (rawPropose id data callback : Attempt (Driver X) RaftError Unit)
  apply : ∀ entry, scope.applies entry → entry.entryType = .entryNormal → entry.data ≠ [] →
    Triple holds (applyKvCommand entry : Attempt (Driver X) RaftLoopError (Except String Unit)) (fun _ => holds) failed
  restore : ∀ data, scope.restores data →
    Triple holds (restoreSnapshot data : Attempt (Driver X) RaftLoopError Unit) (fun _ => holds) failed
  leader : ∀ (driver : Driver X) (leader : Option Nat),
    holds driver → holds { driver with previousLeaderId := leader }

namespace Calls

variable {scope : Scope} {holds failed : Driver X → Prop}

/-- Messages that the scope allows are sent one after the other. -/
theorem sendMessages (calls : Calls scope holds failed) {messages : List Message}
    (each : ∀ msg ∈ messages, scope.sends msg) :
    Triple holds (sendMessages messages : Attempt (Driver X) RaftLoopError Unit) (fun _ => holds) failed :=
  Triple.forEach messages fun msg inside => calls.send msg (each msg inside)

/-- A storage call of the scope keeps what each of its effects keeps. -/
theorem stored (calls : Calls scope holds failed) (call : StoreCall) (inside : call.Inside scope) :
    Triple holds (Attempt.relabel .storage (withStore (call.run X.mem)) : Attempt (Driver X) RaftLoopError Unit)
      (fun _ => holds) failed := (calls.store call inside).relabel _

/-- The stored index is one such call. -/
theorem setAppliedIndex (calls : Calls scope holds failed) (index : Nat) :
    Triple holds (setAppliedIndex index : Attempt (Driver X) RaftLoopError Unit) (fun _ => holds) failed :=
  calls.stored (.setAppliedIndex index) trivial

/-- An answer takes its callback and replies to it. -/
theorem answer (calls : Calls scope holds failed) (context : Bytes) (result : Except String Unit) :
    Triple holds (takeCallback context >>= fun callback => match callback with
      | some callback => Driver.reply callback result
      | none => pure () : Attempt (Driver X) RaftLoopError Unit) (fun _ => holds) failed := by
  refine (calls.take context).bind fun callback => ?_
  cases callback with
  | none => exact Triple.pure fun _ => id
  | some channel => exact calls.reply channel result

/-- The report of an applied entry only tells the TUI. -/
theorem reportApplied (calls : Calls scope holds failed) (entry : Entry) (result : Except String Unit) :
    Triple holds (reportApplied entry result : Attempt (Driver X) RaftLoopError Unit) (fun _ => holds) failed := by
  cases result with
  | error text => exact calls.answer entry.context _
  | ok _ =>
      unfold Driver.reportApplied notifyKvUpdate
      rcases X.kvCodec.decode entry.data with text | ⟨_ | put⟩
      · exact Triple.pure fun _ => id
      · exact Triple.pure fun _ => id
      · exact (calls.notify _).bind fun _ => (calls.notify _).bind fun _ => calls.answer entry.context _

/-- A configuration change asks raft and stores what raft returns. -/
theorem applyConfEntry (calls : Calls scope holds failed) (decode : Bytes → Except String X.Change) (entry : Entry) :
    Triple holds (applyConfEntry decode entry : Attempt (Driver X) RaftLoopError Unit) (fun _ => holds) failed := by
  unfold Driver.applyConfEntry
  cases decode entry.data with
  | error text => exact Triple.pure fun _ => id
  | ok change =>
      have asked : Keeps holds (withRaft (X.raw.applyConfChange change) : Attempt (Driver X) RaftError _) :=
        fun driver => calls.raft driver _
      refine asked.outcome.bind fun result => ?_
      cases result with
      | error error => exact Triple.pure fun _ => id
      | ok cs => exact (calls.stored (.setConfState cs) trivial).bind fun _ => calls.setAppliedIndex entry.index

/-- Only filled normal entries are applied. -/
theorem applyEntry (calls : Calls scope holds failed) {entry : Entry} (applies : scope.applies entry) :
    Triple holds (applyEntry entry : Attempt (Driver X) RaftLoopError Unit) (fun _ => holds) failed := by
  unfold Driver.applyEntry
  split
  · exact Triple.pure fun _ => id
  · case isFalse filled =>
      split
      · case h_1 normal =>
          refine (calls.apply entry applies normal (by simpa using filled)).bind fun result => ?_
          exact (calls.reportApplied entry result).bind fun _ => calls.setAppliedIndex entry.index
      · exact calls.applyConfEntry _ entry
      · exact calls.applyConfEntry _ entry

/-- The entries are applied one after the other. -/
theorem applyEntries (calls : Calls scope holds failed) {entries : List Entry}
    (applies : ∀ entry ∈ entries, scope.applies entry) :
    Triple holds (applyEntries entries : Attempt (Driver X) RaftLoopError Unit) (fun _ => holds) failed :=
  Triple.forEach entries fun entry inside => calls.applyEntry (applies entry inside)

/-- The update of the TUI is local. -/
theorem updateTuiState (calls : Calls scope holds failed) :
    Triple holds (updateTuiState : Attempt (Driver X) RaftLoopError Unit) (fun _ => holds) failed := by
  refine Triple.get.bind fun driver => ?_
  have announces : Triple holds (announceLeader driver.getState driver.previousLeaderId :
      Attempt (Driver X) RaftLoopError Unit) (fun _ => holds) failed := by
    cases driver.previousLeaderId with
    | none => exact Triple.pure fun _ => id
    | some previous =>
        simp only [announceLeader]
        split
        · exact calls.notify _
        · exact Triple.pure fun _ => id
  refine announces.bind fun _ => (Triple.modify fun later => calls.leader later _).bind fun _ => calls.notify _

section Ready

variable {ready : Ready}

/-- An empty snapshot is skipped, and another one is stored and restored. -/
theorem applySnapshotPart (calls : Calls scope holds failed) (covers : ready.snapshot.isEmpty = false →
      scope.stores (.applySnapshot ready.snapshot) ∧ scope.restores ready.snapshot.data) :
    Triple holds (applySnapshotPart ready : Attempt (Driver X) RaftLoopError Unit) (fun _ => holds) failed := by
  unfold Driver.applySnapshotPart
  split
  · exact Triple.pure fun _ => id
  · case isFalse present =>
      obtain ⟨stores, restores⟩ := covers (by simpa using present)
      refine (calls.stored (.applySnapshot ready.snapshot) stores).bind fun _ => ?_
      exact (calls.restore _ restores).bind fun _ => (calls.setAppliedIndex _).bind fun _ => calls.notify _

/-- The entries of a ready are one storage call. -/
theorem appendEntriesPart (calls : Calls scope holds failed) (covers : scope.stores (.append ready.entries)) :
    Triple holds (appendEntriesPart ready : Attempt (Driver X) RaftLoopError Unit) (fun _ => holds) failed := by
  unfold Driver.appendEntriesPart
  split
  · exact Triple.pure fun _ => id
  · exact calls.stored (.append ready.entries) covers

/-- The hard state of a ready is one storage call. -/
theorem persistHardstatePart (calls : Calls scope holds failed)
    (covers : ∀ hs, ready.hs = some hs → scope.stores (.setHardstate hs)) :
    Triple holds (persistHardstatePart ready : Attempt (Driver X) RaftLoopError Unit) (fun _ => holds) failed := by
  unfold Driver.persistHardstatePart
  cases carried : ready.hs with
  | some hs => exact calls.stored (.setHardstate hs) (covers hs carried)
  | none => exact Triple.pure fun _ => id

/-- The first half of a ready sends its free messages and persists its parts. -/
theorem persistTaken (calls : Calls scope holds failed) (covers : scope.Covers ready) :
    Triple holds (persistTaken ready : Attempt (Driver X) RaftLoopError Unit) (fun _ => holds) failed := by
  refine (calls.sendMessages covers.messages).bind fun _ => (calls.applySnapshotPart covers.snapshot).bind fun _ => ?_
  exact (calls.appendEntriesPart covers.entries).bind fun _ => calls.persistHardstatePart covers.hs

end Ready

/-- The parts of a ready are called in the order of the source. -/
theorem processReady (calls : Calls .all holds failed)
    (takes : Triple holds (takeReady : Attempt (Driver X) RaftLoopError Ready) (fun _ => holds) failed)
    (advances : ∀ ready, Triple holds (advance ready : Attempt (Driver X) RaftLoopError LightReady)
      (fun _ => holds) failed) :
    Triple holds (processReady : Attempt (Driver X) RaftLoopError Unit) (fun _ => holds) failed := by
  rw [processReady_parts]
  refine takes.bind fun ready => ?_
  have covers : Scope.all.Covers ready :=
    ⟨fun _ _ => trivial, fun _ => ⟨trivial, trivial⟩, trivial, fun _ _ => trivial⟩
  refine (calls.persistTaken covers).bind fun _ => (calls.sendMessages fun _ _ => trivial).bind fun _ => ?_
  refine (calls.applyEntries fun _ _ => trivial).bind fun _ => calls.updateTuiState.bind fun _ => ?_
  refine (advances _).bind fun light => ?_
  exact (calls.sendMessages fun _ _ => trivial).bind fun _ => calls.applyEntries fun _ _ => trivial

/-- A proposal changes the table and raft only. -/
theorem proposeCommand (calls : Calls scope holds failed) (key value : String) (callback : Option Channel) :
    Keeps holds (proposeCommand key value callback : Attempt (Driver X) RaftError Unit) := by
  refine Within.bind Within.get fun driver => ?_
  split
  · exact Within.bind calls.draw fun id => Within.bind (calls.insert id callback) fun _ => calls.propose id _ callback
  · exact Within.fail _

/-- Each command but a GET stays within the calls. -/
theorem handleCommand (calls : Calls scope holds failed) (cmd : ServerCommand)
    (gets : ∀ key resp, cmd = .rpc (.get key resp) →
      Triple holds (handleRpcCommand (.get key resp) : Attempt (Driver X) RaftLoopError Unit) (fun _ => holds) failed) :
    Triple holds (handleCommand cmd : Attempt (Driver X) RaftLoopError Unit) (fun _ => holds) failed := by
  have reports (output : NodeOutput) :
      Triple holds (reportOutput output : Attempt (Driver X) RaftLoopError Unit) (fun _ => holds) failed := by
    cases output with
    | text text => exact calls.notify _
    | none => exact Triple.pure fun _ => id
  rcases cmd with (⟨key, value⟩ | key | _ | _ | _) | ⟨key, value, resp⟩ | ⟨key, resp⟩
  · refine (calls.proposeCommand key value none).outcome.bind fun result => ?_
    unfold reportProposal
    split
    · exact calls.notify _
    · exact Triple.get.bind fun _ => calls.notify _
    · exact calls.notify _
  · exact Triple.bind (fun _ => id) reports
  · exact Triple.bind (fun _ => id) reports
  · exact Triple.get.bind fun _ => calls.notify _
  · have asked : Keeps holds (withRaft X.raw.campaign : Attempt (Driver X) RaftError Unit) :=
      fun driver => calls.raft driver _
    refine asked.outcome.bind fun result => ?_
    cases result with
    | error _ => exact Triple.pure fun _ => id
    | ok _ => exact calls.notify _
  · refine Triple.get.bind fun driver => ?_
    split
    · exact (calls.proposeCommand key value _).outcome.bind fun _ => Triple.pure fun _ => id
    · exact calls.reply resp _
  · exact gets key resp rfl

/-- A message is stepped by raft and its error is dropped. -/
theorem handleRaftMessage (calls : Calls scope holds failed) (msg : Message) :
    Triple holds (handleRaftMessage msg : Attempt (Driver X) RaftLoopError Unit) (fun _ => holds) failed := by
  have asked : Keeps holds (withRaft (X.raw.step msg) : Attempt (Driver X) RaftError Unit) :=
    fun driver => calls.raft driver _
  exact asked.outcome.bind fun _ => Triple.pure fun _ => id

/-- An action keeps the property when its ready does. -/
theorem perform (calls : Calls scope holds failed) (action : Action)
    (gets : ∀ key resp, action = .command (.rpc (.get key resp)) →
      Triple holds (handleRpcCommand (.get key resp) : Attempt (Driver X) RaftLoopError Unit) (fun _ => holds) failed)
    (ready : Triple holds (Driver.processReady : Attempt (Driver X) RaftLoopError Unit) (fun _ => holds) failed) :
    Triple holds (perform action : Attempt (Driver X) RaftLoopError Unit) (fun _ => holds) failed := by
  cases action with
  | command cmd => exact calls.handleCommand cmd fun key resp same => gets key resp (by rw [same])
  | message msg => exact calls.handleRaftMessage msg
  | tick => exact Triple.modify fun driver => calls.raft driver _
  | ready => exact ready

end Calls

/-- The trace grows by effects of the given kind. The transport stays. -/
structure Emits (kind : Effect → Prop) (before after : Driver X) : Prop where
  network : after.network = before.network
  trace : ∃ added, after.trace = before.trace ++ added ∧ ∀ effect ∈ added, kind effect

/-- These effects stay inside the node. Only filled normal entries of the scope are applied. -/
def Local (scope : Scope) : Effect → Prop
  | .notify _ | .reply _ _ | .proposed _ _ _ _ => True
  | .applied entry _ => scope.applies entry ∧ entry.entryType = .entryNormal ∧ entry.data ≠ []
  | _ => False

section Emits

variable {kind : Effect → Prop} {before after : Driver X}

/-- Effects of a kind are also of each wider kind. -/
theorem Emits.mono {other : Effect → Prop} (emits : Emits kind before after) (weaker : ∀ effect, kind effect → other effect) :
    Emits other before after := by
  obtain ⟨network, added, trace, kinds⟩ := emits
  exact ⟨network, added, trace, fun effect inside => weaker effect (kinds effect inside)⟩

/-- A step that leaves the network and the trace emits nothing. -/
theorem emits_none (network : after.network = before.network) (trace : after.trace = before.trace) :
    Emits kind before after := ⟨network, [], trace.trans (List.append_nil _).symm, by simp⟩

/-- A storage call emits its sled calls only. -/
theorem withStore_emits {Value : Type} (call : Attempt (RaftStorage X.Mem) RaftError Value) :
    Within (Emits (X := X) fun effect => ∃ op, effect = .sled op) (withStore call) := by
  refine fun driver => ⟨rfl, _, rfl, fun effect inside => ?_⟩
  obtain ⟨op, _, rfl⟩ := List.mem_map.mp inside
  exact ⟨op, rfl⟩

/-- A GET emits its answer only. -/
theorem get_emits (kinds : ∀ resp value, kind (.replyGet resp value)) (key : String) (resp : Channel) :
    Within (Emits kind) (handleRpcCommand (.get key resp) : Attempt (Driver X) RaftLoopError Unit) :=
  fun _ => ⟨rfl, [_], rfl, by simpa using kinds _ _⟩

/-- Only a payload that cannot be decoded makes the restore fail. -/
theorem restoreSnapshot_fails {data : Bytes} {driver : Driver X} {error : RaftLoopError}
    (failed : (restoreSnapshot data driver).1 = .error error) :
    ∃ reason, X.snapshotCodec.decode data = .error reason := by
  rcases decoded : X.snapshotCodec.decode data with reason | kv
  · exact ⟨reason, rfl⟩
  · rw [restoreSnapshot, Node.restoreFromSnapshot, decoded] at failed
    cases failed

/-- The calls keep a property that local effects keep when the messages and the storage calls do. A snapshot that does
not restore ends the action. -/
theorem callsOf {scope : Scope} {holds failed : Driver X → Prop}
    (restores : ∀ data error, scope.restores data → X.snapshotCodec.decode data = .error error →
      ∀ driver, holds driver → failed driver)
    (locally : ∀ before after, Emits (Local scope) before after → after.store = before.store → holds before → holds after)
    (send : ∀ msg, scope.sends msg → Keeps holds (sendMessage msg : Attempt (Driver X) RaftLoopError Unit))
    (store : ∀ call : StoreCall, call.Inside scope →
      Triple holds (withStore (call.run X.mem)) (fun _ => holds) failed) :
    Calls scope holds failed where
  notify update := by
    have keeps : Keeps holds (notify update : Attempt (Driver X) RaftLoopError Unit) := by
      intro driver
      rw [notify, Attempt.get_bind]
      split
      · exact locally _ _ ⟨rfl, [_], rfl, by simp [Local]⟩ rfl
      · exact id
    refine keeps.sure fun driver => ⟨(), ?_⟩
    rw [notify, Attempt.get_bind]
    split <;> rfl
  reply channel result driver := locally _ _ ⟨rfl, [_], rfl, by simp [Local]⟩ rfl
  store := store
  raft driver raft := locally _ _ (emits_none rfl rfl) rfl
  send msg inside driver := send msg inside driver
  take context driver := locally _ _ (emits_none rfl rfl) rfl
  insert id callback driver := by cases callback <;> exact locally _ _ (emits_none rfl rfl) rfl
  draw driver := locally _ _ (emits_none rfl rfl) rfl
  propose id data callback driver := locally _ _ ⟨rfl, [_], rfl, by simp [Local]⟩ rfl
  apply entry applies normal filled driver :=
    locally _ _ ⟨rfl, [_], rfl, by simpa [Local] using ⟨applies, normal, filled⟩⟩ rfl
  restore data inside driver holding := by
    have same : holds (restoreSnapshot data driver).2 := locally driver _ (emits_none rfl rfl) rfl holding
    rcases run : restoreSnapshot data driver with ⟨error | _, final⟩
    · rw [run] at same
      obtain ⟨reason, decoded⟩ := restoreSnapshot_fails (congrArg Prod.fst run)
      exact restores data reason inside decoded final same
    · rw [run] at same
      exact same
  leader driver leader := locally _ _ (emits_none rfl rfl) rfl

end Emits

/-- The trace grows by effects of the given kind. -/
def Adds (kind : Effect → Prop) (before after : Driver X) : Prop :=
  ∃ added, after.trace = before.trace ++ added ∧ ∀ effect ∈ added, kind effect

instance addsPreorder (kind : Effect → Prop) : IsPreorder (Driver X) (Adds kind) where
  refl _ := ⟨[], (List.append_nil _).symm, by simp⟩
  trans first second third := by
    intro ⟨added, trace, kinds⟩ ⟨added', trace', kinds'⟩
    refine ⟨added ++ added', ?_, ?_⟩
    · rw [trace', trace, List.append_assoc]
    · intro effect inside
      exact (List.mem_append.mp inside).elim (kinds effect) (kinds' effect)

/-- An action adds effects of any kind but the answer to a GET, which only a GET adds. -/
theorem perform_adds {kind : Effect → Prop} (locally : ∀ effect, Local .all effect → kind effect)
    (sends : ∀ «to» msg, kind (.send «to» msg)) (stores : ∀ op, kind (.sled op)) (readies : ∀ rd, kind (.ready rd))
    (lights : ∀ rd, kind (.light rd)) (action : Action)
    (gets : ∀ key resp, action = .command (.rpc (.get key resp)) → ∀ value, kind (.replyGet resp value)) :
    Within (Adds kind) (perform action : Attempt (Driver X) RaftLoopError Unit) := by
  intro start
  have grow {before after : Driver X} (adds : Adds kind start before) (more : Adds kind before after) :
      Adds kind start after := trans_of (Adds kind) adds more
  have calls : Calls .all (Adds kind start) (Adds kind start) := by
    refine callsOf (fun _ _ _ _ _ => id) (fun before after emits _ adds => grow adds (emits.mono locally).trace) ?_ fun call _ => ?_
    · exact fun msg _ driver adds => grow adds ⟨[.send msg.to msg], rfl, by simpa using sends _ _⟩
    · refine Keeps.triple (fun driver adds => grow adds ((withStore_emits _ driver).mono ?_).trace) fun _ => id
      rintro effect ⟨op, rfl⟩
      exact stores op
  have ready := calls.processReady (fun driver adds => grow adds ⟨[_], rfl, by simpa using readies _⟩)
    fun rd driver adds => grow adds ⟨[_], rfl, by simpa using lights _⟩
  have whole := calls.perform action (fun key resp same driver adds =>
    grow adds ⟨[_], rfl, by simpa using gets key resp same _⟩) ready
  exact whole.final (refl_of (Adds kind) start)

end Driver

end RaftATui
