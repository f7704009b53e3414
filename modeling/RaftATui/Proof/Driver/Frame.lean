import Mathlib.Data.List.Induction
import RaftATui.Construction.Driver.Scripted

namespace RaftATui
open Machinery

/-- These effects answer no PUT, hand out no entry and touch no storage. -/
def Effect.idle : Effect → Prop
  | .notify _ | .send _ _ | .replyGet _ _ => True
  | _ => False

/-- These effects carry what raft hands to the driver. -/
def Effect.isOutput : Effect → Bool
  | .ready _ | .light _ => true
  | _ => false

def outputs (trace : List Effect) : List Effect := trace.filter Effect.isOutput

def Effect.sledOp : Effect → Option SledOp
  | .sled op => some op
  | _ => none

/-- These are the completed sled calls. -/
def sledOps (trace : List Effect) : List SledOp := trace.filterMap Effect.sledOp

@[simp] theorem outputs_append (first second : List Effect) :
    outputs (first ++ second) = outputs first ++ outputs second := List.filter_append _ _

/-- Silent effects add no output. -/
theorem outputs_added {before after added : List Effect} (trace : after = before ++ added)
    (silent : ∀ effect ∈ added, effect.isOutput = false) : outputs after = outputs before := by
  have none : outputs added = [] := List.filter_eq_nil_iff.mpr (by simpa using silent)
  rw [trace, outputs_append, none, List.append_nil]

/-- What is read from raft's outputs only may be read from the outputs of a trace. -/
theorem flatMap_outputs {Value : Type} {read : Effect → List Value}
    (only : ∀ effect, effect.isOutput = false → read effect = []) (trace : List Effect) :
    trace.flatMap read = (outputs trace).flatMap read := by
  induction trace with
  | nil => rfl
  | cons effect rest ih =>
      rw [List.flatMap_cons, outputs, List.filter_cons, ih]
      cases kind : effect.isOutput with
      | true => rfl
      | false => rw [only effect kind]; rfl

@[simp] theorem sledOps_append (first second : List Effect) :
    sledOps (first ++ second) = sledOps first ++ sledOps second := List.filterMap_append

/-- Effects without sled calls add no sled call. -/
theorem sledOps_added {before after added : List Effect} (trace : after = before ++ added)
    (silent : ∀ effect ∈ added, effect.sledOp = none) : sledOps after = sledOps before := by
  have none : sledOps added = [] := List.filterMap_eq_nil_iff.mpr silent
  rw [trace, sledOps_append, none, List.append_nil]

/-- The sled calls are read back from their effects. -/
theorem sledOps_sled (ops : List SledOp) : sledOps (ops.map .sled) = ops := by
  rw [sledOps, List.filterMap_map]
  exact List.filterMap_some

/-- A quiet move keeps what the driver owns, up to the raft crate and the transport. -/
structure Quiet {X : Externals} (before after : Driver X) : Prop where
  store : after.store = before.store
  callbacks : after.callbacks = before.callbacks
  kvNode : after.kvNode = before.kvNode
  uuids : after.uuids = before.uuids
  drawn : after.drawn = before.drawn
  trace : ∃ added, after.trace = before.trace ++ added ∧ ∀ effect ∈ added, effect.idle

/-- A storage move changes the storage only. The trace gains its completed sled calls. -/
structure Stores {X : Externals} (before after : Driver X) : Prop where
  raft : after.raft = before.raft
  callbacks : after.callbacks = before.callbacks
  kvNode : after.kvNode = before.kvNode
  uuids : after.uuids = before.uuids
  drawn : after.drawn = before.drawn
  trace : ∃ ops : List SledOp, after.trace = before.trace ++ ops.map .sled

/-- A report notifies and answers. It keeps raft, the storage and the state machine. -/
structure Reports {X : Externals} (before after : Driver X) : Prop where
  raft : after.raft = before.raft
  store : after.store = before.store
  kvNode : after.kvNode = before.kvNode
  trace : ∃ added, after.trace = before.trace ++ added ∧ ∀ effect ∈ added,
    (∃ update, effect = .notify update) ∨ ∃ channel result, effect = .reply channel result

/-- A handled command proposes, answers and reports. It keeps the storage and the state machine. -/
structure Handles {X : Externals} (before after : Driver X) : Prop where
  store : after.store = before.store
  kvNode : after.kvNode = before.kvNode
  outputs : outputs after.trace = outputs before.trace
  sledOps : sledOps after.trace = sledOps before.trace

/-- A driver starts with a new state machine and without callbacks. -/
structure Fresh {X : Externals} (driver : Driver X) : Prop where
  kvNode : driver.kvNode = Node.new
  callbacks : driver.callbacks = ∅
  drawn : driver.drawn = 0
  trace : driver.trace = []

/-- A scripted driver starts fresh. -/
theorem scriptedDriver_fresh (raft : ScriptedRaft) (store : RaftStorage MemStorage) :
    Fresh (scriptedDriver raft store) := ⟨rfl, rfl, rfl, rfl⟩

variable {X : Externals}

instance quietPreorder : IsPreorder (Driver X) Quiet where
  refl _ := ⟨rfl, rfl, rfl, rfl, rfl, [], (List.append_nil _).symm, by simp⟩
  trans first second third := by
    intro ⟨store, callbacks, kvNode, uuids, drawn, added, trace, idle⟩
      ⟨store', callbacks', kvNode', uuids', drawn', added', trace', idle'⟩
    refine ⟨store'.trans store, callbacks'.trans callbacks, kvNode'.trans kvNode,
      uuids'.trans uuids, drawn'.trans drawn, added ++ added', ?_, ?_⟩
    · rw [trace', trace, List.append_assoc]
    · intro effect inside
      exact (List.mem_append.mp inside).elim (idle effect) (idle' effect)

instance storesPreorder : IsPreorder (Driver X) Stores where
  refl _ := ⟨rfl, rfl, rfl, rfl, rfl, [], (List.append_nil _).symm⟩
  trans first second third := by
    intro ⟨raft, callbacks, kvNode, uuids, drawn, ops, trace⟩
      ⟨raft', callbacks', kvNode', uuids', drawn', ops', trace'⟩
    refine ⟨raft'.trans raft, callbacks'.trans callbacks, kvNode'.trans kvNode,
      uuids'.trans uuids, drawn'.trans drawn, ops ++ ops', ?_⟩
    rw [trace', trace, List.map_append, List.append_assoc]

instance reportsPreorder : IsPreorder (Driver X) Reports where
  refl _ := ⟨rfl, rfl, rfl, [], (List.append_nil _).symm, by simp⟩
  trans first second third := by
    intro ⟨raft, store, kvNode, added, trace, kinds⟩ ⟨raft', store', kvNode', added', trace', kinds'⟩
    refine ⟨raft'.trans raft, store'.trans store, kvNode'.trans kvNode, added ++ added', ?_, ?_⟩
    · rw [trace', trace, List.append_assoc]
    · intro effect inside
      exact (List.mem_append.mp inside).elim (kinds effect) (kinds' effect)

instance handlesPreorder : IsPreorder (Driver X) Handles where
  refl _ := ⟨rfl, rfl, rfl, rfl⟩
  trans _ _ _ first second := ⟨second.store.trans first.store, second.kvNode.trans first.kvNode,
    second.outputs.trans first.outputs, second.sledOps.trans first.sledOps⟩

/-- A quiet step has no output. -/
theorem Quiet.outputs {before after : Driver X} (quiet : Quiet before after) :
    outputs after.trace = outputs before.trace := by
  obtain ⟨added, trace, idle⟩ := quiet.trace
  apply outputs_added trace
  intro effect inside
  cases effect <;> first | rfl | exact (idle _ inside).elim

/-- A quiet step calls sled for nothing. -/
theorem Quiet.sledOps {before after : Driver X} (quiet : Quiet before after) :
    sledOps after.trace = sledOps before.trace := by
  obtain ⟨added, trace, idle⟩ := quiet.trace
  apply sledOps_added trace
  intro effect inside
  cases effect <;> first | rfl | exact (idle _ inside).elim

/-- A quiet step keeps the storage and the state machine. -/
theorem Quiet.handles {before after : Driver X} (quiet : Quiet before after) : Handles before after :=
  ⟨quiet.store, quiet.kvNode, quiet.outputs, quiet.sledOps⟩

/-- A storage call has no output. -/
theorem Stores.outputs {before after : Driver X} (stores : Stores before after) :
    outputs after.trace = outputs before.trace := by
  obtain ⟨ops, trace⟩ := stores.trace
  apply outputs_added trace
  intro effect inside
  obtain ⟨op, _, rfl⟩ := List.mem_map.mp inside
  rfl

/-- A report has no output. -/
theorem Reports.outputs {before after : Driver X} (reports : Reports before after) :
    outputs after.trace = outputs before.trace := by
  obtain ⟨added, trace, kinds⟩ := reports.trace
  apply outputs_added trace
  intro effect inside
  rcases kinds effect inside with ⟨update, rfl⟩ | ⟨channel, result, rfl⟩ <;> rfl

/-- A report calls sled for nothing. -/
theorem Reports.sledOps {before after : Driver X} (reports : Reports before after) :
    sledOps after.trace = sledOps before.trace := by
  obtain ⟨added, trace, kinds⟩ := reports.trace
  apply sledOps_added trace
  intro effect inside
  rcases kinds effect inside with ⟨update, rfl⟩ | ⟨channel, result, rfl⟩ <;> rfl

namespace Driver

open Attempt (Within)

section Handlers

variable {relation : Driver X → Driver X → Prop} [IsPreorder (Driver X) relation]

/-! A handler moves the driver along a preorder when the calls that it makes do. -/

/-- A configuration change stays within what its two calls stay within. -/
theorem applyConfEntry_within {decode : Bytes → Except String X.Change} {entry : Entry}
    (asks : ∀ change, Within relation (withRaft (X.raw.applyConfChange change)))
    (persists : ∀ cs,
      Within relation (persistConfState entry cs : Attempt (Driver X) RaftLoopError Unit)) :
    Within relation (applyConfEntry decode entry : Attempt (Driver X) RaftLoopError Unit) := by
  unfold applyConfEntry
  split
  · exact Within.pure ()
  · refine Within.bind (Within.outcome (asks _)) fun result => ?_
    cases result with
    | error _ => exact Within.pure ()
    | ok cs => exact persists cs

/-- An entry is a normal one or a change. -/
theorem applyEntry_within {entry : Entry}
    (normal : Within relation (applyNormalEntry entry : Attempt (Driver X) RaftLoopError Unit))
    (changes : ∀ decode,
      Within relation (applyConfEntry decode entry : Attempt (Driver X) RaftLoopError Unit)) :
    Within relation (applyEntry entry : Attempt (Driver X) RaftLoopError Unit) := by
  unfold applyEntry
  split
  · exact Within.pure ()
  · split
    · exact normal
    · exact changes _
    · exact changes _

/-- An installed snapshot stays within what its four calls stay within. -/
theorem applySnapshotPart_within {ready : Ready}
    (stores : Within relation (Attempt.relabel .storage
      (withStore (RaftStorage.applySnapshot X.mem ready.snapshot)) : Attempt (Driver X) RaftLoopError Unit))
    (restores : Within relation
      (restoreSnapshot ready.snapshot.data : Attempt (Driver X) RaftLoopError Unit))
    (counts : ∀ index, Within relation (setAppliedIndex index : Attempt (Driver X) RaftLoopError Unit))
    (tells : ∀ text,
      Within relation (notify (.systemMessage text) : Attempt (Driver X) RaftLoopError Unit)) :
    Within relation (applySnapshotPart ready : Attempt (Driver X) RaftLoopError Unit) := by
  unfold applySnapshotPart
  split
  · exact Within.pure ()
  · apply Within.bind stores
    intro _
    apply Within.bind restores
    intro _
    exact Within.bind (counts _) fun _ => tells _

/-- The entries of a ready stay within what their call stays within. -/
theorem appendEntriesPart_within {ready : Ready}
    (stores : Within relation
      (appendEntries ready.entries : Attempt (Driver X) RaftLoopError Unit)) :
    Within relation (appendEntriesPart ready : Attempt (Driver X) RaftLoopError Unit) := by
  unfold appendEntriesPart
  split
  · exact Within.pure ()
  · exact stores

/-- The hard state of a ready stays within what its call stays within. -/
theorem persistHardstatePart_within {ready : Ready}
    (stores : ∀ hs, Within relation (persistHardstate hs : Attempt (Driver X) RaftLoopError Unit)) :
    Within relation (persistHardstatePart ready : Attempt (Driver X) RaftLoopError Unit) := by
  unfold persistHardstatePart
  split
  · exact stores _
  · exact Within.pure ()

end Handlers

section Quiet

/-- An idle effect is quiet. -/
theorem emit_quiet {Error : Type} {effect : Effect} (idle : effect.idle) :
    Within Quiet (emit effect : Attempt (Driver X) Error Unit) := by
  intro driver
  exact ⟨rfl, rfl, rfl, rfl, rfl, [effect], rfl, by simpa using idle⟩

/-- An update for the TUI is quiet. -/
theorem notify_quiet {Error : Type} (update : StateUpdate) :
    Within Quiet (notify update : Attempt (Driver X) Error Unit) := by
  refine Within.bind Within.get fun driver => ?_
  split
  · exact emit_quiet trivial
  · exact Within.pure ()

/-- A call of raft is quiet. -/
theorem withRaft_quiet {Value : Type} (call : RaftStorage X.Mem → Attempt X.Raft RaftError Value) :
    Within Quiet (withRaft call) :=
  fun _ => ⟨rfl, rfl, rfl, rfl, rfl, [], (List.append_nil _).symm, by simp⟩

/-- A message is quiet. -/
theorem sendMessage_quiet (msg : Message) :
    Within Quiet (sendMessage msg : Attempt (Driver X) RaftLoopError Unit) :=
  fun _ => ⟨rfl, rfl, rfl, rfl, rfl, [.send msg.to msg], rfl, by simp [Effect.idle]⟩

/-- A batch of messages is quiet. -/
theorem sendMessages_quiet (messages : List Message) :
    Within Quiet (sendMessages messages : Attempt (Driver X) RaftLoopError Unit) :=
  Within.forEach messages fun msg _ => sendMessage_quiet msg

/-- The announcement of a leader is quiet. -/
theorem announceLeader_quiet (raftState : RaftState) (previous : Option Nat) :
    Within Quiet (announceLeader raftState previous : Attempt (Driver X) RaftLoopError Unit) := by
  cases previous with
  | none => exact Within.pure ()
  | some previous =>
      simp only [announceLeader]
      split
      · exact notify_quiet _
      · exact Within.pure ()

/-- The update of the TUI is quiet. -/
theorem updateTuiState_quiet : Within Quiet (updateTuiState : Attempt (Driver X) RaftLoopError Unit) := by
  refine Within.bind Within.get fun driver => Within.bind (announceLeader_quiet _ _) fun _ => ?_
  refine Within.bind ?_ ?_
  · exact Within.modify fun _ => ⟨rfl, rfl, rfl, rfl, rfl, [], (List.append_nil _).symm, by simp⟩
  · exact fun _ => notify_quiet _

/-- A tick is quiet. -/
theorem tick_quiet : Within Quiet (tick : Attempt (Driver X) RaftLoopError Unit) :=
  Within.modify fun _ => ⟨rfl, rfl, rfl, rfl, rfl, [], (List.append_nil _).symm, by simp⟩

/-- A stepped message is quiet. -/
theorem handleRaftMessage_quiet (msg : Message) :
    Within Quiet (handleRaftMessage msg : Attempt (Driver X) RaftLoopError Unit) :=
  Within.bind (Within.outcome (withRaft_quiet _)) fun _ => Within.pure ()

/-- The report of a proposal is quiet. -/
theorem reportProposal_quiet (key value : String) (result : Except RaftError Unit) :
    Within Quiet (reportProposal key value result : Attempt (Driver X) RaftLoopError Unit) := by
  unfold reportProposal
  split
  · exact notify_quiet _
  · exact Within.bind Within.get fun _ => notify_quiet _
  · exact notify_quiet _

/-- A user command other than a put reads the state machine or asks raft for an election. -/
theorem handleUserCommand_quiet {cmd : UserCommand} (other : ∀ key value, cmd ≠ .put key value) :
    Within Quiet (handleUserCommand cmd : Attempt (Driver X) RaftLoopError Unit) := by
  have report (output : NodeOutput) :
      Within Quiet (reportOutput output : Attempt (Driver X) RaftLoopError Unit) := by
    cases output with
    | text text => exact notify_quiet _
    | none => exact Within.pure ()
  have reading (read : UserCommand) (same : ∀ node, (Node.applyUserCommand X.quote read node).2 = node) :
      Within Quiet (applyLocally read : Attempt (Driver X) RaftLoopError NodeOutput) := fun driver =>
    ⟨rfl, rfl, same driver.kvNode, rfl, rfl, [], (List.append_nil _).symm, by simp⟩
  cases cmd with
  | put key value => exact absurd rfl (other key value)
  | campaign =>
      refine Within.bind (Within.outcome (withRaft_quiet _)) fun result => ?_
      cases result with
      | ok _ => exact notify_quiet _
      | error _ => exact Within.pure ()
  | status => exact Within.bind Within.get fun _ => notify_quiet _
  | get key => exact Within.bind (reading (.get key) fun _ => rfl) report
  | keys => exact Within.bind (reading .keys fun _ => rfl) report

end Quiet

section Stores

/-- A storage call changes the store and the trace only. -/
theorem withStore_stores {Value : Type} (call : Attempt (RaftStorage X.Mem) RaftError Value) :
    Within Stores (withStore call) :=
  fun _ => ⟨rfl, rfl, rfl, rfl, rfl, _, rfl⟩

/-- The stored index changes the store and the trace only. -/
theorem setAppliedIndex_stores (index : Nat) :
    Within Stores (setAppliedIndex index : Attempt (Driver X) RaftLoopError Unit) :=
  Within.relabel _ (withStore_stores _)

/-- The entries of a ready change the store and the trace only. -/
theorem appendEntriesPart_stores (ready : Ready) :
    Within Stores (appendEntriesPart ready : Attempt (Driver X) RaftLoopError Unit) :=
  appendEntriesPart_within (Within.relabel _ (withStore_stores _))

/-- The hard state of a ready changes the store and the trace only. -/
theorem persistHardstatePart_stores (ready : Ready) :
    Within Stores (persistHardstatePart ready : Attempt (Driver X) RaftLoopError Unit) :=
  persistHardstatePart_within fun _ => Within.relabel _ (withStore_stores _)

/-- A stored configuration changes the store and the trace only. -/
theorem persistConfState_stores (entry : Entry) (cs : ConfState) :
    Within Stores (persistConfState entry cs : Attempt (Driver X) RaftLoopError Unit) :=
  Within.bind (Within.relabel _ (withStore_stores _)) fun _ => setAppliedIndex_stores _

end Stores

section Reports

/-- An update for the TUI is a report. -/
theorem notify_reports {Error : Type} (update : StateUpdate) :
    Within Reports (notify update : Attempt (Driver X) Error Unit) := by
  refine Within.bind Within.get fun driver => ?_
  split
  · exact fun _ => ⟨rfl, rfl, rfl, [.notify update], rfl, by simp⟩
  · exact Within.pure ()

/-- An answer to the holder of a callback is a report. -/
theorem answer_reports (context : Bytes) (result : Except String Unit) :
    Within Reports (takeCallback context >>= fun callback => match callback with
      | some channel => reply channel result
      | none => pure () : Attempt (Driver X) RaftLoopError Unit) := by
  apply Within.bind
  · exact fun _ => ⟨rfl, rfl, rfl, [], (List.append_nil _).symm, by simp⟩
  · intro callback
    cases callback with
    | some channel => exact fun _ => ⟨rfl, rfl, rfl, [.reply channel result], rfl, by simp⟩
    | none => exact Within.pure ()

/-- The report of an applied entry is a report. -/
theorem reportApplied_reports (entry : Entry) (result : Except String Unit) :
    Within Reports (reportApplied entry result : Attempt (Driver X) RaftLoopError Unit) := by
  cases result with
  | error text => exact answer_reports entry.context _
  | ok _ =>
      simp only [reportApplied, notifyKvUpdate]
      split
      · apply Within.bind (notify_reports _)
        intro _
        exact Within.bind (notify_reports _) fun _ => answer_reports entry.context _
      · exact Within.pure ()
      · exact Within.pure ()

end Reports

section Handles

/-- A proposal touches neither the storage nor the state machine, whoever makes it. -/
theorem proposeCommand_handles (key value : String) (callback : Option Channel) :
    Within Handles (proposeCommand key value callback : Attempt (Driver X) RaftError Unit) := by
  refine Within.bind Within.get fun driver => ?_
  split
  · apply Within.bind
    · exact fun _ => ⟨rfl, rfl, rfl, rfl⟩
    · intro callbackId
      apply Within.bind
      · exact Within.modify fun _ => by cases callback <;> exact ⟨rfl, rfl, rfl, rfl⟩
      · exact fun _ _ => ⟨rfl, rfl, outputs_added rfl (by simp [Effect.isOutput]),
          sledOps_added rfl (by simp [Effect.sledOp])⟩
  · exact Within.fail _

/-- A command never changes the map. -/
theorem handleCommand_handles (cmd : ServerCommand) :
    Within Handles (handleCommand cmd : Attempt (Driver X) RaftLoopError Unit) := by
  have quiet {first : Attempt (Driver X) RaftLoopError Unit} (moves : Within Quiet first) :
      Within Handles first := fun driver => (moves driver).handles
  rcases cmd with user | ⟨key, value, resp⟩ | ⟨key, resp⟩
  · by_cases put : ∃ key value, user = .put key value
    · obtain ⟨key, value, rfl⟩ := put
      apply Within.bind (Within.outcome (proposeCommand_handles key value none))
      exact fun result => quiet (reportProposal_quiet key value result)
    · exact quiet (handleUserCommand_quiet fun key value same => put ⟨key, value, same⟩)
  · refine Within.bind Within.get fun driver => ?_
    split
    · exact Within.bind (Within.outcome (proposeCommand_handles key value _)) fun _ => Within.pure ()
    · exact fun _ => ⟨rfl, rfl, outputs_added rfl (by simp [Effect.isOutput]),
        sledOps_added rfl (by simp [Effect.sledOp])⟩
  · exact Within.bind Within.get fun driver => quiet (emit_quiet trivial)

/-- Only a ready reaches the storage and the state machine. -/
theorem perform_handles {action : Action} (other : action ≠ .ready) :
    Within Handles (perform action : Attempt (Driver X) RaftLoopError Unit) := by
  cases action with
  | command cmd => exact handleCommand_handles cmd
  | message msg => exact fun driver => (handleRaftMessage_quiet msg driver).handles
  | tick => exact fun driver => (tick_quiet driver).handles
  | ready => exact absurd rfl other

end Handles

section Actions

variable {relation : Driver X → Driver X → Prop} [IsPreorder (Driver X) relation]

/-- A run moves along a preorder when a ready does and every other action does. -/
theorem performAll_within (ready : Within relation (processReady : Attempt (Driver X) RaftLoopError Unit))
    (others : ∀ action, action ≠ .ready → Within relation (perform action : Attempt (Driver X) RaftLoopError Unit))
    (actions : List Action) : Within relation (performAll actions : Attempt (Driver X) RaftLoopError Unit) := by
  apply Within.forEach
  intro action _
  by_cases same : action = .ready
  · subst same
    exact ready
  · exact others action same

/-- A relation that holds of each ready and of each other action holds of every run. -/
theorem performAll_reaches
    (ready : Attempt.Reaches relation (processReady : Attempt (Driver X) RaftLoopError Unit))
    (others : ∀ action, action ≠ .ready → Within relation (perform action : Attempt (Driver X) RaftLoopError Unit))
    (actions : List Action) :
    Attempt.Reaches relation (performAll actions : Attempt (Driver X) RaftLoopError Unit) := by
  apply Attempt.Reaches.forEach
  intro action _
  by_cases same : action = .ready
  · subst same
    exact ready
  · exact Within.reaches (others action same)

end Actions

/-- These are the stages of one successful `process_ready`. -/
structure ReadyRun (before after : Driver X) where
  ready : Ready
  light : LightReady
  taken : Driver X
  sent : Driver X
  installed : Driver X
  appended : Driver X
  persisted : Driver X
  promised : Driver X
  applied : Driver X
  shown : Driver X
  advanced : Driver X
  answered : Driver X
  takeReady : takeReady before = (.ok ready, taken)
  sendFirst : sendMessages ready.messages taken = (.ok (), sent)
  install : applySnapshotPart ready sent = (.ok (), installed)
  append : appendEntriesPart ready installed = (.ok (), appended)
  persist : persistHardstatePart ready appended = (.ok (), persisted)
  sendPersisted : sendMessages ready.persistedMessages persisted = (.ok (), promised)
  applyFirst : applyEntries ready.committedEntries promised = (.ok (), applied)
  present : updateTuiState applied = (.ok (), shown)
  advance : advance (Ready.taken ready) shown = (.ok light, advanced)
  sendLight : sendMessages light.messages advanced = (.ok (), answered)
  applyLight : applyEntries light.committedEntries answered = (.ok (), after)

/-- A successful `process_ready` passes all of its stages. -/
theorem processReady_ok {before after : Driver X} (done : processReady before = (.ok (), after)) :
    Nonempty (ReadyRun before after) := by
  obtain ⟨ready, taken, takeReady, done⟩ := Attempt.bind_eq_ok.mp done
  obtain ⟨_, sent, sendFirst, done⟩ := Attempt.bind_eq_ok.mp done
  obtain ⟨_, installed, install, done⟩ := Attempt.bind_eq_ok.mp done
  obtain ⟨_, appended, append, done⟩ := Attempt.bind_eq_ok.mp done
  obtain ⟨_, persisted, persist, done⟩ := Attempt.bind_eq_ok.mp done
  obtain ⟨_, promised, sendPersisted, done⟩ := Attempt.bind_eq_ok.mp done
  obtain ⟨_, applied, applyFirst, done⟩ := Attempt.bind_eq_ok.mp done
  obtain ⟨_, shown, present, done⟩ := Attempt.bind_eq_ok.mp done
  obtain ⟨light, advanced, advance, done⟩ := Attempt.bind_eq_ok.mp done
  obtain ⟨_, answered, sendLight, applyLight⟩ := Attempt.bind_eq_ok.mp done
  exact ⟨⟨ready, light, taken, sent, installed, appended, persisted, promised, applied, shown, advanced,
    answered, takeReady, sendFirst, install, append, persist, sendPersisted, applyFirst, present,
    advance, sendLight, applyLight⟩⟩

namespace ReadyRun

variable {before after : Driver X}

/-- The ready of a run is the one that raft returns. -/
theorem ready_eq (run : ReadyRun before after) : run.ready = (X.raw.ready before.store before.raft).1 := by
  have take := run.takeReady
  simp only [Driver.takeReady, Prod.mk.injEq, Except.ok.injEq] at take
  exact take.1.symm

/-- Taking a ready changes raft and the trace only. -/
theorem taken_eq (run : ReadyRun before after) : run.taken =
    { before with
      raft := (X.raw.ready before.store before.raft).2
      trace := before.trace ++ [.ready run.ready] } := by
  have take := run.takeReady
  simp only [Driver.takeReady, Prod.mk.injEq, Except.ok.injEq] at take
  rw [← take.2, ← take.1]

/-- The light ready of a run is the one that raft returns. -/
theorem light_eq (run : ReadyRun before after) :
    run.light = (X.raw.advance (Ready.taken run.ready) run.shown.store run.shown.raft).1 := by
  have step := run.advance
  simp only [Driver.advance, Prod.mk.injEq, Except.ok.injEq] at step
  exact step.1.symm

/-- Handing a ready back changes raft and the trace only. -/
theorem advanced_eq (run : ReadyRun before after) : run.advanced =
    { run.shown with
      raft := (X.raw.advance (Ready.taken run.ready) run.shown.store run.shown.raft).2
      trace := run.shown.trace ++ [.light run.light] } := by
  have step := run.advance
  simp only [Driver.advance, Prod.mk.injEq, Except.ok.injEq] at step
  rw [← step.2, ← step.1]

/-- An observation that messages keep passes the stages of a ready before and after the display. -/
theorem observe {View : Type} {view : Driver X → View} {install append persist first last : View → View}
    (run : ReadyRun before after)
    (sends : ∀ messages, Attempt.Fixes view (sendMessages messages : Attempt (Driver X) RaftLoopError Unit))
    (installs : Attempt.Maps view install (applySnapshotPart run.ready))
    (appends : Attempt.Maps view append (appendEntriesPart run.ready))
    (persists : Attempt.Maps view persist (persistHardstatePart run.ready))
    (applies : Attempt.Maps view first (applyEntries run.ready.committedEntries))
    (answers : Attempt.Maps view last (applyEntries run.light.committedEntries)) :
    view run.applied = first (persist (append (install (view run.taken)))) ∧
      view after = last (view run.advanced) := by
  have sent := (sends run.ready.messages).maps _ _ _ run.sendFirst
  have installed := installs _ _ _ run.install
  have appended := appends _ _ _ run.append
  have persisted := persists _ _ _ run.persist
  have promised := (sends run.ready.persistedMessages).maps _ _ _ run.sendPersisted
  have applied := applies _ _ _ run.applyFirst
  have answered := (sends run.light.messages).maps _ _ _ run.sendLight
  have finished := answers _ _ _ run.applyLight
  simp only [id] at sent promised answered
  constructor
  · rw [applied, promised, persisted, appended, installed, sent]
  · rw [finished, answered]

end ReadyRun

/-- The property holds between both ends of each ready of a run. -/
def EachReady (start : Driver X) (actions : List Action) (property : Driver X → Driver X → Prop) : Prop :=
  ∀ part before after, part ++ [.ready] <+: actions → performAll part start = (.ok (), before) →
    processReady before = (.ok (), after) → property before after

/-- What the readies of a run keep holds at every point of the run. -/
theorem EachReady.holds {property : Driver X → Prop} {start : Driver X} {actions : List Action}
    (keeps : EachReady start actions fun before after => property before → property after)
    (others : ∀ before after, Handles before after → property before → property after)
    (begins : property start) {part : List Action} {driver : Driver X} (within : part <+: actions)
    (done : performAll part start = (.ok (), driver)) : property driver := by
  induction part using List.reverseRecOn generalizing driver with
  | nil =>
      rw [performAll, Attempt.forEach_nil, Attempt.pure_apply, Prod.mk.injEq] at done
      rw [← done.2]
      exact begins
  | append_singleton part action ih =>
      rw [performAll, Attempt.forEach_append] at done
      obtain ⟨_, before, earlier, last⟩ := Attempt.bind_eq_ok.mp done
      rw [Attempt.forEach_cons, Attempt.forEach_nil, Attempt.bind_pure_unit] at last
      have holds := ih ((List.prefix_append part [action]).trans within) earlier
      by_cases ready : action = .ready
      · subst ready
        exact keeps part before driver within earlier last holds
      · have handles := perform_handles ready before
        rw [last] at handles
        exact others before driver handles holds

/-- A run of one ready has one case. -/
theorem eachReady_single {property : Driver X → Driver X → Prop} {start : Driver X}
    (holds : property start (processReady start).2) : EachReady start [.ready] property := by
  intro part before after within earlier done
  have none : part = [] := by
    have lengths := within.length_le
    simp only [List.length_append, List.length_singleton] at lengths
    exact List.eq_nil_of_length_eq_zero (by omega)
  subst none
  rw [performAll, Attempt.forEach_nil, Attempt.pure_apply, Prod.mk.injEq] at earlier
  rw [← earlier.2] at done ⊢
  rw [done] at holds
  exact holds

end Driver

end RaftATui
