import RaftATui.Library.Agreement
import RaftATui.Proof.Driver.Frame

namespace RaftATui
open Machinery

/-- These crates are used over another transport. -/
abbrev Externals.withTransport (X : Externals) (Network : Type)
    (send : («to» : Nat) → Message → Attempt Network TransportError Unit) : Externals :=
  { X with Network, send }

def Effect.isNotice : Effect → Bool
  | .notify _ => true
  | _ => false

/-- This is what the driver exchanged with everything but the TUI. -/
def beyondTui (trace : List Effect) : List Effect := trace.filter fun effect => !effect.isNotice

@[simp] theorem beyondTui_append (first second : List Effect) :
    beyondTui (first ++ second) = beyondTui first ++ beyondTui second := List.filter_append _ _

namespace Driver

open Attempt (Agree)

variable {X : Externals} {Network : Type} {send : («to» : Nat) → Message → Attempt Network TransportError Unit}

/-- The drivers own the same, and they exchanged the same with everything but the TUI. -/
structure Alike (first : Driver X) (second : Driver (X.withTransport Network send)) : Prop where
  raft : first.raft = second.raft
  store : first.store = second.store
  callbacks : first.callbacks = second.callbacks
  kvNode : first.kvNode = second.kvNode
  previousLeaderId : first.previousLeaderId = second.previousLeaderId
  uuids : first.uuids = second.uuids
  drawn : first.drawn = second.drawn
  trace : beyondTui first.trace = beyondTui second.trace

/-- This driver goes on over another transport and with another receiver of its updates. -/
def rewire (driver : Driver X) (send : («to» : Nat) → Message → Attempt Network TransportError Unit)
    (network : Network) (tuiOpen : Nat → Bool) : Driver (X.withTransport Network send) where
  raft := driver.raft
  store := driver.store
  callbacks := driver.callbacks
  kvNode := driver.kvNode
  network := network
  previousLeaderId := driver.previousLeaderId
  tuiOpen := tuiOpen
  uuids := driver.uuids
  drawn := driver.drawn
  trace := driver.trace

/-- A driver is alike to itself over another transport. -/
theorem rewire_alike (driver : Driver X) (network : Network) (tuiOpen : Nat → Bool) :
    Alike driver (driver.rewire send network tuiOpen) := ⟨rfl, rfl, rfl, rfl, rfl, rfl, rfl, rfl⟩

section Parts

variable {Error Value : Type} {first : Driver X} {second : Driver (X.withTransport Network send)}

/-- Drivers that are alike show the same state. -/
theorem Alike.getState (alike : Alike first second) : first.getState = second.getState := by
  simp only [Driver.getState, alike.raft, alike.store]

/-- Drivers that are alike have the same role. -/
theorem Alike.isLeader (alike : Alike first second) : first.isLeader = second.isLeader := by
  simp only [Driver.isLeader, alike.raft]

/-- Equal effects on both sides keep the traces alike. -/
theorem Alike.extend (alike : Alike first second) (added : List Effect) :
    beyondTui (first.trace ++ added) = beyondTui (second.trace ++ added) := by
  rw [beyondTui_append, beyondTui_append, alike.trace]

/-- An effect agrees on both sides. -/
theorem emit_agree (effect : Effect) :
    Agree (@Alike X Network send) (emit effect : Attempt _ Error Unit) (emit effect) :=
  Agree.modify fun _ _ alike => { alike with trace := alike.extend [effect] }

/-- A notification reaches one receiver, both or none, and the drivers do not tell. -/
theorem notify_agree (update : StateUpdate) :
    Agree (@Alike X Network send) (notify update : Attempt _ Error Unit) (notify update) := by
  intro one two alike
  have told (X : Externals) (driver : Driver X) :
      ∃ trace, (notify update : Attempt (Driver X) Error Unit) driver = (.ok (), { driver with trace }) ∧
        beyondTui trace = beyondTui driver.trace := by
    rw [notify, Attempt.get_bind]
    split
    · refine ⟨driver.trace ++ [.notify update], rfl, ?_⟩
      rw [beyondTui_append]
      exact List.append_nil _
    · exact ⟨driver.trace, rfl, rfl⟩
  obtain ⟨trace, run, same⟩ := told X one
  obtain ⟨other, ran, kept⟩ := told _ two
  rw [run, ran]
  exact ⟨rfl, { alike with trace := same.trans (alike.trace.trans kept.symm) }⟩

/-- A storage call agrees on both sides. -/
theorem withStore_agree (call : Attempt (RaftStorage X.Mem) RaftError Value) :
    Agree (@Alike X Network send) (withStore call) (withStore call) := by
  intro one two alike
  have same : call one.store.clearJournal = call two.store.clearJournal := by rw [alike.store]
  refine ⟨congrArg Prod.fst same, { alike with store := congrArg Prod.snd same, trace := ?_ }⟩
  simp only [withStore, alike.store]
  exact alike.extend _

/-- A call of raft agrees on both sides. -/
theorem withRaft_agree (call : RaftStorage X.Mem → Attempt X.Raft RaftError Value) :
    Agree (@Alike X Network send) (withRaft call) (withRaft call) := by
  intro one two alike
  have same : call one.store one.raft = call two.store two.raft := by rw [alike.store, alike.raft]
  exact ⟨congrArg Prod.fst same, { alike with raft := congrArg Prod.snd same }⟩

/-- What the transport answers is dropped. -/
theorem sendMessage_agree (msg : Message) :
    Agree (@Alike X Network send) (sendMessage msg) (sendMessage msg) :=
  fun _ _ alike => ⟨rfl, { alike with trace := alike.extend [.send msg.to msg] }⟩

/-- A batch of messages agrees, whatever becomes of it. -/
theorem sendMessages_agree (messages : List Message) :
    Agree (@Alike X Network send) (sendMessages messages) (sendMessages messages) :=
  Agree.forEach messages fun msg _ => sendMessage_agree msg

/-- A callback is taken on both sides. -/
theorem takeCallback_agree (context : Bytes) :
    Agree (@Alike X Network send) (takeCallback context : Attempt _ Error _) (takeCallback context) :=
  fun _ _ alike => ⟨congrArg (fun table => Except.ok table[context]?) alike.callbacks,
    { alike with callbacks := congrArg (fun table => table.erase context) alike.callbacks }⟩

/-- The same channel is answered on both sides. -/
theorem answer_agree (context : Bytes) (result : Except String Unit) :
    Agree (@Alike X Network send)
      (takeCallback context >>= fun callback => match callback with
        | some channel => reply channel result
        | none => pure () : Attempt _ RaftLoopError Unit)
      (takeCallback context >>= fun callback => match callback with
        | some channel => reply channel result
        | none => pure ()) := by
  apply Agree.bind (takeCallback_agree context)
  intro callback
  cases callback with
  | some channel => exact emit_agree _
  | none => exact Agree.pure ()

/-- The stored index agrees on both sides. -/
theorem setAppliedIndex_agree (index : Nat) :
    Agree (@Alike X Network send) (setAppliedIndex index) (setAppliedIndex index) :=
  Agree.relabel _ (withStore_agree _)

/-- A put agrees on both sides. -/
theorem applyKvCommand_agree (entry : Entry) :
    Agree (@Alike X Network send) (applyKvCommand entry) (applyKvCommand entry) := by
  intro one two alike
  refine ⟨congrArg (fun node => Except.ok (Node.applyKvCommand X.kvCodec entry.data node).1) alike.kvNode,
    { alike with
      kvNode := congrArg (fun node => (Node.applyKvCommand X.kvCodec entry.data node).2) alike.kvNode
      trace := ?_ }⟩
  simp only [applyKvCommand, alike.kvNode]
  exact alike.extend _

/-- The report of an applied entry agrees. -/
theorem reportApplied_agree (entry : Entry) (result : Except String Unit) :
    Agree (@Alike X Network send) (reportApplied entry result) (reportApplied entry result) := by
  cases result with
  | error text => exact answer_agree entry.context _
  | ok _ =>
      simp only [reportApplied, notifyKvUpdate]
      rcases X.kvCodec.decode entry.data with text | ⟨_ | put⟩
      · exact Agree.pure ()
      · exact Agree.pure ()
      · apply Agree.bind (notify_agree _)
        intro _
        exact Agree.bind (notify_agree _) fun _ => answer_agree entry.context _

/-- A normal entry agrees on both sides. -/
theorem applyNormalEntry_agree (entry : Entry) :
    Agree (@Alike X Network send) (applyNormalEntry entry) (applyNormalEntry entry) :=
  Agree.bind (applyKvCommand_agree entry) fun result =>
    Agree.bind (reportApplied_agree entry result) fun _ => setAppliedIndex_agree entry.index

/-- A configuration change agrees on both sides. -/
theorem applyConfEntry_agree (decode : Bytes → Except String X.Change) (entry : Entry) :
    Agree (@Alike X Network send) (applyConfEntry decode entry) (applyConfEntry decode entry) := by
  unfold applyConfEntry
  cases decode entry.data with
  | error text => exact Agree.pure ()
  | ok change =>
      apply Agree.bind (Agree.outcome (withRaft_agree _))
      intro result
      cases result with
      | error _ => exact Agree.pure ()
      | ok cs =>
          exact Agree.bind (Agree.relabel _ (withStore_agree _)) fun _ => setAppliedIndex_agree entry.index

/-- An entry of each type agrees on both sides. -/
theorem applyEntry_agree (entry : Entry) :
    Agree (@Alike X Network send) (applyEntry entry) (applyEntry entry) := by
  unfold applyEntry
  split
  · exact Agree.pure ()
  · cases entry.entryType with
    | entryNormal => exact applyNormalEntry_agree entry
    | entryConfChange => exact applyConfEntry_agree _ entry
    | entryConfChangeV2 => exact applyConfEntry_agree _ entry

/-- A batch of entries agrees on both sides. -/
theorem applyEntries_agree (entries : List Entry) :
    Agree (@Alike X Network send) (applyEntries entries) (applyEntries entries) :=
  Agree.forEach entries fun entry _ => applyEntry_agree entry

/-- An installed snapshot agrees on both sides. -/
theorem applySnapshotPart_agree (ready : Ready) :
    Agree (@Alike X Network send) (applySnapshotPart ready) (applySnapshotPart ready) := by
  have restored (data : Bytes) : Agree (@Alike X Network send) (restoreSnapshot data) (restoreSnapshot data) := by
    intro one two alike
    have same : Node.restoreFromSnapshot X.snapshotCodec data one.kvNode =
        Node.restoreFromSnapshot X.snapshotCodec data two.kvNode := by rw [alike.kvNode]
    exact ⟨congrArg (fun result => result.1.mapError fun error =>
      RaftLoopError.other s!"Failed to restore snapshot: {error.display}") same,
      { alike with kvNode := congrArg Prod.snd same }⟩
  unfold applySnapshotPart
  split
  · exact Agree.pure ()
  · apply Agree.bind (Agree.relabel _ (withStore_agree _))
    intro _
    apply Agree.bind (restored _)
    intro _
    exact Agree.bind (setAppliedIndex_agree _) fun _ => notify_agree _

/-- The entries of a ready agree on both sides. -/
theorem appendEntriesPart_agree (ready : Ready) :
    Agree (@Alike X Network send) (appendEntriesPart ready) (appendEntriesPart ready) := by
  unfold appendEntriesPart
  split
  · exact Agree.pure ()
  · exact Agree.relabel _ (withStore_agree _)

/-- The hard state of a ready agrees on both sides. -/
theorem persistHardstatePart_agree (ready : Ready) :
    Agree (@Alike X Network send) (persistHardstatePart ready) (persistHardstatePart ready) := by
  unfold persistHardstatePart
  cases ready.hs with
  | some hs => exact Agree.relabel _ (withStore_agree _)
  | none => exact Agree.pure ()

/-- The remembered leader agrees on both sides. -/
theorem updateTuiState_agree : Agree (@Alike X Network send) updateTuiState updateTuiState := by
  apply Agree.get_bind
  intro one two alike
  rw [← alike.getState, ← alike.previousLeaderId]
  apply Agree.bind
  · cases one.previousLeaderId with
    | none => exact Agree.pure ()
    | some previous =>
        simp only [announceLeader]
        split
        · exact notify_agree _
        · exact Agree.pure ()
  · intro _
    apply Agree.bind
    · exact Agree.modify fun _ _ later => { later with previousLeaderId := rfl }
    · exact fun _ => notify_agree _

/-- A ready does the same over any transport and for any receiver of the updates. -/
theorem processReady_agree : Agree (@Alike X Network send) processReady processReady := by
  have taken : Agree (@Alike X Network send) takeReady takeReady := by
    intro one two alike
    have same : X.raw.ready one.store one.raft = X.raw.ready two.store two.raft := by
      rw [alike.store, alike.raft]
    refine ⟨congrArg Except.ok (congrArg Prod.fst same),
      { alike with raft := congrArg Prod.snd same, trace := ?_ }⟩
    simp only [takeReady, alike.store, alike.raft]
    exact alike.extend _
  have advanced (ready : Ready) : Agree (@Alike X Network send) (advance ready) (advance ready) := by
    intro one two alike
    have same : X.raw.advance ready one.store one.raft = X.raw.advance ready two.store two.raft := by
      rw [alike.store, alike.raft]
    refine ⟨congrArg Except.ok (congrArg Prod.fst same),
      { alike with raft := congrArg Prod.snd same, trace := ?_ }⟩
    simp only [advance, alike.store, alike.raft]
    exact alike.extend _
  apply Agree.bind taken
  intro ready
  apply Agree.bind (sendMessages_agree _)
  intro _
  apply Agree.bind (applySnapshotPart_agree ready)
  intro _
  apply Agree.bind (appendEntriesPart_agree ready)
  intro _
  apply Agree.bind (persistHardstatePart_agree ready)
  intro _
  apply Agree.bind (sendMessages_agree _)
  intro _
  apply Agree.bind (applyEntries_agree _)
  intro _
  apply Agree.bind updateTuiState_agree
  intro _
  apply Agree.bind (advanced _)
  intro light
  exact Agree.bind (sendMessages_agree _) fun _ => applyEntries_agree _

/-- A proposal draws the same id on both sides. -/
theorem proposeCommand_agree (key value : String) (callback : Option Channel) :
    Agree (@Alike X Network send) (proposeCommand key value callback) (proposeCommand key value callback) := by
  apply Agree.get_bind
  intro one two leading
  rw [← leading.isLeader]
  split
  · have drawn : Agree (@Alike X Network send) newUuid newUuid := by
      intro one two alike
      refine ⟨?_, { alike with drawn := congrArg (· + 1) alike.drawn }⟩
      simp only [newUuid, alike.uuids, alike.drawn]
    apply Agree.bind drawn
    intro id
    apply Agree.bind
    · apply Agree.modify
      intro one two alike
      cases callback with
      | none => exact alike
      | some channel =>
          exact { alike with callbacks := congrArg (fun table => table.insert id channel) alike.callbacks }
    · intro _ one two alike
      have same : X.raw.propose id (X.kvCodec.encodePutCommand key value) one.store one.raft =
          X.raw.propose id (X.kvCodec.encodePutCommand key value) two.store two.raft := by
        rw [alike.store, alike.raft]
      refine ⟨congrArg Prod.fst same, { alike with raft := congrArg Prod.snd same, trace := ?_ }⟩
      simp only [rawPropose, alike.store, alike.raft]
      exact alike.extend _
  · exact Agree.fail _

/-- A command of the TUI agrees on both sides. -/
theorem handleUserCommand_agree (cmd : UserCommand) :
    Agree (@Alike X Network send) (handleUserCommand cmd) (handleUserCommand cmd) := by
  have read (cmd : UserCommand) : Agree (@Alike X Network send) (applyLocally cmd) (applyLocally cmd) := by
    intro one two alike
    have same : Node.applyUserCommand X.quote cmd one.kvNode = Node.applyUserCommand X.quote cmd two.kvNode := by
      rw [alike.kvNode]
    exact ⟨congrArg Except.ok (congrArg Prod.fst same), { alike with kvNode := congrArg Prod.snd same }⟩
  have output (output : NodeOutput) : Agree (@Alike X Network send) (reportOutput output) (reportOutput output) := by
    cases output with
    | text text => exact notify_agree _
    | none => exact Agree.pure ()
  cases cmd with
  | put key value =>
      apply Agree.bind (Agree.outcome (proposeCommand_agree key value none))
      intro result
      unfold reportProposal
      split
      · exact notify_agree _
      · apply Agree.get_bind
        intro one two alike
        rw [← alike.getState]
        exact notify_agree _
      · exact notify_agree _
  | campaign =>
      apply Agree.bind (Agree.outcome (withRaft_agree _))
      intro result
      cases result with
      | ok _ => exact notify_agree _
      | error _ => exact Agree.pure ()
  | status =>
      apply Agree.get_bind
      intro one two alike
      rw [← alike.getState]
      exact notify_agree _
  | get key => exact Agree.bind (read (.get key)) output
  | keys => exact Agree.bind (read .keys) output

/-- A command of a client agrees on both sides. -/
theorem handleRpcCommand_agree (cmd : RpcCommand) :
    Agree (@Alike X Network send) (handleRpcCommand cmd) (handleRpcCommand cmd) := by
  cases cmd with
  | put key value resp =>
      apply Agree.get_bind
      intro one two alike
      rw [← alike.isLeader, ← alike.getState]
      split
      · exact Agree.bind (Agree.outcome (proposeCommand_agree key value (some resp))) fun _ => Agree.pure ()
      · exact emit_agree _
  | get key resp =>
      apply Agree.get_bind
      intro one two alike
      rw [← alike.kvNode]
      exact emit_agree _

/-- Each action agrees on both sides. -/
theorem perform_agree (action : Action) :
    Agree (@Alike X Network send) (perform action) (perform action) := by
  cases action with
  | command cmd =>
      cases cmd with
      | user cmd => exact handleUserCommand_agree cmd
      | rpc cmd => exact handleRpcCommand_agree cmd
  | message msg => exact Agree.bind (Agree.outcome (withRaft_agree _)) fun _ => Agree.pure ()
  | tick =>
      apply Agree.modify
      intro one two alike
      exact { alike with raft := by simp only [alike.store, alike.raft] }
  | ready => exact processReady_agree

end Parts

/-- A run gives the same results and reaches the same state over any transport and for any receiver of the
updates. -/
theorem performAll_rewire (driver : Driver X) (network : Network) (tuiOpen : Nat → Bool)
    (actions : List Action) :
    (performAll actions driver).1 = (performAll actions (driver.rewire send network tuiOpen)).1 ∧
      Alike (performAll actions driver).2 (performAll actions (driver.rewire send network tuiOpen)).2 :=
  Agree.forEach actions (fun action _ => perform_agree action) driver _ (rewire_alike driver network tuiOpen)

end Driver

end RaftATui
