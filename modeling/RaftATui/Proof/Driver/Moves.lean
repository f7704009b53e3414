import RaftATui.Library.OrderedTree
import RaftATui.Library.Trace
import RaftATui.Proof.Driver.Frame

namespace RaftATui
open Machinery
open Machinery.Trace (Obeys obeys_concat)

/-- This is one call of raft's propose. -/
structure Proposal where
  id : Bytes
  data : Bytes
  callback : Option Channel
  result : Except RaftError Unit
  deriving DecidableEq

def Effect.proposal : Effect → Option Proposal
  | .proposed id data callback result => some ⟨id, data, callback, result⟩
  | _ => none

def Effect.answered : Effect → Option Channel
  | .reply channel _ => some channel
  | _ => none

/-- These are the entries that raft hands out to be applied. -/
def Effect.handed : Effect → List Entry
  | .ready rd => rd.committedEntries
  | .light rd => rd.committedEntries
  | _ => []

def proposals (trace : List Effect) : List Proposal := trace.filterMap Effect.proposal

def answered (trace : List Effect) : List Channel := trace.filterMap Effect.answered

def handed (trace : List Effect) : List Entry := trace.flatMap Effect.handed

/-- An entry that raft hands out under the id of an earlier proposal carries the data of that proposal. -/
def Intact (before : List Effect) (event : Effect) : Prop :=
  ∀ proposal ∈ proposals before, ∀ entry ∈ event.handed, entry.context = proposal.id →
    entry.data = proposal.data

instance (before : List Effect) (event : Effect) : Decidable (Intact before event) :=
  inferInstanceAs (Decidable (∀ proposal ∈ proposals before, ∀ entry ∈ event.handed,
    entry.context = proposal.id → entry.data = proposal.data))

/-- A plain effect proposes nothing and answers nobody. -/
def Effect.plain (effect : Effect) : Prop := effect.proposal = none ∧ effect.answered = none

/-- A plain move keeps the callbacks and the ids. Its effects are plain and apply nothing. -/
structure Plain {X : Externals} (before after : Driver X) : Prop where
  callbacks : after.callbacks = before.callbacks
  uuids : after.uuids = before.uuids
  drawn : after.drawn = before.drawn
  trace : ∃ added, after.trace = before.trace ++ added ∧
    ∀ effect ∈ added, effect.plain ∧ ∀ entry kv, effect ≠ .applied entry kv

/-- A normal entry takes the callback of its context and answers it. A command without content does not. -/
inductive Applies {X : Externals} (entry : Entry) (before after : Driver X) : Prop
  | empty (kv : KvMap) (decoded : X.kvCodec.decode entry.data = .ok ⟨none⟩)
      (uuids : after.uuids = before.uuids) (drawn : after.drawn = before.drawn)
      (callbacks : after.callbacks = before.callbacks)
      (trace : after.trace = before.trace ++ [.applied entry kv])
  | put (kv : KvMap) (put : Put) (notices : List Effect)
      (decoded : X.kvCodec.decode entry.data = .ok ⟨some put⟩) (shown : kv[put.key]? = some put.value)
      (notified : ∀ notice ∈ notices, ∃ update, notice = .notify update)
      (uuids : after.uuids = before.uuids) (drawn : after.drawn = before.drawn)
      (callbacks : after.callbacks = before.callbacks.erase entry.context)
      (trace : after.trace = before.trace ++ .applied entry kv :: notices ++
        (before.callbacks[entry.context]?.map fun channel => Effect.reply channel (.ok ())).toList)
  | malformed (kv : KvMap) (text : String) (decoded : X.kvCodec.decode entry.data = .error text)
      (uuids : after.uuids = before.uuids) (drawn : after.drawn = before.drawn)
      (callbacks : after.callbacks = before.callbacks.erase entry.context)
      (trace : after.trace = before.trace ++ .applied entry kv ::
        (before.callbacks[entry.context]?.map fun channel =>
          Effect.reply channel (.error s!"Apply failed: {text}")).toList)

/-- An accepted call of `propose_command` draws an id, stores the callback and proposes the put. -/
structure Proposes {X : Externals} (key value : String) (callback : Option Channel)
    (result : Except RaftError Unit) (before after : Driver X) : Prop where
  uuids : after.uuids = before.uuids
  drawn : after.drawn = before.drawn + 1
  callbacks : after.callbacks = match callback with
    | some channel => before.callbacks.insert (before.uuids before.drawn) channel
    | none => before.callbacks
  trace : after.trace = before.trace ++ [.proposed (before.uuids before.drawn)
    (X.kvCodec.encodePutCommand key value) callback result]
  raft : X.raw.propose (before.uuids before.drawn) (X.kvCodec.encodePutCommand key value)
    before.store before.raft = (result, after.raft)
  store : after.store = before.store

@[simp] theorem proposals_append (first second : List Effect) :
    proposals (first ++ second) = proposals first ++ proposals second := List.filterMap_append

@[simp] theorem answered_append (first second : List Effect) :
    answered (first ++ second) = answered first ++ answered second := List.filterMap_append

@[simp] theorem handed_append (first second : List Effect) :
    handed (first ++ second) = handed first ++ handed second := List.flatMap_append

/-- The handed entries are read from the outputs only. -/
theorem handed_outputs (trace : List Effect) : handed trace = handed (outputs trace) :=
  flatMap_outputs (fun effect silent => by cases effect <;> first | rfl | cases silent) trace

/-- Plain effects propose nothing. -/
theorem proposals_plain {added : List Effect} (plain : ∀ effect ∈ added, effect.plain) :
    proposals added = [] := List.filterMap_eq_nil_iff.mpr fun effect inside => (plain effect inside).1

/-- Plain effects answer nobody. -/
theorem answered_plain {added : List Effect} (plain : ∀ effect ∈ added, effect.plain) :
    answered added = [] := List.filterMap_eq_nil_iff.mpr fun effect inside => (plain effect inside).2

variable {X : Externals}

instance plainPreorder : IsPreorder (Driver X) Plain where
  refl _ := ⟨rfl, rfl, rfl, [], (List.append_nil _).symm, by simp⟩
  trans first second third := by
    intro ⟨callbacks, uuids, drawn, added, trace, plain⟩
      ⟨callbacks', uuids', drawn', added', trace', plain'⟩
    refine ⟨callbacks'.trans callbacks, uuids'.trans uuids, drawn'.trans drawn, added ++ added', ?_, ?_⟩
    · rw [trace', trace, List.append_assoc]
    · intro effect inside
      exact (List.mem_append.mp inside).elim (plain effect) (plain' effect)

/-- A quiet step is plain. -/
theorem Quiet.plain {before after : Driver X} (quiet : Quiet before after) : Plain before after := by
  obtain ⟨added, trace, idle⟩ := quiet.trace
  refine ⟨quiet.callbacks, quiet.uuids, quiet.drawn, added, trace, ?_⟩
  intro effect inside
  have calm := idle effect inside
  cases effect <;> simp_all [Effect.plain, Effect.proposal, Effect.answered, Effect.idle]

/-- A storage call is plain. -/
theorem Stores.plain {before after : Driver X} (stores : Stores before after) : Plain before after := by
  obtain ⟨ops, trace⟩ := stores.trace
  refine ⟨stores.callbacks, stores.uuids, stores.drawn, _, trace, ?_⟩
  intro effect inside
  obtain ⟨op, _, rfl⟩ := List.mem_map.mp inside
  exact ⟨⟨rfl, rfl⟩, by simp⟩

/-- A plain step proposes nothing. -/
theorem Plain.proposals {before after : Driver X} (plain : Plain before after) :
    proposals after.trace = proposals before.trace := by
  obtain ⟨added, trace, free⟩ := plain.trace
  rw [trace, proposals_append, proposals_plain fun effect inside => (free effect inside).1,
    List.append_nil]

/-- A plain step answers nobody. -/
theorem Plain.answered {before after : Driver X} (plain : Plain before after) :
    answered after.trace = answered before.trace := by
  obtain ⟨added, trace, free⟩ := plain.trace
  rw [trace, answered_append, answered_plain fun effect inside => (free effect inside).1,
    List.append_nil]

/-- A proposal only adds effects. -/
theorem Proposes.grows {key value : String} {callback : Option Channel}
    {result : Except RaftError Unit} {before after : Driver X}
    (proposes : Proposes key value callback result before after) : before.trace <+: after.trace :=
  ⟨_, proposes.trace.symm⟩

/-- A plain step only adds effects. -/
theorem Plain.grows {before after : Driver X} (plain : Plain before after) :
    before.trace <+: after.trace := by
  obtain ⟨added, trace, _⟩ := plain.trace
  exact ⟨added, trace.symm⟩

/-- An applied entry makes no proposal. -/
theorem Applies.added {entry : Entry} {before after : Driver X} (applies : Applies entry before after) :
    ∃ added, after.trace = before.trace ++ added ∧ ∀ effect ∈ added, effect.proposal = none := by
  have answer (result : Except String Unit) : ∀ effect ∈ (before.callbacks[entry.context]?.map
      fun channel => Effect.reply channel result).toList, effect.proposal = none := by
    intro effect inside
    obtain ⟨channel, _, rfl⟩ := Option.map_eq_some_iff.mp (Option.mem_toList.mp inside)
    rfl
  cases applies with
  | empty kv decoded uuids drawn callbacks trace => exact ⟨_, trace, by simp [Effect.proposal]⟩
  | put kv put notices decoded shown notified uuids drawn callbacks trace =>
      refine ⟨_, trace.trans (List.append_assoc _ _ _), ?_⟩
      intro effect inside
      rcases List.mem_append.mp inside with told | last
      · rcases List.mem_cons.mp told with rfl | notice
        · rfl
        · obtain ⟨update, rfl⟩ := notified effect notice
          rfl
      · exact answer _ effect last
  | malformed kv text decoded uuids drawn callbacks trace =>
      refine ⟨_, trace, ?_⟩
      intro effect inside
      rcases List.mem_cons.mp inside with rfl | last
      · rfl
      · exact answer _ effect last

/-- A delivered entry proposes nothing. -/
theorem Applies.proposals {entry : Entry} {before after : Driver X}
    (applies : Applies entry before after) : proposals after.trace = proposals before.trace := by
  obtain ⟨added, trace, free⟩ := applies.added
  have silent : RaftATui.proposals added = [] := List.filterMap_eq_nil_iff.mpr free
  rw [trace, proposals_append, silent, List.append_nil]

/-- A delivered entry only adds effects. -/
theorem Applies.grows {entry : Entry} {before after : Driver X}
    (applies : Applies entry before after) : before.trace <+: after.trace := by
  obtain ⟨added, trace, _⟩ := applies.added
  exact ⟨added, trace.symm⟩

/-- An applied entry only ever removes callbacks. -/
theorem Applies.callbacks {entry : Entry} {before after : Driver X}
    (applies : Applies entry before after) (id : Bytes) (channel : Channel)
    (found : after.callbacks[id]? = some channel) : before.callbacks[id]? = some channel := by
  have kept (found : (before.callbacks.erase entry.context)[id]? = some channel) :
      before.callbacks[id]? = some channel := by
    rw [OrderedTree.getElem?_erase] at found
    split at found
    · cases found
    · exact found
  cases applies with
  | empty kv decoded uuids drawn callbacks trace => exact callbacks ▸ found
  | put kv put notices decoded shown notified uuids drawn callbacks trace => exact kept (callbacks ▸ found)
  | malformed kv text decoded uuids drawn callbacks trace => exact kept (callbacks ▸ found)

namespace Driver

open Attempt (Within Keeps Triple)

section Plain

variable {Error Value : Type} {first : Attempt (Driver X) Error Value}

/-- Quiet computations are plain. -/
theorem plain_of_quiet (quiet : Within Quiet first) : Within Plain first :=
  fun driver => (quiet driver).plain

/-- Computations that only store are plain. -/
theorem plain_of_stores (stores : Within Stores first) : Within Plain first :=
  fun driver => (stores driver).plain

end Plain

/-- A configuration change is plain. -/
theorem applyConfEntry_plain (decode : Bytes → Except String X.Change) (entry : Entry) :
    Within Plain (applyConfEntry decode entry : Attempt (Driver X) RaftLoopError Unit) :=
  applyConfEntry_within (fun _ => plain_of_quiet (withRaft_quiet _)) fun cs =>
    plain_of_stores (persistConfState_stores entry cs)

/-- An installed snapshot is plain. -/
theorem applySnapshotPart_plain (ready : Ready) :
    Within Plain (applySnapshotPart ready : Attempt (Driver X) RaftLoopError Unit) := by
  apply applySnapshotPart_within
  case stores => exact plain_of_stores (Within.relabel _ (withStore_stores _))
  case restores => exact fun driver => ⟨rfl, rfl, rfl, [], (List.append_nil _).symm, by simp⟩
  case counts => exact fun index => plain_of_stores (setAppliedIndex_stores index)
  case tells => exact fun _ => plain_of_quiet (notify_quiet _)

/-- A notification enters the trace unless the receiver is gone. -/
theorem notify_eq {Error : Type} (update : StateUpdate) (driver : Driver X) :
    ∃ notices, (notify update : Attempt (Driver X) Error Unit) driver =
        (.ok (), { driver with trace := driver.trace ++ notices }) ∧
      ∀ notice ∈ notices, ∃ update, notice = .notify update := by
  by_cases opened : driver.tuiOpen driver.trace.length = true
  · refine ⟨[.notify update], ?_, by simp⟩
    rw [notify, Attempt.get_bind, if_pos opened]
    rfl
  · refine ⟨[], ?_, by simp⟩
    rw [notify, Attempt.get_bind, if_neg opened, List.append_nil]
    rfl

/-- A taken callback leaves the table and gets its answer. -/
theorem answer_eq (context : Bytes) (result : Except String Unit) (driver : Driver X) :
    (takeCallback context >>= fun callback => match callback with
      | some channel => reply channel result
      | none => pure () : Attempt (Driver X) RaftLoopError Unit) driver = (.ok (), { driver with
        callbacks := driver.callbacks.erase context
        trace := driver.trace ++
          (driver.callbacks[context]?.map fun channel => Effect.reply channel result).toList }) := by
  rw [Attempt.bind_ok _ (rfl : takeCallback context driver = (.ok _, _))]
  cases driver.callbacks[context]? with
  | some channel => rfl
  | none =>
      rw [Option.map_none, Option.toList_none, List.append_nil]
      rfl

/-- The command and the report of a normal entry are one application of it. -/
theorem applyNormal_applies (entry : Entry) :
    Within (Applies entry) (applyKvCommand entry >>= reportApplied entry :
      Attempt (Driver X) RaftLoopError Unit) := by
  intro driver
  rw [Attempt.bind_ok (reportApplied entry) (rfl : applyKvCommand entry driver = (.ok _, _))]
  unfold Node.applyKvCommand
  rcases decoded : X.kvCodec.decode entry.data with text | ⟨_ | put⟩
  · let middle : Driver X := { driver with trace := driver.trace ++ [.applied entry driver.kvNode.kv] }
    have run : reportApplied entry (.error text) middle = _ := answer_eq entry.context _ middle
    simp only [middle] at run
    rw [run]
    exact .malformed driver.kvNode.kv text decoded rfl rfl rfl (List.append_assoc _ _ _)
  · simp only [reportApplied, notifyKvUpdate, decoded]
    exact .empty driver.kvNode.kv decoded rfl rfl rfl rfl
  · let kv := driver.kvNode.kv.insert put.key put.value
    let middle : Driver X := { driver with kvNode := ⟨kv⟩, trace := driver.trace ++ [.applied entry kv] }
    have shown : kv[put.key]? = some put.value := Std.ExtTreeMap.getElem?_insert_self
    obtain ⟨first, notified, told⟩ := notify_eq (.kvUpdate put.key put.value) middle
    obtain ⟨second, logged, said⟩ := notify_eq
      (.logEntry entry.index entry.term s!"PUT {put.key} = {put.value}")
      { middle with trace := middle.trace ++ first }
    have code : reportApplied entry (.ok ()) middle =
        (notify (.kvUpdate put.key put.value) >>= fun _ =>
          notify (.logEntry entry.index entry.term s!"PUT {put.key} = {put.value}") >>= fun _ =>
            acceptCallback entry : Attempt (Driver X) RaftLoopError Unit) middle := by
      simp only [reportApplied, notifyKvUpdate, decoded]
    have run : acceptCallback entry { middle with trace := middle.trace ++ first ++ second } = _ :=
      answer_eq entry.context (.ok ()) _
    rw [Attempt.bind_ok _ notified, Attempt.bind_ok _ logged, run] at code
    change Applies entry driver (reportApplied entry (.ok ()) middle).2
    rw [code]
    apply Applies.put kv put (first ++ second) decoded shown
    case notified =>
      intro notice inside
      exact (List.mem_append.mp inside).elim (told notice) (said notice)
    case trace => simp [middle]
    all_goals rfl

/-- A call of `propose_command` changes nothing, or it proposes under a new id. -/
theorem proposeCommand_cases (key value : String) (callback : Option Channel) (driver : Driver X) :
    (driver.isLeader = false ∧ (proposeCommand key value callback driver).2 = driver) ∨
      (driver.isLeader = true ∧ ∃ result,
        Proposes key value callback result driver (proposeCommand key value callback driver).2) := by
  by_cases leading : driver.isLeader = true
  · refine Or.inr ⟨leading, (X.raw.propose (driver.uuids driver.drawn)
      (X.kvCodec.encodePutCommand key value) driver.store driver.raft).1, ?_⟩
    rw [proposeCommand, Attempt.get_bind, if_pos leading]
    cases callback <;> exact ⟨rfl, rfl, rfl, rfl, rfl, rfl⟩
  · refine Or.inl ⟨by simpa using leading, ?_⟩
    rw [proposeCommand, Attempt.get_bind, if_neg leading]
    rfl

/-- An RPC put is proposed by a leader and refused by every other node. -/
theorem handlePut_cases (key value : String) (resp : Channel) (driver : Driver X) :
    (driver.isLeader = true ∧ (handleRpcCommand (.put key value resp) driver).2 =
        (proposeCommand key value (some resp) driver).2) ∨
      (driver.isLeader = false ∧ (handleRpcCommand (.put key value resp) driver).2 =
        { driver with trace := driver.trace ++
          [.reply resp (.error s!"Not leader: {driver.getState.leaderId}")] }) := by
  by_cases leading : driver.isLeader = true
  · refine Or.inl ⟨leading, ?_⟩
    rw [handleRpcCommand, Attempt.get_bind, if_pos leading]
    rfl
  · refine Or.inr ⟨by simpa using leading, ?_⟩
    rw [handleRpcCommand, Attempt.get_bind, if_neg leading]
    rfl

/-- These are the things that one action can do. -/
inductive Performed (action : Action) (before after : Driver X) : Prop
  | ready (same : action = .ready)
  | plain (moves : Plain before after)
  | byUser (key value : String) (result : Except RaftError Unit) (middle : Driver X)
      (proposes : Proposes key value none result before middle) (moves : Plain middle after)
  | put (key value : String) (resp : Channel) (result : Except RaftError Unit)
      (same : action = .command (.rpc (.put key value resp)))
      (proposes : Proposes key value (some resp) result before after)
  | refused (key value : String) (resp : Channel) (leader : Nat)
      (same : action = .command (.rpc (.put key value resp)))
      (answer : after = { before with
        trace := before.trace ++ [.reply resp (.error s!"Not leader: {leader}")] })

/-- Each action moves the driver as its own case says. -/
theorem perform_cases (action : Action) (driver : Driver X) :
    Performed action driver (perform action driver).2 := by
  cases action with
  | message msg => exact .plain (plain_of_quiet (handleRaftMessage_quiet msg) driver)
  | tick => exact .plain (plain_of_quiet tick_quiet driver)
  | ready => exact .ready rfl
  | command cmd =>
      rcases cmd with user | ⟨key, value, resp⟩ | ⟨key, resp⟩
      · by_cases put : ∃ key value, user = .put key value
        · obtain ⟨key, value, rfl⟩ := put
          have report := plain_of_quiet (reportProposal_quiet (X := X) key value
            (proposeCommand key value none driver).1) (proposeCommand key value none driver).2
          rcases proposeCommand_cases key value none driver with ⟨_, same⟩ | ⟨_, result, proposes⟩
          · refine .plain (trans_of Plain ?_ report)
            rw [same]
            exact refl_of Plain driver
          · exact .byUser key value result _ proposes report
        · exact .plain (plain_of_quiet (handleUserCommand_quiet fun key value same =>
            put ⟨key, value, same⟩) driver)
      · change Performed _ driver (handleRpcCommand (.put key value resp) driver).2
        rcases handlePut_cases key value resp driver with ⟨leading, same⟩ | ⟨_, same⟩
        · rw [same]
          rcases proposeCommand_cases key value (some resp) driver with ⟨idle, _⟩ | ⟨_, result, proposes⟩
          · rw [leading] at idle
            cases idle
          · exact .put key value resp result rfl proposes
        · exact .refused key value resp _ rfl same
      · have reading : Within Quiet (handleRpcCommand (.get key resp) :
            Attempt (Driver X) RaftLoopError Unit) := Within.bind Within.get fun _ => emit_quiet trivial
        exact .plain (reading driver).plain

/-- An entry was handed out, and every proposal under its context carries its data. -/
def Fits (entry : Entry) (driver : Driver X) : Prop :=
  entry ∈ handed driver.trace ∧
    ∀ proposal ∈ proposals driver.trace, entry.context = proposal.id → entry.data = proposal.data

/-- An entry still fits when effects are added that propose nothing. -/
theorem Fits.grow {entry : Entry} {before after : Driver X} (fits : Fits entry before)
    (same : proposals after.trace = proposals before.trace) (grows : before.trace <+: after.trace) :
    Fits entry after := by
  obtain ⟨added, trace⟩ := grows
  refine ⟨?_, same ▸ fits.2⟩
  rw [← trace, handed_append]
  exact List.mem_append_left _ fits.1

/-- A property of the state is guarded by the contract for the trace so far. -/
def Guarded (property : Driver X → Prop) (driver : Driver X) : Prop :=
  Obeys Intact driver.trace → property driver

/-- A guarded property moves with a growing trace. -/
theorem Guarded.move {property later : Driver X → Prop} {before after : Driver X}
    (guarded : Guarded property before) (grows : before.trace <+: after.trace)
    (moves : property before → later after) : Guarded later after :=
  fun obeys => moves (guarded (obeys.shrink grows))

/-- These are the properties that no plain move and no application of a fitting entry breaks. -/
structure Stable (property : Driver X → Prop) : Prop where
  plain : ∀ before after, property before → Plain before after → property after
  applies : ∀ entry before after, property before → Fits entry before → Applies entry before after →
    property after

section Stable

variable {property : Driver X → Prop}

/-- The entries still to apply stay fitting. -/
theorem Stable.fits (stable : Stable property) (entries : List Entry) :
    Stable fun driver : Driver X => property driver ∧ ∀ entry ∈ entries, Fits entry driver where
  plain before after := by
    intro ⟨holds, fits⟩ plain
    exact ⟨stable.plain before after holds plain, fun entry inside =>
      (fits entry inside).grow plain.proposals plain.grows⟩
  applies entry before after := by
    intro ⟨holds, fits⟩ fit applies
    exact ⟨stable.applies entry before after holds fit applies, fun other inside =>
      (fits other inside).grow applies.proposals applies.grows⟩

/-- A plain move keeps a stable property. -/
theorem Stable.keeps (stable : Stable property) {Error Value : Type}
    {first : Attempt (Driver X) Error Value} (plain : Within Plain first) :
    Keeps (Guarded property) first := by
  intro driver holds obeys
  have move := plain driver
  exact stable.plain driver _ (holds (obeys.shrink move.grows)) move

/-- The application of one fitting entry keeps a stable property. -/
theorem Stable.applyEntry (stable : Stable property) {entries : List Entry} {entry : Entry}
    (inside : entry ∈ entries) :
    Keeps (Guarded fun driver : Driver X => property driver ∧ ∀ entry ∈ entries, Fits entry driver)
      (applyEntry entry : Attempt (Driver X) RaftLoopError Unit) := by
  have more := stable.fits entries
  unfold Driver.applyEntry
  split
  · exact more.keeps (Within.pure ())
  · split
    · have code : (applyNormalEntry entry : Attempt (Driver X) RaftLoopError Unit) =
          (applyKvCommand entry >>= reportApplied entry) >>= fun _ => setAppliedIndex entry.index := by
        rw [Attempt.bind_assoc]
        rfl
      rw [code]
      apply Within.bind
      · intro driver holds obeys
        have applies := applyNormal_applies entry driver
        have earlier := holds (obeys.shrink applies.grows)
        exact more.applies entry driver _ earlier (earlier.2 entry inside) applies
      · exact fun _ => more.keeps (plain_of_stores (setAppliedIndex_stores entry.index))
    · exact more.keeps (applyConfEntry_plain _ entry)
    · exact more.keeps (applyConfEntry_plain _ entry)

/-- A stable property holds over a batch whose entries fit. -/
theorem Stable.applyEntries (stable : Stable property) (entries : List Entry) :
    Keeps (Guarded fun driver : Driver X => property driver ∧ ∀ entry ∈ entries, Fits entry driver)
      (applyEntries entries : Attempt (Driver X) RaftLoopError Unit) :=
  Within.forEach entries fun _ inside => stable.applyEntry inside

/-- What raft hands out fits after the event that hands it out. -/
theorem fits_of_handed {driver : Driver X} {event : Effect} (silent : event.proposal = none)
    (obeys : Obeys Intact (driver.trace ++ [event])) {entry : Entry} (inside : entry ∈ event.handed) :
    entry ∈ handed (driver.trace ++ [event]) ∧
      ∀ proposal ∈ proposals (driver.trace ++ [event]), entry.context = proposal.id →
        entry.data = proposal.data := by
  have same : proposals (driver.trace ++ [event]) = proposals driver.trace := by
    simp [proposals, silent]
  constructor
  · rw [handed_append]
    exact List.mem_append_right _ (List.mem_flatMap.mpr ⟨event, List.mem_singleton_self event, inside⟩)
  · rw [same]
    intro proposal made
    exact (obeys_concat.mp obeys).2 proposal made entry inside

/-- A processed ready keeps every stable property, whatever its outcome is. -/
theorem Stable.processReady (stable : Stable property) :
    Keeps (Guarded property) (processReady : Attempt (Driver X) RaftLoopError Unit) := by
  let held (entries : List Entry) (driver : Driver X) : Prop :=
    property driver ∧ ∀ entry ∈ entries, Fits entry driver
  have weaken (entries : List Entry) (driver : Driver X) (holds : Guarded (held entries) driver) :
      Guarded property driver := fun obeys => (holds obeys).1
  have plain {entries : List Entry} {Value : Type} {first : Attempt (Driver X) RaftLoopError Value}
      (moves : Within Plain first) :
      Triple (Guarded (held entries)) first (fun _ => Guarded (held entries)) (Guarded property) :=
    Keeps.triple ((stable.fits entries).keeps moves) (weaken entries)
  have taken : Triple (Guarded property) (takeReady : Attempt (Driver X) RaftLoopError Ready)
      (fun ready => Guarded (held ready.committedEntries)) (Guarded property) := by
    intro driver holds obeys
    refine ⟨?_, fun entry inside => fits_of_handed rfl obeys inside⟩
    exact stable.plain driver _ (holds obeys.of_append) ⟨rfl, rfl, rfl, [_], rfl,
      by simp [Effect.plain, Effect.proposal, Effect.answered]⟩
  have advanced (entries : List Entry) (ready : Ready) : Triple (Guarded (held entries))
      (advance ready : Attempt (Driver X) RaftLoopError LightReady)
      (fun light => Guarded (held light.committedEntries)) (Guarded property) := by
    intro driver holds obeys
    refine ⟨?_, fun entry inside => fits_of_handed rfl obeys inside⟩
    exact stable.plain driver _ (holds obeys.of_append).1 ⟨rfl, rfl, rfl, [_], rfl,
      by simp [Effect.plain, Effect.proposal, Effect.answered]⟩
  have applied (entries : List Entry) : Triple (Guarded (held entries))
      (Driver.applyEntries entries : Attempt (Driver X) RaftLoopError Unit)
      (fun _ => Guarded (held entries)) (Guarded property) :=
    Keeps.triple (stable.applyEntries entries) (weaken entries)
  have whole : Triple (Guarded property) (Driver.processReady : Attempt (Driver X) RaftLoopError Unit)
      (fun _ => Guarded property) (Guarded property) := by
    apply Triple.bind taken
    intro ready
    apply Triple.bind (plain (plain_of_quiet (sendMessages_quiet _)))
    intro _
    apply Triple.bind (plain (applySnapshotPart_plain ready))
    intro _
    apply Triple.bind (plain (plain_of_stores (appendEntriesPart_stores ready)))
    intro _
    apply Triple.bind (plain (plain_of_stores (persistHardstatePart_stores ready)))
    intro _
    apply Triple.bind (plain (plain_of_quiet (sendMessages_quiet _)))
    intro _
    apply Triple.bind (applied ready.committedEntries)
    intro _
    apply Triple.bind (plain (plain_of_quiet updateTuiState_quiet))
    intro _
    apply Triple.bind (advanced _ _)
    intro light
    apply Triple.bind (plain (plain_of_quiet (sendMessages_quiet _)))
    intro _
    exact Triple.weaken (applied light.committedEntries) fun _ => weaken _
  exact fun driver holds => whole.final holds

end Stable

end Driver

end RaftATui
