import RaftATui.Proof.Driver.Ledger

namespace RaftATui
open Machinery
open Machinery.Trace (Obeys obeys_concat)

/-- Each RPC put brings its own channel. -/
def Action.putChannel : Action → Option Channel
  | .command (.rpc (.put _ _ resp)) => some resp
  | _ => none

def putChannels (actions : List Action) : List Channel := actions.filterMap Action.putChannel

namespace Driver

open Attempt (Within Keeps Triple)

variable {X : Externals} {requests : List Action}

/-- One action takes its channel from the pending ones and keeps the ledger. -/
theorem perform_ledger {action : Action} {pending : List Channel} (known : action ∈ requests)
    (fresh : ∀ channel, action.putChannel = some channel → channel ∉ pending) (driver : Driver X)
    (guarded : Guarded (Ledger requests (action.putChannel.toList ++ pending)) driver) :
    Guarded (Ledger requests pending) (perform action driver).2 := by
  have weaker : Guarded (Ledger requests pending) driver := fun obeys =>
    (guarded obeys).weaken fun _ inside => List.mem_append_right _ inside
  cases perform_cases action driver with
  | ready same =>
      subst same
      exact Ledger.stable.processReady driver weaker
  | plain moves => exact weaker.move moves.grows fun ledger => ledger.plain moves
  | byUser key value result middle proposes moves =>
      have proposed : Guarded (Ledger requests pending) middle := by
        refine weaker.move proposes.grows fun ledger => ?_
        have whole : Ledger requests ((none : Option Channel).toList ++ pending) driver := ledger
        exact whole.propose (by simp) (by simp) proposes
      exact proposed.move moves.grows fun ledger => ledger.plain moves
  | put key value resp result same proposes =>
      subst same
      refine guarded.move proposes.grows fun ledger => ledger.propose fresh ?_ proposes
      intro channel mine
      rw [← Option.some.inj mine]
      exact known
  | refused key value resp leader same answer =>
      subst same
      rw [answer]
      exact guarded.move ⟨_, rfl⟩ fun ledger => ledger.refuse (fresh resp rfl) leader

/-- A run keeps the ledger and what each action keeps beside it, whatever its outcome is. -/
theorem performAll_keeps {property : Driver X → Prop}
    (keeps : ∀ pending action driver,
      Guarded (fun driver => Ledger requests pending driver ∧ property driver) driver →
        Guarded property (perform action driver).2)
    (actions : List Action) (known : ∀ action ∈ actions, action ∈ requests)
    (channels : (putChannels actions).Nodup) (driver : Driver X)
    (guarded : Guarded (fun driver => Ledger requests (putChannels actions) driver ∧ property driver)
      driver) :
    Guarded (fun driver => Ledger requests [] driver ∧ property driver) (performAll actions driver).2 := by
  induction actions generalizing driver with
  | nil => exact guarded
  | cons action rest ih =>
      have split : putChannels (action :: rest) = action.putChannel.toList ++ putChannels rest := by
        cases mine : action.putChannel <;> simp [putChannels, mine]
      rw [split] at channels guarded
      have fresh (channel : Channel) (mine : action.putChannel = some channel) :
          channel ∉ putChannels rest := by
        rw [mine] at channels
        exact (List.nodup_cons.mp channels).1
      have ledger := perform_ledger (known action List.mem_cons_self) fresh driver
        fun obeys => (guarded obeys).1
      have beside := keeps _ action driver guarded
      have later := ih (fun other inside => known other (List.mem_cons_of_mem action inside))
        (List.nodup_append.mp channels).2.1
      rcases run : perform action driver with ⟨error | _, middle⟩
      · rw [run] at ledger beside
        have stopped : performAll (action :: rest) driver = _ := Attempt.bind_error _ run
        rw [stopped]
        exact fun obeys => ⟨(ledger obeys).weaken (by simp), beside obeys⟩
      · rw [run] at ledger beside
        have goes : performAll (action :: rest) driver = _ := Attempt.bind_ok _ run
        rw [goes]
        exact later middle fun obeys => ⟨ledger obeys, beside obeys⟩

/-- A put gets at most one answer. A success follows the application of the entry of the put, when the
map shows its value. A refused put is never proposed. -/
theorem performAll_acknowledges {start : Driver X} {actions : List Action} (fresh : Fresh start)
    (distinct : Function.Injective start.uuids) (channels : (putChannels actions).Nodup)
    (intact : Obeys Intact (performAll actions start).2.trace) :
    (answered (performAll actions start).2.trace).Nodup ∧
      Obeys (Acknowledges X.kvCodec actions) (performAll actions start).2.trace ∧
      ∀ channel text, .reply channel (.error text) ∈ (performAll actions start).2.trace →
        (∃ leader : Nat, text = s!"Not leader: {leader}") ∧
          ∀ proposal ∈ proposals (performAll actions start).2.trace, proposal.callback ≠ some channel := by
  have keeps : Guarded (fun driver => Ledger actions [] driver ∧ True) (performAll actions start).2 :=
    performAll_keeps (fun _ _ _ _ _ => trivial) actions (fun _ inside => inside) channels start
      fun _ => ⟨Ledger.start fresh distinct, trivial⟩
  obtain ⟨ledger, _⟩ := keeps intact
  exact ⟨ledger.once, ledger.acknowledged, ledger.refused⟩

/-- This leader applies one put and refuses the next one after a message deposed it. -/
def acknowledgeRun : Except RaftLoopError Unit × Driver scripted :=
  performAll [.command (.rpc (.put "k" "v" 7)), .ready, .message ⟨1, 2, []⟩,
      .command (.rpc (.put "k" "w" 8))] <| scriptedDriver
    (.begin .leader [{ Ready.default with committedEntries := [scriptedPut 1 1 0 "k" "v"] }] []
      [(.follower, [])])
    (.newWithDisk .new [])

/-- The leader acknowledges its first put and refuses the second one after it lost its role. -/
theorem performAll_acknowledges_deposed :
    answered acknowledgeRun.2.trace = [7, 8] ∧
      Obeys (Acknowledges Protobuf.kvCodec [.command (.rpc (.put "k" "v" 7)), .ready,
        .message ⟨1, 2, []⟩, .command (.rpc (.put "k" "w" 8))]) acknowledgeRun.2.trace := by
  have distinct : (putChannels [.command (.rpc (.put "k" "v" 7)), .ready, .message ⟨1, 2, []⟩,
      .command (.rpc (.put "k" "w" 8))]).Nodup := by decide
  have intact : Obeys Intact acknowledgeRun.2.trace := by decide +kernel
  refine ⟨by decide +kernel, ?_⟩
  rw [acknowledgeRun] at intact ⊢
  exact (performAll_acknowledges (scriptedDriver_fresh _ _) scriptedUuids_injective distinct intact).2.1

end Driver

end RaftATui
