import RaftATui.Proof.Driver.Acknowledge
import RaftATui.Proof.Driver.Calls

namespace RaftATui
open Machinery

/-- A GET brings a channel of its own kind. -/
def Action.getChannel : Action → Option Channel
  | .command (.rpc (.get _ resp)) => some resp
  | _ => none

def getChannels (actions : List Action) : List Channel := actions.filterMap Action.getChannel

def Effect.gotten : Effect → Option Channel
  | .replyGet channel _ => some channel
  | _ => none

/-- These are the answered GETs. -/
def gotten (trace : List Effect) : List Channel := trace.filterMap Effect.gotten

/-- The answered GETs of two traces stand behind each other. -/
theorem gotten_append (first second : List Effect) : gotten (first ++ second) = gotten first ++ gotten second :=
  List.filterMap_append

/-- These are the channels of the callbacks that wait. -/
def Driver.waiting {X : Externals} (driver : Driver X) : List Channel := driver.callbacks.toList.map Prod.snd

/-- Each callback that leaves the table is answered, and only these are. -/
structure Settles {X : Externals} (before after : Driver X) : Prop where
  uuids : after.uuids = before.uuids
  drawn : after.drawn = before.drawn
  held : ∀ (id : Bytes) (channel : Channel), after.callbacks[id]? = some channel → before.callbacks[id]? = some channel
  trace : ∃ added, after.trace = before.trace ++ added ∧ (answered added ++ after.waiting).Perm before.waiting

section Settles

variable {X : Externals} {before after : Driver X}

instance settlesPreorder : IsPreorder (Driver X) Settles where
  refl _ := ⟨rfl, rfl, fun _ _ => id, [], (List.append_nil _).symm, .refl _⟩
  trans first second third := by
    intro ⟨uuids, drawn, held, added, trace, balance⟩ ⟨uuids', drawn', held', added', trace', balance'⟩
    refine ⟨uuids'.trans uuids, drawn'.trans drawn, fun id channel found => held id channel (held' id channel found),
      added ++ added', ?_, ?_⟩
    · rw [trace', trace, List.append_assoc]
    · rw [answered_append, List.append_assoc]
      exact (balance'.append_left _).trans balance

/-- A plain step answers nobody and forgets nobody. -/
theorem Plain.settles (plain : Plain before after) : Settles before after := by
  obtain ⟨callbacks, uuids, drawn, added, trace, free⟩ := plain
  refine ⟨uuids, drawn, fun id channel found => callbacks ▸ found, added, trace, ?_⟩
  rw [answered_plain fun effect inside => (free effect inside).1, Driver.waiting, Driver.waiting, callbacks]
  exact .refl _

/-- A taken callback and its answer balance. -/
theorem answer_perm (callbacks : Std.ExtTreeMap Bytes Channel) (context : Bytes) (result : Except String Unit) :
    (answered (callbacks[context]?.map fun channel => Effect.reply channel result).toList ++
      (callbacks.erase context).toList.map Prod.snd).Perm (callbacks.toList.map Prod.snd) := by
  cases holds : callbacks[context]? with
  | none =>
      have same : callbacks.erase context = callbacks := by
        apply Std.ExtTreeMap.ext_getElem?
        intro other
        rw [OrderedTree.getElem?_erase]
        by_cases equal : context = other
        · rw [if_pos equal, ← equal, holds]
        · rw [if_neg equal]
      rw [same]
      exact .refl _
  | some channel => exact ((OrderedTree.toList_erase_perm holds).map Prod.snd).symm

/-- A delivered entry answers at most the channel that it takes from the table. -/
theorem Applies.settles {entry : Entry} (applies : Applies entry before after) : Settles before after := by
  have kept := applies.callbacks
  have notices {told : List Effect} (notified : ∀ notice ∈ told, ∃ update, notice = .notify update) (kv : KvMap) :
      answered (.applied entry kv :: told) = [] := by
    apply List.filterMap_eq_nil_iff.mpr
    intro effect inside
    rcases List.mem_cons.mp inside with rfl | notice
    · rfl
    · obtain ⟨update, rfl⟩ := notified effect notice
      rfl
  cases applies with
  | empty kv decoded uuids drawn callbacks trace =>
      refine ⟨uuids, drawn, kept, _, trace, ?_⟩
      rw [notices (by simp) kv, Driver.waiting, Driver.waiting, callbacks]
      exact .refl _
  | put kv put told decoded shown notified uuids drawn callbacks trace =>
      refine ⟨uuids, drawn, kept, _, trace.trans (List.append_assoc _ _ _), ?_⟩
      rw [answered_append, notices notified kv, Driver.waiting, Driver.waiting, callbacks]
      exact answer_perm before.callbacks entry.context (.ok ())
  | malformed kv text decoded uuids drawn callbacks trace =>
      refine ⟨uuids, drawn, kept, _, trace, ?_⟩
      rw [Driver.waiting, Driver.waiting, callbacks]
      exact answer_perm before.callbacks entry.context _

end Settles

namespace Driver

open Attempt (Within)

variable {X : Externals} {Value : Type}

/-- Plain computations settle. -/
theorem settles_of_plain {first : Attempt (Driver X) RaftLoopError Value} (plain : Within Plain first) :
    Within Settles first := fun driver => (plain driver).settles

/-- Quiet computations settle. -/
theorem settles_of_quiet {first : Attempt (Driver X) RaftLoopError Value} (quiet : Within Quiet first) :
    Within Settles first := fun driver => (quiet driver).plain.settles

/-- Computations that only store settle. -/
theorem settles_of_stores {first : Attempt (Driver X) RaftLoopError Value} (stores : Within Stores first) :
    Within Settles first := fun driver => (stores driver).plain.settles

/-- One entry answers what it takes from the table. -/
theorem applyEntry_settles (entry : Entry) :
    Within Settles (applyEntry entry : Attempt (Driver X) RaftLoopError Unit) := by
  unfold applyEntry
  split
  · exact Within.pure ()
  · split
    · have code : (applyNormalEntry entry : Attempt (Driver X) RaftLoopError Unit) =
          (applyKvCommand entry >>= reportApplied entry) >>= fun _ => setAppliedIndex entry.index := by
        rw [Attempt.bind_assoc]
        rfl
      rw [code]
      apply Within.bind
      · exact fun driver => (applyNormal_applies entry driver).settles
      · exact fun _ => settles_of_stores (setAppliedIndex_stores entry.index)
    · exact settles_of_plain (applyConfEntry_plain _ entry)
    · exact settles_of_plain (applyConfEntry_plain _ entry)

/-- A batch of entries answers what it takes from the table. -/
theorem applyEntries_settles (entries : List Entry) :
    Within Settles (applyEntries entries : Attempt (Driver X) RaftLoopError Unit) :=
  Within.forEach entries fun entry _ => applyEntry_settles entry

/-- A processed ready answers the callbacks that it takes. -/
theorem processReady_settles : Within Settles (processReady : Attempt (Driver X) RaftLoopError Unit) := by
  have hands (driver after : Driver X) (event : Effect) (silent : event.plain) (none : ∀ entry kv, event ≠ .applied entry kv)
      (same : after.callbacks = driver.callbacks ∧ after.uuids = driver.uuids ∧ after.drawn = driver.drawn)
      (trace : after.trace = driver.trace ++ [event]) : Settles driver after := by
    refine Plain.settles ⟨same.1, same.2.1, same.2.2, [event], trace, ?_⟩
    rw [List.forall_mem_singleton]
    exact ⟨silent, none⟩
  unfold processReady
  apply Within.bind
  · exact fun driver => hands driver _ _ ⟨rfl, rfl⟩ (by simp) ⟨rfl, rfl, rfl⟩ rfl
  intro ready
  apply Within.bind (settles_of_quiet (sendMessages_quiet _))
  intro _
  apply Within.bind (settles_of_plain (applySnapshotPart_plain ready))
  intro _
  apply Within.bind (settles_of_stores (appendEntriesPart_stores ready))
  intro _
  apply Within.bind (settles_of_stores (persistHardstatePart_stores ready))
  intro _
  apply Within.bind (settles_of_quiet (sendMessages_quiet _))
  intro _
  apply Within.bind (applyEntries_settles _)
  intro _
  apply Within.bind (settles_of_quiet updateTuiState_quiet)
  intro _
  apply Within.bind
  · exact fun driver => hands driver _ _ ⟨rfl, rfl⟩ (by simp) ⟨rfl, rfl, rfl⟩ rfl
  intro light
  apply Within.bind (settles_of_quiet (sendMessages_quiet _))
  exact fun _ => applyEntries_settles _

/-- The answered and the waiting channels together are the asked ones. -/
structure Accounts (asked : List Channel) (driver : Driver X) : Prop where
  distinct : Function.Injective driver.uuids
  drawn : ∀ (id : Bytes) (channel : Channel), driver.callbacks[id]? = some channel →
    ∃ number < driver.drawn, id = driver.uuids number
  balance : (answered driver.trace ++ driver.waiting).Perm asked

section Accounts

variable {asked : List Channel} {before after : Driver X}

/-- At the start nobody asked, and nobody was answered. -/
theorem Accounts.start {driver : Driver X} (fresh : Fresh driver) (distinct : Function.Injective driver.uuids) :
    Accounts [] driver where
  distinct := distinct
  drawn := by simp [fresh.callbacks]
  balance := by simp [fresh.trace, waiting, fresh.callbacks, answered]

/-- A settling step keeps the accounts. -/
theorem Accounts.settle (accounts : Accounts asked before) (settles : Settles before after) :
    Accounts asked after := by
  obtain ⟨uuids, drawn, held, added, trace, balance⟩ := settles
  constructor
  case distinct => rw [uuids]; exact accounts.distinct
  case drawn =>
    rw [uuids, drawn]
    exact fun id channel found => accounts.drawn id channel (held id channel found)
  case balance =>
    rw [trace, answered_append, List.append_assoc]
    exact (balance.append_left _).trans accounts.balance

/-- A new callback waits under a new id. -/
theorem Accounts.propose {key value : String} {callback : Option Channel} {result : Except RaftError Unit}
    (accounts : Accounts asked before) (proposes : Proposes key value callback result before after) :
    Accounts (asked ++ callback.toList) after := by
  obtain ⟨uuids, drawn, callbacks, trace, _, _⟩ := proposes
  have same : answered after.trace = answered before.trace := by simp [trace, answered, Effect.answered]
  have unused : before.callbacks[before.uuids before.drawn]? = none := by
    by_contra found
    obtain ⟨channel, holds⟩ := Option.ne_none_iff_exists'.mp found
    obtain ⟨number, below, equal⟩ := accounts.drawn _ channel holds
    exact absurd (accounts.distinct equal) (by omega)
  have joined : after.waiting.Perm (before.waiting ++ callback.toList) := by
    rw [waiting, waiting, callbacks]
    cases callback with
    | none => rw [Option.toList_none, List.append_nil]
    | some channel =>
        exact ((OrderedTree.toList_insert_perm unused channel).map Prod.snd).trans (List.perm_append_singleton _ _).symm
  constructor
  case distinct => rw [uuids]; exact accounts.distinct
  case drawn =>
    intro id channel found
    rw [uuids, drawn]
    have lookup : id = before.uuids before.drawn ∨ before.callbacks[id]? = some channel := by
      rw [callbacks] at found
      cases callback with
      | none => exact Or.inr found
      | some own =>
          rw [OrderedTree.getElem?_insert] at found
          by_cases equal : before.uuids before.drawn = id
          · exact Or.inl equal.symm
          · rw [if_neg equal] at found
            exact Or.inr found
    rcases lookup with rfl | old
    · exact ⟨before.drawn, by omega, rfl⟩
    · obtain ⟨number, below, equal⟩ := accounts.drawn id channel old
      exact ⟨number, by omega, equal⟩
  case balance =>
    rw [same]
    refine (joined.append_left _).trans ?_
    rw [← List.append_assoc]
    exact accounts.balance.append_right _

/-- A refused PUT is asked and answered at once. -/
theorem Accounts.refuse {channel : Channel} (accounts : Accounts asked before) (text : String) :
    Accounts (asked ++ [channel]) { before with trace := before.trace ++ [.reply channel (.error text)] } := by
  constructor
  case distinct => exact accounts.distinct
  case drawn => exact accounts.drawn
  case balance =>
    have more : answered (before.trace ++ [.reply channel (.error text)]) = answered before.trace ++ [channel] := by
      simp [answered, Effect.answered]
    rw [more]
    change ((answered before.trace ++ [channel]) ++ before.waiting).Perm _
    refine List.Perm.trans ?_ (accounts.balance.append_right [channel])
    rw [List.append_assoc, List.append_assoc]
    exact List.perm_append_comm.append_left _

end Accounts

/-- Only a GET is answered as one. -/
theorem perform_gotten (action : Action) (driver : Driver X) :
    gotten (perform action driver).2.trace = gotten driver.trace ++ action.getChannel.toList := by
  by_cases get : ∃ key resp, action = .command (.rpc (.get key resp))
  · obtain ⟨key, resp, rfl⟩ := get
    exact gotten_append driver.trace [.replyGet resp driver.kvNode.kv[key]?]
  · have silent : action.getChannel = none := by
      unfold Action.getChannel
      split
      · exact absurd ⟨_, _, rfl⟩ get
      · rfl
    have adds : Within (Adds fun effect => effect.gotten = none) (perform action : Attempt (Driver X) RaftLoopError Unit) := by
      apply perform_adds
      · exact fun effect inside => by cases effect <;> first | rfl | exact absurd inside id
      · exact fun _ _ => rfl
      · exact fun _ => rfl
      · exact fun _ => rfl
      · exact fun _ => rfl
      · exact fun key resp same => absurd ⟨key, resp, same⟩ get
    obtain ⟨added, trace, none⟩ := adds driver
    have quiet : gotten added = [] := List.filterMap_eq_nil_iff.mpr none
    rw [trace, gotten_append, silent, quiet]
    rfl

/-- One action accounts for its own request. -/
theorem perform_accounts {asked : List Channel} {driver : Driver X} (accounts : Accounts asked driver)
    (action : Action) : Accounts (asked ++ action.putChannel.toList) (perform action driver).2 := by
  by_cases put : ∃ key value resp, action = .command (.rpc (.put key value resp))
  · obtain ⟨key, value, resp, rfl⟩ := put
    change Accounts (asked ++ [resp]) (handleRpcCommand (.put key value resp) driver).2
    rcases handlePut_cases key value resp driver with ⟨leading, same⟩ | ⟨_, same⟩
    · rw [same]
      rcases proposeCommand_cases key value (some resp) driver with ⟨idle, _⟩ | ⟨_, result, proposes⟩
      · rw [leading] at idle
        cases idle
      · exact accounts.propose proposes
    · rw [same]
      exact accounts.refuse _
  · have silent : action.putChannel = none := by
      unfold Action.putChannel
      split
      · exact absurd ⟨_, _, _, rfl⟩ put
      · rfl
    rw [silent, Option.toList_none, List.append_nil]
    cases perform_cases action driver with
    | ready same =>
        subst same
        exact accounts.settle (processReady_settles driver)
    | plain moves => exact accounts.settle moves.settles
    | byUser key value result middle proposes moves =>
        have proposed := accounts.propose proposes
        rw [Option.toList_none, List.append_nil] at proposed
        exact proposed.settle moves.settles
    | put key value resp result same proposes => exact absurd ⟨key, value, resp, same⟩ put
    | refused key value resp leader same answer => exact absurd ⟨key, value, resp, same⟩ put

def accountedStart : Driver scripted := scriptedDriver
  (.begin .leader [{ Ready.default with committedEntries := [scriptedPut 1 1 0 "k" "v"] }] [] []) (.newWithDisk .new [])

/-- The node of the example starts fresh. -/
theorem accountedStart_fresh : Fresh accountedStart := scriptedDriver_fresh _ _

end Driver

end RaftATui
