import RaftATui.Proof.Driver.Moves

namespace RaftATui
open Machinery
open Machinery.Trace (Obeys obeys_concat)

/-- A success is told right after the entry of the put was applied and the map shows its value. -/
def Acknowledges (codec : KvCodec) (requests : List Action) (before : List Effect) : Effect → Prop
  | .reply channel (.ok _) =>
      ∃ earlier entry kv notices key value, before = earlier ++ .applied entry kv :: notices ∧
        (∀ notice ∈ notices, ∃ update, notice = .notify update) ∧ entry ∈ handed earlier ∧
        .command (.rpc (.put key value channel)) ∈ requests ∧ kv[key]? = some value ∧
        ∃ proposal ∈ proposals earlier, proposal.id = entry.context ∧
          proposal.callback = some channel ∧ proposal.data = codec.encodePutCommand key value
  | _ => True

/-- The invariant relates the callbacks, the proposals and the answers. Pending channels are untouched. -/
structure Ledger {X : Externals} (requests : List Action) (pending : List Channel)
    (driver : Driver X) : Prop where
  distinct : Function.Injective driver.uuids
  drawn : ∀ proposal ∈ proposals driver.trace, ∃ number < driver.drawn,
    proposal.id = driver.uuids number
  single : ((proposals driver.trace).map Proposal.id).Nodup
  requested : ∀ proposal ∈ proposals driver.trace, ∃ key value,
    proposal.data = X.kvCodec.encodePutCommand key value ∧
      ∀ channel, proposal.callback = some channel → .command (.rpc (.put key value channel)) ∈ requests
  held : ∀ (id : Bytes) (channel : Channel), driver.callbacks[id]? = some channel →
    ∃ proposal ∈ proposals driver.trace, proposal.id = id ∧ proposal.callback = some channel
  owner : ∀ (id other : Bytes) (channel : Channel), driver.callbacks[id]? = some channel →
    driver.callbacks[other]? = some channel → id = other
  once : (answered driver.trace).Nodup
  waiting : ∀ channel ∈ answered driver.trace, ∀ id : Bytes, driver.callbacks[id]? ≠ some channel
  pending : ∀ channel ∈ pending, channel ∉ answered driver.trace ∧
    ∀ proposal ∈ proposals driver.trace, proposal.callback ≠ some channel
  refused : ∀ channel text, .reply channel (.error text) ∈ driver.trace →
    (∃ leader : Nat, text = s!"Not leader: {leader}") ∧
      ∀ proposal ∈ proposals driver.trace, proposal.callback ≠ some channel
  acknowledged : Obeys (Acknowledges X.kvCodec requests) driver.trace

variable {X : Externals} {requests : List Action} {pending : List Channel}

namespace Ledger

/-- A fresh driver starts with an empty ledger. -/
theorem start {driver : Driver X} (fresh : Fresh driver) (distinct : Function.Injective driver.uuids) :
    Ledger requests pending driver where
  distinct := distinct
  drawn := by simp [fresh.trace, proposals]
  single := by simp [fresh.trace, proposals]
  requested := by simp [fresh.trace, proposals]
  held := by simp [fresh.callbacks]
  owner := by simp [fresh.callbacks]
  once := by simp [fresh.trace, RaftATui.answered]
  waiting := by simp [fresh.trace, RaftATui.answered]
  pending := by simp [fresh.trace, RaftATui.answered, proposals]
  refused := by simp [fresh.trace]
  acknowledged := by simp [fresh.trace]

/-- Plain effects keep the ledger. -/
theorem extend {before after : Driver X} {added : List Effect} (ledger : Ledger requests pending before)
    (callbacks : after.callbacks = before.callbacks) (uuids : after.uuids = before.uuids)
    (drawn : after.drawn = before.drawn) (trace : after.trace = before.trace ++ added)
    (free : ∀ effect ∈ added, effect.plain) : Ledger requests pending after := by
  have same : proposals after.trace = proposals before.trace := by
    rw [trace, proposals_append, proposals_plain free, List.append_nil]
  have quiet : answered after.trace = answered before.trace := by
    rw [trace, answered_append, answered_plain free, List.append_nil]
  constructor
  case distinct => rw [uuids]; exact ledger.distinct
  case drawn => rw [same, drawn, uuids]; exact ledger.drawn
  case single => rw [same]; exact ledger.single
  case requested => rw [same]; exact ledger.requested
  case held => rw [same, callbacks]; exact ledger.held
  case owner => rw [callbacks]; exact ledger.owner
  case once => rw [quiet]; exact ledger.once
  case waiting => rw [quiet, callbacks]; exact ledger.waiting
  case pending => rw [quiet, same]; exact ledger.pending
  case refused =>
    intro channel text inside
    rw [same]
    rw [trace] at inside
    rcases List.mem_append.mp inside with old | new
    · exact ledger.refused channel text old
    · exact absurd (free _ new).2 (by simp [Effect.answered])
  case acknowledged =>
    rw [trace]
    apply ledger.acknowledged.append
    intro effect inside earlier
    cases effect with
    | reply channel result => exact absurd (free _ inside).2 (by simp [Effect.answered])
    | _ => trivial

/-- A plain move keeps the ledger. -/
theorem plain {before after : Driver X} (ledger : Ledger requests pending before)
    (plain : Plain before after) : Ledger requests pending after := by
  obtain ⟨added, trace, free⟩ := plain.trace
  exact ledger.extend plain.callbacks plain.uuids plain.drawn trace fun effect inside =>
    (free effect inside).1

/-- Fewer channels may stay pending. -/
theorem weaken {driver : Driver X} {fewer : List Channel} (ledger : Ledger requests pending driver)
    (part : ∀ channel ∈ fewer, channel ∈ pending) : Ledger requests fewer driver :=
  { ledger with pending := fun channel inside => ledger.pending channel (part channel inside) }

/-- A removed callback keeps the ledger. -/
theorem erase {driver : Driver X} (ledger : Ledger requests pending driver) (context : Bytes) :
    Ledger requests pending { driver with callbacks := driver.callbacks.erase context } := by
  have kept (id : Bytes) (channel : Channel)
      (found : (driver.callbacks.erase context)[id]? = some channel) :
      driver.callbacks[id]? = some channel := by
    rw [Std.ExtTreeMap.getElem?_erase] at found
    split at found
    · cases found
    · exact found
  exact { ledger with
    held := fun id channel found => ledger.held id channel (kept id channel found)
    owner := fun id other channel found same =>
      ledger.owner id other channel (kept id channel found) (kept other channel same)
    waiting := fun channel inside id found => ledger.waiting channel inside id (kept id channel found) }

/-- A refusal of a pending put keeps the ledger. -/
theorem refuse {driver : Driver X} {channel : Channel}
    (ledger : Ledger requests (channel :: pending) driver) (fresh : channel ∉ pending) (leader : Nat) :
    Ledger requests pending { driver with
      trace := driver.trace ++ [.reply channel (.error s!"Not leader: {leader}")] } := by
  obtain ⟨unanswered, unproposed⟩ := ledger.pending channel List.mem_cons_self
  have same : proposals (driver.trace ++ [.reply channel (.error s!"Not leader: {leader}")]) =
      proposals driver.trace := by simp [proposals, Effect.proposal]
  have more : answered (driver.trace ++ [.reply channel (.error s!"Not leader: {leader}")]) =
      answered driver.trace ++ [channel] := by simp [answered, Effect.answered]
  constructor
  case distinct => exact ledger.distinct
  case drawn => rw [same]; exact ledger.drawn
  case single => rw [same]; exact ledger.single
  case requested => rw [same]; exact ledger.requested
  case held => rw [same]; exact ledger.held
  case owner => exact ledger.owner
  case once =>
    rw [more, List.nodup_append]
    refine ⟨ledger.once, List.nodup_singleton channel, ?_⟩
    intro first old second new equal
    rw [List.mem_singleton.mp new] at equal
    exact unanswered (equal ▸ old)
  case waiting =>
    rw [more]
    intro other inside id found
    rcases List.mem_append.mp inside with old | new
    · exact ledger.waiting other old id found
    · rw [List.mem_singleton.mp new] at found
      obtain ⟨proposal, made, _, back⟩ := ledger.held id channel found
      exact unproposed proposal made back
  case pending =>
    rw [same, more]
    intro other inside
    obtain ⟨silent, free⟩ := ledger.pending other (List.mem_cons_of_mem channel inside)
    refine ⟨?_, free⟩
    simp only [List.mem_append, List.mem_singleton, not_or]
    exact ⟨silent, fun equal => fresh (equal ▸ inside)⟩
  case refused =>
    rw [same]
    intro other text inside
    rcases List.mem_append.mp inside with old | new
    · exact ledger.refused other text old
    · simp only [List.mem_singleton, Effect.reply.injEq, Except.error.injEq] at new
      rw [new.1, new.2]
      exact ⟨⟨leader, rfl⟩, unproposed⟩
  case acknowledged => exact obeys_concat.mpr ⟨ledger.acknowledged, trivial⟩

/-- An answer to the holder of a callback keeps the ledger. -/
theorem answer {driver : Driver X} {context : Bytes} {channel : Channel}
    (ledger : Ledger requests pending driver) (holds : driver.callbacks[context]? = some channel)
    (earned : Acknowledges X.kvCodec requests driver.trace (.reply channel (.ok ()))) :
    Ledger requests pending { driver with
      callbacks := driver.callbacks.erase context
      trace := driver.trace ++ [.reply channel (.ok ())] } := by
  have erased := ledger.erase context
  have same : proposals (driver.trace ++ [.reply channel (.ok ())]) = proposals driver.trace := by
    simp [proposals, Effect.proposal]
  have more : answered (driver.trace ++ [.reply channel (.ok ())]) =
      answered driver.trace ++ [channel] := by simp [answered, Effect.answered]
  have unanswered : channel ∉ answered driver.trace := fun inside =>
    ledger.waiting channel inside context holds
  have gone (id : Bytes) : (driver.callbacks.erase context)[id]? ≠ some channel := by
    intro found
    rw [OrderedTree.getElem?_erase] at found
    split at found
    · cases found
    · case isFalse other => exact other (ledger.owner context id channel holds found)
  constructor
  case distinct => exact erased.distinct
  case drawn => rw [same]; exact erased.drawn
  case single => rw [same]; exact erased.single
  case requested => rw [same]; exact erased.requested
  case held => rw [same]; exact erased.held
  case owner => exact erased.owner
  case once =>
    rw [more, List.nodup_append]
    exact ⟨ledger.once, List.nodup_singleton channel, fun first old second new equal =>
      unanswered (List.mem_singleton.mp new ▸ equal ▸ old)⟩
  case waiting =>
    rw [more]
    intro other inside id
    rcases List.mem_append.mp inside with old | new
    · exact erased.waiting other old id
    · rw [List.mem_singleton.mp new]
      exact gone id
  case pending =>
    rw [same, more]
    intro other inside
    obtain ⟨silent, free⟩ := ledger.pending other inside
    obtain ⟨proposal, made, _, back⟩ := ledger.held context channel holds
    simp only [List.mem_append, List.mem_singleton, not_or]
    exact ⟨⟨silent, fun equal => free proposal made (equal ▸ back)⟩, free⟩
  case refused =>
    rw [same]
    intro other text inside
    rcases List.mem_append.mp inside with old | new
    · exact ledger.refused other text old
    · simp at new
  case acknowledged => exact obeys_concat.mpr ⟨ledger.acknowledged, earned⟩

/-- A proposal under a new id keeps the ledger. Its callback leaves the pending channels. -/
theorem propose {before after : Driver X} {key value : String} {callback : Option Channel}
    {result : Except RaftError Unit} (ledger : Ledger requests (callback.toList ++ pending) before)
    (fresh : ∀ channel, callback = some channel → channel ∉ pending)
    (request : ∀ channel, callback = some channel →
      .command (.rpc (.put key value channel)) ∈ requests)
    (proposes : Proposes key value callback result before after) : Ledger requests pending after := by
  obtain ⟨uuids, drawn, callbacks, trace, _, _⟩ := proposes
  let made : Proposal :=
    ⟨before.uuids before.drawn, X.kvCodec.encodePutCommand key value, callback, result⟩
  have more : proposals after.trace = proposals before.trace ++ [made] := by
    simp [trace, proposals, Effect.proposal, made]
  have same : answered after.trace = answered before.trace := by
    simp [trace, answered, Effect.answered]
  have unused (proposal : Proposal) (inside : proposal ∈ proposals before.trace) :
      proposal.id ≠ before.uuids before.drawn := by
    obtain ⟨number, below, named⟩ := ledger.drawn proposal inside
    intro equal
    have clash := ledger.distinct (named.symm.trans equal)
    omega
  have first (channel : Channel) (mine : callback = some channel) :
      channel ∉ answered before.trace ∧
        ∀ proposal ∈ proposals before.trace, proposal.callback ≠ some channel :=
    ledger.pending channel (by simp [mine])
  have lookup (id : Bytes) (channel : Channel) (found : after.callbacks[id]? = some channel) :
      (id = before.uuids before.drawn ∧ callback = some channel) ∨
        before.callbacks[id]? = some channel := by
    rw [callbacks] at found
    cases callback with
    | none => exact Or.inr found
    | some own =>
        simp only [OrderedTree.getElem?_insert] at found
        split at found
        · case isTrue equal => exact Or.inl ⟨equal.symm, found⟩
        · exact Or.inr found
  have unheld (id : Bytes) (channel : Channel) (mine : callback = some channel) :
      before.callbacks[id]? ≠ some channel := by
    intro found
    obtain ⟨proposal, inside, _, back⟩ := ledger.held id channel found
    exact (first channel mine).2 proposal inside back
  constructor
  case distinct => rw [uuids]; exact ledger.distinct
  case drawn =>
    rw [more, uuids, drawn, List.forall_mem_append, List.forall_mem_singleton]
    constructor
    · intro proposal inside
      obtain ⟨number, below, named⟩ := ledger.drawn proposal inside
      exact ⟨number, by omega, named⟩
    · exact ⟨before.drawn, by omega, rfl⟩
  case single =>
    rw [more, List.map_append, List.nodup_append]
    exact ⟨ledger.single, List.nodup_singleton _, by simpa [made] using unused⟩
  case requested =>
    rw [more, List.forall_mem_append, List.forall_mem_singleton]
    exact ⟨ledger.requested, key, value, rfl, request⟩
  case held =>
    rw [more]
    intro id channel found
    rcases lookup id channel found with ⟨own, mine⟩ | old
    · exact ⟨made, List.mem_append_right _ (List.mem_singleton_self made), own.symm, mine⟩
    · obtain ⟨proposal, inside, named, back⟩ := ledger.held id channel old
      exact ⟨proposal, List.mem_append_left _ inside, named, back⟩
  case owner =>
    intro id other channel found second
    rcases lookup id channel found with ⟨own, mine⟩ | old
    · rcases lookup other channel second with ⟨own', _⟩ | old'
      · rw [own, own']
      · exact absurd old' (unheld other channel mine)
    · rcases lookup other channel second with ⟨_, mine⟩ | old'
      · exact absurd old (unheld id channel mine)
      · exact ledger.owner id other channel old old'
  case once => rw [same]; exact ledger.once
  case waiting =>
    rw [same]
    intro channel inside id found
    rcases lookup id channel found with ⟨_, mine⟩ | old
    · exact (first channel mine).1 inside
    · exact ledger.waiting channel inside id old
  case pending =>
    rw [same, more]
    intro channel inside
    obtain ⟨silent, free⟩ := ledger.pending channel (List.mem_append_right _ inside)
    rw [List.forall_mem_append, List.forall_mem_singleton]
    exact ⟨silent, free, fun mine => fresh channel mine inside⟩
  case refused =>
    rw [more, trace]
    intro channel text inside
    have earlier : .reply channel (.error text) ∈ before.trace := by simpa using inside
    obtain ⟨wording, free⟩ := ledger.refused channel text earlier
    have told : channel ∈ answered before.trace := List.mem_filterMap.mpr ⟨_, earlier, rfl⟩
    rw [List.forall_mem_append, List.forall_mem_singleton]
    exact ⟨wording, free, fun mine => (first channel mine).1 told⟩
  case acknowledged =>
    rw [trace]
    exact obeys_concat.mpr ⟨ledger.acknowledged, trivial⟩

/-- The application of a fitting entry keeps the ledger. -/
theorem applies {entry : Entry} {before after : Driver X} (ledger : Ledger requests pending before)
    (fits : Driver.Fits entry before) (applies : Applies entry before after) :
    Ledger requests pending after := by
  have own (channel : Channel) (holds : before.callbacks[entry.context]? = some channel) :
      ∃ key value, .command (.rpc (.put key value channel)) ∈ requests ∧
        X.kvCodec.decode entry.data = .ok ⟨some ⟨key, value⟩⟩ ∧
        ∃ proposal ∈ proposals before.trace, proposal.id = entry.context ∧
          proposal.callback = some channel ∧
          proposal.data = X.kvCodec.encodePutCommand key value := by
    obtain ⟨proposal, made, named, back⟩ := ledger.held entry.context channel holds
    obtain ⟨key, value, written, asked⟩ := ledger.requested proposal made
    refine ⟨key, value, asked channel back, ?_, proposal, made, named, back, written⟩
    rw [fits.2 proposal made named.symm, written]
    exact X.kvCodec.decode_encode _
  cases applies with
  | empty kv decoded uuids drawn callbacks trace =>
      exact ledger.extend callbacks uuids drawn trace
        (by simp [Effect.plain, Effect.proposal, Effect.answered])
  | put kv put notices decoded shown notified uuids drawn callbacks trace =>
      let middle : Driver X := { before with trace := before.trace ++ .applied entry kv :: notices }
      have free : ∀ effect ∈ .applied entry kv :: notices, effect.plain := by
        intro effect inside
        rcases List.mem_cons.mp inside with rfl | notice
        · exact ⟨rfl, rfl⟩
        · obtain ⟨update, rfl⟩ := notified effect notice
          exact ⟨rfl, rfl⟩
      have shownLedger : Ledger requests pending middle := ledger.extend rfl rfl rfl rfl free
      cases holds : before.callbacks[entry.context]? with
      | none =>
          rw [holds] at trace
          exact (shownLedger.erase entry.context).extend callbacks uuids drawn trace (by simp)
      | some channel =>
          rw [holds] at trace
          obtain ⟨key, value, asked, reads, proposal, made, named, back, written⟩ := own channel holds
          have same : put = ⟨key, value⟩ := by
            rw [decoded] at reads
            simpa using reads
          have earned : Acknowledges X.kvCodec requests middle.trace (.reply channel (.ok ())) :=
            ⟨before.trace, entry, kv, notices, key, value, rfl, notified, fits.1, asked,
              by rw [same] at shown; exact shown, proposal, made, named, back, written⟩
          exact (shownLedger.answer holds earned).extend callbacks uuids drawn
            (by rw [trace, List.append_nil]; rfl) (by simp)
  | malformed kv text decoded uuids drawn callbacks trace =>
      -- The data of a held callback decodes, so nobody waits for this entry.
      cases holds : before.callbacks[entry.context]? with
      | none =>
          rw [holds] at trace
          exact (ledger.erase entry.context).extend callbacks uuids drawn trace
            (by simp [Effect.plain, Effect.proposal, Effect.answered])
      | some channel =>
          obtain ⟨key, value, asked, reads, _⟩ := own channel holds
          rw [decoded] at reads
          cases reads

/-- The ledger is a stable property of the driver. -/
theorem stable : Driver.Stable (Ledger (X := X) requests pending) where
  plain _ _ ledger plain := ledger.plain plain
  applies _ _ _ ledger fits applies := ledger.applies fits applies

end Ledger

end RaftATui
