import RaftATui.Proof.Driver.Acknowledge
import RaftATui.Proof.Driver.Queued

namespace RaftATui
open Machinery
open Machinery.Trace (Obeys obeys_concat obeys_append)

/-- An entry with this context is applied only before the put with this id is proposed. -/
def Unapplied (id : Bytes) (earlier : List Effect) (event : Effect) : Prop :=
  ∀ entry kv, event = .applied entry kv → entry.context = id →
    ∀ proposal ∈ proposals earlier, proposal.id ≠ id

/-- A put was answered after an entry with its id was applied. -/
def Settled (trace : List Effect) (proposal : Proposal) (channel : Channel) : Prop :=
  ∃ earlier entry kv later result, trace = earlier ++ .applied entry kv :: later ∧
    proposal ∈ proposals earlier ∧ entry.context = proposal.id ∧ .reply channel result ∈ later

/-- A held callback waits for an unapplied entry. A put that is no longer held is settled. -/
structure Waits {X : Externals} (driver : Driver X) : Prop where
  unapplied : ∀ (id : Bytes) (channel : Channel), driver.callbacks[id]? = some channel →
    Obeys (Unapplied id) driver.trace
  settled : ∀ proposal ∈ proposals driver.trace, ∀ channel, proposal.callback = some channel →
    driver.callbacks[proposal.id]? = some channel ∨ Settled driver.trace proposal channel

variable {X : Externals} {requests : List Action} {pending : List Channel}

/-- A settled proposal stays settled. -/
theorem Settled.grow {trace : List Effect} {proposal : Proposal} {channel : Channel}
    (settled : Settled trace proposal channel) (added : List Effect) :
    Settled (trace ++ added) proposal channel := by
  obtain ⟨earlier, entry, kv, later, result, split, made, named, told⟩ := settled
  refine ⟨earlier, entry, kv, later ++ added, result, ?_, made, named, List.mem_append_left _ told⟩
  rw [split, List.append_assoc, List.cons_append]

namespace Waits

/-- Nothing waits in a fresh driver. -/
theorem start {driver : Driver X} (fresh : Fresh driver) : Waits driver where
  unapplied := by simp [fresh.callbacks]
  settled := by simp [fresh.trace, proposals]

/-- Effects that propose nothing and apply nothing keep the waiting callbacks. -/
theorem extend {before after : Driver X} {added : List Effect} (waits : Waits before)
    (callbacks : after.callbacks = before.callbacks) (trace : after.trace = before.trace ++ added)
    (silent : ∀ effect ∈ added, effect.proposal = none)
    (unapplied : ∀ effect ∈ added, ∀ entry kv, effect ≠ .applied entry kv) : Waits after where
  unapplied := by
    rw [callbacks, trace]
    intro id channel found
    apply (waits.unapplied id channel found).append
    intro effect inside earlier entry kv same
    exact absurd same (unapplied effect inside entry kv)
  settled := by
    have same : proposals after.trace = proposals before.trace := by
      have none : proposals added = [] := List.filterMap_eq_nil_iff.mpr silent
      rw [trace, proposals_append, none, List.append_nil]
    rw [same, callbacks, trace]
    intro proposal made channel back
    exact (waits.settled proposal made channel back).imp id fun settled => settled.grow added

/-- A plain step keeps what waits. -/
theorem plain {before after : Driver X} (waits : Waits before) (plain : Plain before after) :
    Waits after := by
  obtain ⟨added, trace, free⟩ := plain.trace
  exact waits.extend plain.callbacks trace (fun effect inside => (free effect inside).1.1)
    fun effect inside => (free effect inside).2

/-- A taken callback is settled by the answer behind the applied entry. -/
theorem take {entry : Entry} {kv : KvMap} {result : Except String Unit} {before after : Driver X}
    (notices : List Effect) (waits : Waits before)
    (callbacks : after.callbacks = before.callbacks.erase entry.context)
    (trace : after.trace = before.trace ++ .applied entry kv :: notices ++
      (before.callbacks[entry.context]?.map fun channel => Effect.reply channel result).toList)
    (notified : ∀ notice ∈ notices, ∃ update, notice = .notify update) : Waits after := by
  let answer := (before.callbacks[entry.context]?.map fun channel => Effect.reply channel result).toList
  have kinds : ∀ effect ∈ notices ++ answer, effect.proposal = none ∧
      ∀ entry kv, effect ≠ .applied entry kv := by
    intro effect inside
    rcases List.mem_append.mp inside with notice | last
    · obtain ⟨update, rfl⟩ := notified effect notice
      exact ⟨rfl, by simp⟩
    · obtain ⟨channel, _, rfl⟩ := Option.map_eq_some_iff.mp (Option.mem_toList.mp last)
      exact ⟨rfl, by simp⟩
  have whole : after.trace = before.trace ++ .applied entry kv :: (notices ++ answer) := by
    rw [trace, List.append_assoc, List.cons_append]
  have same : proposals after.trace = proposals before.trace := by
    have none : proposals (.applied entry kv :: (notices ++ answer)) = [] := by
      apply List.filterMap_eq_nil_iff.mpr
      intro effect inside
      rcases List.mem_cons.mp inside with rfl | later
      · rfl
      · exact (kinds effect later).1
    rw [whole, proposals_append, none, List.append_nil]
  constructor
  case unapplied =>
    intro id channel found
    rw [callbacks, OrderedTree.getElem?_erase] at found
    split at found
    · cases found
    · case isFalse other =>
        rw [whole, List.append_cons]
        have first : Obeys (Unapplied id) (before.trace ++ [.applied entry kv]) := by
          refine obeys_concat.mpr ⟨waits.unapplied id channel found, ?_⟩
          intro applied map equal named
          rw [Effect.applied.injEq] at equal
          exact absurd (equal.1 ▸ named) other
        apply first.append
        intro effect inside earlier applied map equal
        exact absurd equal ((kinds effect inside).2 applied map)
  case settled =>
    rw [same]
    intro proposal made channel back
    rcases waits.settled proposal made channel back with holds | settled
    · by_cases named : entry.context = proposal.id
      · refine Or.inr ⟨before.trace, entry, kv, notices ++ answer, result, whole, made, named, ?_⟩
        have last : answer = [.reply channel result] := by simp [answer, named, holds]
        rw [last]
        exact List.mem_append_right _ (List.mem_singleton_self _)
      · refine Or.inl ?_
        rw [callbacks, OrderedTree.getElem?_erase, if_neg named]
        exact holds
    · rw [whole]
      exact Or.inr (settled.grow _)

/-- The application of a fitting entry keeps the waiting callbacks. -/
theorem applies {entry : Entry} {before after : Driver X} (ledger : Ledger requests pending before)
    (waits : Waits before) (fits : Driver.Fits entry before) (applies : Applies entry before after) :
    Waits after := by
  cases applies with
  | put kv put notices decoded shown notified uuids drawn callbacks trace =>
      exact waits.take notices callbacks trace notified
  | malformed kv text decoded uuids drawn callbacks trace =>
      exact waits.take [] callbacks (by simpa using trace) (by simp)
  | empty kv decoded uuids drawn callbacks trace =>
      -- The data of a held callback decodes to a put, so no callback has this context.
      have unheld : before.callbacks[entry.context]? = none := by
        apply Option.eq_none_iff_forall_ne_some.mpr
        intro channel holds
        obtain ⟨proposal, made, named, _⟩ := ledger.held entry.context channel holds
        obtain ⟨key, value, written, _⟩ := ledger.requested proposal made
        rw [fits.2 proposal made named.symm, written, KvCodec.encodePutCommand,
          X.kvCodec.decode_encode] at decoded
        cases decoded
      have same : before.callbacks.erase entry.context = before.callbacks := by
        apply Std.ExtTreeMap.ext_getElem?
        intro id
        rw [OrderedTree.getElem?_erase]
        split
        · case isTrue equal => rw [← equal, unheld]
        · rfl
      have whole : after.trace = before.trace ++ .applied entry kv :: [] ++
          (before.callbacks[entry.context]?.map fun channel => Effect.reply channel (.ok ())).toList := by
        simpa [unheld] using trace
      exact waits.take [] (callbacks.trans same.symm) whole (by simp)

/-- A proposal under a new id starts to wait with its callback. -/
theorem propose {key value : String} {callback : Option Channel} {result : Except RaftError Unit}
    {before after : Driver X} (ledger : Ledger requests pending before) (waits : Waits before)
    (proposes : Proposes key value callback result before after) : Waits after := by
  obtain ⟨_, _, callbacks, trace, _, _⟩ := proposes
  have unused (proposal : Proposal) (made : proposal ∈ proposals before.trace) :
      proposal.id ≠ before.uuids before.drawn := by
    obtain ⟨number, below, named⟩ := ledger.drawn proposal made
    intro equal
    have clash := ledger.distinct (named.symm.trans equal)
    omega
  constructor
  case unapplied =>
    intro id channel found
    rw [trace]
    refine obeys_concat.mpr ⟨?_, by simp [Unapplied]⟩
    by_cases own : id = before.uuids before.drawn
    · subst own
      intro earlier event later split entry kv _ _ proposal made
      exact unused proposal (by rw [split, proposals_append]; exact List.mem_append_left _ made)
    · rw [callbacks] at found
      cases callback with
      | none => exact waits.unapplied id channel found
      | some mine =>
          rw [OrderedTree.getElem?_insert, if_neg (Ne.symm own)] at found
          exact waits.unapplied id channel found
  case settled =>
    intro proposal made channel back
    rw [trace, proposals_append] at made
    rcases List.mem_append.mp made with old | new
    · rcases waits.settled proposal old channel back with holds | settled
      · refine Or.inl ?_
        rw [callbacks]
        cases callback with
        | none => exact holds
        | some mine =>
            rw [OrderedTree.getElem?_insert, if_neg (Ne.symm (unused proposal old))]
            exact holds
      · rw [trace]
        exact Or.inr (settled.grow _)
    · have same : proposal = ⟨before.uuids before.drawn, X.kvCodec.encodePutCommand key value,
          callback, result⟩ := by simpa [proposals, Effect.proposal] using new
      subst same
      refine Or.inl ?_
      rw [callbacks, show callback = some channel from back, OrderedTree.getElem?_insert, if_pos rfl]

/-- The ledger together with the waiting callbacks is a stable property. -/
theorem stable : Driver.Stable fun driver : Driver X => Ledger requests pending driver ∧ Waits driver where
  plain _ _ holds plain := ⟨holds.1.plain plain, holds.2.plain plain⟩
  applies _ _ _ holds fits applies :=
    ⟨holds.1.applies fits applies, holds.2.applies holds.1 fits applies⟩

end Waits

namespace Driver

open Attempt (Within Keeps Triple)

section Accepted

variable {view : LogView X} {known : Proposal → Prop}

/-- The accepted puts are in a given set. -/
def AcceptedIn (known : Proposal → Prop) (driver : Driver X) : Prop :=
  ∀ proposal ∈ proposals driver.trace, ∀ channel, proposal.callback = some channel →
    proposal.result = .ok () → known proposal

/-- The accepted proposals may be bounded more widely. -/
theorem AcceptedIn.weaken {weaker : Proposal → Prop} {driver : Driver X} (accepted : AcceptedIn known driver)
    (follows : ∀ proposal, known proposal → weaker proposal) : AcceptedIn weaker driver :=
  fun proposal made channel back result => follows proposal (accepted proposal made channel back result)

/-- Plain steps and delivered entries keep the bound on the accepted proposals. -/
theorem AcceptedIn.stable (known : Proposal → Prop) : Stable (AcceptedIn (X := X) known) where
  plain _ _ holds plain := by
    unfold AcceptedIn
    rw [plain.proposals]
    exact holds
  applies _ _ _ holds _ applies := by
    unfold AcceptedIn
    rw [applies.proposals]
    exact holds

end Accepted

end Driver

end RaftATui
