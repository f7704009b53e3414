import RaftATui.Construction.Driver.Scripted
import RaftATui.Library.OrderedTree

namespace RaftATui
open Machinery

variable {X : Externals} {key value : String} {callback : Option Channel} {driver after : Driver X}

/-- A sender exists once, so the one that is passed in is not in the table yet. -/
def Owned (callback : Option Channel) (driver : Driver X) : Prop :=
  ∀ channel, callback = some channel → ∀ id : Bytes, driver.callbacks[id]? ≠ some channel

/-- The caller was answered, or its sender was dropped because nothing holds it. -/
def Told (channel : Channel) (before after : Driver X) : Prop :=
  (∃ added result, after.trace = before.trace ++ added ∧ .reply channel result ∈ added) ∨
    ∀ id : Bytes, after.callbacks[id]? ≠ some channel

/-- The table is as it was, and the caller is told. -/
structure Clean (callback : Option Channel) (before after : Driver X) : Prop where
  callbacks : after.callbacks = before.callbacks
  told : ∀ channel, callback = some channel → Told channel before after

namespace Driver

/-- This is raft's answer to the proposal. -/
def answer (key value : String) (driver : Driver X) : Except RaftError Unit :=
  (X.raw.propose (driver.uuids driver.drawn) (X.kvCodec.encodePutCommand key value) driver.store driver.raft).1

/-- A follower refuses the proposal before it draws an id. -/
theorem proposeCommand_refused (follower : driver.isLeader = false) :
    proposeCommand key value callback driver = (.error .proposalDropped, driver) := by
  unfold proposeCommand
  rw [Attempt.get_bind, follower]
  rfl

/-- A leader has inserted the callback before raft answers. -/
theorem proposeCommand_leader (leads : driver.isLeader = true) :
    ∃ after, proposeCommand key value callback driver = (answer key value driver, after) ∧
      after.callbacks = match callback with
        | some channel => driver.callbacks.insert (driver.uuids driver.drawn) channel
        | none => driver.callbacks := by
  unfold proposeCommand
  rw [Attempt.get_bind, leads]
  cases callback with
  | none => exact ⟨_, rfl, rfl⟩
  | some channel => exact ⟨_, rfl, rfl⟩

end Driver

/-- A refused proposal is clean unless a leader was given a callback. -/
theorem proposeCommand_clean_iff (key value : String) (owned : Owned callback driver) :
    (∀ error after, Driver.proposeCommand key value callback driver = (.error error, after) →
        Clean callback driver after) ↔
      driver.isLeader = false ∨ callback = none ∨ driver.answer key value = .ok () := by
  by_cases leads : driver.isLeader = true
  · obtain ⟨final, proposed, table⟩ := @Driver.proposeCommand_leader X key value callback driver leads
    cases callback with
    | none =>
        refine ⟨fun _ => Or.inr (Or.inl rfl), fun _ error after failed => ?_⟩
        rw [proposed] at failed
        obtain ⟨_, rfl⟩ := Prod.mk.inj failed
        exact ⟨table, by simp⟩
    | some channel =>
        constructor
        · intro clean
          cases answered : driver.answer key value with
          | ok => exact Or.inr (Or.inr rfl)
          | error error =>
              rw [answered] at proposed
              -- The table holds the passed callback, which was not there before.
              have inserted : final.callbacks[driver.uuids driver.drawn]? = some channel := by
                rw [table, OrderedTree.getElem?_insert, if_pos rfl]
              rw [(clean error final proposed).callbacks] at inserted
              exact absurd inserted (owned channel rfl _)
        · rintro (follower | impossible | accepted) error after failed
          · rw [leads] at follower
            cases follower
          · cases impossible
          · rw [proposed, accepted] at failed
            cases failed
  · have follower : driver.isLeader = false := Bool.eq_false_iff.mpr leads
    refine ⟨fun _ => Or.inl follower, fun _ error after failed => ?_⟩
    rw [Driver.proposeCommand_refused follower] at failed
    obtain ⟨_, rfl⟩ := Prod.mk.inj failed
    exact ⟨rfl, fun channel passed => Or.inr (owned channel passed)⟩

/-- This leader transfers its leadership and drops every proposal. -/
abbrev transferring : Externals :=
  { scripted with raw := { ScriptedRaft.raw with propose := fun _ _ _ => Attempt.fail .proposalDropped } }

def transferringDriver : Driver transferring where
  raft := .begin .leader [] [] []
  store := .memory .new 0
  callbacks := ∅
  kvNode := Node.new
  network := ()
  previousLeaderId := none
  tuiOpen _ := true
  uuids := scriptedUuids
  drawn := 0
  trace := []

/-- A follower refuses the proposal and drops its callback. -/
theorem proposeCommand_clean_follower :
    Clean (some 7) (scriptedDriver (.begin .follower [] [] []) (.memory .new 0))
      (scriptedDriver (.begin .follower [] [] []) (.memory .new 0)) := by
  have owned : Owned (some 7) (scriptedDriver (.begin .follower [] [] []) (.memory .new 0)) := by
    simp [Owned, scriptedDriver]
  exact (proposeCommand_clean_iff "key" "value" owned).mpr (Or.inl rfl) .proposalDropped _ rfl

/-- The put fails and its sender waits in the table without an answer. -/
theorem proposeCommand_keeps_callback :
    Owned (some 7) transferringDriver ∧
      (Driver.proposeCommand "key" "value" (some 7) transferringDriver).1 = .error .proposalDropped ∧
      (Driver.proposeCommand "key" "value" (some 7) transferringDriver).2.callbacks[[(0 : UInt8)]]? = some 7 ∧
      ¬ Clean (some 7) transferringDriver
        (Driver.proposeCommand "key" "value" (some 7) transferringDriver).2 ∧
      (Driver.handleRpcCommand (.put "key" "value" 7) transferringDriver).1 = .ok () ∧
      ¬ Told 7 transferringDriver (Driver.handleRpcCommand (.put "key" "value" 7) transferringDriver).2 := by
  have held : (Driver.proposeCommand "key" "value" (some 7) transferringDriver).2.callbacks[[(0 : UInt8)]]? =
      some 7 := by decide
  have owned : Owned (some 7) transferringDriver := by simp [Owned, transferringDriver]
  refine ⟨owned, rfl, held, fun clean => ?_, rfl, fun told => ?_⟩
  · rw [clean.callbacks] at held
    exact owned 7 rfl _ held
  · rcases told with ⟨added, result, trace, answered⟩ | dropped
    · have only : (Driver.handleRpcCommand (.put "key" "value" 7) transferringDriver).2.trace =
          [.proposed [0] (Protobuf.kvCodec.encodePutCommand "key" "value") (some 7) (.error .proposalDropped)] := rfl
      have inside : Effect.reply 7 result ∈
          (Driver.handleRpcCommand (.put "key" "value" 7) transferringDriver).2.trace := by
        rw [trace]
        exact List.mem_append_right _ answered
      rw [only, List.mem_singleton] at inside
      cases inside
    · exact dropped [0] held

end RaftATui
