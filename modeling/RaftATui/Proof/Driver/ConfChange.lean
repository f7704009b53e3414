import Mathlib.Data.List.Induction
import RaftATui.Proof.Driver.Persisted

namespace RaftATui
open Machinery

/-- This is the change of a committed entry when its data decodes. -/
def Entry.change (X : Externals) (entry : Entry) : Option X.Change :=
  match entry.entryType with
  | .entryNormal => none
  | .entryConfChange => (X.decodeConfChange entry.data).toOption
  | .entryConfChangeV2 => (X.decodeConfChangeV2 entry.data).toOption

/-- This is the new configuration when raft accepts the change of the entry. -/
def accepted {X : Externals} (change : ConfState → X.Change → Except RaftError ConfState)
    (conf : ConfState) (entry : Entry) : Option ConfState :=
  (entry.change X).bind fun decoded => (change conf decoded).toOption

/-- Raft applies the changes of all conf-change entries in order. -/
def reconfigure {X : Externals} (change : ConfState → X.Change → Except RaftError ConfState)
    (conf : ConfState) (entries : List Entry) : ConfState :=
  entries.foldl (fun conf entry => (accepted change conf entry).getD conf) conf

/-- Raft's change of the configuration is a function of the active one. -/
structure ConfLaws (X : Externals) (active : X.Raft → ConfState)
    (change : ConfState → X.Change → Except RaftError ConfState) : Prop where
  result : ∀ decoded store raft,
    (X.raw.applyConfChange decoded store raft).1 = change (active raft) decoded
  active : ∀ decoded store raft, active (X.raw.applyConfChange decoded store raft).2 =
    (change (active raft) decoded).toOption.getD (active raft)

namespace Driver

open Attempt (Within Fixes Maps)

variable {X : Externals}

/-- This observation pairs raft's active configuration with the stored one. -/
def confView (active : X.Raft → ConfState) (driver : Driver X) : ConfState × ConfState :=
  (active driver.raft, driver.persisted.2)

variable {active : X.Raft → ConfState} {change : ConfState → X.Change → Except RaftError ConfState}

/-- Both configurations take an accepted change. An entry without data is skipped. -/
def takeChange (change : ConfState → X.Change → Except RaftError ConfState)
    (seen : ConfState × ConfState) (entry : Entry) : ConfState × ConfState :=
  if entry.data.isEmpty then seen
  else match accepted change seen.1 entry with
    | some conf => (conf, conf)
    | none => seen

/-- An entry counts when it has data and is a command or a change that raft accepts. -/
def Counts (change : ConfState → X.Change → Except RaftError ConfState) (conf : ConfState) (entry : Entry) : Prop :=
  entry.data ≠ [] ∧ (entry.entryType = .entryNormal ∨ (accepted change conf entry).isSome = true)

instance (change : ConfState → X.Change → Except RaftError ConfState) (conf : ConfState) (entry : Entry) :
    Decidable (Counts change conf entry) :=
  inferInstanceAs (Decidable (_ ∧ _))

/-- A committed entry is passed over, applied as a command, or persisted as a new configuration. -/
inductive Handled (active : X.Raft → ConfState) (change : ConfState → X.Change → Except RaftError ConfState)
    (entry : Entry) (driver : Driver X) : Driver X → Prop
  | passed (raft : X.Raft) (missed : ¬ Counts change (active driver.raft) entry)
      (same : active raft = active driver.raft) : Handled active change entry driver { driver with raft }
  | command {final : Driver X} (filled : entry.data ≠ []) (normal : entry.entryType = .entryNormal)
      (run : applyNormalEntry entry driver = (.ok (), final)) : Handled active change entry driver final
  | reconfigured {final : Driver X} (cs : ConfState) (raft : X.Raft) (filled : entry.data ≠ [])
      (taken : accepted change (active driver.raft) entry = some cs) (same : active raft = cs)
      (run : persistConfState entry cs { driver with raft } = (.ok (), final)) :
      Handled active change entry driver final

/-- A change with data is handled as raft's answer demands. -/
theorem applyConfEntry_handled (follows : ConfLaws X active change) {decode : Bytes → Except String X.Change}
    {entry : Entry} {driver final : Driver X} (filled : entry.data ≠ []) (other : entry.entryType ≠ .entryNormal)
    (same : entry.change X = (decode entry.data).toOption)
    (done : applyConfEntry decode entry driver = (.ok (), final)) : Handled active change entry driver final := by
  have missed (refused : accepted change (active driver.raft) entry = none) :
      ¬ Counts change (active driver.raft) entry := fun counts => by simp [Counts, other, refused] at counts
  simp only [accepted, same] at missed
  unfold applyConfEntry at done
  cases decoded : decode entry.data with
  | error text =>
      simp only [decoded] at done missed
      rw [← (Prod.mk.inj done).2]
      exact .passed driver.raft (missed rfl) rfl
  | ok parsed =>
      simp only [decoded] at done missed
      obtain ⟨result, middle, run, done⟩ := Attempt.bind_eq_ok.mp done
      have call := follows.result parsed driver.store driver.raft
      have moved := follows.active parsed driver.store driver.raft
      simp only [Attempt.outcome, withRaft, Prod.mk.injEq, Except.ok.injEq] at run
      obtain ⟨rfl, rfl⟩ := run
      rw [call] at done
      cases reply : change (active driver.raft) parsed with
      | error error =>
          simp only [reply] at done moved
          rw [← (Prod.mk.inj done).2]
          refine .passed _ (missed ?_) moved
          change (change (active driver.raft) parsed).toOption = none
          rw [reply]
          rfl
      | ok conf =>
          simp only [reply] at done moved
          refine .reconfigured conf _ filled ?_ moved done
          rw [accepted, same, decoded]
          change (change (active driver.raft) parsed).toOption = some conf
          rw [reply]
          rfl

/-- Every successful application of an entry is one of the three. -/
theorem applyEntry_handled (follows : ConfLaws X active change) {entry : Entry} {driver final : Driver X}
    (done : applyEntry entry driver = (.ok (), final)) : Handled active change entry driver final := by
  unfold applyEntry at done
  split at done
  · case isTrue empty =>
      rw [← (Prod.mk.inj done).2]
      exact .passed driver.raft (fun counts => counts.1 (List.isEmpty_iff.mp empty)) rfl
  · case isFalse filled =>
      have something : entry.data ≠ [] := by simpa using filled
      cases kind : entry.entryType with
      | entryNormal =>
          simp only [kind] at done
          exact .command something kind done
      | entryConfChange =>
          simp only [kind] at done
          exact applyConfEntry_handled follows something (by simp [kind]) (by simp [Entry.change, kind]) done
      | entryConfChangeV2 =>
          simp only [kind] at done
          exact applyConfEntry_handled follows something (by simp [kind]) (by simp [Entry.change, kind]) done

/-- One entry changes both configurations as raft does, unless it has no data. -/
theorem applyEntry_conf (laws : MemLaws X.mem) (follows : ConfLaws X active change) (entry : Entry) :
    Maps (confView active) (fun seen => takeChange change seen entry)
      (applyEntry entry : Attempt (Driver X) RaftLoopError Unit) := by
  intro driver value final done
  change final.confView active = takeChange change (driver.confView active) entry
  cases applyEntry_handled follows done with
  | passed raft missed same =>
      have kept : takeChange change (driver.confView active) entry = driver.confView active := by
        rw [takeChange]
        split
        · rfl
        · next something =>
            have refused : accepted change (driver.confView active).1 entry = none := by
              by_contra some
              exact missed ⟨by simpa using something, Or.inr (Option.isSome_iff_ne_none.mpr some)⟩
            rw [refused]
      rw [kept]
      exact Prod.ext same rfl
  | command filled normal run =>
      have raft : final.raft = driver.raft := (applyNormalEntry_raft entry).reaches driver () final run
      have stored : final.persisted = driver.persisted :=
        (applyNormalEntry_persisted entry).reaches driver () final run
      simp only [takeChange, List.isEmpty_iff, filled, if_false, accepted, Entry.change, normal, Option.bind_none]
      rw [confView, raft, stored, confView]
  | reconfigured cs raft filled taken same run =>
      have stored : final.persisted.2 = cs :=
        congrArg Prod.snd (persistConfState_maps laws entry cs _ _ _ run)
      have kept := (persistConfState_stores entry cs).reaches _ _ _ run
      have accepts : accepted change (driver.confView active).1 entry = some cs := taken
      simp only [takeChange, List.isEmpty_iff, filled, if_false, accepts]
      exact Prod.ext ((congrArg active kept.raft).trans same) stored

/-- After a list of entries both configurations are the fold of the entries with data. -/
theorem applyEntries_conf (laws : MemLaws X.mem) (follows : ConfLaws X active change)
    {entries : List Entry} {driver final : Driver X}
    (done : applyEntries entries driver = (.ok (), final)) :
    final.confView active = entries.foldl (takeChange change) (driver.confView active) :=
  Maps.forEach entries (fun entry _ => applyEntry_conf laws follows entry) driver () final done

/-- The last entry changes the configuration that the others leave. -/
theorem reconfigure_concat (conf : ConfState) (part : List Entry) (entry : Entry) :
    reconfigure change conf (part ++ [entry]) =
      (accepted change (reconfigure change conf part) entry).getD (reconfigure change conf part) := by
  simp [reconfigure, List.foldl_append]

/-- These are the entries that are not skipped. -/
def filled (entries : List Entry) : List Entry := entries.filter fun entry => !entry.data.isEmpty

/-- Entries without data are left out at the head as well. -/
theorem reconfigure_filled_cons (conf : ConfState) (entry : Entry) (rest : List Entry) :
    reconfigure change conf (filled (entry :: rest)) =
      reconfigure change (reconfigure change conf (filled [entry])) (filled rest) := by
  have joined : filled (entry :: rest) = filled [entry] ++ filled rest := List.filter_append [entry] rest
  rw [joined, reconfigure, List.foldl_append]
  rfl

/-- Equal configurations stay equal and take the changes of the entries with data. -/
theorem foldl_takeChange (conf : ConfState) (entries : List Entry) :
    entries.foldl (takeChange change) (conf, conf) =
      (reconfigure change conf (filled entries), reconfigure change conf (filled entries)) := by
  induction entries generalizing conf with
  | nil => rfl
  | cons entry rest ih =>
      rw [List.foldl_cons, takeChange, filled, List.filter_cons]
      cases empty : entry.data.isEmpty with
      | true => exact ih conf
      | false =>
          simp only [Bool.not_false, if_true, Bool.false_eq_true, if_false, reconfigure, List.foldl_cons]
          cases accepted change conf entry with
          | none => exact ih conf
          | some next => exact ih next

/-- Each entry without data leaves the configuration of its place as it is. -/
def EmptyInert (change : ConfState → X.Change → Except RaftError ConfState) (conf : ConfState)
    (entries : List Entry) : Prop :=
  ∀ part entry, part ++ [entry] <+: entries → entry.data = [] →
    reconfigure change conf (part ++ [entry]) = reconfigure change conf part

/-- Inert entries are those that may be dropped from every prefix of the list. -/
theorem emptyInert_iff (conf : ConfState) (entries : List Entry) : EmptyInert change conf entries ↔
    ∀ part, part <+: entries → reconfigure change conf (filled part) = reconfigure change conf part := by
  constructor
  · intro inert part
    induction part using List.reverseRecOn with
    | nil => exact fun _ => rfl
    | append_singleton part entry ih =>
        intro within
        have earlier := ih ((List.prefix_append part [entry]).trans within)
        cases empty : entry.data.isEmpty with
        | true =>
            rw [inert part entry within (List.isEmpty_iff.mp empty), ← earlier]
            simp [filled, empty]
        | false =>
            have kept : filled (part ++ [entry]) = filled part ++ [entry] := by simp [filled, empty]
            rw [kept, reconfigure_concat, reconfigure_concat, earlier]
  · intro drops part entry within empty
    have dropped : filled (part ++ [entry]) = filled part := by simp [filled, empty]
    have earlier := drops part ((List.prefix_append part [entry]).trans within)
    rw [← drops (part ++ [entry]) within, dropped, earlier]

/-- Raft's configuration and the stored one are what all changes of the list give, in order. -/
def Tracks (active : X.Raft → ConfState) (change : ConfState → X.Change → Except RaftError ConfState)
    (entries : List Entry) (before after : Driver X) : Prop :=
  active after.raft = reconfigure change (active before.raft) entries ∧
    after.persisted.2 = reconfigure change (active before.raft) entries

instance (active : X.Raft → ConfState) (change : ConfState → X.Change → Except RaftError ConfState)
    (entries : List Entry) (before after : Driver X) :
    Decidable (Tracks active change entries before after) :=
  inferInstanceAs (Decidable (_ ∧ _))

/-- The stored configuration tracks raft exactly when the empty changes change nothing. -/
theorem tracks_iff (laws : MemLaws X.mem) (follows : ConfLaws X active change) {entries : List Entry}
    {driver final : Driver X} (synced : driver.persisted.2 = active driver.raft)
    (done : applyEntries entries driver = (.ok (), final)) :
    Tracks active change entries driver final ↔
      reconfigure change (active driver.raft) (filled entries) =
        reconfigure change (active driver.raft) entries := by
  have start : driver.confView active = (active driver.raft, active driver.raft) := Prod.ext rfl synced
  have view := applyEntries_conf laws follows done
  rw [start, foldl_takeChange, confView] at view
  obtain ⟨first, second⟩ := Prod.mk.inj view
  rw [Tracks, first, second, and_self]

/-- A list is tracked exactly when its entries without data may be dropped. It is tracked at every point
exactly when each of them leaves the configuration of its place as it is. -/
theorem applyEntries_tracks_iff (laws : MemLaws X.mem) (follows : ConfLaws X active change)
    {entries : List Entry} {driver final : Driver X} (synced : driver.persisted.2 = active driver.raft)
    (done : applyEntries entries driver = (.ok (), final)) :
    (Tracks active change entries driver final ↔
        reconfigure change (active driver.raft) (filled entries) =
          reconfigure change (active driver.raft) entries) ∧
      ((∀ part after, part <+: entries → applyEntries part driver = (.ok (), after) →
          Tracks active change part driver after) ↔
        EmptyInert change (active driver.raft) entries) := by
  refine ⟨tracks_iff laws follows synced done, ?_⟩
  rw [emptyInert_iff]
  constructor
  · intro tracks part within
    obtain ⟨rest, rfl⟩ := within
    rw [applyEntries, Attempt.forEach_append] at done
    obtain ⟨_, after, run, _⟩ := Attempt.bind_eq_ok.mp done
    exact (tracks_iff laws follows synced run).mp (tracks part after ⟨rest, rfl⟩ run)
  · intro drops part after within run
    exact (tracks_iff laws follows synced run).mpr (drops part within)

/-- The scripted raft changes its configuration as the laws say. -/
theorem changed_follows : ConfLaws scripted ScriptedRaft.conf ScriptedRaft.changed where
  result decoded store raft := by
    simp only [ScriptedRaft.raw, ScriptedRaft.applyConfChange]
    cases ScriptedRaft.changed raft.conf decoded <;> rfl
  active decoded store raft := by
    simp only [ScriptedRaft.raw, ScriptedRaft.applyConfChange]
    cases ScriptedRaft.changed raft.conf decoded <;> rfl

/-- This driver is on disk with the given configuration in raft and in the storage. -/
def confDriver (conf : ConfState) : Driver scripted := scriptedDriver
  { ScriptedRaft.begin .follower [] [] [] with conf }
  (.newWithDisk ⟨⟨none, some conf, none⟩, ∅, none⟩ [])

/-- A put and a new voter are both tracked. -/
def voterEntries : List Entry :=
  [scriptedPut 1 1 0 "k" "v", ⟨.entryConfChangeV2, 1, 2, [3], []⟩, ⟨.entryNormal, 1, 3, [], []⟩]

/-- The example adds a voter. -/
theorem applyEntries_tracks_voter :
    Tracks ScriptedRaft.conf (X := scripted) ScriptedRaft.changed voterEntries
      (confDriver { voters := [1] }) (applyEntries voterEntries (confDriver { voters := [1] })).2 := by
  have run : applyEntries voterEntries (confDriver { voters := [1] }) =
      (.ok (), (applyEntries voterEntries (confDriver { voters := [1] })).2) :=
    Attempt.eq_ok (by decide +kernel)
  exact (applyEntries_tracks_iff (MemStorage.laws _) changed_follows rfl run).1.mpr (by decide +kernel)

def jointConf : ConfState := { voters := [1, 2], votersOutgoing := [1], autoLeave := true }

/-- This is the entry with which raft leaves a joint configuration. -/
def leaveEntries : List Entry := [⟨.entryConfChangeV2, 1, 1, [], []⟩]

/-- The node stays in the joint configuration that the committed entry leaves. -/
theorem applyEntries_skips_leave :
    (applyEntries leaveEntries (confDriver jointConf)).1 = .ok () ∧
      ¬ Tracks ScriptedRaft.conf (X := scripted) ScriptedRaft.changed leaveEntries
        (confDriver jointConf) (applyEntries leaveEntries (confDriver jointConf)).2 ∧
      (applyEntries leaveEntries (confDriver jointConf)).2.raft.conf = jointConf := by
  decide +kernel

end Driver

end RaftATui
