import RaftATui.Construction.Server.App
import RaftATui.Proof.Driver.Moves
import RaftATui.Proof.Driver.Redelivery

namespace RaftATui
open Machinery

@[simp] theorem updates_append (first second : List Effect) :
    updates (first ++ second) = updates first ++ updates second := List.filterMap_append

/-- These updates carry data. The other ones are lines of text. -/
def StateUpdate.isData : StateUpdate → Bool
  | .raftState _ | .kvUpdate _ _ => true
  | _ => false

/-- These are the data that the TUI got. -/
def shown (trace : List Effect) : List StateUpdate := (updates trace).filter StateUpdate.isData

@[simp] theorem shown_append (first second : List Effect) :
    shown (first ++ second) = shown first ++ shown second := by
  rw [shown, updates_append, List.filter_append]
  rfl

/-- The lines of text tell nothing about the data. -/
theorem filterMap_shown {Value : Type} {read : StateUpdate → Option Value}
    (plain : ∀ update, update.isData = false → read update = none) (trace : List Effect) :
    (shown trace).filterMap read = (updates trace).filterMap read := by
  rw [shown, List.filterMap_filter]
  congr 1
  funext update
  split
  · rfl
  · next text => exact (plain update (by simpa using text)).symm

namespace Driver

open Attempt (Within Fixes Maps)

variable {X : Externals}

/-- The receiver of the updates is there all the time. -/
def Watched (driver : Driver X) : Prop := ∀ length, driver.tuiOpen length = true

/-- This observation pairs the receiver with the data that it got. -/
def screen (driver : Driver X) : (Nat → Bool) × List StateUpdate := (driver.tuiOpen, shown driver.trace)

/-- Effects that show nothing leave the screen as it is. -/
theorem screen_eq {before after : Driver X} {added : List Effect} (tui : after.tuiOpen = before.tuiOpen)
    (trace : after.trace = before.trace ++ added) (silent : shown added = []) :
    after.screen = before.screen := by
  rw [screen, screen, tui, trace, shown_append, silent, List.append_nil]

section Fixes

variable {Error Value : Type}

/-- An effect that shows nothing leaves the screen as it is. -/
theorem emit_screen {effect : Effect} (silent : shown [effect] = []) :
    Fixes screen (emit effect : Attempt (Driver X) Error Unit) := fun _ => screen_eq rfl rfl silent

/-- A system message leaves the shown data as it is. -/
theorem notify_screen {update : StateUpdate} (text : update.isData = false) :
    Fixes screen (notify update : Attempt (Driver X) Error Unit) := by
  refine Within.bind Within.get fun driver => ?_
  split
  · apply emit_screen
    simp [shown, updates, Effect.update, text]
  · exact Within.pure ()

/-- A call of raft leaves the screen as it is. -/
theorem withRaft_screen (call : RaftStorage X.Mem → Attempt X.Raft RaftError Value) :
    Fixes screen (withRaft call) := fun _ => rfl

/-- A storage call leaves the screen as it is. -/
theorem withStore_screen (call : Attempt (RaftStorage X.Mem) RaftError Value) :
    Fixes screen (withStore call) := by
  intro driver
  refine screen_eq rfl rfl ?_
  simp [shown, updates, List.filterMap_map, Function.comp_def, Effect.update]

/-- The stored index leaves the screen as it is. -/
theorem setAppliedIndex_screen (index : Nat) :
    Fixes screen (setAppliedIndex index : Attempt (Driver X) RaftLoopError Unit) :=
  Within.relabel _ (withStore_screen _)

/-- Messages leave the screen as it is. -/
theorem sendMessages_screen (messages : List Message) :
    Fixes screen (sendMessages messages : Attempt (Driver X) RaftLoopError Unit) :=
  Within.forEach messages fun _ _ _ => screen_eq rfl rfl rfl

/-- The map changes before it is shown. -/
theorem applyKvCommand_screen (entry : Entry) :
    Fixes screen (applyKvCommand entry : Attempt (Driver X) RaftLoopError (Except String Unit)) :=
  fun _ => screen_eq rfl rfl rfl

/-- An answer to the holder of a callback shows nothing. -/
theorem answer_screen (context : Bytes) (result : Except String Unit) :
    Fixes screen (takeCallback context >>= fun callback => match callback with
      | some channel => reply channel result
      | none => pure () : Attempt (Driver X) RaftLoopError Unit) := by
  apply Within.bind
  · exact fun _ => rfl
  · intro callback
    cases callback with
    | some channel => exact emit_screen rfl
    | none => exact Within.pure ()

/-- A proposal leaves the screen as it is. -/
theorem proposeCommand_screen (key value : String) (callback : Option Channel) :
    Fixes screen (proposeCommand key value callback : Attempt (Driver X) RaftError Unit) := by
  refine Within.bind Within.get fun driver => ?_
  split
  · apply Within.bind
    · exact fun _ => rfl
    · intro callbackId
      apply Within.bind
      · exact Within.modify fun _ => by cases callback <;> rfl
      · exact fun _ _ => screen_eq rfl rfl rfl
  · exact Within.fail _

/-- A configuration change leaves the shown data as it is. -/
theorem applyConfEntry_screen (decode : Bytes → Except String X.Change) (entry : Entry) :
    Fixes screen (applyConfEntry decode entry : Attempt (Driver X) RaftLoopError Unit) :=
  applyConfEntry_within (fun _ => withRaft_screen _) fun _ =>
    Within.bind (Within.relabel _ (withStore_screen _)) fun _ => setAppliedIndex_screen entry.index

/-- An installed snapshot leaves the shown data as it is. -/
theorem applySnapshotPart_screen (ready : Ready) :
    Fixes screen (applySnapshotPart ready : Attempt (Driver X) RaftLoopError Unit) := by
  apply applySnapshotPart_within
  case stores => exact Within.relabel _ (withStore_screen _)
  case restores => exact fun _ => rfl
  case counts => exact setAppliedIndex_screen
  case tells => exact fun _ => notify_screen rfl

/-- The entries of a ready leave the screen as it is. -/
theorem appendEntriesPart_screen (ready : Ready) :
    Fixes screen (appendEntriesPart ready : Attempt (Driver X) RaftLoopError Unit) :=
  appendEntriesPart_within (Within.relabel _ (withStore_screen _))

/-- The hard state of a ready leaves the screen as it is. -/
theorem persistHardstatePart_screen (ready : Ready) :
    Fixes screen (persistHardstatePart ready : Attempt (Driver X) RaftLoopError Unit) :=
  persistHardstatePart_within fun _ => Within.relabel _ (withStore_screen _)

/-- The announcement of a leader leaves the shown data as it is. -/
theorem announceLeader_screen (raftState : RaftState) (previous : Option Nat) :
    Fixes screen (announceLeader raftState previous : Attempt (Driver X) RaftLoopError Unit) := by
  cases previous with
  | none => exact Within.pure ()
  | some previous =>
      simp only [announceLeader]
      split
      · exact notify_screen rfl
      · exact Within.pure ()

/-- A command shows no data. -/
theorem handleCommand_screen (cmd : ServerCommand) :
    Fixes screen (handleCommand cmd : Attempt (Driver X) RaftLoopError Unit) := by
  have reported (key value : String) (result : Except RaftError Unit) :
      Fixes screen (reportProposal key value result : Attempt (Driver X) RaftLoopError Unit) := by
    unfold reportProposal
    split
    · exact notify_screen rfl
    · exact Within.bind Within.get fun _ => notify_screen rfl
    · exact notify_screen rfl
  have answered (output : NodeOutput) :
      Fixes screen (reportOutput output : Attempt (Driver X) RaftLoopError Unit) := by
    cases output with
    | text text => exact notify_screen rfl
    | none => exact Within.pure ()
  have campaigned (result : Except RaftError Unit) :
      Fixes screen (reportCampaign result : Attempt (Driver X) RaftLoopError Unit) := by
    cases result with
    | ok _ => exact notify_screen rfl
    | error _ => exact Within.pure ()
  rcases cmd with (⟨key, value⟩ | key | _ | _ | _) | ⟨key, value, resp⟩ | ⟨key, resp⟩
  · exact Within.bind (Within.outcome (proposeCommand_screen key value none)) (reported key value)
  · exact Within.bind (fun _ => rfl) answered
  · exact Within.bind (fun _ => rfl) answered
  · exact Within.bind Within.get fun _ => notify_screen rfl
  · exact Within.bind (Within.outcome (withRaft_screen _)) campaigned
  · refine Within.bind Within.get fun driver => ?_
    split
    · exact Within.bind (Within.outcome (proposeCommand_screen key value _)) fun _ => Within.pure ()
    · exact emit_screen rfl
  · exact Within.bind Within.get fun driver => emit_screen rfl

/-- Only a ready shows data. -/
theorem perform_screen {action : Action} (other : action ≠ .ready) :
    Fixes screen (perform action : Attempt (Driver X) RaftLoopError Unit) := by
  cases action with
  | command cmd => exact handleCommand_screen cmd
  | message msg => exact Within.bind (Within.outcome (withRaft_screen _)) fun _ => Within.pure ()
  | tick => exact fun _ => rfl
  | ready => exact absurd rfl other

end Fixes

section Seen

variable {Value : Type} {read : StateUpdate → Option Value}

open Classical in
/-- This observation reads the data that a watching TUI got. -/
noncomputable def seen (read : StateUpdate → Option Value) (driver : Driver X) : Option (List Value) :=
  if driver.Watched then some ((shown driver.trace).filterMap read) else none

/-- A TUI that receives from the start has seen all updates. -/
theorem seen_eq {driver : Driver X} (watched : driver.Watched) :
    driver.seen read = some ((shown driver.trace).filterMap read) := if_pos watched

/-- What the TUI has seen is what was shown. -/
theorem seen_some {driver : Driver X} {got : List Value} (some : driver.seen read = some got) :
    (shown driver.trace).filterMap read = got := by
  unfold seen at some
  split at some
  · exact Option.some.inj some
  · cases some

/-- Equal screens were seen alike. -/
theorem seen_congr {before after : Driver X} (same : after.screen = before.screen) :
    after.seen read = before.seen read := by
  have parts := Prod.mk.inj same
  unfold seen Watched
  rw [parts.1, parts.2]

/-- What keeps the screen keeps what is read from it. -/
theorem seen_of_screen {Error Result : Type} {first : Attempt (Driver X) Error Result}
    (fixes : Fixes screen first) : Fixes (seen read) first := fun driver => seen_congr (fixes driver)

/-- A watching TUI gets each update with data. -/
theorem notify_seen {Error : Type} {update : StateUpdate} (data : update.isData = true) :
    Maps (seen read) (Option.map (· ++ (read update).toList))
      (notify update : Attempt (Driver X) Error Unit) := by
  apply Within.reaches
  intro driver
  by_cases watched : driver.Watched
  · have taken : (notify update : Attempt (Driver X) Error Unit) driver =
        (.ok (), { driver with trace := driver.trace ++ [.notify update] }) := by
      rw [notify, Attempt.get_bind, if_pos (watched _)]
      rfl
    have single : shown [.notify update] = [update] := by simp [shown, updates, Effect.update, data]
    have after : ({ driver with trace := driver.trace ++ [.notify update] } : Driver X).seen read =
        some ((shown driver.trace).filterMap read ++ (read update).toList) := by
      unfold seen
      refine (if_pos watched).trans ?_
      rw [shown_append, List.filterMap_append, single]
      cases kind : read update <;> simp [kind]
    rw [taken, seen_eq watched]
    exact after
  · have missed : ¬ ((notify update : Attempt (Driver X) Error Unit) driver).2.Watched := by
      obtain ⟨notices, run, _⟩ := notify_eq update driver
      rw [run]
      exact watched
    rw [seen, seen, if_neg watched, if_neg missed, Option.map_none]

/-- The display ends with raft's state at its begin. -/
theorem updateTuiState_seen {before after : Driver X} (done : updateTuiState before = (.ok (), after)) :
    after.seen read = (before.seen read).map (· ++ (read (.raftState before.getState)).toList) := by
  rw [updateTuiState, Attempt.get_bind] at done
  obtain ⟨_, announced, announce, done⟩ := Attempt.bind_eq_ok.mp done
  obtain ⟨_, noted, note, done⟩ := Attempt.bind_eq_ok.mp done
  have first : announced.seen read = before.seen read :=
    (seen_of_screen (announceLeader_screen _ _)).maps _ _ _ announce
  have second : noted.seen read = announced.seen read := by
    rw [Attempt.modify_apply, Prod.mk.injEq] at note
    rw [← note.2]
    rfl
  rw [← first, ← second]
  exact notify_seen rfl _ _ _ done

/-- A command that decodes shows the pair that it puts. -/
theorem applyNormalEntry_seen {entry : Entry} (normal : entry.entryType = .entryNormal) (filled : entry.data ≠ []) :
    Maps (seen read) (Option.map (· ++ ((entry.puts X.kvCodec).bind fun pair =>
        read (.kvUpdate pair.1 pair.2)).toList))
      (applyNormalEntry entry : Attempt (Driver X) RaftLoopError Unit) := by
  intro driver value final done
  obtain ⟨result, commanded, command, done⟩ := Attempt.bind_eq_ok.mp done
  obtain ⟨_, reported, report, count⟩ := Attempt.bind_eq_ok.mp done
  have first : commanded.seen read = driver.seen read :=
    (seen_of_screen (applyKvCommand_screen entry)).maps _ _ _ command
  simp only [applyKvCommand, Prod.mk.injEq, Except.ok.injEq] at command
  have last : final.seen read = reported.seen read :=
    (seen_of_screen (setAppliedIndex_screen entry.index)).maps _ _ _ count
  have quiet {attempt : Attempt (Driver X) RaftLoopError Unit} (fixes : Fixes screen attempt)
      (run : attempt commanded = (.ok (), reported)) : final.seen read = driver.seen read := by
    rw [last, (seen_of_screen fixes).maps _ _ _ run, id, first]
  rw [Entry.puts, if_pos ⟨normal, filled⟩]
  rw [← command.1] at report
  unfold Node.applyKvCommand at report
  cases decoded : X.kvCodec.decode entry.data with
  | error text =>
      simp only [decoded, reportApplied] at report
      simpa using quiet (answer_screen entry.context _) report
  | ok command =>
      obtain ⟨_ | put⟩ := command
      · simp only [decoded, reportApplied, notifyKvUpdate] at report
        simpa using quiet (Within.pure ()) report
      · simp only [decoded, reportApplied, notifyKvUpdate] at report
        obtain ⟨_, told, tell, report⟩ := Attempt.bind_eq_ok.mp report
        have log : Fixes screen (notify (.logEntry entry.index entry.term s!"PUT {put.key} = {put.value}") >>=
            fun _ => acceptCallback entry : Attempt (Driver X) RaftLoopError Unit) :=
          Within.bind (notify_screen rfl) fun _ => answer_screen entry.context _
        rw [last, (seen_of_screen log).maps _ _ _ report, id, notify_seen rfl _ _ _ tell, first]
        rfl

/-- A watching TUI gets the pair that an entry puts. -/
theorem applyEntry_seen (entry : Entry) :
    Maps (seen read) (Option.map (· ++ ((entry.puts X.kvCodec).bind fun pair =>
        read (.kvUpdate pair.1 pair.2)).toList))
      (applyEntry entry : Attempt (Driver X) RaftLoopError Unit) := by
  have skipped (nothing : entry.puts X.kvCodec = none) {attempt : Attempt (Driver X) RaftLoopError Unit}
      (fixes : Fixes screen attempt) :
      Maps (seen read) (Option.map (· ++ ((entry.puts X.kvCodec).bind fun pair =>
        read (.kvUpdate pair.1 pair.2)).toList)) attempt := by
    simpa [nothing, Maps] using (seen_of_screen fixes).maps
  unfold applyEntry
  split
  · case isTrue empty =>
      have nothing : entry.data = [] := List.isEmpty_iff.mp empty
      exact skipped (by simp [Entry.puts, nothing]) (Within.pure ())
  · case isFalse filled =>
      have something : entry.data ≠ [] := by simpa using filled
      split
      · case h_1 normal => exact applyNormalEntry_seen normal something
      · case h_2 change => exact skipped (by simp [Entry.puts, change]) (applyConfEntry_screen _ entry)
      · case h_3 change => exact skipped (by simp [Entry.puts, change]) (applyConfEntry_screen _ entry)

/-- A watching TUI gets the pairs that the entries put, in their order. -/
theorem applyEntries_seen (entries : List Entry) :
    Maps (seen read) (Option.map (· ++ entries.filterMap fun entry => (entry.puts X.kvCodec).bind fun pair =>
        read (.kvUpdate pair.1 pair.2)))
      (applyEntries entries : Attempt (Driver X) RaftLoopError Unit) := by
  intro driver value final done
  have each (entry : Entry) := @applyEntry_seen X _ read entry
  rw [Maps.forEach entries (fun entry _ => each entry) driver value final done]
  generalize driver.seen read = got
  clear done each
  induction entries generalizing got with
  | nil => cases got <;> simp
  | cons entry rest ih =>
      refine (ih _).trans ?_
      rw [Option.map_map]
      congr 1
      funext values
      cases told : (entry.puts X.kvCodec).bind fun pair => read (.kvUpdate pair.1 pair.2) <;> simp [told]

/-- The taken ready leaves the screen as it is. -/
theorem ReadyRun.taken_screen {before after : Driver X} (run : ReadyRun before after) :
    run.taken.screen = before.screen := by
  rw [run.taken_eq]
  exact screen_eq rfl rfl rfl

/-- The light ready leaves the screen as it is. -/
theorem ReadyRun.advanced_screen {before after : Driver X} (run : ReadyRun before after) :
    run.advanced.screen = run.shown.screen := by
  rw [run.advanced_eq]
  exact screen_eq rfl rfl rfl

end Seen

end Driver

end RaftATui
