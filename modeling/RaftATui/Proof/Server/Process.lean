import RaftATui.Construction.Server.Process
import RaftATui.Proof.Driver.Turns

namespace RaftATui
open Machinery

/-- The command line of the TUI sends these commands. -/
def ServerCommand.typed : ServerCommand → Option UserCommand
  | .user cmd => some cmd
  | .rpc _ => none

/-- The service sends these commands. -/
def ServerCommand.requested : ServerCommand → Option Action
  | .user _ => none
  | .rpc cmd => some (.command (.rpc cmd))

/-- Only a requested command brings a channel for its answer. -/
theorem filterMap_requested {read : Action → Option Channel} (silent : ∀ cmd, read (.command (.user cmd)) = none)
    (commands : List ServerCommand) :
    (commands.map Action.command).filterMap read = (commands.filterMap ServerCommand.requested).filterMap read := by
  rw [List.filterMap_map, List.filterMap_filterMap]
  congr 1
  funext cmd
  cases cmd with
  | user cmd => exact silent cmd
  | rpc cmd => rfl

namespace Server

/-- This is what the panels of the TUI show besides lines of text. -/
def App.data (app : App) : Option RaftState × KvMap := (app.raftState, app.kvStore)

/-- An update changes equal data equally. -/
theorem App.data_applyStateUpdate {first second : App} (same : first.data = second.data) (update : StateUpdate) :
    (first.applyStateUpdate update).data = (second.applyStateUpdate update).data := by
  obtain ⟨state, kv⟩ := Prod.mk.inj same
  cases update with
  | raftState => exact Prod.ext rfl kv
  | kvUpdate key value => exact Prod.ext state (congrArg (fun map : KvMap => map.insert key value) kv)
  | logEntry => exact same
  | systemMessage => exact same

namespace Tui

/-- A key may send commands, and it leaves the data of the panels alone. -/
structure Enters (before after : Tui) : Prop where
  sent : ∃ more, after.sent = before.sent ++ more
  data : after.app.data = before.app.data

/-- A key that sends nothing and shows nothing enters nothing. -/
theorem Enters.refl {tui after : Tui} (sent : after.sent = tui.sent) (app : after.app.data = tui.app.data) :
    Enters tui after := ⟨⟨[], by rw [sent, List.append_nil]⟩, app⟩

/-- A submitted line may send its command. It leaves the data of the panels alone. -/
theorem submitCommand_enters (received : Bool) (tui : Tui) : Enters tui (tui.submitCommand received).2 := by
  unfold submitCommand
  dsimp only
  split
  · exact .refl rfl rfl
  · split
    · exact .refl rfl rfl
    · cases parseCommand tui.input with
      | none => exact .refl rfl rfl
      | some cmd =>
          cases received with
          | true => exact ⟨⟨[cmd], rfl⟩, rfl⟩
          | false => exact .refl rfl rfl

/-- Every key may send a command. It leaves the data of the panels alone. -/
theorem handleKeyEvent_enters {received : Bool} {key : KeyEvent} {tui after : Tui} {result : Except String KeyAction}
    (handled : tui.handleKeyEvent received key = some (result, after)) : Enters tui after := by
  unfold handleKeyEvent at handled
  split at handled
  · split at handled <;> cases handled <;> exact .refl rfl rfl
  · split at handled
    · cases handled
      exact .refl rfl rfl
    · have same := Option.some.inj handled
      rw [show after = (tui.submitCommand received).2 from (congrArg Prod.snd same).symm]
      exact submitCommand_enters received tui
    · obtain ⟨moved, back, same⟩ := Option.map_eq_some_iff.mp handled
      cases same
      unfold backspace at back
      split at back
      · obtain ⟨text, _, same⟩ := Option.map_eq_some_iff.mp back
        subst same
        exact .refl rfl rfl
      · cases back
        exact .refl rfl rfl
    · cases handled
      split <;> exact .refl rfl rfl
    · cases handled
      split <;> exact .refl rfl rfl
    · split at handled
      · cases handled
        exact .refl rfl rfl
      · obtain ⟨moved, typed, same⟩ := Option.map_eq_some_iff.mp handled
        cases same
        obtain ⟨text, _, same⟩ := Option.map_eq_some_iff.mp typed
        subst same
        exact .refl rfl rfl
    · cases handled
      exact .refl rfl rfl

end Tui

def Event.taken : Event → Option Action
  | .request cmd => some (.command (.rpc cmd))
  | _ => none

/-- These are the requests that the service took, in their order. -/
def requests (events : List Event) : List Action := events.filterMap Event.taken

def Event.asTurn : Event → Option Turn
  | .turn taken => some taken
  | _ => none

/-- Only a turn of the driver is one. -/
theorem Event.asTurn_eq_some {event : Event} {taken : Turn} (mine : event.asTurn = some taken) :
    event = .turn taken := by
  cases event <;> cases mine
  rfl

/-- These are the turns of the driver's loop. -/
def turns (events : List Event) : List Turn := events.filterMap Event.asTurn

namespace Process

open Driver (Served turn_served)

variable {X : Externals} {nodeId : Nat} {asked : List Action} {process after : Process X}

/-- These are the commands that the driver took and the ones that wait in the channel. -/
def handled (process : Process X) : List Action := process.commands.received.map .command

def unread (process : Process X) : List Action := process.commands.waiting.map .command

/-- The channels lose and double nothing, and the loops end well only after a quit. -/
structure Wired (nodeId : Nat) (asked : List Action) (process : Process X) : Prop where
  entered : process.commands.sent.filterMap ServerCommand.requested = asked
  typed : process.commands.sent.filterMap ServerCommand.typed = process.tui.sent
  posted : process.stateUpdates.sent = updates process.driver.trace
  data : process.tui.app.data = ((App.new nodeId).consume process.stateUpdates.received).data
  signalled : process.shutdown = true → process.phase = .left (.ok ())
  ended : process.exit = some (.ok ()) → process.shutdown = true

/-- The channels of a new process are empty. -/
theorem Wired.start {driver : Driver X} (fresh : Fresh driver) : Wired nodeId [] (start nodeId driver) where
  entered := rfl
  typed := rfl
  posted := by
    change [] = updates driver.trace
    rw [fresh.trace]
    rfl
  data := rfl
  signalled raised := by cases raised
  ended done := by cases done

/-- A TUI that still loops has not asked the driver to stop. -/
theorem Wired.unasked (wired : Wired nodeId asked process) (loops : process.phase ≠ .left (.ok ())) :
    process.shutdown ≠ true := fun raised => loops (wired.signalled raised)

/-- A received update moves from the channel to the TUI. -/
theorem Wired.tryRecv (wired : Wired nodeId asked process) (next : process.tryRecv = some after) :
    Wired nodeId asked after := by
  unfold Process.tryRecv at next
  split at next
  case h_2 => cases next
  case h_1 draining =>
    have unasked := wired.unasked (by simp [draining])
    split at next
    · next update waiting took =>
        obtain ⟨received, sent⟩ := Queue.receive_eq_some took
        cases next
        refine ⟨wired.entered, wired.typed, sent.trans wired.posted, ?_, wired.signalled, wired.ended⟩
        change (process.tui.app.applyStateUpdate update).data = ((App.new nodeId).consume waiting.received).data
        rw [received, App.consume, List.foldl_concat]
        exact App.data_applyStateUpdate wired.data update
    · cases next
      exact ⟨wired.entered, wired.typed, wired.posted, wired.data, fun raised => absurd raised unasked,
        wired.ended⟩

/-- A quit raises the signal only when it ends the TUI's loop well. -/
theorem Wired.quit (wired : Wired nodeId asked process) (unasked : process.shutdown ≠ true) :
    Wired nodeId asked process.quit := by
  unfold Process.quit
  split
  · exact ⟨wired.entered, wired.typed, wired.posted, wired.data, fun raised => absurd raised unasked,
      wired.ended⟩
  · exact ⟨wired.entered, wired.typed, wired.posted, wired.data, fun _ => rfl, fun _ => rfl⟩

/-- A pressed key sends what it enters. -/
theorem Wired.press {key : KeyEvent} (wired : Wired nodeId asked process) (polling : process.phase = .polling)
    (next : process.press key = some after) : Wired nodeId asked after := by
  obtain ⟨⟨result, tui⟩, handled, same⟩ := Option.map_eq_some_iff.mp next
  obtain ⟨⟨more, sent⟩, data⟩ := Tui.handleKeyEvent_enters handled
  have unasked := wired.unasked (by simp [polling])
  have drop : tui.sent.drop process.tui.sent.length = more := by rw [sent, List.drop_left]
  dsimp only at same
  rw [drop] at same
  have fed (phase : Phase) : Wired nodeId asked { process with
      tui := tui, phase := phase, commands := process.commands.sendAll (more.map .user) } := by
    refine ⟨?_, ?_, wired.posted, data.trans wired.data, fun raised => absurd raised unasked, wired.ended⟩
    · rw [Queue.sent_sendAll, List.filterMap_append, wired.entered, List.filterMap_map]
      exact (congrArg _ (List.filterMap_eq_nil_iff.mpr fun _ _ => rfl)).trans (List.append_nil _)
    · rw [Queue.sent_sendAll, List.filterMap_append, wired.typed, List.filterMap_map]
      exact (congrArg _ (List.filterMap_some (l := more))).trans sent.symm
  cases result with
  | error error => cases same; exact fed _
  | ok action =>
      cases action with
      | quit => cases same; exact (fed process.phase).quit unasked
      | «continue» => cases same; exact fed _

/-- A poll presses its key or keeps the channels. -/
theorem Wired.poll {polled : Except String (Option KeyEvent)} (wired : Wired nodeId asked process)
    (next : process.poll polled = some after) : Wired nodeId asked after := by
  unfold Process.poll at next
  have moved (phase : Phase) (polling : process.phase = .polling) :
      Wired nodeId asked { process with phase := phase } :=
    ⟨wired.entered, wired.typed, wired.posted, wired.data,
      fun raised => absurd raised (wired.unasked (by simp [polling])), wired.ended⟩
  split at next
  · next polling => cases next; exact moved _ polling
  · next polling => cases next; exact moved _ polling
  · next polling => exact wired.press polling next
  · cases next

/-- A request of the service enters the channel. -/
theorem Wired.request {cmd : RpcCommand} (wired : Wired nodeId asked process)
    (next : process.request cmd = some after) : Wired nodeId (asked ++ [.command (.rpc cmd)]) after := by
  unfold Process.request at next
  split at next
  · cases next
  · cases next
    refine ⟨?_, ?_, wired.posted, wired.data, wired.signalled, wired.ended⟩
    · rw [Queue.sent_sendAll, List.filterMap_append, wired.entered]
      rfl
    · rw [Queue.sent_sendAll, List.filterMap_append, wired.typed]
      exact List.append_nil _

/-- A taken input leaves everything but the channel of the commands alone. -/
theorem take_cases {turn : Turn} (next : process.take turn.input = some after) :
    ∃ commands : Queue ServerCommand, commands.received.map .command = process.handled ++ turn.commands ∧
      commands.sent = process.commands.sent ∧ (turn.input = .shutdown → process.shutdown = true) ∧
      after = { process with commands := commands } := by
  obtain ⟨input, elapsed⟩ := turn
  have idle (quiet : (Turn.mk input elapsed).commands = []) (raised : input = .shutdown → process.shutdown = true)
      (same : some process = some after) : ∃ commands : Queue ServerCommand,
        commands.received.map .command = process.handled ++ (Turn.mk input elapsed).commands ∧
        commands.sent = process.commands.sent ∧ (input = .shutdown → process.shutdown = true) ∧
        after = { process with commands := commands } := by
    cases same
    exact ⟨process.commands, by rw [quiet, List.append_nil]; rfl, rfl, raised, rfl⟩
  cases input with
  | command cmd =>
      unfold Process.take at next
      dsimp only at next
      split at next
      · next first commands took =>
          obtain ⟨received, sent⟩ := Queue.receive_eq_some took
          split at next
          · next same =>
              cases next
              refine ⟨commands, ?_, sent, (fun absent => by cases absent), rfl⟩
              rw [received, List.map_append, same]
              rfl
          · cases next
      · cases next
  | commandChannelClosed => cases next
  | messageChannelClosed => exact idle rfl (fun absent => by cases absent) next
  | message msg => exact idle rfl (fun absent => by cases absent) next
  | timeout => exact idle rfl (fun absent => by cases absent) next
  | shutdown =>
      unfold Process.take at next
      dsimp only at next
      split at next
      · next raised => exact idle rfl (fun _ => raised) next
      · cases next

/-- A turn of the loop is one of the driver on what the channels offer. -/
theorem turn_cases {turn : Turn} (next : process.turn turn = some after) :
    process.exit = none ∧ ∃ commands : Queue ServerCommand,
      commands.received.map .command = process.handled ++ turn.commands ∧
      commands.sent = process.commands.sent ∧ (turn.input = .shutdown → process.shutdown = true) ∧
      after = Process.finish turn (Driver.run [turn] process.driver) { process with commands := commands } := by
  unfold Process.turn at next
  split at next
  · cases next
  · next runs =>
      obtain ⟨taken, took, rfl⟩ := Option.map_eq_some_iff.mp next
      obtain ⟨commands, handled, sent, raised, rfl⟩ := take_cases took
      exact ⟨by simpa using runs, commands, handled, sent, raised, rfl⟩

/-- The driver only adds to its trace. -/
theorem run_grows (turns : List Turn) (driver : Driver X) :
    ∃ added, (Driver.run turns driver).2.trace = driver.trace ++ added := by
  obtain ⟨actions, same, _⟩ := Driver.run_performs turns driver
  rw [← same]
  have adds : Attempt.Within (Driver.Adds fun _ => True)
      (Driver.performAll actions : Attempt (Driver X) RaftLoopError Unit) :=
    Attempt.Within.forEach actions fun action _ => Driver.perform_adds (fun _ _ => trivial) (fun _ _ => trivial)
      (fun _ => trivial) (fun _ => trivial) (fun _ => trivial) action fun _ _ _ _ => trivial
  obtain ⟨added, trace, _⟩ := adds driver
  exact ⟨added, trace⟩

/-- A turn posts what its updates add. -/
theorem Wired.turn {turn : Turn} (wired : Wired nodeId asked process) (next : process.turn turn = some after) :
    Wired nodeId asked after := by
  obtain ⟨_, commands, _, sent, raised, rfl⟩ := turn_cases next
  obtain ⟨added, trace⟩ := run_grows [turn] process.driver
  refine ⟨(congrArg _ sent).trans wired.entered, (congrArg _ sent).trans wired.typed, ?_, wired.data,
    wired.signalled, fun done => ?_⟩
  · change (process.stateUpdates.sendAll _).sent = updates (Driver.run [turn] process.driver).2.trace
    rw [Queue.sent_sendAll, wired.posted, trace, updates_append, List.drop_left]
  · unfold Process.finish at done
    dsimp only at done
    split at done
    · cases done
    · split at done
      · next asked => exact raised asked
      · cases done

/-- Each event keeps the channels wired. -/
theorem Wired.step {event : Event} (wired : Wired nodeId asked process) (next : process.step event = some after) :
    Wired nodeId (asked ++ event.taken.toList) after := by
  cases event with
  | tryRecv => simpa [Event.taken] using wired.tryRecv next
  | poll polled => simpa [Event.taken] using wired.poll next
  | request cmd => exact wired.request next
  | turn turn => simpa [Event.taken] using wired.turn next

/-- The requests follow the order of the events. -/
theorem requests_cons (event : Event) (rest : List Event) :
    requests (event :: rest) = event.taken.toList ++ requests rest := by
  cases mine : event.taken <;> simp [requests, mine]

/-- Each interleaving keeps the channels wired. -/
theorem Wired.run {events : List Event} (wired : Wired nodeId asked process)
    (ran : Process.run events process = some after) : Wired nodeId (asked ++ requests events) after := by
  induction events generalizing process asked with
  | nil =>
      cases ran
      rw [show requests [] = [] from rfl, List.append_nil]
      exact wired
  | cons event rest ih =>
      obtain ⟨middle, first, later⟩ := Option.bind_eq_some_iff.mp ran
      rw [requests_cons, ← List.append_assoc]
      exact ih (wired.step first) later

/-- Only a turn moves the driver and takes a command. -/
theorem step_driver {event : Event} (other : event.asTurn = none) (next : process.step event = some after) :
    after.driver = process.driver ∧ after.exit = process.exit ∧ after.handled = process.handled := by
  cases event with
  | turn turn => cases other
  | tryRecv =>
      change process.tryRecv = some after at next
      unfold Process.tryRecv at next
      split at next
      · split at next <;> cases next <;> exact ⟨rfl, rfl, rfl⟩
      · cases next
  | request cmd =>
      change process.request cmd = some after at next
      unfold Process.request at next
      split at next
      · cases next
      · cases next
        exact ⟨rfl, rfl, rfl⟩
  | poll polled =>
      change process.poll polled = some after at next
      unfold Process.poll at next
      split at next
      · cases next; exact ⟨rfl, rfl, rfl⟩
      · cases next; exact ⟨rfl, rfl, rfl⟩
      · obtain ⟨⟨result, tui⟩, _, same⟩ := Option.map_eq_some_iff.mp next
        dsimp only at same
        split at same
        · cases same; exact ⟨rfl, rfl, rfl⟩
        · subst same
          unfold Process.quit
          split <;> exact ⟨rfl, rfl, rfl⟩
        · cases same; exact ⟨rfl, rfl, rfl⟩
      · cases next

/-- Each event serves what the driver handled. -/
theorem step_served {event : Event} (served : Served process.handled process.driver)
    (next : process.step event = some after) : Served after.handled after.driver := by
  cases mine : event.asTurn with
  | none =>
      obtain ⟨driver, _, handled⟩ := step_driver mine next
      rwa [driver, handled]
  | some turn =>
      obtain rfl := Event.asTurn_eq_some mine
      obtain ⟨_, commands, handled, _, _, rfl⟩ := turn_cases next
      change Served (commands.received.map .command) (Driver.run [turn] process.driver).2
      rw [handled]
      exact turn_served served turn

/-- Each interleaving serves what the driver handled. -/
theorem run_served {events : List Event} (served : Served process.handled process.driver)
    (ran : Process.run events process = some after) : Served after.handled after.driver := by
  induction events generalizing process with
  | nil => cases ran; exact served
  | cons event rest ih =>
      obtain ⟨middle, first, later⟩ := Option.bind_eq_some_iff.mp ran
      exact ih (step_served served first) later

/-- What the driver took and what waits are the requests among the sent commands. -/
theorem channels_sent {read : Action → Option Channel} (silent : ∀ cmd, read (.command (.user cmd)) = none)
    (wired : Wired nodeId asked process) :
    process.handled.filterMap read ++ process.unread.filterMap read = asked.filterMap read := by
  rw [← List.filterMap_append, handled, unread, ← List.map_append, filterMap_requested silent]
  exact congrArg (List.filterMap read) wired.entered

/-- Whatever the threads of a server interleave, each PUT that the service took was answered once, waits for its
entry or waits in the channel, and nobody else was answered. The GETs are answered in their order, and the commands
of the TUI enter the channel in theirs. -/
theorem process_serves {driver : Driver X} (fresh : Fresh driver) (distinct : Function.Injective driver.uuids)
    {events : List Event} (ran : Process.run events (Process.start nodeId driver) = some after) :
    (answered after.driver.trace ++ after.driver.waiting ++ putChannels after.unread).Perm
        (putChannels (requests events)) ∧
      gotten after.driver.trace ++ getChannels after.unread = getChannels (requests events) ∧
      after.commands.sent.filterMap ServerCommand.typed = after.tui.sent := by
  have wired : Wired nodeId ([] ++ requests events) after := (Wired.start fresh).run ran
  have begins : Served (start nodeId driver).handled (start nodeId driver).driver :=
    .start ⟨fresh.kvNode, fresh.callbacks, fresh.drawn, fresh.trace⟩ distinct
  have served := run_served begins ran
  refine ⟨?_, ?_, wired.typed⟩
  · rw [putChannels, putChannels, ← List.nil_append (requests events), ← channels_sent (fun _ => rfl) wired]
    exact served.accounts.balance.append_right _
  · rw [served.gotten]
    exact channels_sent (fun _ => rfl) wired

/-- The driver's loop ends well only after a quit of the TUI. -/
theorem process_quits {driver : Driver X} (fresh : Fresh driver) {events : List Event}
    (ran : Process.run events (Process.start nodeId driver) = some after) (done : after.exit = some (.ok ())) :
    after.phase = .left (.ok ()) := by
  have wired : Wired nodeId ([] ++ requests events) after := (Wired.start fresh).run ran
  exact wired.signalled (wired.ended done)

/-- The first put is applied, and the user asks for the status. A read and the second put still wait. -/
def servedEvents : List Event :=
  [.request (.put "k" "v" 7), .tryRecv, .poll (.ok (some ⟨.char 's', false⟩)), .tryRecv,
    .poll (.ok (some ⟨.enter, false⟩)), .turn ⟨.command (.rpc (.put "k" "v" 7)), false⟩, .request (.get "k" 3),
    .tryRecv, .turn ⟨.command (.user .status), true⟩, .request (.put "k" "w" 8)]

def servedProcess : Process scripted :=
  (Process.run servedEvents (Process.start 1 Driver.accountedStart)).get (by decide +kernel)

/-- The process answered one PUT, and another one waits in the channel. -/
theorem process_serves_waiting :
    answered servedProcess.driver.trace = [7] ∧ putChannels servedProcess.unread = [8] ∧
    (answered servedProcess.driver.trace ++ servedProcess.driver.waiting ++ putChannels servedProcess.unread).Perm
      (putChannels (requests servedEvents)) ∧
    gotten servedProcess.driver.trace ++ getChannels servedProcess.unread = getChannels (requests servedEvents) ∧
    servedProcess.commands.sent.filterMap ServerCommand.typed = servedProcess.tui.sent := by
  refine ⟨by decide +kernel, by decide +kernel, ?_⟩
  exact process_serves Driver.accountedStart_fresh scriptedUuids_injective (Option.some_get _).symm

end Process

end Server

end RaftATui
