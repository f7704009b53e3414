import RaftATui.Proof.Driver.Accounts
import RaftATui.Proof.Driver.Loop
import RaftATui.Proof.Driver.Screen

namespace RaftATui
open Machinery

/-- A turn takes at most one command. -/
def Turn.commands (turn : Turn) : List Action :=
  match turn.input with
  | .command cmd => [.command cmd]
  | _ => []

namespace Driver

open Attempt (Within Keeps Triple)

variable {X : Externals} {asked : List Action} {driver : Driver X}

/-- The channel of the last PUT stands last. -/
theorem putChannels_concat (actions : List Action) (action : Action) :
    putChannels (actions ++ [action]) = putChannels actions ++ action.putChannel.toList := by
  cases mine : action.putChannel <;> simp [putChannels, mine]

/-- The channel of the last GET stands last. -/
theorem getChannels_concat (actions : List Action) (action : Action) :
    getChannels (actions ++ [action]) = getChannels actions ++ action.getChannel.toList := by
  cases mine : action.getChannel <;> simp [getChannels, mine]

/-- The state accounts for these requests: the PUTs are balanced and the GETs are answered in their order. -/
structure Served (asked : List Action) (driver : Driver X) : Prop where
  accounts : Accounts (putChannels asked) driver
  gotten : gotten driver.trace = getChannels asked

/-- At the start nobody was served. -/
theorem Served.start (fresh : Fresh driver) (distinct : Function.Injective driver.uuids) : Served [] driver where
  accounts := Accounts.start fresh distinct
  gotten := by rw [fresh.trace]; rfl

/-- An action is served behind the earlier ones. -/
theorem perform_served (served : Served asked driver) (action : Action) :
    Served (asked ++ [action]) (perform action driver).2 := by
  constructor
  · rw [putChannels_concat]
    exact perform_accounts served.accounts action
  · rw [perform_gotten, served.gotten, getChannels_concat]

/-- An action that no client asks for leaves the requests as they are. -/
theorem perform_keeps_served (action : Action) (put : action.putChannel = none) (get : action.getChannel = none) :
    Keeps (Served asked) (perform action : Attempt (Driver X) RaftLoopError Unit) := by
  intro driver served
  obtain ⟨accounts, told⟩ := perform_served served action
  constructor
  · rwa [putChannels_concat, put, Option.toList_none, List.append_nil] at accounts
  · rwa [getChannels_concat, get, Option.toList_none, List.append_nil] at told

/-- The end of a turn serves no further command. -/
theorem settle_keeps_served (elapsed : Bool) :
    Keeps (Served asked) (settle elapsed : Attempt (Driver X) RaftLoopError Unit) := by
  intro driver
  obtain ⟨actions, only, same⟩ := settle_actions elapsed driver
  have keeps : Keeps (Served asked) (performAll actions : Attempt (Driver X) RaftLoopError Unit) := by
    apply Within.forEach
    intro action inside
    obtain rfl | rfl := only action inside
    · exact perform_keeps_served .tick rfl rfl
    · exact perform_keeps_served .ready rfl rfl
  rw [← same]
  exact keeps driver

/-- A turn serves the command that it received. -/
theorem receive_served (turn : Turn) :
    Triple (Served asked) (receive turn.input : Attempt (Driver X) RaftLoopError Bool)
      (fun _ => Served (asked ++ turn.commands)) (Served (asked ++ turn.commands)) := by
  unfold Turn.commands
  cases turn.input with
  | command cmd =>
      intro driver served
      have taken := perform_served served (.command cmd)
      rcases done : perform (.command cmd) driver with ⟨error | _, after⟩
      · have stopped : receive (.command cmd) driver = (.error error, after) := Attempt.bind_error _ done
        rw [done] at taken
        rw [stopped]
        exact taken
      · have goes : receive (.command cmd) driver = (.ok true, after) := Attempt.bind_ok _ done
        rw [done] at taken
        rw [goes]
        exact taken
  | message msg =>
      rw [List.append_nil]
      have keeps : Keeps (Served asked) (receive (.message msg) : Attempt (Driver X) RaftLoopError Bool) :=
        (perform_keeps_served (.message msg) rfl rfl).bind fun _ => Within.pure true
      exact keeps.triple fun _ => id
  | commandChannelClosed => rw [List.append_nil]; exact fun _ => id
  | messageChannelClosed => rw [List.append_nil]; exact fun _ => id
  | shutdown => rw [List.append_nil]; exact fun _ => id
  | timeout => rw [List.append_nil]; exact fun _ => id

/-- One turn accounts for the command that it takes. -/
theorem turn_served (served : Served asked driver) (turn : Turn) :
    Served (asked ++ turn.commands) (run [turn] driver).2 := by
  have rest (goesOn : Bool) : Keeps (Served (asked ++ turn.commands)) (if goesOn then
      settle turn.elapsed >>= fun _ => run [] else pure () : Attempt (Driver X) RaftLoopError Unit) := by
    cases goesOn with
    | true => exact (settle_keeps_served turn.elapsed).bind fun _ => Within.pure ()
    | false => exact Within.pure ()
  exact ((receive_served turn).bind fun goesOn => (rest goesOn).triple fun _ => id).final served

end Driver

end RaftATui
