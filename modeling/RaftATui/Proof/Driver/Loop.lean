import RaftATui.Proof.Driver.KvFold

namespace RaftATui
open Machinery

namespace Driver

variable {X : Externals} {Value Result : Type}

/-- The attempt ends where some actions end, and these succeed when it does. -/
def Performs (first : Attempt (Driver X) RaftLoopError Value) : Prop :=
  ∀ driver, ∃ actions, (performAll actions driver).2 = (first driver).2 ∧
    ∀ value, (first driver).1 = .ok value → (performAll actions driver).1 = .ok ()

/-- A result performs no action. -/
theorem performs_pure (value : Value) : Performs (pure value : Attempt (Driver X) RaftLoopError Value) :=
  fun _ => ⟨[], rfl, fun _ _ => rfl⟩

/-- An error performs no action. -/
theorem performs_fail (error : RaftLoopError) :
    Performs (Attempt.fail error : Attempt (Driver X) RaftLoopError Value) := by
  intro driver
  refine ⟨[], rfl, fun value success => ?_⟩
  cases success

/-- A run of one action is the action. -/
theorem performAll_single (action : Action) :
    performAll [action] = (perform action : Attempt (Driver X) RaftLoopError Unit) := by
  rw [performAll, Attempt.forEach_cons, Attempt.forEach_nil, Attempt.bind_pure_unit]

/-- An action performs itself. -/
theorem performs_perform (action : Action) :
    Performs (perform action : Attempt (Driver X) RaftLoopError Unit) := by
  intro driver
  refine ⟨[action], by rw [performAll_single], fun _ success => ?_⟩
  rw [performAll_single, success]

/-- A sequence performs the actions of its first part and then those of its second part. -/
theorem Performs.bind {first : Attempt (Driver X) RaftLoopError Value}
    {next : Value → Attempt (Driver X) RaftLoopError Result} (begins : Performs first)
    (continues : ∀ value, Performs (next value)) : Performs (first >>= next) := by
  intro driver
  obtain ⟨actions, same, success⟩ := begins driver
  rcases run : first driver with ⟨error | value, middle⟩
  · rw [Attempt.bind_error next run]
    rw [run] at same
    exact ⟨actions, same, fun value done => by cases done⟩
  · rw [run] at same success
    have done : performAll actions driver = (.ok (), middle) := Prod.ext (success value rfl) same
    obtain ⟨later, same', success'⟩ := continues value middle
    have joined : performAll (actions ++ later) driver = performAll later middle := by
      rw [performAll, Attempt.forEach_append]
      exact Attempt.bind_ok _ done
    refine ⟨actions ++ later, ?_⟩
    rw [Attempt.bind_ok next run, joined]
    exact ⟨same', success'⟩

/-- A received input performs at most its own action. -/
theorem receive_performs (input : Input) :
    Performs (receive input : Attempt (Driver X) RaftLoopError Bool) := by
  cases input with
  | command cmd => exact (performs_perform (.command cmd)).bind fun _ => performs_pure true
  | message msg => exact (performs_perform (.message msg)).bind fun _ => performs_pure true
  | commandChannelClosed => exact performs_fail _
  | messageChannelClosed => exact performs_fail _
  | shutdown => exact performs_pure false
  | timeout => exact performs_pure true

/-- The end of a turn may tick, and it takes a ready when raft has one. -/
theorem settle_actions (elapsed : Bool) (driver : Driver X) :
    ∃ actions, (∀ action ∈ actions, action = .tick ∨ action = .ready) ∧
      performAll actions driver = (settle elapsed : Attempt (Driver X) RaftLoopError Unit) driver := by
  have asks (middle : Driver X) : ∃ later, (∀ action ∈ later, action = .tick ∨ action = .ready) ∧
      performAll later middle = (Attempt.get >>= fun driver =>
        if X.raw.hasReady driver.store driver.raft then processReady else pure () :
        Attempt (Driver X) RaftLoopError Unit) middle := by
    rw [Attempt.get_bind]
    split
    · exact ⟨[.ready], by simp, congrFun (performAll_single .ready) middle⟩
    · exact ⟨[], by simp, rfl⟩
  cases elapsed with
  | true =>
      obtain ⟨later, only, same⟩ := asks ((perform .tick : Attempt (Driver X) RaftLoopError Unit) driver).2
      exact ⟨.tick :: later, by simpa using only, same⟩
  | false => exact asks driver

/-- The end of a turn performs at most a tick and a ready. -/
theorem settle_performs (elapsed : Bool) :
    Performs (settle elapsed : Attempt (Driver X) RaftLoopError Unit) := by
  intro driver
  obtain ⟨actions, _, same⟩ := settle_actions elapsed driver
  exact ⟨actions, by rw [same], fun _ success => by rw [same, success]⟩

/-- Every run of the loop performs actions. -/
theorem run_performs (turns : List Turn) :
    Performs (run turns : Attempt (Driver X) RaftLoopError Unit) := by
  induction turns with
  | nil => exact performs_pure ()
  | cons turn rest ih =>
      apply (receive_performs turn.input).bind
      intro goesOn
      cases goesOn with
      | true => exact (settle_performs turn.elapsed).bind fun _ => ih
      | false => exact performs_pure ()

/-- What each successful run of actions keeps is also kept by each successful run of the loop. -/
theorem run_reaches {relation : Driver X → Driver X → Prop}
    (performs : ∀ actions, Attempt.Reaches relation (performAll actions : Attempt (Driver X) RaftLoopError Unit))
    (turns : List Turn) : Attempt.Reaches relation (run turns : Attempt (Driver X) RaftLoopError Unit) := by
  intro start _ final done
  obtain ⟨actions, same, success⟩ := run_performs turns start
  rw [done] at same success
  exact performs actions start () final (Prod.ext (success () rfl) same)

/-- The loop delivers to the map what raft hands out, whatever turns it takes. -/
theorem run_folds (turns : List Turn) :
    Attempt.Reaches Folds (run turns : Attempt (Driver X) RaftLoopError Unit) :=
  run_reaches performAll_folds turns

end Driver

end RaftATui
