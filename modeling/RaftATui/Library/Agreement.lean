import RaftATui.Library.Attempt

/-
This file gives the rules for two runs that start from related states.
-/

namespace Machinery.Attempt

variable {First Second Error Other Value Result Item : Type} {relation : First → Second → Prop}

/-- From related states both attempts return the same and reach related states. -/
def Agree (relation : First → Second → Prop) (first : Attempt First Error Value)
    (second : Attempt Second Error Value) : Prop :=
  ∀ one two, relation one two → (first one).1 = (second two).1 ∧ relation (first one).2 (second two).2

theorem Agree.pure (value : Value) :
    Agree relation (Pure.pure value : Attempt First Error Value) (Pure.pure value) :=
  fun _ _ related => ⟨rfl, related⟩

theorem Agree.fail (error : Error) :
    Agree relation (fail error : Attempt First Error Value) (fail error) :=
  fun _ _ related => ⟨rfl, related⟩

/-- Sequences agree when their parts do on each common value. -/
theorem Agree.bind {first : Attempt First Error Value} {second : Attempt Second Error Value}
    {next : Value → Attempt First Error Result} {later : Value → Attempt Second Error Result}
    (begins : Agree relation first second) (continues : ∀ value, Agree relation (next value) (later value)) :
    Agree relation (first >>= next) (second >>= later) := by
  intro one two related
  have step := begins one two related
  rcases run : first one with ⟨error | value, middle⟩
  · rcases other : second two with ⟨failure | value, between⟩
    · rw [run, other] at step
      rw [bind_error next run, bind_error later other]
      obtain rfl := Except.error.inj step.1
      exact ⟨rfl, step.2⟩
    · rw [run, other] at step
      cases step.1
  · rcases other : second two with ⟨failure | answer, between⟩
    · rw [run, other] at step
      cases step.1
    · rw [run, other] at step
      rw [bind_ok next run, bind_ok later other]
      obtain rfl := Except.ok.inj step.1
      exact continues value middle between step.2

/-- Sequences that read their states first agree when they do on each related pair. -/
theorem Agree.get_bind {next : First → Attempt First Error Result} {later : Second → Attempt Second Error Result}
    (continues : ∀ one two, relation one two → Agree relation (next one) (later two)) :
    Agree relation (get >>= next) (get >>= later) :=
  fun one two related => continues one two related one two related

theorem Agree.modify {change : First → First} {other : Second → Second}
    (moves : ∀ one two, relation one two → relation (change one) (other two)) :
    Agree relation (modify change : Attempt First Error Unit) (modify other) :=
  fun one two related => ⟨rfl, moves one two related⟩

theorem Agree.outcome {first : Attempt First Error Value} {second : Attempt Second Error Value}
    (agree : Agree relation first second) :
    Agree relation (outcome first : Attempt First Other _) (outcome second) := by
  intro one two related
  have step := agree one two related
  exact ⟨congrArg Except.ok step.1, step.2⟩

theorem Agree.relabel {first : Attempt First Error Value} {second : Attempt Second Error Value}
    (rename : Error → Other) (agree : Agree relation first second) :
    Agree relation (relabel rename first) (relabel rename second) := by
  intro one two related
  have step := agree one two related
  exact ⟨congrArg (Except.mapError rename) step.1, step.2⟩

/-- Loops agree when their bodies do. -/
theorem Agree.forEach {body : Item → Attempt First Error Unit} {other : Item → Attempt Second Error Unit}
    (items : List Item) (agree : ∀ item ∈ items, Agree relation (body item) (other item)) :
    Agree relation (forEach body items) (forEach other items) := by
  induction items with
  | nil => exact Agree.pure ()
  | cons item rest ih =>
      apply Agree.bind (agree item List.mem_cons_self)
      exact fun _ => ih fun later inside => agree later (List.mem_cons_of_mem item inside)

/-- This function runs the body on each item, whatever the outcomes are, and lists these. -/
def tryAll (body : Item → Attempt First Error Unit) : List Item → First → List (Except Error Unit) × First
  | [], state => ([], state)
  | item :: rest, state =>
      let later := tryAll body rest (body item state).2
      ((body item state).1 :: later.1, later.2)

/-- Tries agree when their bodies do. -/
theorem Agree.tryAll {body : Item → Attempt First Error Unit} {other : Item → Attempt Second Error Unit}
    (items : List Item) (agree : ∀ item ∈ items, Agree relation (body item) (other item)) {one : First} {two : Second}
    (related : relation one two) : (tryAll body items one).1 = (tryAll other items two).1 ∧
      relation (tryAll body items one).2 (tryAll other items two).2 := by
  induction items generalizing one two with
  | nil => exact ⟨rfl, related⟩
  | cons item rest ih =>
      obtain ⟨same, near⟩ := agree item List.mem_cons_self one two related
      obtain ⟨results, close⟩ := ih (fun later inside => agree later (List.mem_cons_of_mem item inside)) near
      exact ⟨congrArg₂ List.cons same results, close⟩

/-! Rules for two runs of which the second can go on where the first one fails. -/

/-- From related states each success of the first attempt is one of the second. -/
def Repeats (relation : First → Second → Prop) (first : Attempt First Error Value)
    (second : Attempt Second Error Value) : Prop :=
  ∀ one two value final, relation one two → first one = (.ok value, final) →
    ∃ last, second two = (.ok value, last) ∧ relation final last

theorem Repeats.pure (value : Value) :
    Repeats relation (Pure.pure value : Attempt First Error Value) (Pure.pure value) := by
  intro one two result final related done
  obtain ⟨same, rfl⟩ := Prod.mk.inj done
  exact ⟨two, by rw [← same]; rfl, related⟩

theorem Repeats.fail (error : Error) (second : Attempt Second Error Value) :
    Repeats relation (fail error : Attempt First Error Value) second := by
  intro one two result final related done
  cases done

/-- A sequence is mirrored when both parts are. -/
theorem Repeats.bind {first : Attempt First Error Value} {second : Attempt Second Error Value}
    {next : Value → Attempt First Error Result} {later : Value → Attempt Second Error Result}
    (begins : Repeats relation first second)
    (continues : ∀ value, Repeats relation (next value) (later value)) :
    Repeats relation (first >>= next) (second >>= later) := by
  intro one two result final related done
  obtain ⟨value, middle, run, rest⟩ := bind_eq_ok.mp done
  obtain ⟨between, other, near⟩ := begins one two value middle related run
  obtain ⟨last, ends, close⟩ := continues value middle between result final near rest
  exact ⟨last, (bind_ok later other).trans ends, close⟩

end Machinery.Attempt
