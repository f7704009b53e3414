import Mathlib.Control.Monad.Basic
import Mathlib.Order.Defs.Unbundled

/-
This file gives the rules for computations that change a state and may fail.
-/

namespace Machinery

/-- An attempt returns a value or an error. Its state changes survive the error. -/
def Attempt (State Error Value : Type) : Type := State → Except Error Value × State

namespace Attempt

variable {State Error Other Value Result Item : Type}

instance : Monad (Attempt State Error) where
  pure value state := (.ok value, state)
  bind first next state :=
    match first state with
    | (.ok value, middle) => next value middle
    | (.error error, middle) => (.error error, middle)

/-- This attempt stops with an error. -/
def fail (error : Error) : Attempt State Error Value := fun state => (.error error, state)

/-- This attempt reads the state. -/
def get : Attempt State Error State := fun state => (.ok state, state)

/-- This attempt replaces the state. -/
def modify (change : State → State) : Attempt State Error Unit := fun state => (.ok (), change state)

/-- This attempt never fails and returns the outcome of the given one. -/
def outcome (first : Attempt State Error Value) : Attempt State Other (Except Error Value) :=
  fun state => (.ok (first state).1, (first state).2)

/-- This attempt renames the error of the given one. -/
def relabel (rename : Error → Other) (first : Attempt State Error Value) :
    Attempt State Other Value :=
  fun state => ((first state).1.mapError rename, (first state).2)

/-- This attempt runs its body on each item and stops at the first error. -/
def forEach (body : Item → Attempt State Error Unit) : List Item → Attempt State Error Unit
  | [] => pure ()
  | item :: rest => do
      body item
      forEach body rest

@[simp] theorem pure_apply (value : Value) (state : State) :
    (pure value : Attempt State Error Value) state = (.ok value, state) := rfl

@[simp] theorem modify_apply (change : State → State) (state : State) :
    (modify change : Attempt State Error Unit) state = (.ok (), change state) := rfl

@[simp] theorem fail_apply (error : Error) (state : State) :
    (fail error : Attempt State Error Value) state = (.error error, state) := rfl

@[simp] theorem forEach_nil (body : Item → Attempt State Error Unit) :
    forEach body [] = pure () := rfl

@[simp] theorem forEach_cons (body : Item → Attempt State Error Unit) (item : Item)
    (rest : List Item) : forEach body (item :: rest) = body item >>= fun _ => forEach body rest := rfl

/-- A sequence continues with the value of its first part. -/
theorem bind_ok {first : Attempt State Error Value} (next : Value → Attempt State Error Result)
    {state middle : State} {value : Value} (done : first state = (.ok value, middle)) :
    (first >>= next) state = next value middle := by
  change (match first state with
    | (.ok value, middle) => next value middle
    | (.error error, middle) => (.error error, middle)) = _
  rw [done]

/-- A sequence stops with the error of its first part. -/
theorem bind_error {first : Attempt State Error Value} (next : Value → Attempt State Error Result)
    {state middle : State} {error : Error} (failed : first state = (.error error, middle)) :
    (first >>= next) state = (.error error, middle) := by
  change (match first state with
    | (.ok value, middle) => next value middle
    | (.error error, middle) => (.error error, middle)) = _
  rw [failed]

@[simp] theorem pure_bind (value : Value) (next : Value → Attempt State Error Result) :
    (pure value >>= next : Attempt State Error Result) = next value := rfl

@[simp] theorem get_bind (next : State → Attempt State Error Result) (state : State) :
    (get >>= next) state = next state state := rfl

theorem bind_assoc {Final : Type} (first : Attempt State Error Value)
    (second : Value → Attempt State Error Result) (third : Result → Attempt State Error Final) :
    (first >>= second) >>= third = first >>= fun value => second value >>= third := by
  funext state
  rcases done : first state with ⟨error | value, middle⟩
  · rw [bind_error _ (bind_error _ done), bind_error _ done]
  · rw [bind_ok _ done]
    rcases later : second value middle with ⟨error | result, final⟩
    · rw [bind_error _ later, bind_error _ ((bind_ok _ done).trans later)]
    · rw [bind_ok _ later, bind_ok _ ((bind_ok _ done).trans later)]

/-- A sequence that ends with the unit value is its first part. -/
@[simp] theorem bind_pure_unit (first : Attempt State Error Unit) :
    (first >>= fun _ => pure ()) = first := by
  funext state
  rcases run : first state with ⟨error | value, middle⟩
  · exact bind_error _ run
  · exact bind_ok _ run

theorem relabel_ok {first : Attempt State Error Value} (rename : Error → Other) {state middle : State}
    {value : Value} (done : first state = (.ok value, middle)) :
    relabel rename first state = (.ok value, middle) := by
  rw [relabel, done]
  rfl

theorem mapError_eq_ok {result : Except Error Value} {rename : Error → Other} {value : Value} :
    result.mapError rename = .ok value ↔ result = .ok value := by
  cases result with
  | error error => exact ⟨fun same => (by cases same), fun same => (by cases same)⟩
  | ok found =>
      constructor
      · exact fun same => congrArg Except.ok (Except.ok.inj same)
      · exact fun same => congrArg Except.ok (Except.ok.inj same)

/-- A relabelled attempt succeeds when the attempt does. -/
theorem relabel_eq_ok {first : Attempt State Error Value} {rename : Error → Other} {state final : State}
    {value : Value} : relabel rename first state = (.ok value, final) ↔ first state = (.ok value, final) := by
  rw [relabel, Prod.mk.injEq, mapError_eq_ok]
  constructor
  · exact fun ⟨success, last⟩ => Prod.ext success last
  · exact fun same => ⟨congrArg Prod.fst same, congrArg Prod.snd same⟩

/-- A relabelled attempt fails when the attempt does. -/
theorem relabel_eq_error {first : Attempt State Error Value} {rename : Error → Other} {state final : State}
    {other : Other} : relabel rename first state = (.error other, final) ↔
      ∃ error, first state = (.error error, final) ∧ rename error = other := by
  rw [relabel]
  rcases first state with ⟨error | value, middle⟩
  · constructor
    · intro failed
      obtain ⟨same, rfl⟩ := Prod.mk.inj failed
      exact ⟨error, rfl, Except.error.inj same⟩
    · rintro ⟨reason, same, rfl⟩
      cases same
      rfl
  · constructor
    · intro failed
      cases failed
    · rintro ⟨reason, same, _⟩
      cases same

/-- Two sequences agree when their second parts agree on each success of the first part. -/
theorem bind_congr_ok {first : Attempt State Error Value}
    {next other : Value → Attempt State Error Result} {state : State}
    (agree : ∀ value middle, first state = (.ok value, middle) →
      next value middle = other value middle) :
    (first >>= next) state = (first >>= other) state := by
  rcases run : first state with ⟨error | value, middle⟩
  · rw [bind_error next run, bind_error other run]
  · rw [bind_ok next run, bind_ok other run, agree value middle run]

/-- A sequence succeeds exactly when both parts succeed. -/
theorem bind_eq_ok {first : Attempt State Error Value} {next : Value → Attempt State Error Result}
    {state final : State} {result : Result} :
    (first >>= next) state = (.ok result, final) ↔
      ∃ value middle, first state = (.ok value, middle) ∧
        next value middle = (.ok result, final) := by
  constructor
  · intro done
    rcases run : first state with ⟨error | value, middle⟩
    · rw [bind_error next run] at done
      simp at done
    · rw [bind_ok next run] at done
      exact ⟨value, middle, rfl, done⟩
  · rintro ⟨value, middle, run, done⟩
    rw [bind_ok next run, done]

/-- A sequence fails in its first part or in its second part. -/
theorem bind_eq_error {first : Attempt State Error Value} {next : Value → Attempt State Error Result}
    {state final : State} {error : Error} :
    (first >>= next) state = (.error error, final) ↔ first state = (.error error, final) ∨
      ∃ value middle, first state = (.ok value, middle) ∧ next value middle = (.error error, final) := by
  constructor
  · intro failed
    rcases run : first state with ⟨reason | value, middle⟩
    · rw [bind_error next run] at failed
      obtain ⟨same, rfl⟩ := Prod.mk.inj failed
      exact Or.inl (by rw [Except.error.inj same])
    · rw [bind_ok next run] at failed
      exact Or.inr ⟨value, middle, rfl, failed⟩
  · rintro (run | ⟨value, middle, run, failed⟩)
    · rw [bind_error next run]
    · rw [bind_ok next run, failed]

/-- A successful outcome comes with the last state. -/
theorem eq_ok {first : Attempt State Error Value} {state : State} {value : Value}
    (success : (first state).1 = .ok value) : first state = (.ok value, (first state).2) :=
  Prod.ext success rfl

/-- A loop over a joined list runs both parts in order. -/
theorem forEach_append (body : Item → Attempt State Error Unit) (first second : List Item) :
    forEach body (first ++ second) = forEach body first >>= fun _ => forEach body second := by
  induction first with
  | nil => rfl
  | cons item rest ih => rw [List.cons_append, forEach_cons, forEach_cons, ih, bind_assoc]

/-- A loop may compute its items first. -/
theorem forEach_map {Source : Type} (body : Item → Attempt State Error Unit) (make : Source → Item)
    (sources : List Source) :
    forEach body (sources.map make) = forEach (fun source => body (make source)) sources := by
  induction sources with
  | nil => rfl
  | cons source rest ih => rw [List.map_cons, forEach_cons, forEach_cons, ih]

/-! Rules for the relation between the first and the last state. -/

/-- The attempt moves the state along the relation, whatever its outcome is. -/
def Within (relation : State → State → Prop) (first : Attempt State Error Value) : Prop :=
  ∀ state, relation state (first state).2

/-- The attempt keeps an invariant, whatever its outcome is. -/
def Keeps (invariant : State → Prop) (first : Attempt State Error Value) : Prop :=
  Within (fun before after => invariant before → invariant after) first

/-- The attempt leaves one observation of the state as it is. -/
def Fixes {View : Type} (view : State → View) (first : Attempt State Error Value) : Prop :=
  Within (fun before after => view after = view before) first

section Relation

variable {relation : State → State → Prop} [IsPreorder State relation]

theorem Within.pure (value : Value) :
    Within relation (Pure.pure value : Attempt State Error Value) := fun state => refl_of relation state

theorem Within.get : Within relation (get : Attempt State Error State) := fun state => refl_of relation state

theorem Within.fail (error : Error) : Within relation (fail error : Attempt State Error Value) :=
  fun state => refl_of relation state

/-- A sequence of related moves is one related move. -/
theorem Within.bind {first : Attempt State Error Value} {next : Value → Attempt State Error Result}
    (moves : Within relation first) (continues : ∀ value, Within relation (next value)) :
    Within relation (first >>= next) := by
  intro state
  have step := moves state
  rcases run : first state with ⟨error | value, middle⟩
  · rw [run] at step
    rw [bind_error next run]
    exact step
  · rw [run] at step
    rw [bind_ok next run]
    exact trans_of relation step (continues value middle)

/-- A loop is a related move when its body is. -/
theorem Within.forEach {body : Item → Attempt State Error Unit} (items : List Item)
    (moves : ∀ item ∈ items, Within relation (body item)) : Within relation (forEach body items) := by
  induction items with
  | nil => exact Within.pure ()
  | cons item rest ih =>
      exact Within.bind (moves item List.mem_cons_self) fun _ =>
        ih fun later inside => moves later (List.mem_cons_of_mem item inside)

end Relation

theorem Within.modify {relation : State → State → Prop} {change : State → State}
    (moves : ∀ state, relation state (change state)) :
    Within relation (modify change : Attempt State Error Unit) := moves

theorem Within.outcome {relation : State → State → Prop} {first : Attempt State Error Value}
    (moves : Within relation first) : Within relation (outcome first : Attempt State Other _) := moves

theorem Within.relabel {relation : State → State → Prop} {first : Attempt State Error Value}
    (rename : Error → Other) (moves : Within relation first) :
    Within relation (relabel rename first) := moves

/-- The invariant relation of an attempt is a preorder. -/
instance keepsPreorder (invariant : State → Prop) :
    IsPreorder State (fun before after => invariant before → invariant after) where
  refl _ := id
  trans _ _ _ first second := second ∘ first

/-- The relation of one fixed observation is a preorder. -/
instance fixesPreorder {View : Type} (view : State → View) :
    IsPreorder State (fun before after => view after = view before) where
  refl _ := rfl
  trans _ _ _ first second := second.trans first

/-! Rules for pre- and postconditions. -/

/-- From a state with the precondition, a success reaches one postcondition and a failure the other. -/
def Triple (pre : State → Prop) (first : Attempt State Error Value) (done : Value → State → Prop)
    (failed : State → Prop) : Prop :=
  ∀ state, pre state → match first state with
    | (.ok value, final) => done value final
    | (.error _, final) => failed final

/-- A sequence passes through the postcondition of its first part. -/
theorem Triple.bind {pre failed : State → Prop} {middle : Value → State → Prop}
    {done : Result → State → Prop} {first : Attempt State Error Value}
    {next : Value → Attempt State Error Result} (begins : Triple pre first middle failed)
    (continues : ∀ value, Triple (middle value) (next value) done failed) :
    Triple pre (first >>= next) done failed := by
  intro state holds
  have step := begins state holds
  rcases run : first state with ⟨error | value, between⟩
  · rw [run] at step
    rw [bind_error next run]
    exact step
  · rw [run] at step
    rw [bind_ok next run]
    exact continues value between step

/-- A kept invariant is a postcondition of both outcomes. -/
theorem Keeps.triple {invariant failed : State → Prop} {first : Attempt State Error Value}
    (keeps : Keeps invariant first) (weaken : ∀ state, invariant state → failed state) :
    Triple invariant first (fun _ => invariant) failed := by
  intro state holds
  have step := keeps state holds
  rcases run : first state with ⟨error | value, final⟩
  · rw [run] at step
    exact weaken final step
  · rw [run] at step
    exact step

/-- An attempt that never fails reaches no other condition. -/
theorem Keeps.sure {invariant failed : State → Prop} {first : Attempt State Error Value} (keeps : Keeps invariant first)
    (succeeds : ∀ state, ∃ value, (first state).1 = .ok value) : Triple invariant first (fun _ => invariant) failed := by
  intro state holds
  have step := keeps state holds
  obtain ⟨value, done⟩ := succeeds state
  rcases run : first state with ⟨error | value, final⟩
  · rw [run] at done
    cases done
  · rw [run] at step
    exact step

/-- An outcome is no failure. -/
theorem Keeps.outcome {invariant failed : State → Prop} {first : Attempt State Error Value}
    (keeps : Keeps invariant first) :
    Triple invariant (outcome first : Attempt State Other _) (fun _ => invariant) failed := keeps

theorem Triple.get {invariant failed : State → Prop} :
    Triple invariant (get : Attempt State Error State) (fun _ => invariant) failed := fun _ => id

theorem Triple.modify {invariant failed : State → Prop} {change : State → State}
    (keeps : ∀ state, invariant state → invariant (change state)) :
    Triple invariant (modify change : Attempt State Error Unit) (fun _ => invariant) failed := keeps

theorem Triple.weaken {pre failed : State → Prop} {done weaker : Value → State → Prop}
    {first : Attempt State Error Value} (triple : Triple pre first done failed)
    (follows : ∀ value state, done value state → weaker value state) :
    Triple pre first weaker failed := by
  intro state holds
  have step := triple state holds
  rcases run : first state with ⟨error | value, final⟩
  · rw [run] at step
    exact step
  · rw [run] at step
    exact follows value final step

/-- A loop keeps an invariant that its body keeps, up to its first failure. -/
theorem Triple.forEach {invariant failed : State → Prop} {body : Item → Attempt State Error Unit} (items : List Item)
    (each : ∀ item ∈ items, Triple invariant (body item) (fun _ => invariant) failed) :
    Triple invariant (forEach body items) (fun _ => invariant) failed := by
  induction items with
  | nil => exact fun _ holds => holds
  | cons item rest ih =>
      exact (each item List.mem_cons_self).bind fun _ =>
        ih fun later inside => each later (List.mem_cons_of_mem item inside)

theorem Triple.pure {pre failed : State → Prop} {done : Value → State → Prop} {value : Value}
    (follows : ∀ state, pre state → done value state) :
    Triple pre (Pure.pure value : Attempt State Error Value) done failed := follows

theorem Triple.relabel {pre failed : State → Prop} {done : Value → State → Prop} {first : Attempt State Error Value}
    (rename : Error → Other) (triple : Triple pre first done failed) :
    Triple pre (relabel rename first) done failed := by
  intro state holds
  have step := triple state holds
  rcases run : first state with ⟨error | value, final⟩
  · rw [run] at step
    simp only [Attempt.relabel, run]
    exact step
  · rw [run] at step
    simp only [Attempt.relabel, run]
    exact step

/-- Equal postconditions hold of the last state. -/
theorem Triple.final {pre post : State → Prop} {first : Attempt State Error Value}
    (triple : Triple pre first (fun _ => post) post) {state : State} (holds : pre state) :
    post (first state).2 := by
  have step := triple state holds
  rcases run : first state with ⟨error | value, final⟩
  · rw [run] at step
    exact step
  · rw [run] at step
    exact step

/-! Rules for the relation between the first and the last state of a successful attempt. -/

/-- On success the attempt moves the state along the relation. -/
def Reaches (relation : State → State → Prop) (first : Attempt State Error Value) : Prop :=
  ∀ state value final, first state = (.ok value, final) → relation state final

/-- On success the attempt changes one observation of the state by the given function. -/
def Maps {View : Type} (view : State → View) (change : View → View)
    (first : Attempt State Error Value) : Prop :=
  Reaches (fun before after => view after = change (view before)) first

theorem Within.reaches {relation : State → State → Prop} {first : Attempt State Error Value}
    (moves : Within relation first) : Reaches relation first := by
  intro state value final done
  have step := moves state
  rw [done] at step
  exact step

theorem Reaches.relabel {relation : State → State → Prop} {first : Attempt State Error Value}
    (rename : Error → Other) (reaches : Reaches relation first) :
    Reaches relation (relabel rename first) := by
  intro state value final done
  exact reaches state value final (relabel_eq_ok.mp done)

/-- A loop moves along a preorder when its body does. -/
theorem Reaches.forEach {relation : State → State → Prop} [IsPreorder State relation]
    {body : Item → Attempt State Error Unit} (items : List Item)
    (reaches : ∀ item ∈ items, Reaches relation (body item)) :
    Reaches relation (forEach body items) := by
  induction items with
  | nil => exact Within.reaches (Within.pure ())
  | cons item rest ih =>
      intro state value final done
      obtain ⟨_, middle, run, later⟩ := bind_eq_ok.mp done
      have step := reaches item List.mem_cons_self state _ middle run
      have others := ih fun later inside => reaches later (List.mem_cons_of_mem item inside)
      exact trans_of relation step (others middle value final later)

section Observation

variable {View : Type} {view : State → View}

theorem Fixes.maps {first : Attempt State Error Value} (fixes : Fixes view first) :
    Maps view id first := Within.reaches fixes

/-- A sequence composes the changes of its parts. -/
theorem Maps.bind {change later : View → View} {first : Attempt State Error Value}
    {next : Value → Attempt State Error Result} (maps : Maps view change first)
    (continues : ∀ value, Maps view later (next value)) :
    Maps view (later ∘ change) (first >>= next) := by
  intro state result final done
  obtain ⟨value, middle, run, rest⟩ := bind_eq_ok.mp done
  rw [continues value middle result final rest, maps state value middle run]
  rfl

/-- A loop folds the changes of its items. -/
theorem Maps.forEach {change : View → Item → View} {body : Item → Attempt State Error Unit}
    (items : List Item) (maps : ∀ item ∈ items, Maps view (fun seen => change seen item) (body item)) :
    Maps view (fun seen => items.foldl change seen) (forEach body items) := by
  induction items with
  | nil => exact Fixes.maps (Within.pure ())
  | cons item rest ih =>
      exact Maps.bind (maps item List.mem_cons_self) fun _ =>
        ih fun later inside => maps later (List.mem_cons_of_mem item inside)

end Observation

end Attempt

end Machinery
