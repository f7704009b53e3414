import RaftATui.Library.Attempt

/-
This file relates readers of bytes to the spellings that they accept.
-/

namespace Machinery.Reading
open Attempt

variable {Byte Error Value Result : Type}

/-- The reader takes a spelling of a value off the front, whatever follows it, and nothing else. -/
def Reads (reader : Attempt (List Byte) Error Value) (spells : Value → List Byte → Prop) : Prop :=
  ∀ bytes value rest, reader bytes = (.ok value, rest) ↔ ∃ part, spells value part ∧ bytes = part ++ rest

variable {reader : Attempt (List Byte) Error Value} {spells other : Value → List Byte → Prop}

theorem Reads.congr (reads : Reads reader spells) (same : ∀ value part, spells value part ↔ other value part) :
    Reads reader other := by
  intro bytes value rest
  simp only [reads bytes value rest, same]

/-- A spelling at the front decides the value and the end of the spelling. -/
theorem Reads.unique (reads : Reads reader spells) {first second : Value} {part more rest later : List Byte}
    (spelled : spells first part) (also : spells second more) (same : part ++ rest = more ++ later) :
    first = second ∧ part = more ∧ rest = later := by
  have forward := (reads (part ++ rest) first rest).mpr ⟨part, spelled, rfl⟩
  have backward := (reads (part ++ rest) second later).mpr ⟨more, also, same⟩
  obtain ⟨value, ends⟩ := Prod.mk.inj (forward.symm.trans backward)
  subst ends
  exact ⟨Except.ok.inj value, List.append_cancel_right same, rfl⟩

theorem reads_pure (value : Value) :
    Reads (pure value : Attempt (List Byte) Error Value) fun result part => result = value ∧ part = [] := by
  intro bytes result rest
  simp only [pure_apply, Prod.mk.injEq, Except.ok.injEq]
  constructor
  · rintro ⟨rfl, rfl⟩
    exact ⟨[], ⟨rfl, rfl⟩, rfl⟩
  · rintro ⟨part, ⟨rfl, rfl⟩, rfl⟩
    exact ⟨rfl, rfl⟩

theorem reads_fail (error : Error) :
    Reads (fail error : Attempt (List Byte) Error Value) fun _ _ => False := by
  intro bytes result rest
  simp

/-- A sequence reads a spelling of its first part and then one of its second part. -/
theorem Reads.bind {next : Value → Attempt (List Byte) Error Result}
    {continues : Value → Result → List Byte → Prop} (reads : Reads reader spells)
    (more : ∀ value, Reads (next value) (continues value)) :
    Reads (reader >>= next) fun result bytes => ∃ value part later,
      spells value part ∧ continues value result later ∧ bytes = part ++ later := by
  intro bytes result rest
  rw [bind_eq_ok]
  constructor
  · rintro ⟨value, middle, first, second⟩
    obtain ⟨part, spelled, rfl⟩ := (reads bytes value middle).mp first
    obtain ⟨later, continued, rfl⟩ := (more value middle result rest).mp second
    exact ⟨part ++ later, ⟨value, part, later, spelled, continued, rfl⟩, (List.append_assoc _ _ _).symm⟩
  · rintro ⟨_, ⟨value, part, later, spelled, continued, rfl⟩, rfl⟩
    refine ⟨value, later ++ rest, ?_, (more value _ result rest).mpr ⟨later, continued, rfl⟩⟩
    exact (reads _ value _).mpr ⟨part, spelled, List.append_assoc _ _ _⟩

/-- A reader that turns each value into one result reads the spellings of the value. -/
theorem Reads.map {make : Value → Result} (reads : Reads reader spells) :
    Reads (reader >>= fun value => pure (make value)) fun result bytes =>
      ∃ value, spells value bytes ∧ result = make value := by
  refine (reads.bind fun value => reads_pure (make value)).congr fun result bytes => ?_
  constructor
  · rintro ⟨value, part, _, spelled, ⟨rfl, rfl⟩, rfl⟩
    rw [List.append_nil]
    exact ⟨value, spelled, rfl⟩
  · rintro ⟨value, spelled, rfl⟩
    exact ⟨value, bytes, [], spelled, ⟨rfl, rfl⟩, (List.append_nil _).symm⟩

theorem Reads.relabel {Other : Type} (reads : Reads reader spells) (rename : Error → Other) :
    Reads (relabel rename reader) spells := by
  intro bytes value rest
  rw [relabel_eq_ok]
  exact reads bytes value rest

/-- The reader stops with the error on exactly these bytes. -/
def Stops (reader : Attempt (List Byte) Error Value) (error : Error) (stopping : List Byte → Prop) : Prop :=
  ∀ bytes, (reader bytes).1 = .error error ↔ stopping bytes

section Stops

variable {error : Error} {stopping others : List Byte → Prop}

theorem Stops.congr (stops : Stops reader error stopping) (same : ∀ bytes, stopping bytes ↔ others bytes) :
    Stops reader error others := fun bytes => (stops bytes).trans (same bytes)

theorem stops_pure (value : Value) :
    Stops (pure value : Attempt (List Byte) Error Value) error fun _ => False := by
  intro bytes
  simp

theorem stops_fail (other : Error) :
    Stops (fail other : Attempt (List Byte) Error Value) error fun _ => other = error := by
  intro bytes
  simp

/-- A reader never stops with an error outside the names of its own errors. -/
theorem stops_relabel {Other : Type} {rename : Error → Other} {outside : Other}
    (foreign : ∀ error, rename error ≠ outside) : Stops (relabel rename reader) outside fun _ => False := by
  intro bytes
  rw [iff_false, relabel]
  cases (reader bytes).1 with
  | ok value => exact fun same => by cases same
  | error inner => exact fun same => foreign inner (Except.error.inj same)

/-- A sequence stops in its first part, or behind a spelling in its second part. -/
theorem Stops.bind {next : Value → Attempt (List Byte) Error Result} {later : Value → List Byte → Prop}
    (stops : Stops reader error stopping) (reads : Reads reader spells)
    (more : ∀ value, Stops (next value) error (later value)) :
    Stops (reader >>= next) error fun bytes => stopping bytes ∨ ∃ value part rest,
      spells value part ∧ bytes = part ++ rest ∧ later value rest := by
  intro bytes
  refine Iff.trans ?_ (or_congr_left (stops bytes))
  rcases run : reader bytes with ⟨refused | value, rest⟩
  · rw [bind_error next run]
    constructor
    · exact fun same => Or.inl (by rw [← Except.error.inj same])
    · rintro (same | ⟨value, part, behind, spelled, split, _⟩)
      · rw [Except.error.inj same]
      · rw [(reads bytes value behind).mpr ⟨part, spelled, split⟩] at run
        cases run
  · rw [bind_ok next run, more value rest]
    constructor
    · intro stopped
      obtain ⟨part, spelled, split⟩ := (reads bytes value rest).mp run
      exact Or.inr ⟨value, part, rest, spelled, split, stopped⟩
    · rintro (same | ⟨other, part, behind, spelled, split, stopped⟩)
      · cases same
      · rw [(reads bytes other behind).mpr ⟨part, spelled, split⟩] at run
        obtain ⟨named, rfl⟩ := Prod.mk.inj run
        rwa [← Except.ok.inj named]

end Stops

end Machinery.Reading
