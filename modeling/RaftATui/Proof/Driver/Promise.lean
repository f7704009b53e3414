import RaftATui.Proof.Driver.Journal
import RaftATui.Proof.Driver.Moves

namespace RaftATui
open Machinery

/-- These effects write to the disk or inform the display. -/
def Effect.silent : Effect → Prop
  | .sled _ | .notify _ => True
  | _ => False

/-- A ready leaves these effects before anything is persisted. -/
def Ready.begins (ready : Ready) : List Effect :=
  .ready ready :: ready.messages.map fun msg => .send msg.to msg

/-- A persisting move writes and informs. It keeps raft and the callbacks. -/
structure Persists {X : Externals} (before after : Driver X) : Prop where
  raft : after.raft = before.raft
  callbacks : after.callbacks = before.callbacks
  trace : ∃ kept, after.trace = before.trace ++ kept ∧ ∀ effect ∈ kept, effect.silent

section Memory

variable {Mem : Type} (mem : MemStorageApi Mem) (ready : Ready)

/-- This is the memory storage after the snapshot of a ready. -/
def installedMem (inner : Mem) : Mem :=
  if ready.snapshot.isEmpty then inner else (mem.applySnapshot ready.snapshot inner).2

def appendedMem (inner : Mem) : Mem :=
  if ready.entries.isEmpty then installedMem mem ready inner
  else (mem.append ready.entries (installedMem mem ready inner)).2

/-- This is the memory storage after the whole ready. -/
def persistedMem (inner : Mem) : Mem :=
  match ready.hs with
  | some hs => mem.setHardstate hs (appendedMem mem ready inner)
  | none => appendedMem mem ready inner

/-- The snapshot, the entries and the hard state are written in this order, each with success. On disk the
completed calls include their flushes. -/
def Wrote (kept : List Effect) (after : RaftStorage Mem) : RaftStorage Mem → Prop
  | .disk storage => sledOps kept = ready.sledOps storage.db ∧
      after.db? = some (storage.db.replay (ready.sledOps storage.db))
  | .memory inner _ =>
      (ready.snapshot.isEmpty = false → (mem.applySnapshot ready.snapshot inner).1 = .ok ()) ∧
      (ready.entries.isEmpty = false → (mem.append ready.entries (installedMem mem ready inner)).1 = .ok ()) ∧
      ∃ appliedIndex, after = .memory (persistedMem mem ready inner) appliedIndex

end Memory

namespace Driver

open Attempt (Within)

variable {X : Externals}

instance persistsPreorder : IsPreorder (Driver X) Persists where
  refl _ := ⟨rfl, rfl, [], (List.append_nil _).symm, by simp⟩
  trans first second third := by
    intro ⟨raft, callbacks, kept, trace, silent⟩ ⟨raft', callbacks', kept', trace', silent'⟩
    refine ⟨raft'.trans raft, callbacks'.trans callbacks, kept ++ kept', ?_, ?_⟩
    · rw [trace', trace, List.append_assoc]
    · intro effect inside
      exact (List.mem_append.mp inside).elim (silent effect) (silent' effect)

/-- Storage calls write and touch neither raft nor the callbacks. -/
theorem persists_of_stores {Error Value : Type} {first : Attempt (Driver X) Error Value}
    (stores : Within Stores first) : Within Persists first := by
  intro driver
  obtain ⟨ops, trace⟩ := (stores driver).trace
  refine ⟨(stores driver).raft, (stores driver).callbacks, ops.map .sled, trace, fun effect inside => ?_⟩
  obtain ⟨op, _, rfl⟩ := List.mem_map.mp inside
  trivial

/-- An update for the TUI only informs. -/
theorem notify_persists {Error : Type} (update : StateUpdate) :
    Within Persists (notify update : Attempt (Driver X) Error Unit) := by
  intro driver
  obtain ⟨notices, run, told⟩ := @notify_eq X Error update driver
  rw [run]
  refine ⟨rfl, rfl, notices, rfl, fun effect inside => ?_⟩
  obtain ⟨update, rfl⟩ := told effect inside
  trivial

/-- An installed snapshot is written, restored and told to the TUI. -/
theorem applySnapshotPart_persists (ready : Ready) :
    Within Persists (applySnapshotPart ready : Attempt (Driver X) RaftLoopError Unit) := by
  apply applySnapshotPart_within
  case stores => exact persists_of_stores (Within.relabel _ (withStore_stores _))
  case restores => exact fun _ => ⟨rfl, rfl, [], (List.append_nil _).symm, by simp⟩
  case counts => exact fun index => persists_of_stores (setAppliedIndex_stores index)
  case tells => exact fun _ => notify_persists _

/-- Messages are handed to the transport one by one, whatever becomes of them. -/
theorem sendMessages_eq (messages : List Message) (driver : Driver X) :
    (sendMessages messages driver).1 = .ok () ∧ (sendMessages messages driver).2.trace =
      driver.trace ++ messages.map (fun msg => .send msg.to msg) ∧
      (sendMessages messages driver).2.raft = driver.raft := by
  induction messages generalizing driver with
  | nil => exact ⟨rfl, (List.append_nil _).symm, rfl⟩
  | cons msg rest ih =>
      obtain ⟨success, trace, raft⟩ := ih (sendMessage msg driver).2
      have run : sendMessages (msg :: rest) driver = sendMessages rest (sendMessage msg driver).2 :=
        Attempt.bind_ok _ (rfl : sendMessage msg driver = (.ok (), _))
      rw [run]
      refine ⟨success, ?_, raft⟩
      rw [trace, List.map_cons]
      exact List.append_assoc _ [_] _

/-- The stored parts of a ready only write and inform. -/
theorem persistParts_persists (ready : Ready) :
    Within Persists (persistParts ready : Attempt (Driver X) RaftLoopError Unit) := by
  apply Within.bind (applySnapshotPart_persists ready)
  intro _
  exact Within.bind (persists_of_stores (appendEntriesPart_stores ready)) fun _ =>
    persists_of_stores (persistHardstatePart_stores ready)

section Memory

variable {ready : Ready} {driver final : Driver X} {inner : X.Mem} {appliedIndex : Nat}

/-- A successful call on the memory backend ran its arm with success. -/
theorem withStore_memory {onMemory : X.Mem → Except RaftError Unit × X.Mem}
    {onDisk : Attempt DiskStorage RaftError Unit} (memory : driver.store = .memory inner appliedIndex)
    (done : (Attempt.relabel .storage (withStore (RaftStorage.both onMemory onDisk)) :
      Attempt (Driver X) RaftLoopError Unit) driver = (.ok (), final)) :
    (onMemory inner).1 = .ok () ∧ final.store = .memory (onMemory inner).2 appliedIndex := by
  simp only [Attempt.relabel, withStore, memory, RaftStorage.clearJournal, RaftStorage.both, Prod.mk.injEq] at done
  obtain ⟨success, rfl⟩ := done
  exact ⟨Attempt.mapError_eq_ok.mp success, rfl⟩

/-- In memory an installed snapshot replaces the stored one. -/
theorem applySnapshotPart_memory (memory : driver.store = .memory inner appliedIndex)
    (done : applySnapshotPart ready driver = (.ok (), final)) :
    (ready.snapshot.isEmpty = false → (X.mem.applySnapshot ready.snapshot inner).1 = .ok ()) ∧
      ∃ counted, final.store = .memory (installedMem X.mem ready inner) counted := by
  unfold applySnapshotPart at done
  unfold installedMem
  cases none : ready.snapshot.isEmpty with
  | true =>
      rw [if_pos none] at done
      rw [← (Prod.mk.inj done).2]
      exact ⟨by simp, appliedIndex, memory⟩
  | false =>
      rw [if_neg (by simp [none])] at done
      obtain ⟨_, stored, install, done⟩ := Attempt.bind_eq_ok.mp done
      obtain ⟨_, restored, restore, done⟩ := Attempt.bind_eq_ok.mp done
      obtain ⟨_, counted, count, done⟩ := Attempt.bind_eq_ok.mp done
      obtain ⟨success, store⟩ := withStore_memory memory install
      have kept : restored.store = stored.store := by
        rw [← (Prod.mk.inj restore).2]
      have noticed : final.store = counted.store := ((notify_quiet _).reaches _ _ _ done).store
      refine ⟨fun _ => success, ready.snapshot.metadata.index, ?_⟩
      rw [noticed, ← (Prod.mk.inj count).2]
      simp [withStore, kept, store, RaftStorage.clearJournal, RaftStorage.setAppliedIndex]

/-- In memory the entries follow the snapshot. -/
theorem appendEntriesPart_memory (memory : driver.store = .memory (installedMem X.mem ready inner) appliedIndex)
    (done : appendEntriesPart ready driver = (.ok (), final)) :
    (ready.entries.isEmpty = false →
        (X.mem.append ready.entries (installedMem X.mem ready inner)).1 = .ok ()) ∧
      final.store = .memory (appendedMem X.mem ready inner) appliedIndex := by
  unfold appendEntriesPart at done
  unfold appendedMem
  cases none : ready.entries.isEmpty with
  | true =>
      rw [if_pos none] at done
      rw [← (Prod.mk.inj done).2]
      exact ⟨by simp, memory⟩
  | false =>
      rw [if_neg (by simp [none])] at done
      obtain ⟨success, store⟩ := withStore_memory memory done
      exact ⟨fun _ => success, store⟩

/-- In memory the hard state follows the entries. -/
theorem persistHardstatePart_memory (memory : driver.store = .memory (appendedMem X.mem ready inner) appliedIndex)
    (done : persistHardstatePart ready driver = (.ok (), final)) :
    final.store = .memory (persistedMem X.mem ready inner) appliedIndex := by
  unfold persistHardstatePart at done
  unfold persistedMem
  cases carried : ready.hs with
  | none =>
      simp only [carried] at done
      rw [← (Prod.mk.inj done).2]
      exact memory
  | some hs =>
      simp only [carried] at done
      exact (withStore_memory memory done).2

/-- A successful first half wrote every part of the ready on either backend. -/
theorem persistParts_wrote {kept : List Effect} (done : persistParts ready driver = (.ok (), final))
    (trace : final.trace = driver.trace ++ kept) : Wrote X.mem ready kept final.store driver.store := by
  cases backend : driver.store with
  | memory inner appliedIndex =>
      obtain ⟨_, installed, install, done⟩ := Attempt.bind_eq_ok.mp done
      obtain ⟨_, appended, append, persist⟩ := Attempt.bind_eq_ok.mp done
      obtain ⟨first, counted, store⟩ := applySnapshotPart_memory backend install
      obtain ⟨second, store⟩ := appendEntriesPart_memory store append
      exact ⟨first, second, counted, persistHardstatePart_memory store persist⟩
  | disk storage =>
      obtain ⟨written, stored⟩ := (persistParts_follows ready).completes done
        (by rw [backend]; rfl : driver.store.db? = some storage.db)
      rw [trace, sledOps_append, List.append_cancel_left_eq] at written
      exact ⟨written, stored⟩

end Memory

section Growth

/-- This relation says that nothing leaves the trace. -/
def Grows (before after : Driver X) : Prop := before.trace <+: after.trace

instance growsPreorder : IsPreorder (Driver X) Grows where
  refl _ := List.prefix_rfl
  trans _ _ _ first second := List.IsPrefix.trans first second

/-- Plain computations only add effects. -/
theorem grows_of_plain {Error Value : Type} {first : Attempt (Driver X) Error Value}
    (plain : Within Plain first) : Within Grows first := fun driver => (plain driver).grows

/-- A batch of entries only adds effects. -/
theorem applyEntries_grows (entries : List Entry) :
    Within Grows (applyEntries entries : Attempt (Driver X) RaftLoopError Unit) := by
  apply Within.forEach
  intro entry _
  apply applyEntry_within
  case normal =>
    have code : applyNormalEntry entry = (applyKvCommand entry >>= reportApplied entry) >>=
        fun _ => (setAppliedIndex entry.index : Attempt (Driver X) RaftLoopError Unit) := by
      rw [Attempt.bind_assoc]
      rfl
    rw [code]
    apply Within.bind
    · exact fun driver => (applyNormal_applies entry driver).grows
    · exact fun _ => grows_of_plain (plain_of_stores (setAppliedIndex_stores _))
  case changes => exact fun decode => grows_of_plain (applyConfEntry_plain decode entry)

/-- The second half of a ready only adds effects. -/
theorem finishTaken_grows (ready : Ready) :
    Within Grows (finishTaken ready : Attempt (Driver X) RaftLoopError Unit) := by
  apply Within.bind (grows_of_plain (plain_of_quiet (sendMessages_quiet _)))
  intro _
  apply Within.bind (applyEntries_grows _)
  intro _
  apply Within.bind (grows_of_plain (plain_of_quiet updateTuiState_quiet))
  intro _
  apply Within.bind
  · exact fun _ => List.prefix_append _ _
  · intro light
    exact Within.bind (grows_of_plain (plain_of_quiet (sendMessages_quiet _))) fun _ => applyEntries_grows _

end Growth

/-- A ready starts with its free messages, which touch nothing else, and goes on with its two halves. -/
theorem processReady_begins (driver : Driver X) : ∃ sent : Driver X,
    sent.trace = driver.trace ++ (X.raw.ready driver.store driver.raft).1.begins ∧
      sent.raft = (X.raw.ready driver.store driver.raft).2 ∧ sent.store = driver.store ∧
      sent.callbacks = driver.callbacks ∧
      processReady driver = (persistParts (X.raw.ready driver.store driver.raft).1 >>= fun _ =>
        finishTaken (X.raw.ready driver.store driver.raft).1) sent := by
  obtain ⟨ready, same⟩ : ∃ ready, ready = (X.raw.ready driver.store driver.raft).1 := ⟨_, rfl⟩
  rw [← same]
  let taken : Driver X := { driver with
    raft := (X.raw.ready driver.store driver.raft).2
    trace := driver.trace ++ [.ready ready] }
  have take : takeReady driver = (.ok ready, taken) := by
    rw [takeReady, ← same]
  obtain ⟨success, trace, raft⟩ := sendMessages_eq ready.messages taken
  have quiet := sendMessages_quiet ready.messages taken
  have send : sendMessages ready.messages taken = (.ok (), (sendMessages ready.messages taken).2) :=
    Prod.ext success rfl
  have whole : persistTaken ready = sendMessages ready.messages >>= fun _ =>
      (persistParts ready : Attempt (Driver X) RaftLoopError Unit) := rfl
  refine ⟨_, ?_, raft, quiet.store, quiet.callbacks, ?_⟩
  · rw [trace]
    simp [taken, Ready.begins]
  · rw [processReady_parts, Attempt.bind_ok _ take, whole, Attempt.bind_assoc, Attempt.bind_ok _ send]

/-- A ready sends its free messages, then persists, and only then sends the promises and applies the entries.
When a part is not persisted the ready ends with an error, and nothing more is sent, applied or answered. -/
theorem processReady_promises (driver : Driver X) : ∃ kept promised,
    (∀ effect ∈ kept, effect.silent) ∧
      (processReady driver).2.trace = driver.trace ++
        (X.raw.ready driver.store driver.raft).1.begins ++ kept ++ promised ∧
      ((∃ persisted : Driver X,
          persisted.trace = driver.trace ++ (X.raw.ready driver.store driver.raft).1.begins ++ kept ∧
          Wrote X.mem (X.raw.ready driver.store driver.raft).1 kept persisted.store driver.store ∧
          processReady driver = finishTaken (X.raw.ready driver.store driver.raft).1 persisted) ∨
        (promised = [] ∧ (∃ error, (processReady driver).1 = .error error) ∧
          (processReady driver).2.raft = (X.raw.ready driver.store driver.raft).2 ∧
          (processReady driver).2.callbacks = driver.callbacks)) := by
  obtain ⟨sent, begun, raft, store, waiting, code⟩ := processReady_begins driver
  generalize (X.raw.ready driver.store driver.raft).1 = ready at *
  obtain ⟨raft', callbacks, kept, written, silent⟩ := persistParts_persists ready sent
  rcases run : persistParts ready sent with ⟨error | _, persisted⟩
  · rw [Attempt.bind_error _ run] at code
    rw [run] at raft' callbacks written
    refine ⟨kept, [], silent, ?_, Or.inr ⟨rfl, ⟨error, by rw [code]⟩, ?_, ?_⟩⟩
    · rw [code, List.append_nil, ← begun]
      exact written
    · rw [code]
      exact raft'.trans raft
    · rw [code]
      exact callbacks.trans waiting
  · rw [Attempt.bind_ok _ run] at code
    rw [run] at written
    obtain ⟨promised, grown⟩ := finishTaken_grows ready persisted
    refine ⟨kept, promised, silent, ?_, Or.inl ⟨persisted, ?_, ?_, code⟩⟩
    · rw [code, ← begun, ← written, grown]
    · rw [← begun]
      exact written
    · have wrote := persistParts_wrote run written
      rw [store] at wrote
      exact wrote

end Driver

end RaftATui
