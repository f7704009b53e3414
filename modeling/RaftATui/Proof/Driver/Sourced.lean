import RaftATui.Proof.Driver.WriteAhead

namespace RaftATui
open Machinery
open Machinery.Trace (Obeys obeys_concat obeys_append)

/-- This is the turn of one ready with the sled calls since it. It ends when raft is advanced. -/
structure Chapter where
  ready : Ready
  ops : List SledOp

/-- This is what a trace tells about the entries that raft handed out last. -/
structure Story where
  batch : List Entry
  chapter : Option Chapter

/-- Sled calls extend the turn. -/
def Story.write (story : Story) (ops : List SledOp) : Story :=
  { story with chapter := story.chapter.map fun chapter => { chapter with ops := chapter.ops ++ ops } }

def Effect.tell (story : Story) : Effect → Story
  | .ready rd => ⟨rd.committedEntries, some ⟨rd, []⟩⟩
  | .light rd => ⟨rd.committedEntries, none⟩
  | .sled op => story.write [op]
  | _ => story

def story (trace : List Effect) : Story := trace.foldl Effect.tell ⟨[], none⟩

/-- The entries of the ready are written. -/
def Chapter.Inserted (chapter : Chapter) : Prop :=
  ∀ entry ∈ chapter.ready.entries, .insertEntry entry.index entry ∈ chapter.ops

/-- The snapshot of the ready is written with its configuration. -/
def Chapter.Installed (chapter : Chapter) : Prop :=
  chapter.ready.snapshot.isEmpty = false → .insertSnapshot chapter.ready.snapshot ∈ chapter.ops ∧
    .insertConfstate chapter.ready.snapshot.metadata.confState ∈ chapter.ops

/-- What is written stays written in the turn. -/
theorem Chapter.Installed.write {ready : Ready} {earlier : List SledOp} (installed : Chapter.Installed ⟨ready, earlier⟩)
    (ops : List SledOp) : Chapter.Installed ⟨ready, earlier ++ ops⟩ := by
  intro filled
  obtain ⟨snapshot, configured⟩ := installed filled
  exact ⟨List.mem_append_left _ snapshot, List.mem_append_left _ configured⟩

/-- All parts of the ready are written. -/
def Chapter.Stored (chapter : Chapter) : Prop := chapter.Inserted ∧ chapter.Installed

/-- A written entry or snapshot comes from the ready of the turn. A removed entry is covered by the stored snapshot,
whose configuration is written. An applied entry was handed out last, and it is applied behind the parts of its ready.
So is a message sent that is no free one. -/
structure Sourced (db : Db) (before : List Effect) (event : Effect) : Prop where
  entry : ∀ key entry, event = .sled (.insertEntry key entry) → key = entry.index ∧
    ∃ chapter, (story before).chapter = some chapter ∧ entry ∈ chapter.ready.entries
  snapshot : ∀ snapshot, event = .sled (.insertSnapshot snapshot) → snapshot.isEmpty = false ∧
    ∃ ready, (story before).chapter = some ⟨ready, []⟩ ∧ ready.snapshot = snapshot
  removed : ∀ key, event = .sled (.removeEntry key) → ∃ snapshot,
    (db.replay (sledOps before)).snapshotsTree = some snapshot ∧ key ≤ snapshot.metadata.index ∧
      .insertConfstate snapshot.metadata.confState ∈ sledOps before
  applied : ∀ entry kv, event = .applied entry kv → entry ∈ (story before).batch ∧
    ∀ chapter, (story before).chapter = some chapter → chapter.Stored
  sent : ∀ «to» msg, event = .send «to» msg → ∀ chapter, (story before).chapter = some chapter →
    msg ∈ chapter.ready.messages ∨ chapter.Stored

/-- The last effect is told last. -/
theorem story_concat (trace : List Effect) (event : Effect) : story (trace ++ [event]) = event.tell (story trace) :=
  List.foldl_concat _ _ _ _

@[simp] theorem Story.write_nil (story : Story) : story.write [] = story := by
  rcases story with ⟨batch, chapter | chapter⟩ <;> simp [write]

/-- Two scripts are written one after the other. -/
theorem Story.write_append (story : Story) (first second : List SledOp) :
    story.write (first ++ second) = (story.write first).write second := by
  rcases story with ⟨batch, chapter | chapter⟩ <;> simp [write]

/-- Sled calls are told as writes. -/
theorem story_sled (trace : List Effect) (ops : List SledOp) :
    story (trace ++ ops.map .sled) = (story trace).write ops := by
  induction ops using List.reverseRecOn with
  | nil => simp
  | append_singleton ops op ih =>
      rw [List.map_append, ← List.append_assoc, List.map_singleton, story_concat, ih, Story.write_append]
      rfl

/-- A trace of sled calls lists them. -/
theorem map_sledOps {added : List Effect} (sled : ∀ effect ∈ added, ∃ op, effect = .sled op) :
    added = (sledOps added).map .sled := by
  induction added with
  | nil => rfl
  | cons effect rest ih =>
      obtain ⟨⟨op, rfl⟩, others⟩ := List.forall_mem_cons.mp sled
      exact congrArg _ (ih others)

namespace Driver

open Attempt (Within Keeps Triple)

variable {X : Externals} {db : Db} {p q : Story → Prop}

section Plan

/-- Each planned sled call has its reason in the storage call. -/
theorem StoreCall.plan_reasons (call : StoreCall) (db : Db) {earlier rest : List SledOp} {op : SledOp}
    (split : call.plan db = earlier ++ op :: rest) :
    (∀ key entry, op = .insertEntry key entry → ∃ entries, call = .append entries ∧ entry ∈ entries ∧ key = entry.index) ∧
      (∀ snapshot, op = .insertSnapshot snapshot → call = .applySnapshot snapshot ∧ earlier = []) ∧
      ∀ key, op = .removeEntry key → ∃ snapshot, call = .applySnapshot snapshot ∧ key ≤ snapshot.metadata.index ∧
        (db.replay earlier).snapshotsTree = some snapshot ∧ .insertConfstate snapshot.metadata.confState ∈ earlier := by
  have inside : op ∈ call.plan db := by rw [split]; simp
  cases call with
  | append entries =>
      simp only [plan, DiskStorage.appendOps, List.mem_append, List.mem_map, List.mem_singleton] at inside
      rcases inside with ⟨entry, found, rfl⟩ | rfl
      · refine ⟨fun key other same => ?_, by simp, by simp⟩
        obtain ⟨rfl, rfl⟩ := SledOp.insertEntry.inj same
        exact ⟨entries, rfl, found, rfl⟩
      · exact ⟨by simp, by simp, by simp⟩
  | setHardstate hs =>
      simp only [plan, List.mem_cons, List.not_mem_nil, or_false] at inside
      rcases inside with rfl | rfl <;> exact ⟨by simp, by simp, by simp⟩
  | setConfState cs =>
      simp only [plan, List.mem_cons, List.not_mem_nil, or_false] at inside
      rcases inside with rfl | rfl <;> exact ⟨by simp, by simp, by simp⟩
  | setAppliedIndex index =>
      simp only [plan, List.mem_cons, List.not_mem_nil, or_false] at inside
      rcases inside with rfl | rfl <;> exact ⟨by simp, by simp, by simp⟩
  | applySnapshot snapshot =>
      -- Behind its first two calls a snapshot only removes covered entries.
      obtain ⟨tail, planned, kinds⟩ : ∃ tail, plan (.applySnapshot snapshot) db =
          .insertSnapshot snapshot :: .insertConfstate snapshot.metadata.confState :: tail ∧
          ∀ op ∈ tail, (∀ other, op ≠ .insertSnapshot other) ∧ (∀ key entry, op ≠ .insertEntry key entry) ∧
            ∀ key, op = .removeEntry key → key ≤ snapshot.metadata.index := by
        refine ⟨_, rfl, @DiskStorage.forall_removals _ _ _ [.snapshotsTree, .metaTree, .entriesTree]
          (by simp) (fun key _ small => ?_) (by simp)⟩
        refine ⟨by simp, by simp, fun other same => ?_⟩
        obtain rfl := SledOp.removeEntry.inj same
        exact small
      rw [planned] at split
      rcases earlier with _ | ⟨first, _ | ⟨second, earlier⟩⟩
      · obtain ⟨rfl, _⟩ := List.cons.inj split
        exact ⟨by simp, fun other same => ⟨by rw [SledOp.insertSnapshot.inj same], rfl⟩, by simp⟩
      · obtain ⟨rfl, _⟩ := List.cons.inj (List.cons.inj split).2
        exact ⟨by simp, by simp, by simp⟩
      · obtain ⟨rfl, more⟩ := List.cons.inj split
        obtain ⟨rfl, rest⟩ := List.cons.inj more
        obtain ⟨other, entry, small⟩ := kinds op (by rw [rest]; simp)
        refine ⟨fun key inserted same => absurd same (entry key inserted), fun s same => absurd same (other s),
          fun key same => ⟨snapshot, rfl, small key same, ?_, by simp⟩⟩
        rw [Db.replay_cons, Db.replay_cons]
        refine Db.replay_keeps Db.snapshotsTree (fun op found later => ?_) _
        have silent := (kinds op (by rw [rest]; exact List.mem_append_left _ found)).1
        cases op with
        | insertSnapshot other => exact absurd rfl (silent other)
        | _ => rfl

end Plan

/-- Each write so far has its source, and the trace accounts for the directory. -/
structure Traced (db : Db) (p : Story → Prop) (driver : Driver X) : Prop where
  disk : driver.store.db? = some (db.replay (sledOps driver.trace))
  sourced : Obeys (Sourced db) driver.trace
  told : p (story driver.trace)

/-- A storage call fits the turn when it stores a part of its ready, and a snapshot first of all. -/
def StoreCall.Fits (story : Story) : StoreCall → Prop
  | .append entries => ∃ chapter, story.chapter = some chapter ∧ entries = chapter.ready.entries
  | .applySnapshot snapshot => snapshot.isEmpty = false ∧
      ∃ ready, story.chapter = some ⟨ready, []⟩ ∧ ready.snapshot = snapshot
  | _ => True

/-- A fitting storage call extends the turn by its sled calls. -/
theorem told_store (call : StoreCall) (fits : ∀ story, p story → call.Fits story)
    (moves : ∀ story, p story → ∀ db, q (story.write (call.plan db))) :
    Triple (Traced (X := X) db p) (withStore (call.run X.mem)) (fun _ => Traced db q)
      fun driver => Obeys (Sourced db) driver.trace := by
  intro driver ⟨disk, sourced, told⟩
  obtain ⟨ops, rest, split, calls, stored, whole⟩ := call.follows driver _ disk
  obtain ⟨_, added, trace, sled⟩ := withStore_emits (call.run X.mem) driver
  obtain rfl : added = ops.map .sled := by
    rw [trace, sledOps_append] at calls
    rw [map_sledOps sled, List.append_cancel_left calls]
  have obeys : Obeys (Sourced db) (withStore (call.run X.mem) driver).2.trace := by
    rw [trace]
    refine obeys_append.mpr ⟨sourced, fun part event later cut => ?_⟩
    obtain ⟨earlier, behind, rfl, rfl, own⟩ := List.map_eq_append_iff.mp cut
    obtain ⟨op, after, rfl, rfl, rfl⟩ := List.map_eq_cons_iff.mp own
    rw [List.append_assoc] at split
    obtain ⟨entry, snapshot, removed⟩ := call.plan_reasons _ split
    have fit := fits _ told
    rw [← Db.replay_append] at removed
    have before : sledOps (driver.trace ++ earlier.map .sled) = sledOps driver.trace ++ earlier := by
      rw [sledOps_append, sledOps_sled]
    constructor
    case entry =>
      intro key inserted same
      obtain ⟨entries, rfl, found, rfl⟩ := entry key inserted (Effect.sled.inj same)
      obtain ⟨chapter, turn, rfl⟩ := fit
      refine ⟨rfl, { chapter with ops := chapter.ops ++ earlier }, ?_, found⟩
      rw [story_sled, Story.write, turn]
      rfl
    case snapshot =>
      intro other same
      obtain ⟨rfl, rfl⟩ := snapshot other (Effect.sled.inj same)
      obtain ⟨filled, ready, turn, carried⟩ := fit
      exact ⟨filled, ready, by rw [List.map_nil, List.append_nil, turn], carried⟩
    case removed =>
      intro key same
      obtain ⟨other, _, covered, kept, configured⟩ := removed key (Effect.sled.inj same)
      rw [before]
      exact ⟨other, kept, covered, List.mem_append_right _ configured⟩
    case applied => simp
    case sent => simp
  rcases run : withStore (call.run X.mem) driver with ⟨error | _, final⟩
  · rw [run] at obeys
    exact obeys
  · rw [run] at obeys calls stored whole trace
    rw [whole () rfl, List.append_nil] at split
    refine ⟨?_, obeys, ?_⟩
    · rw [calls, Db.replay_append]
      exact stored
    · rw [trace, story_sled, ← split]
      exact moves _ told _

/-- Effects without a storage call keep the turn. An applied entry has to fit it. -/
theorem told_locally {scope : Scope} {before after : Driver X} (emits : Emits (Local scope) before after)
    (store : after.store = before.store) (told : Traced db p before)
    (applies : ∀ entry, scope.applies entry → ∀ story, p story →
      entry ∈ story.batch ∧ ∀ chapter, story.chapter = some chapter → chapter.Stored) : Traced db p after := by
  obtain ⟨_, added, trace, inside⟩ := emits
  have silent {part : List Effect} (own : part ⊆ added) : sledOps (before.trace ++ part) = sledOps before.trace :=
    sledOps_added rfl fun effect found => (idle_local effect (inside effect (own found))).1
  have same {part : List Effect} (own : part ⊆ added) : story (before.trace ++ part) = story before.trace := by
    rw [story, List.foldl_append, story]
    refine @Crash.foldl_keeps _ _ Effect.tell _ id part (fun effect found state => ?_) _
    have kind := inside effect (own found)
    cases effect <;> first | rfl | exact absurd kind id
  constructor
  case disk => rw [store, trace, silent (List.Subset.refl _)]; exact told.disk
  case told => rw [trace, same (List.Subset.refl _)]; exact told.told
  case sourced =>
    rw [trace]
    refine obeys_append.mpr ⟨told.sourced, fun earlier event later split => ?_⟩
    have own := inside event (by rw [split]; simp)
    have part : earlier ⊆ added := by rw [split]; exact List.subset_append_left _ _
    constructor
    case entry => rintro key entry rfl; exact absurd own id
    case snapshot => rintro snapshot rfl; exact absurd own id
    case removed => rintro key rfl; exact absurd own id
    case applied =>
      rintro entry kv rfl
      rw [same part]
      exact applies entry own.1 _ told.told
    case sent => rintro «to» msg rfl; exact absurd own id

/-- Only hard states and progress are stored behind the entries of a ready. -/
def Scope.telling (sends : Message → Prop) (applies : Entry → Prop) : Scope where
  sends := sends
  stores call := ∃ hs, call = .setHardstate hs
  applies := applies
  restores _ := True

/-- An effect that writes and applies nothing goes on with the story. -/
theorem Traced.effect {before after : Driver X} {effect : Effect} (told : Traced db p before)
    (store : after.store = before.store) (trace : after.trace = before.trace ++ [effect]) (none : effect.sledOp = none)
    (other : ∀ entry kv, effect ≠ .applied entry kv) (sent : ∀ «to» msg, effect = .send «to» msg →
      ∀ chapter, (story before.trace).chapter = some chapter →
        msg ∈ chapter.ready.messages ∨ chapter.Stored)
    (tells : ∀ story, p story → q (effect.tell story)) : Traced db q after := by
  constructor
  case disk =>
    rw [store, sledOps_added trace (by simpa using none)]
    exact told.disk
  case sourced =>
    rw [trace]
    refine obeys_concat.mpr ⟨told.sourced, ?_, ?_, ?_, fun entry kv same => absurd same (other entry kv), sent⟩
    · rintro key entry rfl
      cases none
    · rintro snapshot rfl
      cases none
    · rintro key rfl
      cases none
  case told =>
    rw [trace, story_concat]
    exact tells _ told.told

/-- A message may be sent when it is a free one or the parts of its ready are written. -/
theorem told_send {msg : Message} (allowed : ∀ story, p story → ∀ chapter, story.chapter = some chapter →
      msg ∈ chapter.ready.messages ∨ chapter.Stored) :
    Keeps (Traced db p) (sendMessage msg : Attempt (Driver X) RaftLoopError Unit) := by
  refine fun driver told => told.effect rfl rfl rfl (by simp) (fun «to» other same => ?_) fun _ => id
  obtain ⟨_, rfl⟩ := Effect.send.inj same
  exact allowed _ told.told

/-- Calls that each part of the story allows keep what the story tells. -/
theorem toldCalls {sends : Message → Prop} {applies : Entry → Prop} (grows : ∀ story ops, p story → p (story.write ops))
    (sent : ∀ msg, sends msg → ∀ story, p story → ∀ chapter, story.chapter = some chapter →
      msg ∈ chapter.ready.messages ∨ chapter.Stored)
    (applied : ∀ entry, applies entry → ∀ story, p story →
      entry ∈ story.batch ∧ ∀ chapter, story.chapter = some chapter → chapter.Stored) :
    Calls (.telling sends applies) (Traced (X := X) db p) fun driver => Obeys (Sourced db) driver.trace := by
  refine callsOf (fun _ _ _ _ _ told => told.sourced) (fun before after emits store told => told_locally emits store told applied)
    (fun msg inside => told_send (sent msg inside)) fun call inside => told_store call (fun story _ => ?_)
      fun story held db => grows story _ held
  cases call with
  | applySnapshot snapshot => obtain ⟨hs, same⟩ := inside; cases same
  | append entries => obtain ⟨hs, same⟩ := inside; cases same
  | _ => trivial

section Ready

variable {ready : Ready}

/-- This is the turn of a ready that has stored its snapshot. -/
def Begun (ready : Ready) (story : Story) : Prop :=
  story.batch = ready.committedEntries ∧ ∃ ops, story.chapter = some ⟨ready, ops⟩ ∧ Chapter.Installed ⟨ready, ops⟩

/-- The entries of the ready are in the log. -/
def Logged (ready : Ready) (story : Story) : Prop :=
  story.batch = ready.committedEntries ∧ ∃ ops, story.chapter = some ⟨ready, ops⟩ ∧ Chapter.Stored ⟨ready, ops⟩

/-- The turn of a ready goes on over each write. -/
theorem Begun.write {story : Story} (turn : Begun ready story) (ops : List SledOp) : Begun ready (story.write ops) := by
  obtain ⟨batch, earlier, chapter, installed⟩ := turn
  exact ⟨batch, earlier ++ ops, by rw [Story.write, chapter]; rfl, installed.write ops⟩

/-- What is logged stays logged over each write. -/
theorem Logged.write {story : Story} (logged : Logged ready story) (ops : List SledOp) :
    Logged ready (story.write ops) := by
  obtain ⟨batch, earlier, chapter, inserted, installed⟩ := logged
  refine ⟨batch, earlier ++ ops, by rw [Story.write, chapter]; rfl, fun entry inside => ?_, installed.write ops⟩
  exact List.mem_append_left _ (inserted entry inside)

/-- The calls in front of the messages send and apply nothing. -/
theorem begunCalls (db : Db) (ready : Ready) :
    Calls (.telling (fun _ => False) fun _ => False) (Traced (X := X) db (Begun ready))
      fun driver => Obeys (Sourced db) driver.trace :=
  toldCalls (fun _ ops turn => turn.write ops) (fun _ never => absurd never id) fun _ never => absurd never id

/-- The calls behind the stored entries may send all messages and apply the handed entries. -/
theorem loggedCalls (db : Db) (ready : Ready) :
    Calls (.telling (fun _ => True) (· ∈ ready.committedEntries)) (Traced (X := X) db (Logged ready))
      fun driver => Obeys (Sourced db) driver.trace := by
  refine toldCalls (fun _ ops logged => logged.write ops) (fun msg _ story ⟨_, ops, chapter, stored⟩ other same => ?_)
    fun entry inside story ⟨batch, ops, chapter, stored⟩ => ?_
  · rw [chapter] at same
    exact Or.inr (Option.some.inj same ▸ stored)
  · refine ⟨batch ▸ inside, fun other same => ?_⟩
    rw [chapter] at same
    exact Option.some.inj same ▸ stored

/-- The calls behind a ready may apply the handed batch. -/
theorem closedCalls (db : Db) (batch : List Entry) :
    Calls (.telling (fun _ => True) (· ∈ batch)) (Traced (X := X) db (· = ⟨batch, none⟩))
      fun driver => Obeys (Sourced db) driver.trace := by
  refine toldCalls ?_ ?_ ?_
  · rintro _ ops rfl
    rfl
  · rintro msg _ _ rfl
    simp
  · rintro entry inside _ rfl
    exact ⟨inside, by simp⟩

/-- A snapshot is the first part of a ready that is stored. -/
theorem applySnapshotPart_told (ready : Ready) :
    Triple (Traced (X := X) db (· = ⟨ready.committedEntries, some ⟨ready, []⟩⟩)) (applySnapshotPart ready)
      (fun _ => Traced db (Begun ready)) fun driver => Obeys (Sourced db) driver.trace := by
  unfold applySnapshotPart
  split
  · case isTrue empty =>
      refine Triple.pure fun driver told => ⟨told.disk, told.sourced, told.told ▸ ⟨rfl, [], rfl, fun filled => ?_⟩⟩
      rw [empty] at filled
      cases filled
  · case isFalse filled =>
      have turn := begunCalls (X := X) db ready
      have first : Triple (Traced (X := X) db (· = ⟨ready.committedEntries, some ⟨ready, []⟩⟩))
          (withStore ((StoreCall.applySnapshot ready.snapshot).run X.mem)) (fun _ => Traced db (Begun ready))
          fun driver => Obeys (Sourced db) driver.trace := by
        refine told_store _ ?_ ?_
        · rintro _ rfl
          exact ⟨by simpa using filled, ready, rfl, rfl⟩
        · rintro _ rfl db
          exact ⟨rfl, _, rfl, fun _ => ⟨List.mem_cons_self, List.mem_cons_of_mem _ List.mem_cons_self⟩⟩
      refine (first.relabel _).bind fun _ => (turn.restore _ trivial).bind fun _ => ?_
      exact (turn.setAppliedIndex _).bind fun _ => turn.notify _

/-- The entries of a ready are logged behind their call. -/
theorem appendEntriesPart_told (ready : Ready) :
    Triple (Traced (X := X) db (Begun ready)) (appendEntriesPart ready) (fun _ => Traced db (Logged ready))
      fun driver => Obeys (Sourced db) driver.trace := by
  unfold appendEntriesPart
  split
  · case isTrue empty =>
      refine Triple.pure fun driver told => ⟨told.disk, told.sourced, ?_⟩
      obtain ⟨batch, ops, chapter, installed⟩ := told.told
      refine ⟨batch, ops, chapter, fun entry inside => ?_, installed⟩
      rw [show ready.entries = [] from List.isEmpty_iff.mp empty] at inside
      exact absurd inside List.not_mem_nil
  · refine Triple.relabel _ (told_store (.append ready.entries) ?_ ?_)
    · intro story ⟨_, ops, chapter, _⟩
      exact ⟨_, chapter, rfl⟩
    · intro story ⟨batch, ops, chapter, installed⟩ db
      refine ⟨batch, ops ++ DiskStorage.appendOps ready.entries, by rw [Story.write, chapter]; rfl, fun entry inside => ?_,
        installed.write _⟩
      refine List.mem_append_right _ (List.mem_append_left _ ?_)
      exact List.mem_map_of_mem inside

/-- A ready tells its own chapter. -/
theorem processReady_told :
    Triple (Traced (X := X) db fun _ => True) processReady (fun _ => Traced db fun _ => True)
      fun driver => Obeys (Sourced db) driver.trace := by
  have takes : Triple (Traced (X := X) db fun _ => True) takeReady
      (fun ready => Traced db (· = ⟨ready.committedEntries, some ⟨ready, []⟩⟩)) fun driver => Obeys (Sourced db) driver.trace := by
    exact fun driver told => told.effect rfl rfl rfl (by simp) (by simp) fun _ _ => rfl
  have advances (ready : Ready) : Triple (Traced (X := X) db (Logged ready)) (advance (Ready.taken ready))
      (fun light => Traced db (· = ⟨light.committedEntries, none⟩)) fun driver => Obeys (Sourced db) driver.trace := by
    exact fun driver told => told.effect rfl rfl rfl (by simp) (by simp) fun _ _ => rfl
  simp only [processReady]
  refine takes.bind fun ready => ?_
  have sends : Keeps (Traced (X := X) db (· = ⟨ready.committedEntries, some ⟨ready, []⟩⟩))
      (sendMessages ready.messages : Attempt (Driver X) RaftLoopError Unit) :=
    Within.forEach _ fun msg inside => told_send fun _ begun chapter same => by
      rw [begun] at same
      exact Or.inl (Option.some.inj same ▸ inside)
  refine (sends.triple fun _ told => told.sourced).bind fun _ => (applySnapshotPart_told ready).bind fun _ => ?_
  refine (appendEntriesPart_told ready).bind fun _ => ?_
  have logged := loggedCalls (X := X) db ready
  refine (logged.persistHardstatePart fun hs _ => ⟨hs, rfl⟩).bind fun _ => ?_
  refine (logged.sendMessages fun _ _ => trivial).bind fun _ => ?_
  refine (logged.applyEntries fun _ => id).bind fun _ => logged.updateTuiState.bind fun _ => ?_
  refine (advances ready).bind fun light => ?_
  have closed := closedCalls (X := X) db light.committedEntries
  refine (closed.sendMessages fun _ _ => trivial).bind fun _ => ?_
  exact (closed.applyEntries fun _ => id).weaken fun _ _ told => ⟨told.disk, told.sourced, trivial⟩

end Ready

/-- In every run on disk each write has its source. -/
theorem performAll_told {start : Driver X} (fresh : Fresh start) (disk : start.store.db? = some db)
    (actions : List Action) : Obeys (Sourced db) (performAll actions start).2.trace := by
  have begins : Traced db (fun _ => True) start :=
    ⟨by rw [fresh.trace]; exact disk, by simp [fresh.trace], trivial⟩
  have calls : Calls (.telling (fun _ => False) fun _ => False) (Traced (X := X) db fun _ => True)
      fun driver => Obeys (Sourced db) driver.trace :=
    toldCalls (fun _ _ _ => trivial) (fun _ never => absurd never id) fun _ never => absurd never id
  have each (action : Action) : Triple (Traced (X := X) db fun _ => True) (perform action) (fun _ => Traced db fun _ => True)
      fun driver => Obeys (Sourced db) driver.trace := by
    refine calls.perform action (fun key resp _ driver told => ?_) processReady_told
    exact told.effect rfl rfl rfl (by simp) (by simp) fun _ => id
  exact ((Triple.forEach actions fun action _ => each action).weaken fun _ _ told => told.sourced).final begins

end Driver

end RaftATui
