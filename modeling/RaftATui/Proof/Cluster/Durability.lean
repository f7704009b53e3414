import RaftATui.Library.OrderedTree
import RaftATui.Proof.Cluster.Sessions
import RaftATui.Proof.Driver.Sourced
import RaftATui.Proof.Storage.StaleSnapshot

namespace RaftATui
open Machinery
open Machinery.Crash (Flushed Survives)
open Machinery.Trace (Obeys obeys_concat obeys_append)

/-- The directory has this entry, or a snapshot that covers it. -/
def Db.Keeps (db : Db) (entry : Entry) : Prop :=
  db.entriesTree[entry.index]? = some entry ∨
    ∃ snapshot, db.snapshotsTree = some snapshot ∧ entry.index ≤ snapshot.metadata.index

/-- A start does not replace the snapshot of a directory with voters. -/
structure Db.Guards (db : Db) (entry : Entry) : Prop where
  positive : 0 < entry.index
  stored : db.entriesTree[entry.index]? = some entry ∨ (db.initialState.2.voters ≠ [] ∧
    ∃ snapshot, db.snapshotsTree = some snapshot ∧ entry.index ≤ snapshot.metadata.index)

instance (db : Db) (entry : Entry) : Decidable (db.Guards entry) :=
  decidable_of_iff (0 < entry.index ∧ (db.entriesTree[entry.index]? = some entry ∨ (db.initialState.2.voters ≠ [] ∧
    ∃ snapshot ∈ db.snapshotsTree, entry.index ≤ snapshot.metadata.index)))
    ⟨fun ⟨positive, stored⟩ => ⟨positive, stored⟩, fun ⟨positive, stored⟩ => ⟨positive, stored⟩⟩

/-- A sled call spares an entry when it writes the same one, removes a covered one or moves the snapshot forward. -/
def SledOp.Spares (db : Db) (entry : Entry) : SledOp → Prop
  | .insertEntry key other => key = entry.index → other = entry
  | .removeEntry key => key = entry.index → db.initialState.2.voters ≠ [] ∧
      ∃ snapshot, db.snapshotsTree = some snapshot ∧ key ≤ snapshot.metadata.index
  | .insertSnapshot snapshot => ∀ stored, db.snapshotsTree = some stored →
      stored.metadata.index ≤ snapshot.metadata.index
  | .insertConfstate cs => cs.voters ≠ []
  | _ => True

namespace Db

variable {db : Db} {entry : Entry} {op : SledOp}

/-- A guarded entry is an entry that the directory keeps. -/
theorem Guards.keeps (guards : db.Guards entry) : db.Keeps entry := guards.stored.imp id And.right

/-- A sled call that spares an entry still guards it. -/
theorem Guards.run (guards : db.Guards entry) (spares : op.Spares db entry) : (db.run op).Guards entry := by
  refine ⟨guards.positive, ?_⟩
  cases op with
  | insertEntry key other =>
      refine guards.stored.imp (fun stored => ?_) id
      refine (OrderedTree.getElem?_insert key entry.index other).trans ?_
      split
      · case isTrue same => rw [spares same]
      · exact stored
  | removeEntry key =>
      by_cases same : key = entry.index
      · obtain ⟨voters, snapshot, record, covered⟩ := spares same
        exact Or.inr ⟨voters, snapshot, record, same ▸ covered⟩
      · refine guards.stored.imp (fun stored => ?_) id
        exact (OrderedTree.getElem?_erase key entry.index).trans ((if_neg same).trans stored)
  | insertSnapshot snapshot =>
      refine guards.stored.imp id fun ⟨voters, stored, record, covered⟩ => ⟨voters, snapshot, rfl, ?_⟩
      exact covered.trans (spares stored record)
  | insertConfstate cs => exact guards.stored.imp id fun ⟨_, covered⟩ => ⟨spares, covered⟩
  | _ => exact guards.stored

end Db

/-- A ready with this entry or with a snapshot over it. -/
def Ready.Holds (rd : Ready) (entry : Entry) : Prop :=
  0 < entry.index ∧ (entry ∈ rd.entries ∨ (rd.snapshot.isEmpty = false ∧ entry.index ≤ rd.snapshot.metadata.index))

instance (rd : Ready) (entry : Entry) : Decidable (rd.Holds entry) := inferInstanceAs (Decidable (_ ∧ (_ ∨ _)))

/-- Raft hands out these entries to apply them, or it vouches for them in a promise. -/
def Effect.backs (accepts : Message → List Entry) : Effect → List Entry
  | .ready rd => rd.committedEntries ++ rd.persistedMessages.flatMap accepts
  | .light rd => rd.committedEntries ++ rd.messages.flatMap accepts
  | _ => []

def backed (accepts : Message → List Entry) (trace : List Effect) : List Entry := trace.flatMap (Effect.backs accepts)

/-- The state machine or a peer hears of these entries. -/
def Effect.shows (accepts : Message → List Entry) : Effect → List Entry
  | .applied entry _ => [entry]
  | .send _ msg => accepts msg
  | _ => []

/-- Raft backs entries of the log, of the same ready or under a snapshot, and it vouches for entries only in promises.
It appends nothing in place of an entry that it has backed in any life, it moves snapshots forward, and it never leaves
the cluster without voters. -/
def Commits (accepts : Message → List Entry) (db : Db) (known : List Entry) (before : List Effect) : Effect → Prop
  | .ready rd =>
      (∀ msg ∈ rd.messages, accepts msg = []) ∧
      (∀ entry ∈ Effect.backs accepts (.ready rd), rd.Holds entry ∨ (db.replay (sledOps before)).Guards entry) ∧
      (∀ entry ∈ rd.entries, ∀ old ∈ known ++ backed accepts before ++ Effect.backs accepts (.ready rd),
        old.index = entry.index → old = entry) ∧
      (rd.snapshot.isEmpty = false → ∀ stored ∈ (db.replay (sledOps before)).snapshotsTree,
        stored.metadata.index ≤ rd.snapshot.metadata.index)
  | .light rd => ∀ entry ∈ Effect.backs accepts (.light rd), (db.replay (sledOps before)).Guards entry
  | .sled op => op.votes = true
  | _ => True

instance (accepts : Message → List Entry) (db : Db) (known : List Entry) (before : List Effect) :
    DecidablePred (Commits accepts db known before)
  | .ready _ => inferInstanceAs (Decidable (_ ∧ _ ∧ _ ∧ _))
  | .light rd => inferInstanceAs (Decidable (∀ entry ∈ Effect.backs accepts (.light rd), _))
  | .sled op => inferInstanceAs (Decidable (op.votes = true))
  | .proposed _ _ _ _ | .send _ _ | .notify _ | .reply _ _ | .replyGet _ _ | .applied _ _ => isTrue trivial

/-- The turn still has to write the entry or a snapshot over it. -/
def Chapter.Owes (chapter : Chapter) (entry : Entry) : Prop :=
  0 < entry.index ∧ ((entry ∈ chapter.ready.entries ∧ .insertEntry entry.index entry ∉ chapter.ops) ∨
    (entry.index ≤ chapter.ready.snapshot.metadata.index ∧ ¬ chapter.Installed))

/-- A finished chapter owes no entry. -/
theorem Chapter.Stored.owes_nothing {chapter : Chapter} {entry : Entry} (stored : chapter.Stored) : ¬ chapter.Owes entry :=
  fun ⟨_, waits⟩ => waits.elim (fun ⟨own, missing⟩ => missing (stored.1 entry own)) fun ⟨_, missing⟩ => missing stored.2

/-- These entries may be applied or vouched for next. -/
def pledged (accepts : Message → List Entry) (trace : List Effect) : List Entry :=
  (story trace).batch ++ (outbox trace).promised.flatMap accepts

/-- Each backed entry is guarded when it is shown, and before that the turn may still have to write it. -/
structure Durable (accepts : Message → List Entry) (db : Db) (known : List Entry) (owned : Entry → Prop)
    (trace : List Effect) : Prop where
  owned : ∀ entry, owned entry → entry ∈ known ∧ (db.replay (sledOps trace)).Guards entry
  shown : ∀ effect ∈ trace, ∀ entry ∈ effect.shows accepts,
    entry ∈ backed accepts trace ∧ (db.replay (sledOps trace)).Guards entry
  covers : ∀ entry ∈ pledged accepts trace, entry ∈ backed accepts trace ∧
    ((db.replay (sledOps trace)).Guards entry ∨ ∃ chapter, (story trace).chapter = some chapter ∧ chapter.Owes entry)
  free : ∀ msg ∈ (outbox trace).free, accepts msg = []
  agrees : ∀ chapter, (story trace).chapter = some chapter → ∀ entry ∈ chapter.ready.entries,
    ∀ old ∈ known ++ backed accepts trace, old.index = entry.index → old = entry
  forward : ∀ ready, (story trace).chapter = some ⟨ready, []⟩ → ready.snapshot.isEmpty = false →
    ∀ stored, (db.replay (sledOps trace)).snapshotsTree = some stored →
      stored.metadata.index ≤ ready.snapshot.metadata.index
  issued : ∀ chapter, (story trace).chapter = some chapter → chapter.ops ⊆ sledOps trace ∧
    ∀ snapshot, .insertSnapshot snapshot ∈ chapter.ops → (db.replay (sledOps trace)).snapshotsTree = some snapshot

section Step

variable {accepts : Message → List Entry} {db : Db} {known : List Entry} {owned : Entry → Prop} {trace : List Effect}

/-- While a turn lasts its free messages are the free ones of the outbox. -/
theorem turn_free {chapter : Chapter} (turn : (story trace).chapter = some chapter) :
    (outbox trace).free = chapter.ready.messages := by
  induction trace using List.reverseRecOn generalizing chapter with
  | nil => cases turn
  | append_singleton trace event ih =>
      rw [story_concat] at turn
      rw [outbox_concat]
      cases event with
      | ready rd => rw [← Option.some.inj turn]; rfl
      | light rd => cases turn
      | sled op =>
          obtain ⟨earlier, before, rfl⟩ := Option.map_eq_some_iff.mp turn
          exact (ih before).trans rfl
      | _ => exact ih turn

/-- A written configuration leaves voters behind. -/
theorem voters_written {cs : ConfState} {ops : List SledOp} (voting : Db.Voting ops) (written : .insertConfstate cs ∈ ops) :
    (db.replay ops).initialState.2.voters ≠ [] := by
  obtain ⟨earlier, later, rfl⟩ := List.append_of_mem written
  rw [Db.replay_append, Db.replay_cons]
  refine Db.voters_replay ?_ fun op inside => voting op (by simp [inside])
  have votes : (!cs.voters.isEmpty) = true := voting _ written
  have filled : cs.voters ≠ [] := by simpa using votes
  exact filled

/-- The sled calls of a committing trace keep the votes. -/
theorem commits_voting (commits : Obeys (Commits accepts db known) trace) : Db.Voting (sledOps trace) := by
  intro op inside
  obtain ⟨effect, found, sled⟩ := List.mem_filterMap.mp inside
  obtain ⟨before, after, split⟩ := List.append_of_mem found
  have step := commits before effect after split
  cases effect with
  | sled other =>
      obtain rfl := Option.some.inj sled
      exact step
  | _ => cases sled

/-- A sourced sled call spares each entry that raft has backed. -/
theorem Durable.spares (durable : Durable accepts db known owned trace) {op : SledOp}
    (sourced : Sourced db trace (.sled op)) (commits : Obeys (Commits accepts db known) (trace ++ [.sled op]))
    {entry : Entry} (known : entry ∈ known ++ backed accepts trace) : op.Spares (db.replay (sledOps trace)) entry := by
  obtain ⟨earlier, votes⟩ := obeys_concat.mp commits
  cases op with
  | insertEntry key other =>
      rintro rfl
      obtain ⟨same, chapter, turn, inside⟩ := sourced.entry _ other rfl
      exact (durable.agrees chapter turn other inside entry known same).symm
  | removeEntry key =>
      intro _
      obtain ⟨snapshot, record, covered, written⟩ := sourced.removed key rfl
      exact ⟨voters_written (commits_voting earlier) written, snapshot, record, covered⟩
  | insertSnapshot snapshot =>
      obtain ⟨filled, ready, turn, rfl⟩ := sourced.snapshot snapshot rfl
      exact durable.forward ready turn filled
  | insertConfstate cs =>
      have filled : (!cs.voters.isEmpty) = true := votes
      simpa [SledOp.Spares] using filled
  | _ => trivial

/-- A snapshot that the turn has written stays the stored one. -/
theorem Durable.issue (durable : Durable accepts db known owned trace) {op : SledOp}
    (sourced : Sourced db trace (.sled op)) {chapter : Chapter} (turn : (story trace).chapter = some chapter) :
    chapter.ops ++ [op] ⊆ sledOps trace ++ [op] ∧ ∀ snapshot, .insertSnapshot snapshot ∈ chapter.ops ++ [op] →
      ((db.replay (sledOps trace)).run op).snapshotsTree = some snapshot := by
  obtain ⟨own, recorded⟩ := durable.issued chapter turn
  refine ⟨List.append_subset.mpr ⟨List.subset_append_of_subset_left _ own, List.subset_append_right _ _⟩, ?_⟩
  intro snapshot inside
  rcases List.mem_append.mp inside with old | new
  · cases op with
    | insertSnapshot other =>
        obtain ⟨_, ready, begun, _⟩ := sourced.snapshot other rfl
        rw [turn] at begun
        rw [Option.some.inj begun] at old
        cases old
    | _ => exact recorded snapshot old
  · rw [← List.mem_singleton.mp new]
    rfl

/-- A sled call keeps what is guarded, and it writes what still has to be written. -/
theorem Durable.sled (durable : Durable accepts db known owned trace) {op : SledOp}
    (sourced : Sourced db trace (.sled op)) (commits : Obeys (Commits accepts db known) (trace ++ [.sled op])) :
    Durable accepts db known owned (trace ++ [.sled op]) := by
  have ops : sledOps (trace ++ [.sled op]) = sledOps trace ++ [op] := by rw [sledOps_append]; rfl
  have next : db.replay (sledOps (trace ++ [.sled op])) = (db.replay (sledOps trace)).run op := by
    rw [ops, Db.replay_append]
    rfl
  have same : backed accepts (trace ++ [.sled op]) = backed accepts trace := by simp [backed, Effect.backs]
  have box : outbox (trace ++ [.sled op]) = outbox trace := outbox_concat _
  have tells : story (trace ++ [.sled op]) = (story trace).write [op] := story_concat _ _
  have stays {entry : Entry} (inside : entry ∈ known ++ backed accepts trace)
      (guards : (db.replay (sledOps trace)).Guards entry) : ((db.replay (sledOps trace)).run op).Guards entry :=
    guards.run (durable.spares sourced commits inside)
  constructor
  case owned =>
    intro entry own
    obtain ⟨inside, guards⟩ := durable.owned entry own
    exact ⟨inside, next ▸ stays (List.mem_append_left _ inside) guards⟩
  case shown =>
    rw [same, next, List.forall_mem_append, List.forall_mem_singleton]
    refine ⟨fun effect found entry inside => ?_, by simp [Effect.shows]⟩
    obtain ⟨out, guards⟩ := durable.shown effect found entry inside
    exact ⟨out, stays (List.mem_append_right _ out) guards⟩
  case covers =>
    intro entry inside
    rw [pledged, box, tells] at inside
    rw [same, next]
    obtain ⟨out, guards | ⟨chapter, turn, positive, waits⟩⟩ := durable.covers entry inside
    · exact ⟨out, Or.inl (stays (List.mem_append_right _ out) guards)⟩
    · refine ⟨out, ?_⟩
      have grown : (story (trace ++ [.sled op])).chapter = some { chapter with ops := chapter.ops ++ [op] } := by
        rw [tells, Story.write, turn]
        rfl
      rcases waits with ⟨own, missing⟩ | ⟨covered, missing⟩
      · by_cases write : op = .insertEntry entry.index entry
        · refine Or.inl ⟨positive, Or.inl ?_⟩
          rw [write]
          exact (OrderedTree.getElem?_insert _ _ _).trans (if_pos rfl)
        · refine Or.inr ⟨_, grown, positive, Or.inl ⟨own, ?_⟩⟩
          rw [List.mem_append, List.mem_singleton]
          exact fun found => found.elim missing fun same => write same.symm
      · by_cases installed : Chapter.Installed { chapter with ops := chapter.ops ++ [op] }
        · -- The last call of the snapshot is written.
          have filled : chapter.ready.snapshot.isEmpty = false := by
            by_contra empty
            exact missing fun filled => absurd filled empty
          obtain ⟨snapshot, configured⟩ := installed filled
          obtain ⟨own, recorded⟩ := durable.issue sourced turn
          have voters := @voters_written db _ _ (commits_voting commits) (ops ▸ own configured)
          rw [next] at voters
          exact Or.inl ⟨positive, Or.inr ⟨voters, _, recorded _ snapshot, covered⟩⟩
        · exact Or.inr ⟨_, grown, positive, Or.inr ⟨covered, installed⟩⟩
  case free => rw [box]; exact durable.free
  case agrees =>
    intro chapter turn
    rw [tells] at turn
    obtain ⟨earlier, before, rfl⟩ := Option.map_eq_some_iff.mp turn
    rw [same]
    exact durable.agrees earlier before
  case forward =>
    intro ready turn
    rw [tells] at turn
    obtain ⟨earlier, _, other⟩ := Option.map_eq_some_iff.mp turn
    exact absurd (congrArg Chapter.ops other) (by simp)
  case issued =>
    intro chapter turn
    rw [tells] at turn
    obtain ⟨earlier, before, rfl⟩ := Option.map_eq_some_iff.mp turn
    rw [next, ops]
    exact durable.issue sourced before

/-- Shown entries are guarded: a promise and a committed entry are shown behind the parts of their ready. -/
theorem Durable.show (durable : Durable accepts db known owned trace) {hs : HardState} {event : Effect}
    (ahead : WriteAhead hs trace event) (sourced : Sourced db trace event) :
    ∀ entry ∈ event.shows accepts, entry ∈ backed accepts trace ∧ (db.replay (sledOps trace)).Guards entry := by
  have settled {entry : Entry} (inside : entry ∈ pledged accepts trace)
      (stored : ∀ chapter, (story trace).chapter = some chapter → chapter.Stored) :
      entry ∈ backed accepts trace ∧ (db.replay (sledOps trace)).Guards entry := by
    obtain ⟨out, guards | ⟨chapter, turn, owes⟩⟩ := durable.covers entry inside
    · exact ⟨out, guards⟩
    · exact absurd owes (stored chapter turn).owes_nothing
  intro entry inside
  cases event with
  | applied other kv =>
      obtain rfl := List.mem_singleton.mp inside
      obtain ⟨found, stored⟩ := sourced.applied _ kv rfl
      exact settled (List.mem_append_left _ found) stored
  | send «to» msg =>
      have vouches : accepts msg ≠ [] := List.ne_nil_of_mem inside
      have promised : msg ∈ (outbox trace).promised :=
        ((ahead.kept «to» msg rfl).resolve_left fun free => vouches (durable.free msg free)).1
      refine settled (List.mem_append_right _ (List.mem_flatMap.mpr ⟨msg, promised, inside⟩)) fun chapter turn => ?_
      refine (sourced.sent «to» msg rfl chapter turn).resolve_left fun free => ?_
      exact vouches (durable.free msg (turn_free turn ▸ free))
  | _ => cases inside

/-- Each event of a run keeps the entries durable. -/
theorem Durable.step (durable : Durable accepts db known owned trace) {hs : HardState} {event : Effect}
    (ahead : WriteAhead hs trace event) (sourced : Sourced db trace event)
    (commits : Obeys (Commits accepts db known) (trace ++ [event])) :
    Durable accepts db known owned (trace ++ [event]) := by
  have law := (obeys_concat.mp commits).2
  by_cases sled : ∃ op, event = .sled op
  · obtain ⟨op, rfl⟩ := sled
    exact durable.sled sourced commits
  have ops : sledOps (trace ++ [event]) = sledOps trace := by
    refine sledOps_added rfl fun effect inside => ?_
    rw [List.mem_singleton.mp inside]
    cases event with
    | sled op => exact absurd ⟨op, rfl⟩ sled
    | _ => rfl
  have outs : backed accepts (trace ++ [event]) = backed accepts trace ++ event.backs accepts := by simp [backed]
  have owned : ∀ entry, owned entry → entry ∈ known ∧ (db.replay (sledOps (trace ++ [event]))).Guards entry := by
    rw [ops]
    exact durable.owned
  have shown : ∀ effect ∈ trace ++ [event], ∀ entry ∈ effect.shows accepts,
      entry ∈ backed accepts (trace ++ [event]) ∧ (db.replay (sledOps (trace ++ [event]))).Guards entry := by
    rw [ops, outs, List.forall_mem_append, List.forall_mem_singleton]
    constructor
    · intro effect found entry inside
      obtain ⟨out, guards⟩ := durable.shown effect found entry inside
      exact ⟨List.mem_append_left _ out, guards⟩
    · intro entry inside
      obtain ⟨out, guards⟩ := durable.show ahead sourced entry inside
      exact ⟨List.mem_append_left _ out, guards⟩
  have tells := story_concat trace event
  have box : outbox (trace ++ [event]) = event.outbox (outbox trace) := outbox_concat event
  cases event with
  | ready rd =>
      obtain ⟨free, holds, agrees, forward⟩ := law
      constructor
      case owned => exact owned
      case shown => exact shown
      case covers =>
        intro entry inside
        rw [pledged, box, tells] at inside
        rw [ops, outs, tells]
        refine ⟨List.mem_append_right _ inside, ?_⟩
        rcases holds entry inside with ⟨positive, own | ⟨filled, covered⟩⟩ | guards
        · exact Or.inr ⟨_, rfl, positive, Or.inl ⟨own, List.not_mem_nil⟩⟩
        · exact Or.inr ⟨_, rfl, positive, Or.inr ⟨covered, fun installed => absurd (installed filled).1 List.not_mem_nil⟩⟩
        · exact Or.inl guards
      case free => rw [box]; exact free
      case agrees =>
        intro chapter turn
        rw [tells] at turn
        rw [outs, ← List.append_assoc, ← Option.some.inj turn]
        exact agrees
      case forward =>
        intro ready turn
        rw [tells] at turn
        obtain rfl : rd = ready := congrArg Chapter.ready (Option.some.inj turn)
        rw [ops]
        exact forward
      case issued =>
        intro chapter turn
        rw [tells] at turn
        rw [← Option.some.inj turn]
        exact ⟨List.nil_subset _, by simp⟩
  | light rd =>
      constructor
      case owned => exact owned
      case shown => exact shown
      case covers =>
        intro entry inside
        rw [pledged, box, tells] at inside
        rw [ops, outs]
        exact ⟨List.mem_append_right _ inside, Or.inl (law entry inside)⟩
      case free => rw [box]; simp [Effect.outbox]
      case agrees =>
        intro chapter turn
        rw [tells] at turn
        cases turn
      case forward =>
        intro ready turn
        rw [tells] at turn
        cases turn
      case issued =>
        intro chapter turn
        rw [tells] at turn
        cases turn
  | sled op => exact absurd ⟨op, rfl⟩ sled
  | _ =>
      have same : backed accepts (trace ++ [_]) = backed accepts trace := outs.trans (List.append_nil _)
      refine ⟨owned, shown, ?_, ?_, ?_, ?_, ?_⟩
      · rw [pledged, box, tells, ops, same]
        exact durable.covers
      · rw [box]
        exact durable.free
      · rw [tells, same]
        exact durable.agrees
      · rw [tells, ops]
        exact durable.forward
      · rw [tells, ops]
        exact durable.issued

/-- A run keeps the entries durable at each point. -/
theorem durable_run {hs : HardState} (begins : ∀ entry, owned entry → entry ∈ known ∧ db.Guards entry)
    (ahead : Obeys (WriteAhead hs) trace) (sourced : Obeys (Sourced db) trace)
    (commits : Obeys (Commits accepts db known) trace) : Durable accepts db known owned trace := by
  induction trace using List.reverseRecOn with
  | nil => exact ⟨begins, by simp, by simp [pledged, story, outbox], by simp [outbox], by simp [story], by simp [story], by simp [story]⟩
  | append_singleton trace event ih =>
      obtain ⟨before, wrote⟩ := obeys_concat.mp ahead
      obtain ⟨earlier, step⟩ := obeys_concat.mp sourced
      exact (ih before earlier (obeys_concat.mp commits).1).step wrote step commits

end Step

section Boot

variable {peers : List Nat} {db : Db} {booted done : List SledOp} {entry : Entry}

/-- A start keeps the entries of the log. -/
theorem boot_tree (boots : done <+: db.startOps peers) {index : Nat} (positive : 0 < index) :
    (db.replay done).entriesTree[index]? = db.entriesTree[index]? := by
  by_cases began : done = []
  · rw [began]
    rfl
  · exact (replay_snapshotPart boots began db).2 index positive

/-- A start writes over a directory without voters, where each guarded entry is in the log. -/
theorem Db.Guards.boot (guards : db.Guards entry) (boots : booted <+: db.startOps peers)
    (idle : db.initialState.2.voters ≠ [] → booted = []) : (db.replay booted).Guards entry := by
  refine ⟨guards.positive, ?_⟩
  rcases guards.stored with stored | covered
  · exact Or.inl ((boot_tree boots guards.positive).trans stored)
  · rw [idle covered.1]
    exact Or.inr covered

/-- A crash during the start keeps what the start leaves behind. -/
theorem Db.Guards.unboot (guards : (db.replay booted).Guards entry) (boots : booted <+: db.startOps peers)
    (initial : done <+: booted) : (db.replay done).Guards entry := by
  by_cases began : booted = []
  · rw [began] at initial guards
    rw [List.prefix_nil.mp initial]
    exact guards
  · refine ⟨guards.positive, Or.inl ?_⟩
    rw [boot_tree (initial.trans boots) guards.positive, ← boot_tree boots guards.positive]
    refine guards.stored.resolve_right fun ⟨_, snapshot, record, covered⟩ => ?_
    rw [(replay_snapshotPart boots began db).1] at record
    have first := guards.positive
    obtain rfl := Option.some.inj record
    exact absurd covered (Nat.not_le.mpr first)

end Boot

section Life

variable {X : Externals} {peers : List Nat} {accepts : Message → List Entry} {db : Db} {booted done : List SledOp} {reached : List Effect}
  {known : List Entry} {owned : Entry → Prop}

/-- A crash leaves each shown entry guarded. -/
theorem crash_guards (ahead : Obeys (WriteAhead db.hardState) reached) (sourced : Obeys (Sourced (db.replay booted)) reached)
    (commits : Obeys (Commits accepts (db.replay booted) known) reached) (boots : booted <+: db.startOps peers)
    (begins : ∀ entry, owned entry → entry ∈ known ∧ (db.replay booted).Guards entry)
    (crash : Survives SledOp.Flushes done (booted ++ sledOps reached)) :
    (∀ entry, owned entry → (db.replay done).Guards entry) ∧ ∀ effect ∈ reached, ∀ entry ∈ effect.shows accepts,
      entry ∈ backed accepts reached ∧ (db.replay done).Guards entry := by
  have points {part : List Effect} (initial : part <+: reached) : Durable accepts (db.replay booted) known owned part :=
    durable_run begins (ahead.shrink initial) (sourced.shrink initial) (commits.shrink initial)
  constructor
  · intro entry own
    rcases crash_cuts crash.initial with short | ⟨part, initial, rfl⟩
    · exact (begins entry own).2.unboot boots short
    · rw [Db.replay_append]
      exact ((points initial).owned entry own).2
  · intro effect found entry inside
    refine ⟨((points List.prefix_rfl).shown effect found entry inside).1, ?_⟩
    have visible : effect.sledOp = none := by
      cases effect with
      | sled op => cases inside
      | _ => rfl
    obtain ⟨before, after, split⟩ := List.append_of_mem found
    have told : before ++ [effect] <+: reached := ⟨after, by rw [split]; simp⟩
    by_cases wrote : booted = [] ∨ sledOps before ≠ []
    · obtain ⟨part, ⟨rest, own⟩, rfl⟩ := crash_behind ahead split visible wrote crash
      rw [Db.replay_append]
      have initial : before ++ effect :: part <+: reached := ⟨rest, by rw [split, ← own]; simp⟩
      exact ((points initial).shown effect (by simp) entry inside).2
    · -- Before the first write of the run the entry is in the log that the start found.
      obtain ⟨_, none⟩ := not_or.mp wrote
      have silent : sledOps (before ++ [effect]) = [] := by
        rw [sledOps_append, not_not.mp none, List.nil_append, sledOps, List.filterMap_cons_none visible, List.filterMap_nil]
      have guards := ((points told).shown effect (by simp) entry inside).2
      rcases crash_cuts crash.initial with short | ⟨part, initial, rfl⟩
      · rw [silent] at guards
        exact Db.Guards.unboot guards boots short
      · rw [Db.replay_append]
        rcases List.prefix_or_prefix_of_prefix told initial with behind | within
        · obtain ⟨rest, rfl⟩ := behind
          exact ((points initial).shown effect (by simp) entry inside).2
        · have nothing : sledOps part = [] := by
            obtain ⟨rest, own⟩ := within
            rw [← own, sledOps_append] at silent
            exact (List.append_eq_nil_iff.mp silent).1
          rw [nothing]
          rw [silent] at guards
          exact guards

end Life

variable {X : Externals} {peers : List Nat} {accepts : Message → List Entry} {db : Db} {past : List (List Effect)}

/-- Raft keeps its promises about entries over all lives. -/
def Committing (accepts : Message → List Entry) (db : Db) (past : List (List Effect)) (reached : List Effect) : Prop :=
  Obeys (Commits accepts db (past.flatMap (backed accepts))) reached

/-- Each entry that a life shows stays guarded in the directory over all later lives. -/
theorem Lives.guards (lives : Lives X peers (Committing accepts) db past) : ∀ trace ∈ past, ∀ effect ∈ trace,
    ∀ entry ∈ effect.shows accepts, entry ∈ past.flatMap (backed accepts) ∧ db.Guards entry := by
  induction lives with
  | new => simp
  | live db past start faults actions booted done reached lives fresh store boots idle disk stops lawful crash ih =>
      have ahead : Obeys (WriteAhead db.hardState) reached :=
        (Driver.performAll_kept fresh disk db.hardState actions).shrink stops
      have sourced : Obeys (Sourced (db.replay booted)) reached :=
        (Driver.performAll_told fresh disk actions).shrink stops
      have begins : ∀ entry, (∃ trace ∈ past, ∃ effect ∈ trace, entry ∈ effect.shows accepts) →
          entry ∈ past.flatMap (backed accepts) ∧ (db.replay booted).Guards entry := by
        intro entry ⟨trace, inside, effect, found, shown⟩
        obtain ⟨known, guards⟩ := ih trace inside effect found entry shown
        exact ⟨known, guards.boot boots idle⟩
      obtain ⟨old, new⟩ := crash_guards ahead sourced lawful boots begins crash
      rw [List.forall_mem_append, List.forall_mem_singleton, List.flatMap_append, List.flatMap_singleton]
      constructor
      · intro trace inside effect found entry shown
        have own : ∃ trace ∈ past, ∃ effect ∈ trace, entry ∈ effect.shows accepts := ⟨trace, inside, effect, found, shown⟩
        exact ⟨List.mem_append_left _ (begins entry own).1, old entry own⟩
      · intro effect found entry shown
        obtain ⟨out, guards⟩ := new effect found entry shown
        exact ⟨List.mem_append_right _ out, guards⟩

/-- An applied entry stays in the directory or under its snapshot, over all later lives and crashes. -/
theorem applied_kept (lives : Lives X peers (Committing accepts) db past) {trace : List Effect} (inside : trace ∈ past)
    {entry : Entry} {kv : KvMap} (applied : .applied entry kv ∈ trace) : db.Keeps entry :=
  (lives.guards trace inside _ applied entry List.mem_cons_self).2.keeps

/-- The put of this channel got its success right behind the application of the entry. -/
def Acknowledged (codec : KvCodec) (channel : Channel) (key value : String) (entry : Entry) (reached : List Effect) :
    Prop :=
  ∃ before after, reached = before ++ .reply channel (.ok ()) :: after ∧
    Driver.AppliedFor codec channel key value entry before

/-- An acknowledged entry was applied before its answer. -/
theorem Acknowledged.applied {codec : KvCodec} {channel : Channel} {key value : String} {entry : Entry}
    {reached : List Effect} (acknowledged : Acknowledged codec channel key value entry reached) :
    ∃ kv, .applied entry kv ∈ reached := by
  obtain ⟨before, after, split, _, earlier, kv, notices, own, _⟩ := acknowledged
  exact ⟨kv, by rw [split, own]; simp⟩

/-- The entry of a PUT that was answered with a success is applied in the same life. -/
theorem acknowledged_entry {start : Driver X} {requests : List Action} {reached : List Effect} {channel : Channel}
    (fresh : Fresh start) (distinct : Function.Injective start.uuids) (channels : (putChannels requests).Nodup)
    (intact : Obeys Intact (Driver.performAll requests start).2.trace)
    (stops : reached <+: (Driver.performAll requests start).2.trace) (told : .reply channel (.ok ()) ∈ reached) :
    ∃ key written, .command (.rpc (.put key written channel)) ∈ requests ∧
      ∃ entry, Acknowledged X.kvCodec channel key written entry reached := by
  obtain ⟨before, after, split⟩ := List.append_of_mem told
  obtain ⟨rest, whole⟩ := stops
  rw [split, List.append_assoc, List.cons_append] at whole
  obtain ⟨key, written, asked, entry, applied⟩ :=
    Driver.acknowledged_applied fresh distinct channels intact whole.symm
  exact ⟨key, written, asked, entry, before, after, split, applied⟩

/-- The entry of a PUT that was answered with a success is kept. -/
theorem Lives.keeps_acknowledged (lives : Lives X peers (Committing accepts) db past) {start : Driver X}
    {requests : List Action} {reached : List Effect} {channel : Channel} (inside : reached ∈ past) (fresh : Fresh start)
    (distinct : Function.Injective start.uuids) (channels : (putChannels requests).Nodup)
    (intact : Obeys Intact (Driver.performAll requests start).2.trace)
    (stops : reached <+: (Driver.performAll requests start).2.trace) (told : .reply channel (.ok ()) ∈ reached) :
    ∃ key written, .command (.rpc (.put key written channel)) ∈ requests ∧
      ∃ entry, Acknowledged X.kvCodec channel key written entry reached ∧ db.Keeps entry := by
  obtain ⟨key, written, asked, entry, acknowledged⟩ := acknowledged_entry fresh distinct channels intact stops told
  obtain ⟨kv, applied⟩ := acknowledged.applied
  exact ⟨key, written, asked, entry, acknowledged,
    (lives.guards reached inside _ applied entry List.mem_cons_self).2.keeps⟩

/-- The entry behind the success of a PUT stays in the directory or under its snapshot, over all later lives and
crashes. -/
theorem acknowledged_kept (lives : Lives X peers (Committing accepts) db past) {start : Driver X} {requests : List Action}
    {reached : List Effect} {channel : Channel} (inside : reached ∈ past) (fresh : Fresh start)
    (distinct : Function.Injective start.uuids) (channels : (putChannels requests).Nodup)
    (intact : Obeys Intact (Driver.performAll requests start).2.trace)
    (stops : reached <+: (Driver.performAll requests start).2.trace) (told : .reply channel (.ok ()) ∈ reached) :
    ∃ key written, .command (.rpc (.put key written channel)) ∈ requests ∧
      ∃ entry, Acknowledged X.kvCodec channel key written entry reached ∧ db.Keeps entry :=
  lives.keeps_acknowledged inside fresh distinct channels intact stops told

instance (accepts : Message → List Entry) (db : Db) (past : List (List Effect)) (reached : List Effect) :
    Decidable (Committing accepts db past reached) :=
  inferInstanceAs (Decidable (Obeys (Commits accepts db (past.flatMap (backed accepts))) reached))

/-- A message that vouches for entries is sent behind the writes of the ready whose turn it is. -/
theorem Lives.stored (lives : Lives X peers (Committing accepts) db past) {trace before after : List Effect} {«to» : Nat}
    {msg : Message} (inside : trace ∈ past) (split : trace = before ++ .send «to» msg :: after)
    (vouches : accepts msg ≠ []) {chapter : Chapter} (turn : (story before).chapter = some chapter) :
    chapter.Stored := by
  induction lives with
  | new => cases inside
  | live db past start faults actions booted done reached lives fresh store boots idle disk stops lawful crash ih =>
      rcases List.mem_append.mp inside with old | new
      · exact ih old
      · rw [List.mem_singleton.mp new] at split
        have ahead : Obeys (WriteAhead db.hardState) reached :=
          (Driver.performAll_kept fresh disk db.hardState actions).shrink stops
        have sourced : Obeys (Sourced (db.replay booted)) reached :=
          (Driver.performAll_told fresh disk actions).shrink stops
        have initial : before <+: reached := ⟨_, split.symm⟩
        have durable : Durable accepts (db.replay booted) (past.flatMap (backed accepts)) (fun _ => False) before :=
          durable_run (fun _ never => absurd never id) (ahead.shrink initial) (sourced.shrink initial)
            (lawful.shrink initial)
        refine ((sourced before _ after split).sent «to» msg rfl chapter turn).resolve_left fun free => ?_
        exact vouches (durable.free msg (turn_free turn ▸ free))

def firstPut : Entry := scriptedPut 1 1 0 "k" "v"

/-- This message accepts the first put. -/
def acceptsFirst (msg : Message) : List Entry := if msg.payload = [2] then [firstPut] else []

/-- This ready appends an entry and commits it. -/
def putReady (entry : Entry) : Ready :=
  { Ready.default with entries := [entry], committedEntries := [entry] }

/-- The leader proposes a put and applies it. -/
def putRequests : List Action := [.command (.rpc (.put "k" "v" 7)), .ready]

def putTrace : List Effect := lifeTrace .leader putRequests .new (putReady firstPut)

/-- This is the directory after the put. -/
def putDir : Db := Db.new.replay (Db.startOps [1] .new ++ sledOps putTrace)

/-- The second life stops behind the unflushed write of another put. -/
def cutTrace : List Effect := (lifeTrace .follower [.ready] putDir (putReady (scriptedPut 1 2 1 "k" "w"))).take 2

/-- The node of the example writes the put, loses power and starts again. -/
theorem cut_lives : Lives scripted [1] (Committing acceptsFirst) (putDir.replay []) [putTrace, cutTrace] := by
  have first : Lives scripted [1] (Committing acceptsFirst) putDir ([] ++ [putTrace]) :=
    .live .new [] (scriptedLife .leader .new (putReady firstPut)) [] putRequests (Db.startOps [1] .new) _ _ .new
      (scriptedDriver_fresh _ _) rfl List.prefix_rfl (fun voters => absurd rfl voters) rfl List.prefix_rfl
      (by decide +kernel) (Crash.survives_all _)
  have kept : putDir.initialState.2.voters ≠ [] := by decide +kernel
  refine .live putDir _ (scriptedLife .follower putDir (putReady (scriptedPut 1 2 1 "k" "w"))) [] [.ready] [] [] cutTrace
    first (scriptedDriver_fresh _ _) rfl List.nil_prefix (fun _ => rfl) (RaftNode.newStore_db scripted.mem kept [])
    (List.take_prefix _ _) (by decide +kernel) ⟨List.nil_prefix, fun earlier op rest split flushes => ?_⟩
  have issued : sledOps cutTrace = [.insertEntry 2 (scriptedPut 1 2 1 "k" "w")] := by decide +kernel
  rw [List.nil_append, issued] at split
  cases earlier with
  | nil =>
      obtain ⟨rfl, _⟩ := List.cons.inj split
      exact absurd flushes id
  | cons head earlier =>
      have none := (List.cons.inj split).2
      simp at none

/-- The directory after the power cut keeps the applied put. -/
theorem applied_kept_cut : (putDir.replay []).Keeps firstPut := by
  have applied : .applied firstPut (.ofList [("k", "v")]) ∈ putTrace := by decide +kernel
  exact applied_kept cut_lives (by simp) applied

/-- The directory after the power cut keeps the put that the client was told about. -/
theorem acknowledged_kept_cut :
    ∃ key written, .command (.rpc (.put key written 7)) ∈ putRequests ∧
      ∃ entry, Acknowledged Protobuf.kvCodec 7 key written entry putTrace ∧ (putDir.replay []).Keeps entry := by
  have intact : Obeys Intact putTrace := by decide +kernel
  have told : .reply 7 (.ok ()) ∈ putTrace := by decide +kernel
  exact acknowledged_kept cut_lives List.mem_cons_self (scriptedDriver_fresh _ _) scriptedUuids_injective (by decide)
    intact List.prefix_rfl told

end RaftATui
