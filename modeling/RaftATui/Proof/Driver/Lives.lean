import RaftATui.Proof.Driver.AppliedIndex
import RaftATui.Proof.Driver.Restart
import RaftATui.Proof.Storage.Tally

namespace RaftATui
open Machinery

namespace Driver

variable {X : Externals} {active : X.Raft → ConfState} {change : ConfState → X.Change → Except RaftError ConfState}

section Entries

/-- These are the sled calls of an applied entry. -/
def entryOps (change : ConfState → X.Change → Except RaftError ConfState) (conf : ConfState) (entry : Entry) :
    List SledOp :=
  if Counts change conf entry then
    (match accepted change conf entry with
      | some cs => [.insertConfstate cs, .flush .metaTree]
      | none => []) ++ [.insertAppliedIndex entry.index, .flush .metaTree]
  else []

/-- Each entry is applied in the configuration that the entries before it leave. -/
def entriesOps (change : ConfState → X.Change → Except RaftError ConfState) :
    ConfState → List Entry → List SledOp
  | _, [] => []
  | conf, entry :: rest =>
      entryOps change conf entry ++ entriesOps change (reconfigure change conf (filled [entry])) rest

/-- The second batch writes its marks over the configuration that the first one leaves. -/
theorem entriesOps_append (conf : ConfState) (first second : List Entry) :
    entriesOps change conf (first ++ second) =
      entriesOps change conf first ++ entriesOps change (reconfigure change conf (filled first)) second := by
  induction first generalizing conf with
  | nil => rfl
  | cons entry rest ih =>
      rw [List.cons_append, entriesOps, ih, entriesOps, List.append_assoc, ← reconfigure_filled_cons]

/-- An applied entry leaves its sled calls in the trace and in the directory. -/
theorem applyEntry_ops (follows : ConfLaws X active change) {entry : Entry} {driver final : Driver X} {db : Db}
    (disk : driver.store.db? = some db) (done : applyEntry entry driver = (.ok (), final)) :
    sledOps final.trace = sledOps driver.trace ++ entryOps change (active driver.raft) entry ∧
      final.store.db? = some (db.replay (entryOps change (active driver.raft) entry)) := by
  cases applyEntry_handled follows done with
  | passed raft missed same =>
      rw [entryOps, if_neg missed, List.append_nil]
      exact ⟨rfl, disk⟩
  | command filled normal run =>
      have counts : Counts change (active driver.raft) entry := ⟨filled, Or.inl normal⟩
      have refused : accepted change (active driver.raft) entry = none := by
        simp [accepted, Entry.change, normal]
      rw [entryOps, if_pos counts, refused]
      exact (applyNormalEntry_follows entry).completes run disk
  | reconfigured cs raft filled taken same run =>
      have counts : Counts change (active driver.raft) entry := ⟨filled, Or.inr (by rw [taken]; rfl)⟩
      have written := (persistConfState_follows entry cs).completes run disk
      rw [entryOps, if_pos counts, taken]
      exact written

/-- A batch makes exactly these sled calls on the disk. -/
theorem applyEntries_ops (follows : ConfLaws X active change) {entries : List Entry} {driver final : Driver X}
    {db : Db} (disk : driver.store.db? = some db) (done : applyEntries entries driver = (.ok (), final)) :
    sledOps final.trace = sledOps driver.trace ++ entriesOps change (active driver.raft) entries ∧
      final.store.db? = some (db.replay (entriesOps change (active driver.raft) entries)) := by
  induction entries generalizing driver db with
  | nil =>
      rw [applyEntries, Attempt.forEach_nil, Attempt.pure_apply, Prod.mk.injEq] at done
      rw [← done.2, entriesOps, List.append_nil]
      exact ⟨rfl, disk⟩
  | cons entry rest ih =>
      obtain ⟨_, middle, first, later⟩ := Attempt.bind_eq_ok.mp done
      obtain ⟨written, stored⟩ := applyEntry_ops follows disk first
      obtain ⟨written', stored'⟩ := ih stored later
      have moved : active middle.raft = reconfigure change (active driver.raft) (filled [entry]) := by
        have step : middle.progress active = countEntry change (driver.progress active) entry :=
          applyEntry_progress follows entry driver () middle first
        exact (congrArg Prod.fst step).trans (countEntry_conf _ _)
      rw [moved] at written' stored'
      rw [written', written, List.append_assoc, stored', ← Db.replay_append]
      exact ⟨rfl, rfl⟩

namespace ReadyRun

variable {before after : Driver X}

/-- Raft's configuration stays until the first entry is applied. -/
theorem promised_conf (steady : Steady X active) (run : ReadyRun before after) :
    active run.promised.raft = active before.raft := by
  have taken : active run.taken.raft = active before.raft := by
    rw [run.taken_eq]
    exact steady.ready _ _
  have sent : run.sent.progress active = run.taken.progress active :=
    (sendMessages_progress _).reaches _ _ _ run.sendFirst
  have installed : run.installed.progress active = countSnapshot run.ready.snapshot (run.sent.progress active) :=
    applySnapshotPart_progress run.ready _ _ _ run.install
  have kept : (countSnapshot run.ready.snapshot (run.sent.progress active)).1 = active run.sent.raft := by
    unfold countSnapshot
    split <;> rfl
  have appended : run.appended.raft = run.installed.raft :=
    ((appendEntriesPart_stores _).reaches _ _ _ run.append).raft
  have persisted : run.persisted.raft = run.appended.raft :=
    ((persistHardstatePart_stores _).reaches _ _ _ run.persist).raft
  have promised : run.promised.progress active = run.persisted.progress active :=
    (sendMessages_progress _).reaches _ _ _ run.sendPersisted
  calc active run.promised.raft = active run.persisted.raft := congrArg Prod.fst promised
    _ = active run.installed.raft := by rw [persisted, appended]
    _ = active run.sent.raft := (congrArg Prod.fst installed).trans kept
    _ = active before.raft := (congrArg Prod.fst sent).trans taken

/-- A processed ready leaves the calls of its parts and then those of its entries. -/
theorem ops (follows : ConfLaws X active change) (steady : Steady X active) (run : ReadyRun before after)
    {db : Db} (disk : before.store.db? = some db) : ∃ ops, ops = run.ready.sledOps db ++
        entriesOps change (active before.raft) (run.ready.committedEntries ++ run.light.committedEntries) ∧
      sledOps after.trace = sledOps before.trace ++ ops ∧ after.store.db? = some (db.replay ops) := by
  have taken : sledOps run.taken.trace = sledOps before.trace ∧ run.taken.store.db? = some db := by
    rw [run.taken_eq]
    exact ⟨sledOps_added rfl (by simp [Effect.sledOp]), disk⟩
  have taking : persistTaken run.ready run.taken = (.ok (), run.persisted) := by
    rw [persistTaken, Attempt.bind_ok _ run.sendFirst, Attempt.bind_ok _ run.install,
      Attempt.bind_ok _ run.append]
    exact run.persist
  obtain ⟨written, stored⟩ := (persistTaken_follows run.ready).completes taking taken.2
  have promised := (sendMessages_quiet _).reaches _ _ _ run.sendPersisted
  rw [← promised.store] at stored
  obtain ⟨written₁, stored₁⟩ := applyEntries_ops follows stored run.applyFirst
  have applied : run.applied.progress active =
      run.ready.committedEntries.foldl (countEntry change) (run.promised.progress active) :=
    applyEntries_progress follows _ _ _ _ run.applyFirst
  have shown := updateTuiState_quiet.reaches _ _ _ run.present
  have displayed := (updateTuiState_reports.reaches _ _ _ run.present).raft
  have advanced : sledOps run.advanced.trace = sledOps run.shown.trace ∧ run.advanced.store = run.shown.store ∧
      active run.advanced.raft = active run.shown.raft := by
    rw [run.advanced_eq]
    exact ⟨sledOps_added rfl (by simp [Effect.sledOp]), rfl, steady.advance _ _ _⟩
  have answered := (sendMessages_quiet _).reaches _ _ _ run.sendLight
  have sent : run.answered.progress active = run.advanced.progress active :=
    (sendMessages_progress _).reaches _ _ _ run.sendLight
  rw [← shown.store, ← advanced.2.1, ← answered.store] at stored₁
  obtain ⟨written₂, stored₂⟩ := applyEntries_ops follows stored₁ run.applyLight
  have conf : active run.answered.raft =
      reconfigure change (active before.raft) (filled run.ready.committedEntries) := by
    rw [← run.promised_conf steady]
    calc active run.answered.raft = active run.advanced.raft := congrArg Prod.fst sent
      _ = active run.applied.raft := by rw [advanced.2.2, displayed]
      _ = _ := (congrArg Prod.fst applied).trans (foldl_countEntry_conf _ _)
  rw [run.promised_conf steady] at written₁ stored₂
  rw [conf] at written₂ stored₂
  refine ⟨_, rfl, ?_, ?_⟩
  · rw [written₂, answered.sledOps, advanced.1, shown.sledOps, written₁, promised.sledOps, written, taken.1,
      entriesOps_append]
    simp only [List.append_assoc]
  · rw [stored₂, entriesOps_append, Db.replay_append, Db.replay_append]

end ReadyRun

end Entries

section Tallies

/-- A delivered entry leaves the configuration and the applied index as they are. -/
def Inert (change : ConfState → X.Change → Except RaftError ConfState) (conf : ConfState) (last : Nat)
    (entry : Entry) : Prop :=
  ¬ Counts change conf entry ∨ (entry.index = last ∧ reconfigure change conf [entry] = conf)

/-- The tally is sound, and the entries that were applied before leave the directory as it is. -/
structure Progressing (change : ConfState → X.Change → Except RaftError ConfState) (tally : Tally) (feed : Feed) :
    Prop where
  sound : tally.Sound
  inert : ∀ index entry, feed.handed < index → index ≤ tally.last → feed.log index = some entry →
    Inert change tally.conf tally.last entry

/-- The calls of an entry count it with the configuration that it leaves. -/
theorem foldl_entryOps (tally : Tally) (entry : Entry) :
    (entryOps change tally.conf entry).foldl Tally.step tally =
      if Counts change tally.conf entry then
        tally.count (reconfigure change tally.conf [entry]) entry.index
      else tally := by
  unfold entryOps
  split
  · cases taken : accepted change tally.conf entry with
    | none =>
        have same : reconfigure change tally.conf [entry] = tally.conf := by simp [reconfigure, taken]
        rw [same, Tally.count_same]
        rfl
    | some cs =>
        have new : reconfigure change tally.conf [entry] = cs := by simp [reconfigure, taken]
        rw [new]
        rfl
  · rfl

namespace Progressing

variable {tally : Tally} {feed : Feed}

/-- The next entry of the log is counted for the first time, or it is inert. -/
theorem entry (progressing : Progressing change tally feed) {entry : Entry} (next : entry.index = feed.handed + 1)
    (logged : feed.log entry.index = some entry) :
    Progressing change ((entryOps change tally.conf entry).foldl Tally.step tally)
      { feed with handed := entry.index } := by
  rw [foldl_entryOps]
  split
  · next counts =>
      have fresh : tally.last < entry.index ∨
          (entry.index = tally.last ∧ reconfigure change tally.conf [entry] = tally.conf) := by
        by_cases above : tally.last < entry.index
        · exact Or.inl above
        · rcases progressing.inert entry.index entry (by omega) (by omega) logged with missed | again
          · exact absurd counts missed
          · exact Or.inr again
      refine ⟨progressing.sound.count fresh, fun index other behind within => ?_⟩
      rw [Tally.count_last] at within
      change entry.index < index at behind
      omega
  · refine ⟨progressing.sound, fun index other behind within => ?_⟩
    change entry.index < index at behind
    exact progressing.inert index other (by omega) within

/-- The entries of one output are counted in order. -/
theorem entries (progressing : Progressing change tally feed) {entries : List Entry} (hands : feed.Hands entries) :
    Progressing change ((entriesOps change tally.conf entries).foldl Tally.step tally) (feed.hand entries) ∧
      ((entriesOps change tally.conf entries).foldl Tally.step tally).conf =
        reconfigure change tally.conf (filled entries) := by
  induction entries generalizing tally feed with
  | nil => exact ⟨progressing, rfl⟩
  | cons entry rest ih =>
      obtain ⟨⟨first, later⟩, logged⟩ := hands
      have moved := progressing.entry first (logged entry List.mem_cons_self)
      have conf : ((entryOps change tally.conf entry).foldl Tally.step tally).conf =
          reconfigure change tally.conf (filled [entry]) := by
        rw [foldl_entryOps, ← countEntry_conf (tally.conf, 0) entry, countEntry]
        split
        · simp [reconfigure]
        · rfl
      have others := ih moved ⟨by rw [first]; exact later, fun other inside =>
        logged other (List.mem_cons_of_mem entry inside)⟩
      rw [conf] at others
      rw [entriesOps, List.foldl_append, reconfigure_filled_cons _ entry rest]
      refine ⟨⟨others.1.sound, fun index other behind within logged => ?_⟩, others.2⟩
      apply others.1.inert index other _ within logged
      change entry.index + rest.length < index
      change feed.handed + (rest.length + 1) < index at behind
      omega

/-- An installed snapshot moves on behind everything that was applied. -/
theorem install (progressing : Progressing change tally feed) {snapshot : Snapshot}
    (above : snapshot.isEmpty = false → tally.last < snapshot.metadata.index) :
    Progressing change (if snapshot.isEmpty then tally
      else tally.count snapshot.metadata.confState snapshot.metadata.index) (feed.install snapshot) := by
  unfold Feed.install
  cases none : snapshot.isEmpty with
  | true => exact progressing
  | false =>
      simp only [Bool.false_eq_true, if_false]
      refine ⟨progressing.sound.count (Or.inl (above none)), fun index other behind within => ?_⟩
      rw [Tally.count_last] at within
      change snapshot.metadata.index < index at behind
      omega

/-- New entries of the log lie above everything that was applied. -/
theorem append (progressing : Progressing change tally feed) {entries : List Entry}
    (above : ∀ entry ∈ entries, tally.last < entry.index) : Progressing change tally (feed.append entries) := by
  refine ⟨progressing.sound, fun index other behind within logged => ?_⟩
  apply progressing.inert index other behind within
  change Feed.logged feed.log entries index = some other at logged
  rw [Feed.logged_below fun entry inside => Nat.lt_of_le_of_lt within (above entry inside)] at logged
  exact logged

end Progressing

end Tallies

/-- This is a node on disk in one of its lives, with the calls of the lives before and the directories that
the first life and this life found. -/
structure Life (X : Externals) where
  origin : Db
  past : List SledOp
  found : Db
  driver : Driver X

namespace Life

/-- These are the completed sled calls of all lives. -/
def history (life : Life X) : List SledOp := life.past ++ sledOps life.driver.trace

def tally (life : Life X) : Tally := RaftATui.tally life.origin.initialState.2 life.history

/-- This is the applied index that the directory records. -/
def applied (life : Life X) : Nat := (life.driver.store.db?.map Db.applied).getD 0

/-- Raft neither replaces nor installs anything up to the applied index. Its configuration is the stored one or
that of the snapshot that it hands out. -/
structure Durable (active : X.Raft → ConfState) (life : Life X) (rd : Ready) : Prop where
  installs : rd.snapshot.isEmpty = false → life.applied < rd.snapshot.metadata.index
  appends : ∀ entry ∈ rd.entries, life.applied < entry.index
  synced : active life.driver.raft =
    if rd.snapshot.isEmpty then life.driver.persisted.2 else rd.snapshot.metadata.confState

end Life

/-- A node starts on a new directory, performs actions, and starts again on what it left, any number of times.
In each life raft delivers its log from the first index on. -/
inductive Lived (peers : List Nat) (active : X.Raft → ConfState) (allowed : Db → Prop) : Life X → Prop
  | first (driver : Driver X) (db : Db) (done : List SledOp) (faults : List Bool)
      (initial : done <+: Db.bootOps peers) (fresh : Fresh driver)
      (store : driver.store = RaftNode.newStore X.mem peers (.newWithDisk (Db.new.replay done) faults))
      (disk : driver.store.db? = some db) (voters : db.initialState.2.voters ≠ []) :
      Lived peers active allowed ⟨db, [], db, driver⟩
  | perform (life : Life X) (after : Driver X) (action : Action) (lived : Lived peers active allowed life)
      (done : perform action life.driver = (.ok (), after))
      (durable : action = .ready → life.Durable active (X.raw.ready life.driver.store life.driver.raft).1)
      (delivers : (Feed.start life.found).Delivers (outputs after.trace))
      (voting : Db.Voting (sledOps after.trace)) : Lived peers active allowed { life with driver := after }
  | restart (life : Life X) (driver : Driver X) (db : Db) (faults : List Bool)
      (lived : Lived peers active allowed life) (disk : life.driver.store.db? = some db) (allows : allowed db)
      (fresh : Fresh driver)
      (store : driver.store = RaftNode.newStore X.mem peers (.newWithDisk db faults)) :
      Lived peers active allowed ⟨life.origin, life.history, db, driver⟩

/-- The stored entries from the first index up to the applied one leave the directory as it is. -/
def Settled (change : ConfState → X.Change → Except RaftError ConfState) (db : Db) : Prop :=
  ∀ index entry, db.logStart ≤ index → index ≤ db.applied → db.entriesTree[index]? = some entry →
    Inert change db.initialState.2 db.applied entry

/-- A snapshot that covers every applied entry settles the directory. -/
theorem settled_of_covered {db : Db} (covered : db.applied < db.logStart) : Settled change db := by
  intro index entry first within
  omega

/-- The directory and the tally of a life agree, and raft has nothing to deliver that would go back. -/
structure Alive (change : ConfState → X.Change → Except RaftError ConfState) (life : Life X) (db : Db) : Prop where
  disk : life.driver.store.db? = some db
  voters : db.initialState.2.voters ≠ []
  knows : life.tally.Knows db
  stocked : Stocked life.found life.driver
  progressing : Progressing change life.tally (Feed.through life.found life.driver.trace)

/-- The first start writes no applied index. -/
theorem snapshotOps_free (snapshot : Snapshot) (keys : List Nat) :
    ∀ op ∈ DiskStorage.snapshotOps snapshot keys, op.writesApplied = false :=
  DiskStorage.forall_snapshotOps rfl rfl rfl (fun _ _ _ => rfl) fun _ => rfl

/-- A new node has a snapshot record and no applied index. -/
theorem newStore_applied {mem : MemStorageApi X.Mem} {peers : List Nat} {done : List SledOp} {faults : List Bool}
    {db : Db} (initial : done <+: Db.bootOps peers)
    (disk : (RaftNode.newStore mem peers (.newWithDisk (Db.new.replay done) faults)).db? = some db) :
    db.applied = 0 := by
  obtain ⟨more, later, final, _⟩ :=
    RaftStorage.initializeDisk_db { voters := peers } (DiskStorage.openDb (Db.new.replay done) faults)
  have same : db = (Db.new.replay done).replay more := by
    have stored : some (RaftStorage.initializeDisk { voters := peers }
        (DiskStorage.openDb (Db.new.replay done) faults)).2.db = some db := disk
    rw [final] at stored
    exact (Option.some.inj stored).symm
  rw [same, Db.applied_replay fun op inside => snapshotOps_free _ _ op (later.subset inside),
    Db.applied_replay fun op inside => snapshotOps_free _ _ op (initial.subset inside)]
  rfl

namespace Alive

variable {life : Life X} {db : Db} {peers : List Nat}

/-- A life begins with the tally that the lives before left. -/
theorem begin {origin : Db} {past : List SledOp} {driver : Driver X} (fresh : Fresh driver)
    (disk : driver.store.db? = some db) (record : ∃ snapshot, db.snapshotsTree = some snapshot)
    (voters : db.initialState.2.voters ≠ [])
    (knows : (RaftATui.tally origin.initialState.2 past).Knows db)
    (progressing : Progressing change (RaftATui.tally origin.initialState.2 past) (Feed.start db)) :
    Alive change ⟨origin, past, db, driver⟩ db := by
  have history : Life.history ⟨origin, past, db, driver⟩ = past := by
    change past ++ sledOps driver.trace = past
    rw [fresh.trace]
    exact List.append_nil past
  have feed : Feed.through db driver.trace = Feed.start db := by
    rw [fresh.trace]
    rfl
  refine ⟨disk, voters, ?_, stocked_start fresh disk record, ?_⟩
  · rw [Life.tally, history]
    exact knows
  · rw [Life.tally, history, feed]
    exact progressing

/-- The first life begins with an empty tally. -/
theorem first {driver : Driver X} {done : List SledOp} {faults : List Bool} (initial : done <+: Db.bootOps peers)
    (fresh : Fresh driver)
    (store : driver.store = RaftNode.newStore X.mem peers (.newWithDisk (Db.new.replay done) faults))
    (disk : driver.store.db? = some db) (voters : db.initialState.2.voters ≠ []) :
    Alive change ⟨db, [], db, driver⟩ db := by
  obtain ⟨same, booted, sound⟩ := RaftNode.newStore_boot X.mem initial faults
  rw [← store, disk, Option.some.injEq] at booted
  rw [← booted] at sound
  have none : db.applied = 0 := newStore_applied initial (store ▸ disk)
  have knows : (RaftATui.tally db.initialState.2 []).Knows db := ⟨rfl, none⟩
  apply begin fresh disk (sound voters).record voters knows
  refine ⟨Tally.sound_start _, fun index entry behind within => ?_⟩
  change index ≤ 0 at within
  omega

/-- A restart finds the directory that the life before left. -/
theorem restart (alive : Alive change life db) {driver : Driver X} {faults : List Bool}
    (settled : Settled change db) (fresh : Fresh driver)
    (store : driver.store = RaftNode.newStore X.mem peers (.newWithDisk db faults)) :
    Alive change ⟨life.origin, life.history, db, driver⟩ db := by
  obtain ⟨same, stored, mirrors⟩ := alive.stocked.stored
  rw [alive.disk, Option.some.injEq] at stored
  rw [← stored] at mirrors
  obtain ⟨snapshot, record, _⟩ := mirrors.record
  have disk : driver.store.db? = some db := by
    rw [store]
    exact RaftNode.newStore_db X.mem alive.voters faults
  apply begin fresh disk ⟨snapshot, record⟩ alive.voters alive.knows
  refine ⟨alive.progressing.sound, fun index entry behind within logged => ?_⟩
  change db.logStart - 1 < index at behind
  have knows := alive.knows
  change Inert change life.tally.conf life.tally.last entry
  rw [← knows.conf, ← knows.last]
  exact settled index entry (by omega) (knows.last ▸ within) logged

/-- Commands, messages and ticks leave the directory and the tally alone. -/
theorem handles (alive : Alive change life db) {after : Driver X} (handles : Handles life.driver after) :
    Alive change { life with driver := after } db := by
  have history : Life.history { life with driver := after } = life.history := by
    change life.past ++ sledOps after.trace = life.past ++ sledOps life.driver.trace
    rw [handles.sledOps]
  have feed : Feed.through life.found after.trace = Feed.through life.found life.driver.trace := by
    rw [Feed.through, handles.outputs]
    rfl
  have stocked : Stocked life.found after := by
    constructor
    · rw [handles.store, feed]
      exact alive.stocked.stored
    · rw [delivered_outputs, handles.outputs, ← delivered_outputs]
      exact alive.stocked.decodes
  refine ⟨handles.store ▸ alive.disk, alive.voters, ?_, stocked, ?_⟩
  · rw [Life.tally, history]
    exact alive.knows
  · rw [Life.tally, history]
    exact feed ▸ alive.progressing

/-- A lawful ready counts its snapshot and then each entry that was not applied before. -/
theorem ready (follows : ConfLaws X active change) (steady : Steady X active) (alive : Alive change life db)
    {after : Driver X} (done : processReady life.driver = (.ok (), after))
    (durable : life.Durable active (X.raw.ready life.driver.store life.driver.raft).1)
    (delivers : (Feed.start life.found).Delivers (outputs after.trace))
    (voting : Db.Voting (sledOps after.trace)) : ∃ later, Alive change { life with driver := after } later := by
  obtain ⟨run⟩ := processReady_ok done
  rw [← run.ready_eq] at durable
  obtain ⟨ops, listed, written, stored⟩ := run.ops follows steady alive.disk
  have applied : life.applied = life.tally.last := by
    rw [Life.applied, alive.disk, ← alive.knows.last]
    rfl
  obtain ⟨installs, appends, synced⟩ := durable
  rw [applied] at installs appends
  have persisted : life.driver.persisted.2 = life.tally.conf := by
    rw [← alive.knows.conf]
    exact congrArg Prod.snd (RaftStorage.initialState_of_db X.mem alive.disk)
  rw [persisted] at synced
  rw [Feed.Delivers, run.outputs, Trace.obeys_append, Trace.obeys_cons, Trace.obeys_cons] at delivers
  obtain ⟨_, allowed, answer, _⟩ := delivers
  simp only [List.append_nil, List.foldl_append, List.foldl_cons, List.foldl_nil] at allowed answer
  obtain ⟨_, above, hands⟩ := allowed
  let installed : Tally := if run.ready.snapshot.isEmpty then life.tally
    else life.tally.count run.ready.snapshot.metadata.confState run.ready.snapshot.metadata.index
  have conf : installed.conf = active life.driver.raft := by
    rw [synced]
    cases none : run.ready.snapshot.isEmpty <;> simp [installed, none]
  have fresh : ∀ entry ∈ run.ready.entries, installed.last < entry.index := by
    intro entry inside
    cases none : run.ready.snapshot.isEmpty with
    | true =>
        simp only [installed, none, if_true]
        exact appends entry inside
    | false =>
        have later := above entry inside
        simp only [Feed.install, none, Bool.false_eq_true, if_false] at later
        simpa [installed, none] using later
  have first := ((alive.progressing.install installs).append fresh).entries hands
  have second := (first.1.entries answer).1
  rw [first.2, ← List.foldl_append, ← entriesOps_append, conf] at second
  have history : Life.history { life with driver := after } = life.history ++ ops := by
    change life.past ++ sledOps after.trace = (life.past ++ sledOps life.driver.trace) ++ ops
    rw [written, List.append_assoc]
  have tallied : Life.tally { life with driver := after } = ops.foldl Tally.step life.tally := by
    rw [Life.tally, history, RaftATui.tally, List.foldl_append]
    rfl
  have parts : ops.foldl Tally.step life.tally =
      (entriesOps change (active life.driver.raft)
        (run.ready.committedEntries ++ run.light.committedEntries)).foldl Tally.step installed := by
    rw [listed, Ready.sledOps, List.foldl_append, List.foldl_append, Ready.tally_snapshotPart, Ready.tally_parts]
  have feed : Feed.through life.found after.trace =
      ((Feed.through life.found life.driver.trace).next (.ready run.ready)).next (.light run.light) := by
    rw [Feed.through, run.outputs, List.foldl_append]
    rfl
  refine ⟨db.replay ops, stored, ?_, ?_, ?_, ?_⟩
  · apply Db.voters_replay alive.voters
    intro op inside
    exact voting op (written ▸ List.mem_append_right _ inside)
  · rw [tallied]
    exact alive.knows.replay ops
  · exact processReady_stocked life.found life.driver () after done alive.stocked
  · rw [tallied, parts]
    exact feed ▸ second

end Alive

/-- Every life of a node that starts again on settled directories only is alive. -/
theorem Lived.alive (follows : ConfLaws X active change) (steady : Steady X active) {peers : List Nat}
    {life : Life X} (lived : Lived peers active (Settled change) life) : ∃ db, Alive change life db := by
  induction lived with
  | first driver db done faults initial fresh store disk voters =>
      exact ⟨db, Alive.first initial fresh store disk voters⟩
  | perform life after action _ done durable delivers voting ih =>
      obtain ⟨db, alive⟩ := ih
      by_cases ready : action = .ready
      · subst ready
        exact alive.ready follows steady done (durable rfl) delivers voting
      · have handles := perform_handles ready life.driver
        rw [done] at handles
        exact ⟨db, alive.handles handles⟩
  | restart life driver db faults _ disk allows fresh store ih =>
      obtain ⟨same, alive⟩ := ih
      have stored := alive.disk
      rw [disk, Option.some.injEq] at stored
      rw [← stored] at alive
      exact ⟨db, alive.restart allows fresh store⟩

/-- Over any number of lives on settled directories the stored applied index never goes back, and the stored
configuration changes at ascending log indices only. -/
theorem lived_steadfast (follows : ConfLaws X active change) (steady : Steady X active) {peers : List Nat}
    {life : Life X} (lived : Lived peers active (Settled change) life) : life.tally.Steadfast := by
  obtain ⟨db, alive⟩ := lived.alive follows steady
  exact alive.progressing.sound.toSteadfast

instance (active : X.Raft → ConfState) (life : Life X) (rd : Ready) : Decidable (life.Durable active rd) :=
  decidable_of_iff ((rd.snapshot.isEmpty = false → life.applied < rd.snapshot.metadata.index) ∧
      (∀ entry ∈ rd.entries, life.applied < entry.index) ∧
      active life.driver.raft =
        if rd.snapshot.isEmpty then life.driver.persisted.2 else rd.snapshot.metadata.confState)
    ⟨fun all => ⟨all.1, all.2.1, all.2.2⟩, fun durable => ⟨durable.1, durable.2, durable.3⟩⟩

/-- The first life of this node processes one ready. -/
def firstLife (early : Ready) : Life scripted := ⟨newDir, [], newDir, (processReady (newNode [early])).2⟩

/-- This node starts on a directory with one ready to come. -/
def wokenNode (db : Db) (late : Ready) : Driver scripted := scriptedDriver (.begin .follower [late] [] [])
  (RaftNode.newStore scripted.mem [1] (.newWithDisk db []))

/-- The next life of a node processes one ready, too. -/
def nextLife (life : Life scripted) (late : Ready) : Life scripted :=
  let db := life.driver.store.db?.getD .new
  ⟨life.origin, life.history, db, (processReady (wokenNode db late)).2⟩

/-- A ready that ends well on a new directory is a life. -/
theorem firstLife_lived {allowed : Db → Prop} {early : Ready}
    (done : (processReady (newNode [early])).1 = .ok ())
    (durable : Life.Durable ScriptedRaft.conf ⟨newDir, [], newDir, newNode [early]⟩ early)
    (delivers : (Feed.start newDir).Delivers (outputs (firstLife early).driver.trace))
    (voting : Db.Voting (sledOps (firstLife early).driver.trace)) :
    Lived [1] ScriptedRaft.conf allowed (firstLife early) := by
  have born : Lived [1] ScriptedRaft.conf allowed ⟨newDir, [], newDir, newNode [early]⟩ :=
    .first (newNode [early]) newDir [] [] List.nil_prefix (scriptedDriver_fresh _ _) rfl (newNode_db _) (by decide)
  exact .perform _ _ .ready born (Attempt.eq_ok done) (fun _ => durable) delivers voting

/-- A ready that ends well on a left directory is one more life. -/
theorem nextLife_lived {allowed : Db → Prop} {life : Life scripted} {late : Ready}
    (lived : Lived [1] ScriptedRaft.conf allowed life) (stored : life.driver.store.db?.isSome = true)
    (allows : allowed (nextLife life late).found)
    (done : (processReady (wokenNode (nextLife life late).found late)).1 = .ok ())
    (durable : Life.Durable ScriptedRaft.conf ⟨life.origin, life.history, (nextLife life late).found,
      wokenNode (nextLife life late).found late⟩ late)
    (delivers : (Feed.start (nextLife life late).found).Delivers (outputs (nextLife life late).driver.trace))
    (voting : Db.Voting (sledOps (nextLife life late).driver.trace)) :
    Lived [1] ScriptedRaft.conf allowed (nextLife life late) := by
  obtain ⟨db, found⟩ := Option.isSome_iff_exists.mp stored
  have left : (nextLife life late).found = db := by
    change life.driver.store.db?.getD .new = db
    rw [found]
    rfl
  have woken : Lived [1] ScriptedRaft.conf allowed ⟨life.origin, life.history, (nextLife life late).found,
      wokenNode (nextLife life late).found late⟩ :=
    .restart life _ _ [] lived (left ▸ found) allows (scriptedDriver_fresh _ _) rfl
  exact .perform _ _ .ready woken (Attempt.eq_ok done) (fun _ => durable) delivers voting

/-- A snapshot at index 5 covers what the first life applied. The second life applies the entry behind it. -/
def coveredLives : Life scripted := nextLife
  (firstLife { Ready.default with
    hs := some ⟨1, 0, 5⟩
    snapshot := ⟨keptData, ⟨{ voters := [1] }, 5, 1⟩⟩ })
  { Ready.default with
    hs := some ⟨1, 0, 6⟩
    entries := [scriptedPut 1 6 0 "k" "v"]
    committedEntries := [scriptedPut 1 6 0 "k" "v"] }

/-- Each put of the covered lives is written once. -/
theorem lived_steadfast_covered : coveredLives.tally.writes = [5, 6] ∧ coveredLives.tally.Steadfast := by
  refine ⟨by decide +kernel, ?_⟩
  apply lived_steadfast changed_follows scripted_steady
  apply nextLife_lived
  · exact firstLife_lived (by decide +kernel) (by decide +kernel) (by decide +kernel) (by decide +kernel)
  · decide +kernel
  · exact settled_of_covered (by decide +kernel)
  all_goals decide +kernel

/-- The first life applies two puts. The second life gets the first of them again. -/
def repeatedLives : Life scripted := nextLife
  (firstLife { Ready.default with
    hs := some ⟨1, 0, 2⟩
    entries := [scriptedPut 1 1 0 "k" "v", scriptedPut 1 2 1 "k" "w"]
    committedEntries := [scriptedPut 1 1 0 "k" "v", scriptedPut 1 2 1 "k" "w"] })
  { Ready.default with committedEntries := [scriptedPut 1 1 0 "k" "v"] }

/-- After the restart the stored applied index goes back from two to one. -/
theorem restart_reapplies :
    Lived [1] ScriptedRaft.conf (fun _ => True) repeatedLives ∧ repeatedLives.tally.writes = [1, 2, 1] ∧
      repeatedLives.applied = 1 ∧ ¬ repeatedLives.tally.Steadfast := by
  refine ⟨?_, by decide +kernel, by decide +kernel, by decide +kernel⟩
  apply nextLife_lived
  · exact firstLife_lived (by decide +kernel) (by decide +kernel) (by decide +kernel) (by decide +kernel)
  · decide +kernel
  · trivial
  all_goals decide +kernel

end Driver

end RaftATui
