import RaftATui.Library.Crash
import RaftATui.Proof.Storage.AppendOverwrite
import RaftATui.Proof.Storage.SnapshotSuffix

namespace RaftATui
open Machinery
open Machinery.Crash (Throughout)
open DiskStorage (openDb mem_iff_getEntry)

/-- A stored log has its entries under their own indices, without a gap and with ascending terms. -/
structure WellFormed (storage : DiskStorage) : Prop where
  own : ∀ key entry, storage.getEntry key = some entry → entry.index = key
  gapless : ∀ low ∈ storage.db.entriesTree, ∀ high ∈ storage.db.entriesTree, ∀ index, low ≤ index → index ≤ high →
    index ∈ storage.db.entriesTree
  ascend : TermsAscend storage

/-- The entries of a ready continue the log or overwrite its end. -/
structure ReadyEntries (storage : DiskStorage) (batch : List Entry) : Prop where
  consecutive : Consecutive (batchFirst batch) batch
  reaches : batchFirst batch ≤ storage.lastIndex + 1
  ascend : batch.Pairwise fun entry later => entry.term ≤ later.term
  continues : ∀ key entry, storage.getEntry key = some entry → key < batchFirst batch →
    ∀ next ∈ batch, entry.term ≤ next.term

/-- The log is the old one, or the old one cut at the batch with an initial part of the batch. -/
def CutLog (old : DiskStorage) (batch : List Entry) (db : Db) : Prop :=
  db.entriesTree.toList = old.db.entriesTree.toList ∨
    ∃ count, db.entriesTree.toList =
      old.db.entriesTree.toList.filter (fun pair => pair.1 < batchFirst batch) ++
        (batch.take count).map fun entry => (entry.index, entry)

/-- Behind a new entry there is nothing of the old log, and the terms ascend. -/
structure CleanRestart (old : DiskStorage) (batch : List Entry) (db : Db) : Prop where
  log : CutLog old batch db
  replaced : ∀ new ∈ batch, old.getEntry new.index ≠ some new → db.entriesTree[new.index]? = some new →
    ∀ key entry, new.index < key → db.entriesTree[key]? = some entry → entry ∈ batch
  ascend : TermsAscend (openDb db [])

/-- Behind each index that the batch changes the stored log goes on with entries of the batch. -/
def CleanTail (storage : DiskStorage) (batch : List Entry) : Prop :=
  ∀ new ∈ batch, storage.getEntry new.index ≠ some new → ∀ key ∈ storage.db.entriesTree,
    ∀ index, new.index < index → index ≤ key → ∃ same ∈ batch, storage.getEntry index = some same

section Points

variable {storage : DiskStorage} {batch : List Entry} {db : Db} {count : Nat}

/-- These are the lookups after the first inserts of a batch. -/
theorem getElem?_replay_take (consecutive : Consecutive (batchFirst batch) batch) (db : Db) (count key : Nat) :
    (db.replay ((batch.take count).map fun entry => .insertEntry entry.index entry)).entriesTree[key]? =
      if batchFirst batch ≤ key ∧ key < batchFirst batch + (batch.take count).length then
        batch[key - batchFirst batch]? else db.entriesTree[key]? := by
  rw [getElem?_replay_inserts (consecutive.take count)]
  by_cases inside : batchFirst batch ≤ key ∧ key < batchFirst batch + (batch.take count).length
  · have below : key - batchFirst batch < count := by
      have bound := inside.2
      rw [List.length_take] at bound
      omega
    rw [if_pos inside, if_pos inside, List.getElem?_take_of_lt below]
  · rw [if_neg inside, if_neg inside]

/-- A crash leaves the first inserts of the batch behind. -/
theorem throughout_append_iff {good : Db → Prop}
    (flushed : ∀ db : Db, good db → good (db.run (.flush .entriesTree))) :
    Throughout Db.run good db (DiskStorage.appendOps batch) ↔
      ∀ count, good (db.replay ((batch.take count).map fun entry => .insertEntry entry.index entry)) := by
  constructor
  · intro points count
    exact points _ (((List.take_prefix count batch).map _).trans (List.prefix_append _ _))
  · intro each
    have whole := each batch.length
    rw [List.take_length] at whole
    refine Crash.throughout_append.mpr ⟨fun done initial => ?_, ?_⟩
    · rw [List.prefix_iff_eq_take.mp initial, ← List.map_take]
      exact each done.length
    · exact Crash.throughout_cons.mpr ⟨whole, Crash.throughout_nil.mpr (flushed _ whole)⟩

/-- The terms of a batch ascend with its indices. -/
theorem ReadyEntries.term_le (ready : ReadyEntries storage batch) {entry later : Entry} (inside : entry ∈ batch)
    (laterInside : later ∈ batch) (ordered : entry.index ≤ later.index) : entry.term ≤ later.term := by
  obtain ⟨position, bound, rfl⟩ := List.mem_iff_getElem.mp inside
  obtain ⟨behind, laterBound, rfl⟩ := List.mem_iff_getElem.mp laterInside
  rw [ready.consecutive.getElem position bound, ready.consecutive.getElem behind laterBound] at ordered
  rcases Nat.lt_or_eq_of_le (by omega : position ≤ behind) with less | rfl
  · exact List.pairwise_iff_getElem.mp ready.ascend position behind bound laterBound less
  · exact Nat.le_refl _

/-- A cut log mixes no terms. -/
theorem CutLog.clean (wellFormed : WellFormed storage) (ready : ReadyEntries storage batch)
    (log : CutLog storage batch db) : CleanRestart storage batch db := by
  rcases log with same | ⟨count, cut⟩
  · have tree : db.entriesTree = storage.db.entriesTree := Std.ExtTreeMap.ext_toList (.of_eq same)
    refine ⟨Or.inl same, fun new _ changed kept => ?_, ?_⟩
    · rw [tree] at kept
      exact absurd kept changed
    · intro first second entry later found foundLater ordered
      change db.entriesTree[first]? = some entry at found
      change db.entriesTree[second]? = some later at foundLater
      rw [tree] at found foundLater
      exact wellFormed.ascend first second entry later found foundLater ordered
  · have lookups := (ready.consecutive.take count).toList_eq_cut_iff.mp cut
    refine ⟨Or.inr ⟨count, cut⟩, fun new inside _ _ key entry behind found => ?_, ?_⟩
    · have above := (ready.consecutive.mem inside).1
      rcases (lookups key entry).mp found with ⟨below, _⟩ | ⟨member, _⟩
      · omega
      · exact List.mem_of_mem_take member
    · intro first second entry later found foundLater ordered
      rcases (lookups first entry).mp found with ⟨below, stored⟩ | ⟨member, rfl⟩
      · rcases (lookups second later).mp foundLater with ⟨_, laterStored⟩ | ⟨laterMember, rfl⟩
        · exact wellFormed.ascend first second entry later stored laterStored ordered
        · exact ready.continues first entry stored below later (List.mem_of_mem_take laterMember)
      · have above := (ready.consecutive.mem (List.mem_of_mem_take member)).1
        rcases (lookups second later).mp foundLater with ⟨below, _⟩ | ⟨laterMember, rfl⟩
        · omega
        · exact ready.term_le (List.mem_of_mem_take member) (List.mem_of_mem_take laterMember) ordered

/-- The initial parts of a batch are given by their indices. -/
theorem Consecutive.mem_take_iff {first key : Nat} {entry : Entry} (consecutive : Consecutive first batch) :
    (entry ∈ batch.take count ∧ entry.index = key) ↔
      first ≤ key ∧ key < first + count ∧ batch[key - first]? = some entry := by
  constructor
  · rintro ⟨inside, rfl⟩
    obtain ⟨above, below, place⟩ := (consecutive.take count).mem inside
    have short := List.length_take_le count batch
    rw [List.getElem?_take_of_lt (by omega)] at place
    exact ⟨above, by omega, place⟩
  · rintro ⟨above, below, place⟩
    have part : (batch.take count)[key - first]? = some entry := by
      rw [List.getElem?_take_of_lt (by omega), place]
    obtain ⟨bound, same⟩ := List.getElem?_eq_some_iff.mp place
    have index := consecutive.getElem _ bound
    rw [same] at index
    exact ⟨List.mem_of_getElem? part, by omega⟩

/-- Inserts of what is stored already change nothing. -/
theorem replay_take_unchanged (consecutive : Consecutive (batchFirst batch) batch)
    (same : ∀ new ∈ batch.take count, storage.getEntry new.index = some new) :
    (storage.db.replay ((batch.take count).map fun entry => .insertEntry entry.index entry)).entriesTree =
      storage.db.entriesTree := by
  apply Std.ExtTreeMap.ext_getElem?
  intro key
  rw [getElem?_replay_inserts (consecutive.take count)]
  by_cases inside : batchFirst batch ≤ key ∧ key < batchFirst batch + (batch.take count).length
  · have place := (consecutive.take count).getElem (key - batchFirst batch) (by omega)
    have stored := same _ (List.getElem_mem (by omega : key - batchFirst batch < (batch.take count).length))
    rw [place, show batchFirst batch + (key - batchFirst batch) = key by omega] at stored
    rw [if_pos inside, List.getElem?_eq_getElem (by omega)]
    exact stored.symm
  · rw [if_neg inside]

/-- Behind a change the old log holds the batch up to each of its keys. -/
theorem CleanTail.getEntry_behind (wellFormed : WellFormed storage) (ready : ReadyEntries storage batch)
    (tail : CleanTail storage batch) {new : Entry} (member : new ∈ batch)
    (changed : storage.getEntry new.index ≠ some new) {last key : Nat} (stored : last ∈ storage.db.entriesTree)
    (behind : new.index < key) (below : key ≤ last) : storage.getEntry key = batch[key - batchFirst batch]? := by
  obtain ⟨same, listed, found⟩ := tail new member changed last stored key behind below
  have index := wellFormed.own key same found
  rw [found, ← (ready.consecutive.mem listed).2.2, index]

/-- With a clean tail each part of the inserts cuts the log. -/
theorem CleanTail.cutLog (wellFormed : WellFormed storage) (ready : ReadyEntries storage batch)
    (tail : CleanTail storage batch) (count : Nat) :
    CutLog storage batch
      (storage.db.replay ((batch.take count).map fun entry => .insertEntry entry.index entry)) := by
  have lookup := getElem?_replay_take ready.consecutive storage.db count
  have unchanged := @replay_take_unchanged storage batch count ready.consecutive
  generalize storage.db.replay ((batch.take count).map fun entry => .insertEntry entry.index entry) = later
    at lookup unchanged ⊢
  have short := List.length_take_le count batch
  by_cases changes : ∃ new ∈ batch.take count, storage.getEntry new.index ≠ some new
  · right
    obtain ⟨new, inside, changed⟩ := changes
    obtain ⟨begins, ends, place⟩ := (ready.consecutive.take count).mem inside
    have member := List.mem_of_mem_take inside
    -- The cut ends with the greatest key that the inserts left.
    have stored : new.index ∈ (openDb later []).db.entriesTree := by
      rw [mem_iff_getEntry]
      refine ⟨new, (lookup new.index).trans ?_⟩
      rw [if_pos ⟨begins, ends⟩]
      exact (ready.consecutive.mem member).2.2
    obtain ⟨final, greatest⟩ := (DiskStorage.lastIndex_cases (openDb later [])).resolve_right
      fun empty => empty _ stored
    generalize (openDb later []).lastIndex = last at final greatest
    have reached := greatest _ stored
    -- Behind the inserts the old log holds the batch up to this key.
    have kept (key : Nat) (behind : batchFirst batch + (batch.take count).length ≤ key) (below : key ≤ last) :
        storage.getEntry key = batch[key - batchFirst batch]? := by
      have old : last ∈ storage.db.entriesTree := by
        obtain ⟨entry, found⟩ := mem_iff_getEntry.mp final
        have read := lookup last
        rw [if_neg (by omega)] at read
        exact mem_iff_getEntry.mpr ⟨entry, read.symm.trans found⟩
      exact tail.getEntry_behind wellFormed ready member changed old (by omega) below
    refine ⟨last + 1 - batchFirst batch, (ready.consecutive.take _).toList_eq_cut_iff.mpr fun key entry => ?_⟩
    rw [ready.consecutive.mem_take_iff]
    have bounded (found : later.entriesTree[key]? = some entry) : key ≤ last :=
      greatest key (mem_iff_getEntry.mpr ⟨entry, found⟩)
    constructor
    · intro found
      have below := bounded found
      rw [lookup] at found
      by_cases covered : batchFirst batch ≤ key ∧ key < batchFirst batch + (batch.take count).length
      · rw [if_pos covered] at found
        exact Or.inr ⟨covered.1, by omega, found⟩
      · rw [if_neg covered] at found
        rcases Nat.lt_or_ge key (batchFirst batch) with before | above
        · exact Or.inl ⟨before, found⟩
        · exact Or.inr ⟨above, by omega, (kept key (by omega) below).symm.trans found⟩
    · rw [lookup]
      rintro (⟨before, found⟩ | ⟨above, below, found⟩)
      · rw [if_neg (by omega)]
        exact found
      · by_cases covered : batchFirst batch ≤ key ∧ key < batchFirst batch + (batch.take count).length
        · rw [if_pos covered, found]
        · rw [if_neg covered]
          exact (kept key (by omega) (by omega)).trans found
  · left
    rw [unchanged fun new inside => by_contra fun changed => changes ⟨new, inside, changed⟩]

/-- When each part of the inserts cuts the log, the tail is clean. -/
theorem cleanTail_of_cutLog (ready : ReadyEntries storage batch)
    (points : ∀ count, CutLog storage batch
      (storage.db.replay ((batch.take count).map fun entry => .insertEntry entry.index entry))) :
    CleanTail storage batch := by
  intro new inside changed key stored index behind below
  obtain ⟨begins, ends, place⟩ := ready.consecutive.mem inside
  -- The crash is right behind the insert of the new entry.
  have point := points (new.index - batchFirst batch + 1)
  have lookup := getElem?_replay_take ready.consecutive storage.db (new.index - batchFirst batch + 1)
  have width : (batch.take (new.index - batchFirst batch + 1)).length = new.index - batchFirst batch + 1 := by
    rw [List.length_take]
    omega
  rw [width] at lookup
  rcases point with same | ⟨count, cut⟩
  · have tree := Std.ExtTreeMap.ext_toList (.of_eq same)
    have written := lookup new.index
    rw [tree, if_pos ⟨begins, by omega⟩, place] at written
    exact absurd written changed
  · have lookups := (ready.consecutive.take count).toList_eq_cut_iff.mp cut
    obtain ⟨old, found⟩ := mem_iff_getEntry.mp stored
    have kept := lookup key
    rw [if_neg (by omega)] at kept
    rcases (lookups key old).mp (kept.trans found) with ⟨before, _⟩ | listed
    · omega
    · obtain ⟨_, reached, last⟩ := ready.consecutive.mem_take_iff.mp listed
      obtain ⟨bound, _⟩ := List.getElem?_eq_some_iff.mp last
      have inner : batch[index - batchFirst batch]? = some batch[index - batchFirst batch] :=
        List.getElem?_eq_getElem (by omega)
      have cutIndex := (lookups index _).mpr (Or.inr (ready.consecutive.mem_take_iff.mpr
        ⟨by omega, by omega, inner⟩))
      rw [lookup, if_neg (by omega)] at cutIndex
      exact ⟨_, List.mem_of_getElem? inner, cutIndex⟩

end Points

/-- Each crash point of an append is clean exactly when the tail of the log is. -/
theorem append_throughout_iff {storage : DiskStorage} {batch : List Entry} (wellFormed : WellFormed storage)
    (ready : ReadyEntries storage batch) :
    Throughout Db.run (CleanRestart storage batch) storage.db (DiskStorage.appendOps batch) ↔
      CleanTail storage batch := by
  rw [throughout_append_iff fun db clean => clean]
  constructor
  · exact fun points => cleanTail_of_cutLog ready fun count => (points count).log
  · exact fun tail count => (tail.cutLog wellFormed ready count).clean wellFormed ready

/-- The example stores the entries 1 to 3. -/
theorem threeEntries_getEntry {key : Nat} {entry : Entry} :
    threeEntries.getEntry key = some entry ↔ (1 ≤ key ∧ key ≤ 3) ∧ entry = plainEntry 1 key := by
  have batch : Consecutive 1 [plainEntry 1 1, plainEntry 1 2, plainEntry 1 3] := by decide
  have lookup : threeEntries.getEntry key = if 1 ≤ key ∧ key < 1 + 3 then _ else none :=
    DiskStorage.append_getEntry batch (rfl : DiskStorage.append _ (openDb Db.new []) = (.ok (), threeEntries)) key
  rw [lookup]
  by_cases inside : 1 ≤ key ∧ key < 1 + 3
  · have place : key = 1 ∨ key = 2 ∨ key = 3 := by omega
    rw [if_pos inside]
    rcases place with rfl | rfl | rfl
    all_goals
      refine ⟨fun found => ⟨by decide, (Option.some.inj found).symm⟩, fun ⟨_, same⟩ => ?_⟩
      rw [same]
      rfl
  · rw [if_neg inside]
    constructor
    · intro found
      cases found
    · rintro ⟨bounds, _⟩
      omega

/-- The example is well formed. -/
theorem threeEntries_wellFormed : WellFormed threeEntries where
  own key entry found := by
    rw [(threeEntries_getEntry.mp found).2]
    rfl
  gapless low lowStored high highStored index above below := by
    obtain ⟨_, found⟩ := mem_iff_getEntry.mp lowStored
    obtain ⟨_, foundHigh⟩ := mem_iff_getEntry.mp highStored
    have bounds := (threeEntries_getEntry.mp found).1
    have boundsHigh := (threeEntries_getEntry.mp foundHigh).1
    exact mem_iff_getEntry.mpr ⟨_, threeEntries_getEntry.mpr ⟨⟨by omega, by omega⟩, rfl⟩⟩
  ascend first second entry later found foundLater _ := by
    rw [(threeEntries_getEntry.mp found).2, (threeEntries_getEntry.mp foundLater).2]
    exact Nat.le_refl 1

/-- These are entries of a new leader from an index of the stored log on. -/
theorem readyEntries_three {first : Nat} (inside : 1 ≤ first ∧ first ≤ 3) :
    ReadyEntries threeEntries [plainEntry 2 first, plainEntry 2 (first + 1)] where
  consecutive := ⟨rfl, rfl, trivial⟩
  reaches := by
    have last : threeEntries.lastIndex = 3 := by decide
    rw [last]
    show first ≤ 4
    omega
  ascend := by simp [plainEntry]
  continues key entry found _ next listed := by
    rw [(threeEntries_getEntry.mp found).2]
    have term : next.term = 2 := by
      rcases List.mem_cons.mp listed with rfl | other
      · rfl
      · rw [List.mem_singleton.mp other]
        rfl
    rw [term]
    show 1 ≤ 2
    omega

/-- A batch that changes the last entry only is clean at each crash point. -/
theorem append_throughout_last :
    Throughout Db.run (CleanRestart threeEntries [plainEntry 2 3, plainEntry 2 4]) threeEntries.db
      (DiskStorage.appendOps [plainEntry 2 3, plainEntry 2 4]) := by
  apply (append_throughout_iff threeEntries_wellFormed (readyEntries_three (by omega))).mpr
  intro new inside _ key stored index behind below
  obtain ⟨_, found⟩ := mem_iff_getEntry.mp stored
  have bounds := (threeEntries_getEntry.mp found).1
  have above : 3 ≤ new.index := ((readyEntries_three (by omega : 1 ≤ 3 ∧ 3 ≤ 3)).consecutive.mem inside).1
  omega

/-- After one of two inserts an entry of the old term follows one of the new term. -/
theorem append_crash_mixes :
    WellFormed threeEntries ∧ ReadyEntries threeEntries [plainEntry 2 2, plainEntry 2 3] ∧
      (openDb (threeEntries.db.replay [.insertEntry 2 (plainEntry 2 2)]) []).term 2 = .ok 2 ∧
      (openDb (threeEntries.db.replay [.insertEntry 2 (plainEntry 2 2)]) []).term 3 = .ok 1 ∧
      ¬ Throughout Db.run (CleanRestart threeEntries [plainEntry 2 2, plainEntry 2 3]) threeEntries.db
        (DiskStorage.appendOps [plainEntry 2 2, plainEntry 2 3]) := by
  refine ⟨threeEntries_wellFormed, readyEntries_three (by omega), by decide, by decide, fun points => ?_⟩
  have point := points [.insertEntry 2 (plainEntry 2 2)] ⟨_, rfl⟩
  have descends := point.ascend 2 3 (plainEntry 2 2) (plainEntry 1 3) (by decide) (by decide) (by omega)
  exact absurd descends (by decide)

end RaftATui
