import RaftATui.Construction.SledStorage
import RaftATui.Library.Agreement
import RaftATui.Proof.Snapshot.Format
import RaftATui.Proof.Storage.FailedWrites
import RaftATui.Proof.Storage.KeyOrder

namespace RaftATui
open Machinery
open Machinery.Attempt (Agree)
open Protobuf (utf8)

def RecordCodec.Reads {Record : Type} (codec : RecordCodec Record) (bytes : Bytes) (record : Record) : Prop :=
  codec.decode bytes = .ok record

/-- The codec reads back what it writes for this record. -/
def RecordCodec.Keeps {Record : Type} (codec : RecordCodec Record) (record : Record) : Prop :=
  ∃ bytes, codec.encode record = .ok bytes ∧ codec.Reads bytes record

def ReadsIndex (bytes : Bytes) (index : Nat) : Prop := (Bincode.decodeLen bytes).1 = .ok index

/-- An index is read back from the bytes of its length. -/
theorem readsIndex_encodeLen {index : Nat} (fits : index < UInt64.size) : ReadsIndex (Bincode.encodeLen index) index := by
  have done := (Bincode.decodeLen_reads (Bincode.encodeLen index) index []).mpr
    ⟨_, Bincode.encodeLen_spells fits, (List.append_nil _).symm⟩
  exact congrArg Prod.fst done

/-- Each value on disk decodes to the record under its key. -/
structure Represents (codecs : RecordCodecs) (trees : SledTrees) (db : Db) : Prop where
  hardstate : Option.Rel codecs.hardState.Reads trees.metaTree[utf8 "hardstate"]? db.metaTree.hardstate
  confstate : Option.Rel codecs.confState.Reads trees.metaTree[utf8 "confstate"]? db.metaTree.confstate
  appliedIndex : Option.Rel ReadsIndex trees.metaTree[utf8 "applied_index"]? db.metaTree.appliedIndex
  entry : ∀ index : UInt64,
    Option.Rel codecs.entry.Reads trees.entriesTree.tree[indexToKey index]? db.entriesTree[index.toNat]?
  bounded : ∀ number, UInt64.size ≤ number → db.entriesTree[number]? = none
  snapshot : Option.Rel codecs.snapshot.Reads trees.snapshotsTree[utf8 "latest"]? db.snapshotsTree
  addable : ∀ snapshot, db.snapshotsTree = some snapshot → snapshot.metadata.index + 1 < UInt64.size

/-- The call on bytes does what the call on records does. -/
inductive Encodes (codecs : RecordCodecs) : TreeCall → SledOp → Prop
  | hardstate {value : Bytes} {hs : HardState} (reads : codecs.hardState.Reads value hs) :
      Encodes codecs (.insertMeta (utf8 "hardstate") value) (.insertHardstate hs)
  | confstate {value : Bytes} {cs : ConfState} (reads : codecs.confState.Reads value cs) :
      Encodes codecs (.insertMeta (utf8 "confstate") value) (.insertConfstate cs)
  | appliedIndex {value : Bytes} {index : Nat} (reads : ReadsIndex value index) :
      Encodes codecs (.insertMeta (utf8 "applied_index") value) (.insertAppliedIndex index)
  | entry {value : Bytes} {entry : Entry} (index : UInt64) (reads : codecs.entry.Reads value entry) :
      Encodes codecs (.insertEntry index value) (.insertEntry index.toNat entry)
  | remove (index : UInt64) : Encodes codecs (.removeEntry (indexToKey index)) (.removeEntry index.toNat)
  | snapshot {value : Bytes} {snapshot : Snapshot} (reads : codecs.snapshot.Reads value snapshot)
      (addable : snapshot.metadata.index + 1 < UInt64.size) :
      Encodes codecs (.insertSnapshot (utf8 "latest") value) (.insertSnapshot snapshot)
  | iterNext : Encodes codecs .iterNext .iterNext
  | flush (tree : TreeName) : Encodes codecs (.flush tree) (.flush tree)

section Run

variable {codecs : RecordCodecs} {trees : SledTrees} {db : Db} {raw : TreeCall} {op : SledOp}

/-- Empty trees represent a new directory. -/
theorem represents_new (codecs : RecordCodecs) : Represents codecs .new .new where
  hardstate := .none
  confstate := .none
  appliedIndex := .none
  entry _ := .none
  bounded _ _ := rfl
  snapshot := .none
  addable _ stored := by cases stored

/-- A written value is read under its own key only. -/
theorem getElem?_insert_other {tree : SledTree} {key query : Bytes} (distinct : key ≠ query) (value : Bytes) :
    (tree.insert key value)[query]? = tree[query]? :=
  (OrderedTree.getElem?_insert key query value).trans (if_neg distinct)

/-- An inserted value is found under its key. -/
theorem getElem?_insert_own (tree : SledTree) (key value : Bytes) : (tree.insert key value)[key]? = some value :=
  (OrderedTree.getElem?_insert key key value).trans (if_pos rfl)

/-- A tree call represents its sled call. -/
theorem Represents.run (represents : Represents codecs trees db) (writes : Encodes codecs raw op) :
    Represents codecs (trees.run raw) (db.run op) := by
  have conf : utf8 "confstate" ≠ utf8 "hardstate" := by decide
  have applied : utf8 "applied_index" ≠ utf8 "hardstate" := by decide
  have other : utf8 "applied_index" ≠ utf8 "confstate" := by decide
  cases writes with
  | hardstate reads =>
      refine { represents with hardstate := ?_, confstate := ?_, appliedIndex := ?_ }
      · exact (getElem?_insert_own _ _ _).symm ▸ .some reads
      · exact (getElem?_insert_other conf.symm _).symm ▸ represents.confstate
      · exact (getElem?_insert_other applied.symm _).symm ▸ represents.appliedIndex
  | confstate reads =>
      refine { represents with hardstate := ?_, confstate := ?_, appliedIndex := ?_ }
      · exact (getElem?_insert_other conf _).symm ▸ represents.hardstate
      · exact (getElem?_insert_own _ _ _).symm ▸ .some reads
      · exact (getElem?_insert_other other.symm _).symm ▸ represents.appliedIndex
  | appliedIndex reads =>
      refine { represents with hardstate := ?_, confstate := ?_, appliedIndex := ?_ }
      · exact (getElem?_insert_other applied _).symm ▸ represents.hardstate
      · exact (getElem?_insert_other other _).symm ▸ represents.confstate
      · exact (getElem?_insert_own _ _ _).symm ▸ .some reads
  | snapshot reads addable =>
      refine { represents with snapshot := ?_, addable := fun stored same => ?_ }
      · exact (getElem?_insert_own _ _ _).symm ▸ .some reads
      · obtain rfl := Option.some.inj same
        exact addable
  | iterNext => exact represents
  | flush tree => exact represents
  | entry index reads =>
      refine { represents with entry := fun query => ?_, bounded := fun number large => ?_ }
      · change Option.Rel _ ((trees.entriesTree.tree.insert (indexToKey index) _)[indexToKey query]?)
          ((db.entriesTree.insert index.toNat _)[query.toNat]?)
        rw [OrderedTree.getElem?_insert, OrderedTree.getElem?_insert]
        by_cases same : index = query
        · rw [if_pos (congrArg indexToKey same), if_pos (congrArg UInt64.toNat same)]
          exact .some reads
        · rw [if_neg fun keys => same (indexToKey_injective keys), if_neg fun numbers => same (UInt64.toNat_inj.mp numbers)]
          exact represents.entry query
      · have small := index.toNat_lt_size
        exact (OrderedTree.getElem?_insert _ _ _).trans ((if_neg (by omega)).trans (represents.bounded number large))
  | remove index =>
      refine { represents with entry := fun query => ?_, bounded := fun number large => ?_ }
      · change Option.Rel _ ((trees.entriesTree.tree.erase (indexToKey index))[indexToKey query]?)
          ((db.entriesTree.erase index.toNat)[query.toNat]?)
        rw [OrderedTree.getElem?_erase, OrderedTree.getElem?_erase]
        by_cases same : index = query
        · rw [if_pos (congrArg indexToKey same), if_pos (congrArg UInt64.toNat same)]
          exact .none
        · rw [if_neg fun keys => same (indexToKey_injective keys), if_neg fun numbers => same (UInt64.toNat_inj.mp numbers)]
          exact represents.entry query
      · refine (OrderedTree.getElem?_erase _ _).trans ?_
        rw [represents.bounded number large, ite_self]

/-- A list of tree calls represents its script. -/
theorem Represents.foldl (represents : Represents codecs trees db) {calls : List TreeCall} {ops : List SledOp}
    (writes : List.Forall₂ (Encodes codecs) calls ops) :
    Represents codecs (calls.foldl SledTrees.run trees) (db.replay ops) := by
  induction writes generalizing trees db with
  | nil => exact represents
  | cons write _ ih => exact ih (represents.run write)

end Run

section Keys

variable {codecs : RecordCodecs} {trees : SledTrees} {db : Db}

/-- A key is stored exactly when its index is. -/
theorem Represents.mem_iff (represents : Represents codecs trees db) (index : UInt64) :
    indexToKey index ∈ trees.entriesTree.tree ↔ index.toNat ∈ db.entriesTree := by
  rw [Std.ExtTreeMap.mem_iff_isSome_getElem?, Std.ExtTreeMap.mem_iff_isSome_getElem?]
  have related := represents.entry index
  generalize trees.entriesTree.tree[indexToKey index]? = bytes at related
  generalize db.entriesTree[index.toNat]? = stored at related
  cases related <;> rfl

/-- A stored index is below 2^64. -/
theorem Represents.small (represents : Represents codecs trees db) {number : Nat} (stored : number ∈ db.entriesTree) :
    number < UInt64.size := by
  by_contra large
  exact OrderedTree.not_mem_iff_getElem?.mpr (represents.bounded number (Nat.not_lt.mp large)) stored

def numberKey (number : Nat) : Bytes := indexToKey (UInt64.ofNat number)

/-- An index is read back from its key. -/
theorem keyIndex_numberKey {number : Nat} (small : number < UInt64.size) :
    SledStorage.keyIndex (numberKey number) = some number := by
  rw [SledStorage.keyIndex, numberKey, keyToIndex_indexToKey, Option.map_some, UInt64.toNat_ofNat_of_lt' small]

/-- The byte keys are listed in the order of their numbers. -/
theorem Represents.keys (represents : Represents codecs trees db) :
    trees.entriesTree.tree.keys = db.entriesTree.keys.map numberKey := by
  have irreflexive : Std.Irrefl fun first second : Bytes => first < second := ⟨List.lt_irrefl⟩
  have antisymmetric : Std.Antisymm fun first second : Bytes => first < second :=
    ⟨fun _ _ forward backward => absurd forward (List.lt_asymm backward)⟩
  have ascending : trees.entriesTree.tree.keys.Pairwise (· < ·) :=
    Std.ExtTreeMap.ordered_keys.imp (Framing.compare_eq_lt_iff_lt _ _).mp
  refine List.Pairwise.eq_of_mem_iff ascending (List.pairwise_map.mpr ?_) fun key => ?_
  · refine List.Pairwise.imp_of_mem (fun first second less => ?_) (@OrderedTree.keys_pairwise _ _ _ db.entriesTree)
    rw [numberKey, numberKey, indexToKey_lt_iff, UInt64.lt_iff_toNat_lt,
      UInt64.toNat_ofNat_of_lt' (represents.small (Std.ExtTreeMap.mem_keys.mp first)),
      UInt64.toNat_ofNat_of_lt' (represents.small (Std.ExtTreeMap.mem_keys.mp second))]
    exact less
  · rw [Std.ExtTreeMap.mem_keys, List.mem_map]
    constructor
    · intro stored
      have written := indexToKey_of_length (trees.entriesTree.keyed key stored)
      rw [← written, represents.mem_iff] at stored
      refine ⟨_, Std.ExtTreeMap.mem_keys.mpr stored, ?_⟩
      rw [numberKey, UInt64.ofNat_toNat, written]
    · rintro ⟨number, listed, rfl⟩
      have stored := Std.ExtTreeMap.mem_keys.mp listed
      rw [numberKey, represents.mem_iff, UInt64.toNat_ofNat_of_lt' (represents.small stored)]
      exact stored

/-- A listed byte key decodes to its number. -/
theorem Represents.keyIndex (represents : Represents codecs trees db) {number : Option Nat}
    (listed : ∀ key ∈ number, key ∈ db.entriesTree.keys) :
    (number.map numberKey).bind SledStorage.keyIndex = number := by
  cases number with
  | none => rfl
  | some number => exact keyIndex_numberKey (represents.small (Std.ExtTreeMap.mem_keys.mp (listed number rfl)))

end Keys

/-- Both storages have the same failures to come and have completed the same calls. -/
structure Shadows (codecs : RecordCodecs) (raw : SledStorage) (disk : DiskStorage) : Prop where
  represents : Represents codecs raw.trees disk.db
  appliedIndex : raw.appliedIndex = disk.appliedIndex
  faults : raw.faults = disk.faults
  journal : List.Forall₂ (Encodes codecs) raw.journal disk.journal

namespace SledStorage

variable {codecs : RecordCodecs} {op : SledOp}

/-- A tree call agrees with its sled call, also where it fails. -/
theorem call_agrees {first : TreeCall} (writes : Encodes codecs first op) :
    Agree (Shadows codecs) (call first) (DiskStorage.sled op) := by
  intro raw disk shadows
  rw [call, DiskStorage.sled, shadows.faults]
  split
  · exact ⟨rfl, shadows.represents, shadows.appliedIndex, rfl, shadows.journal⟩
  · exact ⟨rfl, shadows.represents.run writes, shadows.appliedIndex, rfl,
      List.rel_append shadows.journal (.cons writes .nil)⟩

/-- A kept record is encoded to bytes that read back. -/
theorem encodeProto_keeps {Record : Type} {codec : RecordCodec Record} {record : Record} (keeps : codec.Keeps record) :
    ∃ bytes, encodeProto codec record = pure bytes ∧ codec.Reads bytes record := by
  obtain ⟨bytes, written, reads⟩ := keeps
  exact ⟨bytes, by rw [encodeProto, written], reads⟩

/-- A record is encoded and then written under its key. -/
theorem write_agrees {Record : Type} {codec : RecordCodec Record} {record : Record} (keeps : codec.Keeps record)
    {make : Bytes → TreeCall} (writes : ∀ bytes, codec.Reads bytes record → Encodes codecs (make bytes) op) :
    Agree (Shadows codecs) (encodeProto codec record >>= fun bytes => call (make bytes)) (DiskStorage.sled op) := by
  obtain ⟨bytes, encoded, reads⟩ := encodeProto_keeps keeps
  rw [encoded, Attempt.pure_bind]
  exact call_agrees (writes bytes reads)

/-- A flush agrees with its sled call. -/
theorem flush_agrees (tree : TreeName) : Agree (Shadows codecs) (call (.flush tree)) (DiskStorage.sled (.flush tree)) :=
  call_agrees (.flush tree)

/-- The stored index agrees over bytes and over records. -/
theorem setAppliedIndex_agrees {index : Nat} (fits : index < UInt64.size) :
    Agree (Shadows codecs) (setAppliedIndex index) (DiskStorage.setAppliedIndex index) := by
  refine (Agree.modify fun raw disk shadows => ?_).bind fun _ => ?_
  · exact { shadows with appliedIndex := rfl }
  · exact (call_agrees (.appliedIndex (readsIndex_encodeLen fits))).bind fun _ => flush_agrees .metaTree

/-- An append agrees over bytes and over records. -/
theorem append_agrees {entries : List Entry}
    (keeps : ∀ entry ∈ entries, entry.index < UInt64.size ∧ codecs.entry.Keeps entry) :
    Agree (Shadows codecs) (append codecs entries) (DiskStorage.append entries) := by
  refine (Agree.forEach entries fun entry inside => ?_).bind fun _ => flush_agrees .entriesTree
  obtain ⟨small, kept⟩ := keeps entry inside
  refine write_agrees kept fun bytes reads => ?_
  have writes := @Encodes.entry codecs bytes entry (UInt64.ofNat entry.index) reads
  rw [UInt64.toNat_ofNat_of_lt' small] at writes
  exact writes

/-- A stored hard state agrees over bytes and over records. -/
theorem setHardstate_agrees {hs : HardState} (keeps : codecs.hardState.Keeps hs) :
    Agree (Shadows codecs) (setHardstate codecs hs) (DiskStorage.setHardstate hs) := by
  obtain ⟨bytes, encoded, reads⟩ := encodeProto_keeps keeps
  rw [setHardstate, encoded, Attempt.pure_bind]
  exact (call_agrees (.hardstate reads)).bind fun _ => flush_agrees .metaTree

/-- A stored configuration agrees over bytes and over records. -/
theorem setConfState_agrees {cs : ConfState} (keeps : codecs.confState.Keeps cs) :
    Agree (Shadows codecs) (setConfState codecs cs) (DiskStorage.setConfState cs) := by
  obtain ⟨bytes, encoded, reads⟩ := encodeProto_keeps keeps
  rw [setConfState, encoded, Attempt.pure_bind]
  exact (call_agrees (.confstate reads)).bind fun _ => flush_agrees .metaTree

/-- The byte keys up to an index are the keys of the numbers up to it. -/
theorem filter_keys {raw : SledStorage} {disk : DiskStorage} (shadows : Shadows codecs raw disk) (index : Nat) :
    raw.trees.entriesTree.tree.keys.filter (fun key => (keyIndex key).any (· ≤ index)) =
      (disk.db.entriesTree.keys.filter (· ≤ index)).map numberKey := by
  rw [shadows.represents.keys, List.filter_map]
  refine congrArg _ (List.filter_congr fun number listed => ?_)
  have small := shadows.represents.small (Std.ExtTreeMap.mem_keys.mp listed)
  rw [Function.comp_apply, keyIndex_numberKey small, Option.any_some]

/-- The loops over the keys and over the numbers remove the same entries. -/
theorem removal_agrees (index : Nat) {rest : Attempt SledStorage RaftError Unit}
    {later : Attempt DiskStorage RaftError Unit} (continues : Agree (Shadows codecs) rest later) :
    Agree (Shadows codecs)
      (keysUpTo index >>= fun toRemove => Attempt.forEach (fun key => call (.removeEntry key)) toRemove >>= fun _ => rest)
      (DiskStorage.keysUpTo index >>= fun toRemove =>
        Attempt.forEach (fun key => DiskStorage.sled (.removeEntry key)) toRemove >>= fun _ => later) := by
  rw [keysUpTo, DiskStorage.keysUpTo, Attempt.bind_assoc, Attempt.bind_assoc]
  refine Agree.get_bind fun raw disk shadows => ?_
  have loops : Agree (Shadows codecs)
      (Attempt.forEach (fun _ => call .iterNext) (disk.db.entriesTree.keys.map numberKey) >>= fun _ =>
        Attempt.forEach (fun key => call (.removeEntry key))
          ((disk.db.entriesTree.keys.filter (· ≤ index)).map numberKey) >>= fun _ => rest)
      (Attempt.forEach (fun _ => DiskStorage.sled .iterNext) disk.db.entriesTree.keys >>= fun _ =>
        Attempt.forEach (fun key => DiskStorage.sled (.removeEntry key))
          (disk.db.entriesTree.keys.filter (· ≤ index)) >>= fun _ => later) := by
    rw [Attempt.forEach_map, Attempt.forEach_map]
    refine (Agree.forEach _ fun _ _ => call_agrees .iterNext).bind fun _ => ?_
    refine (Agree.forEach _ fun number inside => ?_).bind fun _ => continues
    have small := shadows.represents.small (Std.ExtTreeMap.mem_keys.mp (List.mem_of_mem_filter inside))
    have writes := @Encodes.remove codecs (UInt64.ofNat number)
    rw [UInt64.toNat_ofNat_of_lt' small] at writes
    exact call_agrees writes
  rw [← shadows.represents.keys, ← filter_keys shadows] at loops
  rw [Attempt.bind_assoc, Attempt.bind_assoc]
  exact loops

/-- A compact agrees over bytes and over records. -/
theorem compact_agrees (compactIndex : Nat) :
    Agree (Shadows codecs) (compact compactIndex) (DiskStorage.compact compactIndex) :=
  removal_agrees compactIndex (flush_agrees .entriesTree)

/-- An installed snapshot agrees over bytes and over records. -/
theorem applySnapshot_agrees {snapshot : Snapshot} (addable : snapshot.metadata.index + 1 < UInt64.size)
    (keeps : codecs.snapshot.Keeps snapshot) (conf : codecs.confState.Keeps snapshot.metadata.confState) :
    Agree (Shadows codecs) (applySnapshot codecs snapshot) (DiskStorage.applySnapshot snapshot) := by
  obtain ⟨bytes, encoded, reads⟩ := encodeProto_keeps keeps
  obtain ⟨confBytes, confEncoded, confReads⟩ := encodeProto_keeps conf
  rw [applySnapshot, DiskStorage.applySnapshot, encoded, confEncoded, Attempt.pure_bind]
  refine (call_agrees (.snapshot reads addable)).bind fun _ => ?_
  rw [Attempt.pure_bind]
  refine (call_agrees (.confstate confReads)).bind fun _ => ?_
  refine removal_agrees snapshot.metadata.index ?_
  refine (flush_agrees .snapshotsTree).bind fun _ => ?_
  exact (flush_agrees .metaTree).bind fun _ => flush_agrees .entriesTree

end SledStorage

namespace SledStorage

variable {codecs : RecordCodecs} {encodedLen : Entry → Nat} {raw : SledStorage} {disk : DiskStorage}

/-- Represented bytes decode to their record. -/
theorem decodeProto_eq {Record : Type} {codec : RecordCodec Record} {bytes : Option Bytes} {record : Option Record}
    (related : Option.Rel codec.Reads bytes record) : decodeProto codec bytes = .ok record := by
  cases related with
  | none => rfl
  | some reads =>
      change codec.decode _ = _ at reads
      rw [decodeProto, reads]

/-- The snapshot is read back from its bytes. -/
theorem getLatestSnapshot_eq (represents : Represents codecs raw.trees disk.db) :
    raw.getLatestSnapshot codecs = .ok disk.getLatestSnapshot :=
  decodeProto_eq represents.snapshot

/-- An entry is read back from its bytes. -/
theorem getEntry_eq (represents : Represents codecs raw.trees disk.db) {index : Nat} (small : index < UInt64.size) :
    raw.getEntry codecs index = .ok (disk.getEntry index) := by
  have related := represents.entry (UInt64.ofNat index)
  rw [UInt64.toNat_ofNat_of_lt' small] at related
  exact decodeProto_eq related

/-- The loop reads the same entries as long as its indices have eight bytes. -/
theorem entriesLoop_eq (represents : Represents codecs raw.trees disk.db) (maxSize : Nat)
    {count index : Nat} (totalSize : Nat) (entries : List Entry) (fits : index + count ≤ UInt64.size) :
    entriesLoop codecs encodedLen raw maxSize count index totalSize entries =
      disk.entriesLoop encodedLen maxSize count index totalSize entries := by
  induction count generalizing index totalSize entries with
  | zero => rfl
  | succ count ih =>
      rw [entriesLoop, DiskStorage.entriesLoop, getEntry_eq represents (by omega), getLatestSnapshot_eq represents]
      cases disk.getEntry index with
      | some entry =>
          dsimp only
          rw [ih _ _ (by omega)]
      | none => cases disk.getLatestSnapshot <;> rfl

/-- A term is read back from the bytes of its entry. -/
theorem term_eq (represents : Represents codecs raw.trees disk.db) {index : Nat} (small : index < UInt64.size) :
    raw.term codecs index = disk.term index := by
  rw [term, DiskStorage.term, term.stored, DiskStorage.term.stored, getEntry_eq represents small,
    getLatestSnapshot_eq represents]
  cases disk.getEntry index <;> cases disk.getLatestSnapshot <;> rfl

/-- The index behind a stored snapshot fits, so the first index is read and is the begin of the log. -/
theorem firstIndex_eq (represents : Represents codecs raw.trees disk.db) (build : Build) :
    raw.firstIndex codecs build = some (.ok disk.logStart) ∧ disk.firstIndex build = some disk.logStart := by
  have begins : disk.firstIndex build = some disk.logStart := DiskStorage.firstIndex_eq_iff.mpr represents.addable
  refine ⟨?_, begins⟩
  have listed := represents.keyIndex fun _ => @List.mem_of_head? _ disk.db.entriesTree.keys _
  have same : raw.firstIndex codecs build = (disk.firstIndex build).map .ok := by
    rw [firstIndex, DiskStorage.firstIndex, getLatestSnapshot_eq represents, EntryTree.firstKey, represents.keys,
      List.head?_map]
    cases disk.getLatestSnapshot with
    | some snapshot => rfl
    | none =>
        generalize disk.db.entriesTree.keys.head? = least at listed
        cases least with
        | none => rfl
        | some key =>
            change keyIndex (numberKey key) = some key at listed
            exact congrArg (Option.map Except.ok) listed
  rw [same, begins]
  rfl

/-- The last key is that of the last index. -/
theorem lastIndex_eq (represents : Represents codecs raw.trees disk.db) :
    raw.lastIndex codecs = some (.ok disk.lastIndex) := by
  have listed := represents.keyIndex fun _ => @List.mem_of_getLast? _ disk.db.entriesTree.keys _
  rw [lastIndex, DiskStorage.lastIndex, getLatestSnapshot_eq represents, EntryTree.lastKey, represents.keys,
    List.getLast?_map]
  generalize disk.db.entriesTree.keys.getLast? = greatest at listed
  cases greatest with
  | none => cases disk.getLatestSnapshot <;> rfl
  | some key =>
      change keyIndex (numberKey key) = some key at listed
      exact congrArg (Option.map Except.ok) listed

/-- The initial state is read back from its bytes. -/
theorem initialState_eq (represents : Represents codecs raw.trees disk.db) :
    raw.initialState codecs = .ok disk.initialState := by
  rw [initialState, decodeProto_eq represents.hardstate, decodeProto_eq represents.confstate]
  rfl

/-- Every read of the trees succeeds with the answer of the records. -/
structure Answers (codecs : RecordCodecs) (encodedLen : Entry → Nat) (raw : SledStorage) (disk : DiskStorage) : Prop where
  appliedIndex : raw.appliedIndex = disk.appliedIndex
  initialState : raw.initialState codecs = .ok disk.initialState
  entries : ∀ low high maxSize, high ≤ UInt64.size →
    raw.entries codecs encodedLen low high maxSize = disk.entries encodedLen low high maxSize
  term : ∀ index < UInt64.size, raw.term codecs index = disk.term index
  firstIndex : ∀ build, raw.firstIndex codecs build = some (.ok disk.logStart) ∧
    disk.firstIndex build = some disk.logStart
  lastIndex : raw.lastIndex codecs = some (.ok disk.lastIndex)
  snapshot : ∀ requestIndex «to», raw.snapshot codecs requestIndex «to» = .ok (disk.snapshot requestIndex «to»)

/-- Each read over the bytes gives what the records give. -/
theorem answers (shadows : Shadows codecs raw disk) : Answers codecs encodedLen raw disk where
  appliedIndex := shadows.appliedIndex
  initialState := initialState_eq shadows.represents
  entries low high maxSize fits := by
    rw [entries, DiskStorage.entries]
    by_cases empty : high ≤ low
    · rw [Nat.sub_eq_zero_of_le empty]
      rfl
    · exact entriesLoop_eq shadows.represents _ 0 [] (by omega)
  term _ small := term_eq shadows.represents small
  firstIndex := firstIndex_eq shadows.represents
  lastIndex := lastIndex_eq shadows.represents
  snapshot _ _ := by
    rw [snapshot, getLatestSnapshot_eq shadows.represents]
    rfl

end SledStorage

namespace Mutation

def performTrees (codecs : RecordCodecs) : Mutation → Attempt SledStorage RaftError Unit
  | .append entries => SledStorage.append codecs entries
  | .applySnapshot snapshot => SledStorage.applySnapshot codecs snapshot
  | .setAppliedIndex index => SledStorage.setAppliedIndex index
  | .setHardstate hs => SledStorage.setHardstate codecs hs
  | .setConfState cs => SledStorage.setConfState codecs cs
  | .compact compactIndex => SledStorage.compact compactIndex

/-- The codecs keep the written records, whose numbers have 64 bits. An index follows the one of a snapshot. -/
def Storable (codecs : RecordCodecs) : Mutation → Prop
  | .append entries => ∀ entry ∈ entries, entry.index < UInt64.size ∧ codecs.entry.Keeps entry
  | .applySnapshot snapshot => snapshot.metadata.index + 1 < UInt64.size ∧ codecs.snapshot.Keeps snapshot ∧
      codecs.confState.Keeps snapshot.metadata.confState
  | .setAppliedIndex index => index < UInt64.size
  | .setHardstate hs => codecs.hardState.Keeps hs
  | .setConfState cs => codecs.confState.Keeps cs
  | .compact _ => True

/-- Each storable call agrees over bytes and over records. -/
theorem perform_agrees {codecs : RecordCodecs} {mutation : Mutation} (storable : mutation.Storable codecs) :
    Agree (Shadows codecs) (mutation.performTrees codecs) mutation.perform := by
  cases mutation with
  | append entries => exact SledStorage.append_agrees storable
  | applySnapshot snapshot => exact SledStorage.applySnapshot_agrees storable.1 storable.2.1 storable.2.2
  | setAppliedIndex index => exact SledStorage.setAppliedIndex_agrees storable
  | setHardstate hs => exact SledStorage.setHardstate_agrees storable
  | setConfState cs => exact SledStorage.setConfState_agrees storable
  | compact compactIndex => exact SledStorage.compact_agrees compactIndex

end Mutation

/-- One session of a directory has its failures and its calls. A crash keeps some of the completed sled calls. -/
structure Session where
  faults : List Bool
  mutations : List Mutation
  kept : Nat

namespace Session

variable {codecs : RecordCodecs} {trees : SledTrees} {db : Db} {session : Session}

def Storable (codecs : RecordCodecs) (session : Session) : Prop :=
  ∀ mutation ∈ session.mutations, mutation.Storable codecs

/-- These are the results of the calls and the handle behind them. -/
def serve (session : Session) (db : Db) : List (Except RaftError Unit) × DiskStorage :=
  Attempt.tryAll Mutation.perform session.mutations (DiskStorage.openDb db session.faults)

def serveTrees (codecs : RecordCodecs) (session : Session) (trees : SledTrees) :
    Except String (List (Except RaftError Unit) × SledStorage) :=
  (SledStorage.openTrees trees session.faults).map (Attempt.tryAll (Mutation.performTrees codecs) session.mutations)

/-- This content is on disk after the crash. -/
def crash (db : Db) (session : Session) : Db := db.replay ((session.serve db).2.journal.take session.kept)

def crashTrees (codecs : RecordCodecs) (trees : SledTrees) (session : Session) : Except String SledTrees :=
  (session.serveTrees codecs trees).map fun served => (served.2.journal.take session.kept).foldl SledTrees.run trees

/-- Represented trees are opened as their directory is. -/
theorem openTrees_shadows (represents : Represents codecs trees db) (faults : List Bool) :
    ∃ raw, SledStorage.openTrees trees faults = .ok raw ∧ Shadows codecs raw (DiskStorage.openDb db faults) := by
  have recorded := represents.appliedIndex
  rw [SledStorage.openTrees, DiskStorage.openDb]
  generalize trees.metaTree[utf8 "applied_index"]? = bytes at recorded ⊢
  generalize number : db.metaTree.appliedIndex = index at recorded ⊢
  cases recorded with
  | none => exact ⟨_, rfl, represents, rfl, rfl, .nil⟩
  | some reads =>
      change (Bincode.decodeLen _).1 = _ at reads
      dsimp only
      rw [reads]
      exact ⟨_, rfl, represents, rfl, rfl, .nil⟩

/-- Both levels give the same results in a session. -/
theorem serve_agrees (represents : Represents codecs trees db) (storable : session.Storable codecs) :
    ∃ raw, session.serveTrees codecs trees = .ok ((session.serve db).1, raw) ∧
      Shadows codecs raw (session.serve db).2 := by
  obtain ⟨opened, started, shadows⟩ := openTrees_shadows represents session.faults
  obtain ⟨same, later⟩ := Agree.tryAll session.mutations
    (fun mutation inside => Mutation.perform_agrees (storable mutation inside)) shadows
  refine ⟨_, ?_, later⟩
  rw [serveTrees, started]
  exact congrArg Except.ok (Prod.ext same rfl)

/-- The same sled calls survive the crash on both levels. -/
theorem crash_represents (represents : Represents codecs trees db) (storable : session.Storable codecs) :
    ∃ later, crashTrees codecs trees session = .ok later ∧ Represents codecs later (crash db session) := by
  obtain ⟨raw, served, shadows⟩ := serve_agrees represents storable
  have survives := List.forall₂_take session.kept shadows.journal
  refine ⟨(raw.journal.take session.kept).foldl SledTrees.run trees, ?_, represents.foldl survives⟩
  rw [crashTrees, served]
  rfl

/-- Trees represent their directory over all storable sessions and crashes. -/
theorem crashes_represent (represents : Represents codecs trees db) {sessions : List Session}
    (storable : ∀ session ∈ sessions, session.Storable codecs) :
    ∃ later, sessions.foldlM (crashTrees codecs) trees = .ok later ∧
      Represents codecs later (sessions.foldl crash db) := by
  induction sessions generalizing trees db with
  | nil => exact ⟨trees, rfl, represents⟩
  | cons session rest ih =>
      obtain ⟨middle, first, between⟩ := crash_represents represents (storable session List.mem_cons_self)
      obtain ⟨later, others, final⟩ := ih between fun other inside => storable other (List.mem_cons_of_mem session inside)
      refine ⟨later, ?_, final⟩
      rw [List.foldlM_cons, first]
      exact others

end Session

/-- After any crashed sessions the storage over bytes opens, and its calls and its reads return what the records say. -/
theorem trees_answer (codecs : RecordCodecs) (encodedLen : Entry → Nat) {sessions : List Session} {last : Session}
    (storable : ∀ session ∈ sessions, session.Storable codecs) (final : last.Storable codecs) :
    ∃ trees raw, sessions.foldlM (Session.crashTrees codecs) .new = .ok trees ∧
      last.serveTrees codecs trees = .ok ((last.serve (sessions.foldl Session.crash .new)).1, raw) ∧
      SledStorage.Answers codecs encodedLen raw (last.serve (sessions.foldl Session.crash .new)).2 := by
  obtain ⟨trees, reached, represents⟩ := Session.crashes_represent (represents_new codecs) storable
  obtain ⟨raw, served, shadows⟩ := Session.serve_agrees represents final
  exact ⟨trees, raw, reached, served, SledStorage.answers shadows⟩

/-- This codec knows a few records only. -/
def tableCodec {Record : Type} [DecidableEq Record] (table : List (Record × Bytes)) : RecordCodec Record where
  encode record :=
    match table.find? (·.1 = record) with
    | some pair => .ok pair.2
    | none => .error "failed to encode"
  decode bytes :=
    match table.find? (·.2 = bytes) with
    | some pair => .ok pair.1
    | none => .error "failed to decode"

/-- These are the protobuf bytes of some records. -/
def fewCodecs : RecordCodecs where
  hardState := tableCodec [(⟨1, 2, 1⟩, [0x08, 1, 0x10, 2, 0x18, 1])]
  confState := tableCodec [(⟨[1], [], [], [], false⟩, [0x0a, 1, 1])]
  entry := tableCodec
    [(⟨.entryNormal, 1, 1, [7], []⟩, [0x10, 1, 0x18, 1, 0x22, 1, 7]), (⟨.entryNormal, 1, 2, [], []⟩, [0x10, 1, 0x18, 2])]
  snapshot := tableCodec [(⟨[9], ⟨⟨[1], [], [], [], false⟩, 1, 1⟩⟩,
    [0x0a, 1, 9, 0x12, 9, 0x0a, 3, 0x0a, 1, 1, 0x10, 1, 0x18, 1])]

/-- The last flush fails. The crash keeps the two entries only. -/
def firstSession : Session where
  faults := [false, false, false, false, true]
  mutations := [.append [⟨.entryNormal, 1, 1, [7], []⟩, ⟨.entryNormal, 1, 2, [], []⟩], .setHardstate ⟨1, 2, 1⟩]
  kept := 2

def secondSession : Session where
  faults := []
  mutations := [.applySnapshot ⟨[9], ⟨⟨[1], [], [], [], false⟩, 1, 1⟩⟩, .setAppliedIndex 1]
  kept := 0

/-- The few codecs keep what the first session stores. -/
theorem storable_firstSession : firstSession.Storable fewCodecs := by
  rw [Session.Storable, firstSession, List.forall_mem_cons, List.forall_mem_singleton, Mutation.Storable,
    List.forall_mem_cons, List.forall_mem_singleton]
  exact ⟨⟨⟨by decide, _, rfl, rfl⟩, ⟨by decide, _, rfl, rfl⟩⟩, _, rfl, rfl⟩

/-- The few codecs keep what the second session stores. -/
theorem storable_secondSession : secondSession.Storable fewCodecs := by
  rw [Session.Storable, secondSession, List.forall_mem_cons, List.forall_mem_singleton]
  exact ⟨⟨show 1 + 1 < UInt64.size by decide, ⟨_, rfl, rfl⟩, _, rfl, rfl⟩, show 1 < UInt64.size by decide⟩

/-- The snapshot is installed over the log that the first crash left. -/
theorem trees_answer_reopened : ∃ trees raw, [firstSession].foldlM (Session.crashTrees fewCodecs) .new = .ok trees ∧
    secondSession.serveTrees fewCodecs trees = .ok ([.ok (), .ok ()], raw) ∧
    raw.appliedIndex = 1 ∧ raw.firstIndex fewCodecs .debug = some (.ok 2) ∧
    raw.lastIndex fewCodecs = some (.ok 2) ∧
    raw.term fewCodecs 1 = .ok 1 ∧ raw.initialState fewCodecs = .ok (.default, ⟨[1], [], [], [], false⟩) := by
  obtain ⟨trees, raw, reached, served, answers⟩ := trees_answer fewCodecs (fun _ => 0)
    (List.forall_mem_singleton.mpr storable_firstSession) storable_secondSession
  refine ⟨trees, raw, reached, served, answers.appliedIndex, (answers.firstIndex .debug).1, answers.lastIndex,
    answers.term 1 (by decide), answers.initialState⟩

end RaftATui
