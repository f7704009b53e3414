import RaftATui.Proof.Driver.Acknowledge
import RaftATui.Proof.Driver.Calls
import RaftATui.Proof.Driver.Snapshots

namespace RaftATui
open Machinery
open Machinery.Trace (Obeys obeys_concat obeys_append)

/-- This is the answer to a GET. -/
def Effect.read : Effect → Option (Channel × Option String)
  | .replyGet channel value => some (channel, value)
  | _ => none

/-- A GET reads its key in the map of everything that consensus delivered before it. -/
def ReadsDelivered (X : Externals) (requests : List Action) (before : List Effect) (event : Effect) : Prop :=
  ∀ resp value, event = .replyGet resp value → ∃ key, .command (.rpc (.get key resp)) ∈ requests ∧
    value = (foldDelivered X.kvCodec X.snapshotCodec (delivered before))[key]?

namespace Driver

open Attempt (Within Triple)

variable {X : Externals}

/-- A local effect answers no GET. -/
theorem read_local {scope : Scope} (effect : Effect) (inside : Local scope effect) : effect.read = none := by
  cases effect with
  | replyGet resp value => exact absurd inside id
  | _ => rfl

/-- No call but the answer to a GET answers a GET. -/
theorem perform_noRead {action : Action} (other : ∀ key resp, action ≠ .command (.rpc (.get key resp))) :
    Within (Adds fun effect => effect.read = none) (perform action : Attempt (Driver X) RaftLoopError Unit) := by
  refine perform_adds read_local (fun _ _ => rfl) (fun _ => rfl) (fun _ => rfl) (fun _ => rfl) action fun key resp same => ?_
  exact absurd same (other key resp)

/-- Each action delivers to the map what raft hands out. -/
theorem perform_folds (action : Action) : Attempt.Reaches Folds (perform action : Attempt (Driver X) RaftLoopError Unit) := by
  have single := performAll_folds (X := X) [action]
  rwa [performAll, Attempt.forEach_cons, Attempt.forEach_nil, Attempt.bind_pure_unit] at single

/-- The map folds what was delivered, and each GET so far did read it. -/
def Reading (requests : List Action) (driver : Driver X) : Prop :=
  driver.kvNode.kv = foldDelivered X.kvCodec X.snapshotCodec (delivered driver.trace) ∧
    Obeys (ReadsDelivered X requests) driver.trace

/-- Each action of the requests keeps the reading. -/
theorem perform_reading {requests : List Action} {action : Action} (known : action ∈ requests) :
    Triple (Reading (X := X) requests) (perform action) (fun _ => Reading requests) fun driver =>
      Obeys (ReadsDelivered X requests) driver.trace := by
  intro driver ⟨folded, reads⟩
  by_cases get : ∃ key resp, action = .command (.rpc (.get key resp))
  · obtain ⟨key, resp, rfl⟩ := get
    refine ⟨folded.trans ?_, obeys_concat.mpr ⟨reads, fun other value same => ?_⟩⟩
    · congr 1
      simp [delivered, Effect.items]
    · obtain ⟨rfl, rfl⟩ := Effect.replyGet.inj same
      exact ⟨key, known, by rw [folded]⟩
  · obtain ⟨added, trace, silent⟩ := perform_noRead (fun key resp same => get ⟨key, resp, same⟩) driver
    have later : Obeys (ReadsDelivered X requests) (perform action driver).2.trace := by
      rw [trace]
      refine reads.append fun effect inside before resp value same => ?_
      have none := silent effect inside
      rw [same] at none
      cases none
    rcases run : perform action driver with ⟨error | _, final⟩
    · rw [run] at later
      exact later
    · rw [run] at later
      obtain ⟨items, kv, listed⟩ := perform_folds action driver () final run
      refine ⟨?_, later⟩
      rw [kv, folded, listed, foldDelivered, foldDelivered, List.foldl_append]

/-- A run from the start answers each GET with the map of its delivered entries. -/
theorem reading_of_run {start : Driver X} {actions : List Action} (fresh : Fresh start) :
    Obeys (ReadsDelivered X actions) (performAll actions start).2.trace := by
  have begins : Reading actions start := by
    constructor
    · rw [fresh.kvNode, fresh.trace]
      rfl
    · rw [fresh.trace]
      exact Trace.obeys_nil
  have whole := Triple.forEach actions fun action inside => perform_reading (X := X) inside
  exact (whole.weaken fun _ _ reading => reading.2).final begins

end Driver

/-- This is the index of the last delivered entry or snapshot. -/
def Effect.position (current : Nat) : Effect → Nat
  | .ready rd =>
      (if rd.snapshot.isEmpty then current else rd.snapshot.metadata.index) + rd.committedEntries.length
  | .light rd => current + rd.committedEntries.length
  | _ => current

def position (trace : List Effect) : Nat := trace.foldl Effect.position 0

/-- Raft goes on with the committed log. Its snapshots are real and never go back. -/
def Effect.Feeds (X : Externals) (history : List Entry) (current : Nat) : Effect → Prop
  | .ready rd =>
      (rd.snapshot.isEmpty = false → current ≤ rd.snapshot.metadata.index ∧ Real X history rd.snapshot) ∧
        rd.committedEntries <+: history.drop (if rd.snapshot.isEmpty then current else rd.snapshot.metadata.index)
  | .light rd => rd.committedEntries <+: history.drop current
  | _ => True

instance (X : Externals) (history : List Entry) (current : Nat) : (event : Effect) → Decidable (event.Feeds X history current)
  | .ready rd => inferInstanceAs (Decidable ((rd.snapshot.isEmpty = false →
      current ≤ rd.snapshot.metadata.index ∧ Real X history rd.snapshot) ∧ _ <+: _))
  | .light rd => inferInstanceAs (Decidable (rd.committedEntries <+: history.drop current))
  | .proposed _ _ _ _ | .sled _ | .send _ _ | .notify _ | .reply _ _ | .replyGet _ _ | .applied _ _ => isTrue trivial

/-- The raft of a node hands out one committed log in order. -/
def Fed (X : Externals) (history : List Entry) (trace : List Effect) : Prop :=
  Obeys (fun before event => event.Feeds X history (position before)) trace

instance (X : Externals) (history : List Entry) (trace : List Effect) : Decidable (Fed X history trace) :=
  inferInstanceAs (Decidable (Obeys _ _))

section History

variable {X : Externals} {history : List Entry} {trace : List Effect}

@[simp] theorem position_concat (trace : List Effect) (event : Effect) :
    position (trace ++ [event]) = event.position (position trace) := by
  rw [position, List.foldl_concat, position]

/-- The entries behind a position are those up to the position behind them. -/
theorem foldl_take_append {entries : List Entry} {base : Nat} (begins : entries <+: history.drop base)
    (kvCodec : KvCodec) (snapshotCodec : SnapshotCodec) :
    (entries.map .entry).foldl (Item.deliver kvCodec snapshotCodec) (mapUpTo kvCodec history base) =
      mapUpTo kvCodec history (base + entries.length) := by
  rw [foldl_entries, mapUpTo, mapUpTo, List.take_add, List.foldl_append,
    ← List.prefix_iff_eq_take.mp begins]

/-- What raft delivers from one committed log gives the map of the log up to the position. -/
theorem Fed.folds (fed : Fed X history trace) :
    foldDelivered X.kvCodec X.snapshotCodec (delivered trace) = mapUpTo X.kvCodec history (position trace) := by
  induction trace using List.reverseRecOn with
  | nil => rfl
  | append_singleton trace event ih =>
      obtain ⟨earlier, feeds⟩ := obeys_concat.mp fed
      have before := ih earlier
      have listed : delivered (trace ++ [event]) = delivered trace ++ event.items := by simp [delivered]
      rw [position_concat, listed, foldDelivered, List.foldl_append, ← foldDelivered, before]
      cases event with
      | ready rd =>
          obtain ⟨real, entries⟩ := feeds
          rw [Effect.items, Ready.items, List.foldl_append, Effect.position]
          by_cases empty : rd.snapshot.isEmpty = true
          · rw [if_pos empty] at entries
            rw [if_pos empty, if_pos empty, List.foldl_nil]
            exact foldl_take_append entries _ _
          · rw [if_neg empty] at entries
            rw [if_neg empty, if_neg empty, List.foldl_cons, List.foldl_nil, Item.deliver,
              real_iff.mp (real (Bool.eq_false_iff.mpr empty)).2]
            exact foldl_take_append entries _ _
      | light rd => exact foldl_take_append feeds _ _
      | _ => rfl

/-- A position never goes back. -/
theorem Fed.position_le {before after : List Effect} (fed : Fed X history (before ++ after)) :
    position before ≤ position (before ++ after) := by
  induction after using List.reverseRecOn with
  | nil => rw [List.append_nil]
  | append_singleton after event ih =>
      rw [← List.append_assoc] at fed ⊢
      obtain ⟨earlier, feeds⟩ := obeys_concat.mp fed
      have step : position (before ++ after) ≤ position (before ++ after ++ [event]) := by
        rw [position_concat]
        cases event with
        | ready rd =>
            rw [Effect.position]
            split
            · exact Nat.le_add_right _ _
            · case isFalse present =>
                exact Nat.le_trans (feeds.1 (Bool.eq_false_iff.mpr present)).1 (Nat.le_add_right _ _)
        | light rd => exact Nat.le_add_right _ _
        | _ => exact Nat.le_refl _
      exact Nat.le_trans (ih earlier) step

/-- Each entry that raft handed out lies in the log before the position. -/
theorem Fed.handed (fed : Fed X history trace) {entry : Entry} (inside : entry ∈ handed trace) :
    ∃ index < position trace, history[index]? = some entry := by
  have listed {entries : List Entry} {base : Nat} (begins : entries <+: history.drop base) (found : entry ∈ entries) :
      ∃ index < base + entries.length, history[index]? = some entry := by
    obtain ⟨place, present⟩ := List.mem_iff_getElem?.mp found
    have short := (List.getElem?_eq_some_iff.mp present).1
    refine ⟨base + place, Nat.add_lt_add_left short base, ?_⟩
    rw [← List.getElem?_drop]
    obtain ⟨rest, same⟩ := begins
    rw [← same, List.getElem?_append_left short, present]
  induction trace using List.reverseRecOn with
  | nil => exact absurd inside List.not_mem_nil
  | append_singleton trace event ih =>
      have grows := fed.position_le
      obtain ⟨earlier, feeds⟩ := obeys_concat.mp fed
      rw [RaftATui.handed, List.flatMap_append, List.mem_append] at inside
      rcases inside with old | new
      · obtain ⟨index, below, present⟩ := ih earlier old
        exact ⟨index, Nat.lt_of_lt_of_le below grows, present⟩
      · rw [List.flatMap_singleton] at new
        rw [position_concat]
        cases event with
        | ready rd => exact listed feeds.2 new
        | light rd => exact listed feeds new
        | _ => exact absurd new List.not_mem_nil

end History

/-- An applied entry carries the data of every earlier proposal with its id. -/
def Bound (before : List Effect) (event : Effect) : Prop :=
  ∀ entry kv, event = .applied entry kv → ∀ proposal ∈ proposals before, entry.context = proposal.id →
    entry.data = proposal.data

/-- Effects that apply nothing keep each applied entry bound to its put. -/
theorem bound_append {trace added : List Effect} (bound : Obeys Bound trace)
    (free : ∀ effect ∈ added, ∀ entry kv, effect ≠ .applied entry kv) : Obeys Bound (trace ++ added) :=
  bound.append fun effect inside _ entry kv same => absurd same (free effect inside entry kv)

namespace Driver

open Attempt (Within Triple)

variable {X : Externals}

/-- Plain effects keep the applied entries bound. -/
theorem bound_stable : Stable fun driver : Driver X => Obeys Bound driver.trace where
  plain before after bound plain := by
    obtain ⟨added, trace, free⟩ := plain.trace
    rw [trace]
    exact bound_append bound fun effect inside => (free effect inside).2
  applies entry before after bound fits applies := by
    have first (kv : KvMap) : Obeys Bound (before.trace ++ [.applied entry kv]) := by
      refine obeys_concat.mpr ⟨bound, fun other map same proposal made named => ?_⟩
      obtain ⟨rfl, rfl⟩ := Effect.applied.inj same
      exact fits.2 proposal made named
    have answered {callback : Option Channel} {result : Except String Unit} :
        ∀ effect ∈ (callback.map fun channel => Effect.reply channel result).toList,
          ∀ entry kv, effect ≠ .applied entry kv := by
      cases callback <;> simp
    cases applies with
    | empty kv decoded uuids drawn callbacks trace =>
        rw [trace]
        exact first kv
    | put kv put notices decoded shown notified uuids drawn callbacks trace =>
        rw [trace, List.append_assoc, List.cons_append, List.append_cons]
        refine bound_append (first kv) fun effect inside => ?_
        rcases List.mem_append.mp inside with notice | answer
        · obtain ⟨update, rfl⟩ := notified effect notice
          simp
        · exact answered effect answer
    | malformed kv text decoded uuids drawn callbacks trace =>
        rw [trace, List.append_cons]
        exact bound_append (first kv) answered

/-- One action keeps the applied entries bound to the proposals. -/
theorem perform_bound (action : Action) (driver : Driver X)
    (guarded : Guarded (fun driver => Obeys Bound driver.trace) driver) :
    Guarded (fun driver => Obeys Bound driver.trace) (perform action driver).2 := by
  have proposed {key value : String} {callback : Option Channel} {result : Except RaftError Unit} {after : Driver X}
      (proposes : Proposes key value callback result driver after) :
      Guarded (fun driver => Obeys Bound driver.trace) after := by
    refine guarded.move proposes.grows fun bound => ?_
    rw [proposes.trace]
    exact bound_append bound (by simp)
  cases perform_cases action driver with
  | ready same =>
      subst same
      exact bound_stable.processReady driver guarded
  | plain moves => exact guarded.move moves.grows fun bound => bound_stable.plain _ _ bound moves
  | byUser key value result middle proposes moves =>
      exact (proposed proposes).move moves.grows fun bound => bound_stable.plain _ _ bound moves
  | put key value resp result same proposes => exact proposed proposes
  | refused key value resp leader same answer =>
      rw [answer]
      exact guarded.move ⟨_, rfl⟩ fun bound => bound_append bound (by simp)

/-- Only filled normal entries are applied. -/
theorem performAll_normal (actions : List Action) :
    Within (Adds fun effect => ∀ entry kv, effect = .applied entry kv → entry.entryType = .entryNormal ∧ entry.data ≠ [])
      (performAll actions : Attempt (Driver X) RaftLoopError Unit) := by
  refine Within.forEach actions fun action _ => perform_adds ?_ (by simp) (by simp) (by simp) (by simp) action fun _ _ _ => ?_
  · intro effect inside entry kv same
    subst same
    exact inside.2
  · simp

/-- The committed log puts this pair at this index. -/
def PutAt (kvCodec : KvCodec) (history : List Entry) (index : Nat) (key value : String) : Prop :=
  ∃ entry, history[index]? = some entry ∧ entry.puts kvCodec = some (key, value)

/-- The map of a log behind a PUT holds the value of that PUT or of a later one. -/
theorem PutAt.later {kvCodec : KvCodec} {history : List Entry} {index bound : Nat} {key written : String}
    (put : PutAt kvCodec history index key written) (below : index < bound) :
    ∃ last final, index ≤ last ∧ last < bound ∧ PutAt kvCodec history last key final ∧
      (mapUpTo kvCodec history bound)[key]? = some final := by
  obtain ⟨entry, present, puts⟩ := put
  have inside : (history.take bound)[index]? = some entry := by rw [List.getElem?_take_of_lt below, present]
  rw [mapUpTo, Overwrite.getElem?_replay, Std.ExtTreeMap.getElem?_empty, Option.or_none]
  cases found : Overwrite.written (Entry.puts kvCodec) (history.take bound) key with
  | none =>
      exact absurd puts (Overwrite.written_eq_none.mp found entry (List.mem_of_getElem? inside) written)
  | some final =>
      obtain ⟨last, writer, there, wrote, behind⟩ := Overwrite.written_eq_some found
      have short : last < bound := by
        have length := (List.getElem?_eq_some_iff.mp there).1
        exact Nat.lt_of_lt_of_le length (List.length_take_le bound history)
      rw [List.getElem?_take_of_lt short] at there
      exact ⟨last, final, behind index entry written inside puts, short, ⟨writer, there, wrote⟩, rfl⟩

/-- The put of this channel was proposed under the context of the entry. The entry puts the pair, it was handed out
and applied, and only notices followed. -/
def AppliedFor (codec : KvCodec) (channel : Channel) (key value : String) (entry : Entry) (before : List Effect) : Prop :=
  entry.puts codec = some (key, value) ∧ ∃ earlier kv notices, before = earlier ++ .applied entry kv :: notices ∧
    (∀ notice ∈ notices, ∃ update, notice = .notify update) ∧ entry ∈ handed earlier ∧
      ∃ proposal ∈ proposals earlier, proposal.id = entry.context ∧ proposal.callback = some channel

/-- The entry of an acknowledged PUT was handed out and applied before the answer. -/
theorem acknowledged_applied {start : Driver X} {requests : List Action} {before after : List Effect} {channel : Channel}
    (fresh : Fresh start) (distinct : Function.Injective start.uuids) (channels : (putChannels requests).Nodup)
    (intact : Obeys Intact (performAll requests start).2.trace)
    (final : (performAll requests start).2.trace = before ++ .reply channel (.ok ()) :: after) :
    ∃ key written, .command (.rpc (.put key written channel)) ∈ requests ∧
      ∃ entry, AppliedFor X.kvCodec channel key written entry before := by
  have kept : Guarded (fun driver => Ledger requests [] driver ∧ Obeys Bound driver.trace) (performAll requests start).2 :=
    performAll_keeps (fun pending action driver guarded => perform_bound action driver fun obeys => (guarded obeys).2)
      requests (fun _ inside => inside) channels start fun _ => ⟨Ledger.start fresh distinct, by simp [fresh.trace]⟩
  obtain ⟨ledger, bound⟩ := kept intact
  have earned : Acknowledges X.kvCodec requests before (.reply channel (.ok ())) :=
    ledger.acknowledged before _ after final
  obtain ⟨earlier, entry, kv, notices, key, written, split, told, handed, asked, _, proposal, made, named, back, data⟩ :=
    earned
  have whole : (performAll requests start).2.trace =
      earlier ++ .applied entry kv :: (notices ++ .reply channel (.ok ()) :: after) := by
    rw [final, split, List.append_assoc, List.cons_append]
  have same : entry.data = X.kvCodec.encodePutCommand key written :=
    (bound earlier _ _ whole entry kv rfl proposal made named.symm).trans data
  obtain ⟨added, trace, normal⟩ := performAll_normal requests start
  have normal : entry.entryType = .entryNormal ∧ entry.data ≠ [] := by
    refine normal (.applied entry kv) ?_ entry kv rfl
    rw [fresh.trace, List.nil_append] at trace
    rw [← trace, whole]
    simp
  have puts : entry.puts X.kvCodec = some (key, written) := by
    rw [Entry.puts, if_pos normal, same, KvCodec.encodePutCommand, X.kvCodec.decode_encode]
  exact ⟨key, written, asked, entry, puts, earlier, kv, notices, split, told, handed, proposal, made, named, back⟩

/-- The map of a longer log holds the same value, or that of a PUT behind the shorter one. -/
theorem mapUpTo_later (kvCodec : KvCodec) (history : List Entry) {first second : Nat} (order : first ≤ second)
    (key : String) :
    (mapUpTo kvCodec history second)[key]? = (mapUpTo kvCodec history first)[key]? ∨
      ∃ index final, first ≤ index ∧ index < second ∧ PutAt kvCodec history index key final ∧
        (mapUpTo kvCodec history second)[key]? = some final := by
  obtain ⟨more, rfl⟩ := Nat.exists_eq_add_of_le order
  have longer : mapUpTo kvCodec history (first + more) =
      ((history.drop first).take more).foldl (Overwrite.write (Entry.puts kvCodec)) (mapUpTo kvCodec history first) := by
    rw [mapUpTo, List.take_add, List.foldl_append, ← mapUpTo]
  rw [longer, Overwrite.getElem?_replay]
  cases found : Overwrite.written (Entry.puts kvCodec) ((history.drop first).take more) key with
  | none => exact Or.inl Option.none_or
  | some final =>
      obtain ⟨last, writer, there, wrote, _⟩ := Overwrite.written_eq_some found
      have short : last < more :=
        Nat.lt_of_lt_of_le (List.getElem?_eq_some_iff.mp there).1 (List.length_take_le more _)
      rw [List.getElem?_take_of_lt short, List.getElem?_drop] at there
      exact Or.inr ⟨first + last, final, Nat.le_add_right _ _, Nat.add_lt_add_left short first,
        ⟨writer, there, wrote⟩, Option.some_or⟩

/-- A GET reads the map of the committed log up to the position of its node. -/
theorem read_position {start : Driver X} {requests : List Action} {history : List Entry} {before after : List Effect}
    {resp : Channel} {value : Option String} (fresh : Fresh start) (fed : Fed X history (performAll requests start).2.trace)
    (read : (performAll requests start).2.trace = before ++ .replyGet resp value :: after) :
    ∃ asked, .command (.rpc (.get asked resp)) ∈ requests ∧
      value = (mapUpTo X.kvCodec history (position before))[asked]? := by
  obtain ⟨asked, known, same⟩ := reading_of_run fresh before _ after read resp value rfl
  rw [read] at fed
  exact ⟨asked, known, by rw [same, Fed.folds (Obeys.of_append fed)]⟩

/-- Two GETs on any two nodes read the log up to the positions of their nodes. For one key the one that is further
reads what the other one did, unless the log puts its value between the two. -/
theorem reads_agree {first second : Driver X} {requests others : List Action} {history : List Entry}
    {before after before' after' : List Effect} {resp resp' : Channel} {value value' : Option String}
    (fresh : Fresh first) (fresh' : Fresh second) (fed : Fed X history (performAll requests first).2.trace)
    (fed' : Fed X history (performAll others second).2.trace)
    (read : (performAll requests first).2.trace = before ++ .replyGet resp value :: after)
    (read' : (performAll others second).2.trace = before' ++ .replyGet resp' value' :: after')
    (order : position before ≤ position before') :
    ∃ asked, .command (.rpc (.get asked resp)) ∈ requests ∧ ∃ asked', .command (.rpc (.get asked' resp')) ∈ others ∧
      value = (mapUpTo X.kvCodec history (position before))[asked]? ∧
      value' = (mapUpTo X.kvCodec history (position before'))[asked']? ∧
      (asked = asked' → value' = value ∨ ∃ index final, position before ≤ index ∧ index < position before' ∧
        PutAt X.kvCodec history index asked final ∧ value' = some final) := by
  obtain ⟨asked, known, reads⟩ := read_position fresh fed read
  obtain ⟨asked', known', reads'⟩ := read_position fresh' fed' read'
  refine ⟨asked, known, asked', known', reads, reads', ?_⟩
  rintro rfl
  rw [reads, reads']
  exact mapUpTo_later X.kvCodec history order asked

/-- The log has two puts of one key. -/
def sessionLog : List Entry := [scriptedPut 1 1 0 "k" "v", scriptedPut 1 2 5 "k" "w"]

def sessionRequests : List Action :=
  [.command (.rpc (.put "k" "v" 7)), .ready, .command (.rpc (.get "k" 8))]

def sessionOthers : List Action := [.ready, .command (.rpc (.get "k" 9))]

/-- The leader has applied the first put when it answers. -/
def sessionLeader : Driver scripted :=
  scriptedDriver (.begin .leader [{ Ready.default with committedEntries := sessionLog.take 1 }] [] [])
    (.newWithDisk .new [])

/-- The follower has applied both. -/
def sessionFollower : Driver scripted :=
  scriptedDriver (.begin .follower [{ Ready.default with committedEntries := sessionLog }] [] [])
    (.newWithDisk .new [])

/-- The leader of the session starts fresh. -/
theorem sessionLeader_fresh : Fresh sessionLeader := scriptedDriver_fresh _ _

/-- The follower of the session starts fresh. -/
theorem sessionFollower_fresh : Fresh sessionFollower := scriptedDriver_fresh _ _

/-- The leader answers its GET when it has delivered one entry. -/
theorem sessionLeader_read : ∃ before, position before = 1 ∧
    (performAll sessionRequests sessionLeader).2.trace = before ++ [.replyGet 8 (some "v")] :=
  ⟨(performAll sessionRequests sessionLeader).2.trace.take 10, by decide +kernel, by decide +kernel⟩

/-- The follower answers its GET when it has delivered two entries. -/
theorem sessionFollower_read : ∃ before, position before = 2 ∧
    (performAll sessionOthers sessionFollower).2.trace = before ++ [.replyGet 9 (some "w")] :=
  ⟨(performAll sessionOthers sessionFollower).2.trace.take 13, by decide +kernel, by decide +kernel⟩

/-- Raft hands the leader the log of the session. -/
theorem sessionLeader_fed : Fed scripted sessionLog (performAll sessionRequests sessionLeader).2.trace := by
  decide +kernel

/-- Raft hands the follower the log of the session. -/
theorem sessionFollower_fed : Fed scripted sessionLog (performAll sessionOthers sessionFollower).2.trace := by
  decide +kernel

/-- The follower reads another value because a later entry puts it. -/
theorem reads_agree_follower :
    ∃ asked, .command (.rpc (.get asked 8)) ∈ sessionRequests ∧ ∃ asked', .command (.rpc (.get asked' 9)) ∈ sessionOthers ∧
      some "v" = (mapUpTo Protobuf.kvCodec sessionLog 1)[asked]? ∧
      some "w" = (mapUpTo Protobuf.kvCodec sessionLog 2)[asked']? ∧
      (asked = asked' → some "w" = some "v" ∨ ∃ index final, 1 ≤ index ∧ index < 2 ∧
        PutAt Protobuf.kvCodec sessionLog index asked final ∧ some "w" = some final) := by
  obtain ⟨before, place, read⟩ := sessionLeader_read
  obtain ⟨before', place', read'⟩ := sessionFollower_read
  have order : position before ≤ position before' := by rw [place, place']; decide
  have agree := reads_agree sessionLeader_fresh sessionFollower_fresh sessionLeader_fed sessionFollower_fed read read' order
  rw [place, place'] at agree
  exact agree

end Driver

end RaftATui
