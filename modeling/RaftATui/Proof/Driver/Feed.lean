import Mathlib.Logic.Function.Basic
import RaftATui.Proof.Driver.Redelivery
import RaftATui.Proof.Storage.Boot

namespace RaftATui
open Machinery
open Machinery.Trace (Obeys obeys_concat)

/-- A log determines its entries between two indices. -/
theorem Consecutive.unique {first : Nat} {batch other : List Entry} {log : Nat → Option Entry}
    (left : Consecutive first batch) (right : Consecutive first other)
    (length : batch.length = other.length) (logged : ∀ entry ∈ batch, log entry.index = some entry)
    (found : ∀ entry ∈ other, log entry.index = some entry) : batch = other := by
  apply List.ext_getElem length
  intro position inside within
  have here := logged _ (List.getElem_mem inside)
  have there := found _ (List.getElem_mem within)
  rw [left.getElem position inside] at here
  rw [right.getElem position within, here] at there
  exact Option.some.inj there

/-- This is raft's log as the driver can see it, with the last index that was handed to the state machine. -/
structure Feed where
  base : Nat
  handed : Nat
  log : Nat → Option Entry

namespace Feed

/-- Raft starts after the snapshot of the directory and knows its entries. -/
def start (db : Db) : Feed where
  base := db.logStart - 1
  handed := db.logStart - 1
  log index := db.entriesTree[index]?

def install (snapshot : Snapshot) (feed : Feed) : Feed :=
  if snapshot.isEmpty then feed
  else {
    base := snapshot.metadata.index
    handed := snapshot.metadata.index
    log := fun index => if index ≤ snapshot.metadata.index then none else feed.log index }

def logged (log : Nat → Option Entry) (entries : List Entry) : Nat → Option Entry :=
  entries.foldl (fun log entry => Function.update log entry.index (some entry)) log

def append (entries : List Entry) (feed : Feed) : Feed := { feed with log := logged feed.log entries }

def hand (entries : List Entry) (feed : Feed) : Feed := { feed with handed := feed.handed + entries.length }

/-- This is the feed after one more output of raft. -/
def next (feed : Feed) : Effect → Feed
  | .ready rd => ((feed.install rd.snapshot).append rd.entries).hand rd.committedEntries
  | .light answer => feed.hand answer.committedEntries
  | _ => feed

/-- The committed entries come in order, and they are those of the log. -/
def Hands (feed : Feed) (entries : List Entry) : Prop :=
  Consecutive (feed.handed + 1) entries ∧ ∀ entry ∈ entries, feed.log entry.index = some entry

instance (feed : Feed) (entries : List Entry) : Decidable (feed.Hands entries) :=
  inferInstanceAs (Decidable (_ ∧ _))

/-- Raft never goes back behind what it handed out. -/
def AllowsReady (feed : Feed) (rd : Ready) : Prop :=
  (rd.snapshot.isEmpty = false → feed.handed < rd.snapshot.metadata.index) ∧
    (∀ entry ∈ rd.entries, (feed.install rd.snapshot).handed < entry.index) ∧
    ((feed.install rd.snapshot).append rd.entries).Hands rd.committedEntries

instance (feed : Feed) (rd : Ready) : Decidable (feed.AllowsReady rd) := inferInstanceAs (Decidable (_ ∧ _))

def Allows (feed : Feed) : Effect → Prop
  | .ready rd => feed.AllowsReady rd
  | .light answer => feed.Hands answer.committedEntries
  | _ => True

instance (feed : Feed) : (event : Effect) → Decidable (feed.Allows event)
  | .ready rd => inferInstanceAs (Decidable (feed.AllowsReady rd))
  | .light answer => inferInstanceAs (Decidable (feed.Hands answer.committedEntries))
  | .proposed _ _ _ _ | .sled _ | .send _ _ | .notify _ | .reply _ _ | .replyGet _ _ | .applied _ _ =>
      isTrue trivial

/-- The outputs of raft deliver its log. -/
def Delivers (feed : Feed) (trace : List Effect) : Prop :=
  Obeys (fun before event => (before.foldl next feed).Allows event) trace

instance (feed : Feed) (trace : List Effect) : Decidable (feed.Delivers trace) :=
  inferInstanceAs (Decidable (Obeys _ _))

/-- The entries behind the last snapshot are the log from there to the handed index. -/
structure Tracks (feed : Feed) (applied : List Entry) : Prop where
  consecutive : Consecutive (feed.base + 1) applied
  handed : feed.handed = feed.base + applied.length
  logged : ∀ entry ∈ applied, feed.log entry.index = some entry

variable {feed : Feed} {applied : List Entry}

/-- A handed batch is applied behind the earlier ones. -/
theorem Tracks.hand (tracks : Tracks feed applied) {entries : List Entry} (hands : feed.Hands entries) :
    Tracks (feed.hand entries) (applied ++ entries) where
  consecutive := by
    apply tracks.consecutive.append
    have next := hands.1
    rw [tracks.handed] at next
    rw [Nat.add_right_comm]
    exact next
  handed := by
    change feed.handed + entries.length = feed.base + (applied ++ entries).length
    rw [tracks.handed, List.length_append, Nat.add_assoc]
  logged entry inside := (List.mem_append.mp inside).elim (tracks.logged entry) (hands.2 entry)

/-- Entries above an index leave the log at the index as it is. -/
theorem logged_below {log : Nat → Option Entry} {entries : List Entry} {index : Nat}
    (above : ∀ entry ∈ entries, index < entry.index) : Feed.logged log entries index = log index := by
  induction entries generalizing log with
  | nil => rfl
  | cons entry rest ih =>
      have later : logged (Function.update log entry.index (some entry)) rest index =
          Function.update log entry.index (some entry) index :=
        ih fun other inside => above other (List.mem_cons_of_mem entry inside)
      change logged (Function.update log entry.index (some entry)) rest index = log index
      rw [later, Function.update_of_ne (Nat.ne_of_lt (above entry List.mem_cons_self))]

/-- New entries lie behind the handed ones. -/
theorem Tracks.append (tracks : Tracks feed applied) {entries : List Entry}
    (above : ∀ entry ∈ entries, feed.handed < entry.index) : Tracks (feed.append entries) applied where
  consecutive := tracks.consecutive
  handed := tracks.handed
  logged entry inside := by
    have place := (tracks.consecutive.mem inside).2.1
    have handed := tracks.handed
    change Feed.logged feed.log entries entry.index = some entry
    rw [logged_below fun later listed => by have := above later listed; omega]
    exact tracks.logged entry inside

/-- From its start on raft delivers the log behind the last snapshot. -/
theorem Delivers.tracks (begins : feed.handed = feed.base) {trace : List Effect}
    (delivers : feed.Delivers trace) :
    Tracks (trace.foldl next feed) (sinceSnapshot (delivered trace)).2 := by
  induction trace using List.reverseRecOn with
  | nil => exact ⟨trivial, begins, by simp [delivered, sinceSnapshot]⟩
  | append_singleton trace event ih =>
      obtain ⟨earlier, allowed⟩ := obeys_concat.mp delivers
      have tracks := ih earlier
      have listed : delivered (trace ++ [event]) = delivered trace ++ event.items := by
        simp [delivered]
      rw [List.foldl_concat, listed, sinceSnapshot, List.foldl_append, ← sinceSnapshot]
      cases event with
      | ready rd =>
          obtain ⟨_, above, hands⟩ := allowed
          have installed : Tracks ((trace.foldl next feed).install rd.snapshot)
              (List.foldl Item.since (sinceSnapshot (delivered trace))
                (if rd.snapshot.isEmpty then [] else [.snapshot rd.snapshot.data])).2 := by
            unfold install
            split
            · exact tracks
            · exact ⟨trivial, rfl, by simp [Item.since]⟩
          have handed := (installed.append above).hand hands
          rw [Effect.items, Ready.items, List.foldl_append, foldl_since_entries]
          exact handed
      | light answer =>
          rw [Effect.items, foldl_since_entries]
          exact tracks.hand allowed
      | _ => exact tracks

end Feed

end RaftATui
