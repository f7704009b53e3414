import RaftATui.Library.Overwrite
import RaftATui.Library.Trace
import RaftATui.Proof.Driver.Outputs
import RaftATui.Proof.Storage.Log

namespace RaftATui
open Machinery
open Machinery.Trace (Obeys obeys_concat)

/-- This is the pair that a committed entry puts into the map. -/
def Entry.puts (kvCodec : KvCodec) (entry : Entry) : Option (String × String) :=
  if entry.entryType = .entryNormal ∧ entry.data ≠ [] then
    match kvCodec.decode entry.data with
    | .ok ⟨some put⟩ => some (put.key, put.value)
    | _ => none
  else none

/-- A delivered entry overwrites the value of its put. -/
theorem Item.deliver_entry (kvCodec : KvCodec) (snapshotCodec : SnapshotCodec) (kv : KvMap) (entry : Entry) :
    Item.deliver kvCodec snapshotCodec kv (.entry entry) = Overwrite.write (Entry.puts kvCodec) kv entry := by
  by_cases command : entry.entryType = .entryNormal ∧ entry.data ≠ []
  · simp only [Item.deliver, Overwrite.write, Entry.puts, if_pos command]
    rcases kvCodec.decode entry.data with text | ⟨_ | put⟩ <;> rfl
  · simp only [Item.deliver, Overwrite.write, Entry.puts, if_neg command]

/-- An item adds to what was delivered since the last snapshot, or it starts anew. -/
def Item.since : Option Bytes × List Entry → Item → Option Bytes × List Entry
  | _, .snapshot data => (some data, [])
  | (image, applied), .entry committed => (image, applied ++ [committed])

/-- These are the data of the last delivered snapshot and the entries behind it. -/
def sinceSnapshot (items : List Item) : Option Bytes × List Entry := items.foldl Item.since (none, [])

/-- This is the map that the last snapshot restores, or the map of a new node. -/
def restored (snapshotCodec : SnapshotCodec) : Option Bytes → KvMap
  | none => ∅
  | some data => match snapshotCodec.decode data with
      | .ok kv => kv
      | .error _ => ∅

/-- Each delivered snapshot decodes. -/
def Decodes (snapshotCodec : SnapshotCodec) (items : List Item) : Prop :=
  ∀ data, Item.snapshot data ∈ items → ∃ kv, snapshotCodec.decode data = .ok kv

/-- Each key of the last snapshot is put again by an entry behind it. -/
def PutAgain (kvCodec : KvCodec) (snapshotCodec : SnapshotCodec) (items : List Item) : Prop :=
  ∀ key ∈ restored snapshotCodec (sinceSnapshot items).1,
    ∃ entry ∈ (sinceSnapshot items).2, ∃ value, entry.puts kvCodec = some (key, value)

/-- Delivered entries without a snapshot overwrite the map one after the other. -/
theorem foldl_entries (kvCodec : KvCodec) (snapshotCodec : SnapshotCodec) (kv : KvMap) (entries : List Entry) :
    (entries.map .entry).foldl (Item.deliver kvCodec snapshotCodec) kv =
      entries.foldl (Overwrite.write (Entry.puts kvCodec)) kv := by
  rw [List.foldl_map]
  congr 1
  funext later entry
  exact Item.deliver_entry kvCodec snapshotCodec later entry

/-- Entries without a snapshot are all behind the last one. -/
theorem foldl_since_entries (seen : Option Bytes × List Entry) (entries : List Entry) :
    (entries.map .entry).foldl Item.since seen = (seen.1, seen.2 ++ entries) := by
  induction entries generalizing seen with
  | nil => rw [List.append_nil]; rfl
  | cons entry rest ih =>
      rw [List.map_cons, List.foldl_cons, ih]
      simp [Item.since]

/-- The map holds the last snapshot and the puts of the entries behind it. -/
theorem foldDelivered_since (kvCodec : KvCodec) {snapshotCodec : SnapshotCodec} {items : List Item}
    (decodes : Decodes snapshotCodec items) : foldDelivered kvCodec snapshotCodec items =
      (sinceSnapshot items).2.foldl (Overwrite.write (Entry.puts kvCodec))
        (restored snapshotCodec (sinceSnapshot items).1) := by
  induction items using List.reverseRecOn with
  | nil => rfl
  | append_singleton items item ih =>
      have earlier := ih fun data inside => decodes data (List.mem_append_left _ inside)
      rw [foldDelivered, List.foldl_concat, sinceSnapshot, List.foldl_concat]
      rw [foldDelivered, sinceSnapshot] at earlier
      rw [earlier]
      cases item with
      | snapshot data =>
          obtain ⟨kv, decoded⟩ := decodes data (List.mem_append_right _ (List.mem_singleton_self _))
          simp [Item.deliver, Item.since, restored, decoded]
      | entry entry =>
          rw [Item.deliver_entry, Item.since, List.foldl_concat]

/-- Delivering the entries behind the last snapshot to a new node gives the map when these cover the snapshot. -/
theorem foldDelivered_entries_iff {kvCodec : KvCodec} {snapshotCodec : SnapshotCodec} {items : List Item}
    (decodes : Decodes snapshotCodec items) :
    foldDelivered kvCodec snapshotCodec ((sinceSnapshot items).2.map .entry) =
        foldDelivered kvCodec snapshotCodec items ↔ PutAgain kvCodec snapshotCodec items := by
  rw [foldDelivered_since kvCodec decodes, foldDelivered, foldl_entries, Overwrite.replay_empty_iff]
  rfl

namespace Driver

open Attempt (Within Reaches)

variable {X : Externals}

/-- A processed ready delivered a snapshot that decodes, or none. -/
theorem ReadyRun.delivers_decoded {before after : Driver X} (run : ReadyRun before after)
    (decodes : Decodes X.snapshotCodec (delivered before.trace)) :
    Decodes X.snapshotCodec (delivered after.trace) := by
  intro data inside
  rw [delivered_outputs, run.outputs, delivered, List.flatMap_append, ← delivered,
    ← delivered_outputs] at inside
  rcases List.mem_append.mp inside with earlier | now
  · exact decodes data earlier
  · have installed : run.ready.snapshot.isEmpty = false ∧ run.ready.snapshot.data = data := by
      by_cases none : run.ready.snapshot.isEmpty = true
      · simp [Effect.items, Ready.items, none] at now
      · simp [Effect.items, Ready.items, none] at now
        exact ⟨by simpa using none, now.symm⟩
    obtain ⟨installs, same⟩ := installed
    exact same ▸ run.decodes installs

/-- Each run restores only snapshots that can be decoded. -/
theorem performAll_decodes (actions : List Action) :
    Reaches (fun before after => Decodes X.snapshotCodec (delivered before.trace) →
      Decodes X.snapshotCodec (delivered after.trace))
      (performAll actions : Attempt (Driver X) RaftLoopError Unit) := by
  apply performAll_reaches
  · intro before _ after done
    obtain ⟨run⟩ := processReady_ok done
    exact run.delivers_decoded
  · intro action other before decodes
    rw [delivered_outputs, (perform_handles other before).outputs, ← delivered_outputs]
    exact decodes

end Driver

end RaftATui
