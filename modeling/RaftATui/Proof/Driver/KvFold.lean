import RaftATui.Proof.Driver.Frame

namespace RaftATui
open Machinery

/-- Raft delivers snapshots and committed entries to the state machine. -/
inductive Item where
  | snapshot (data : Bytes)
  | entry (entry : Entry)
  deriving DecidableEq, Repr

/-- One item replaces the map, inserts one pair, or changes nothing. -/
def Item.deliver (kvCodec : KvCodec) (snapshotCodec : SnapshotCodec) (kv : KvMap) : Item → KvMap
  | .snapshot data => match snapshotCodec.decode data with
      | .ok restored => restored
      | .error _ => kv
  | .entry committed =>
      if committed.entryType = .entryNormal ∧ committed.data ≠ [] then
        match kvCodec.decode committed.data with
        | .ok ⟨some put⟩ => kv.insert put.key put.value
        | _ => kv
      else kv

def Ready.items (ready : Ready) : List Item :=
  (if ready.snapshot.isEmpty then [] else [.snapshot ready.snapshot.data]) ++
    ready.committedEntries.map .entry

def Effect.items : Effect → List Item
  | .ready rd => rd.items
  | .light rd => rd.committedEntries.map .entry
  | _ => []

/-- These are the delivered items in delivery order. -/
def delivered (trace : List Effect) : List Item := trace.flatMap Effect.items

/-- This is the left fold of the delivered items from the empty map. -/
def foldDelivered (kvCodec : KvCodec) (snapshotCodec : SnapshotCodec) (items : List Item) : KvMap :=
  items.foldl (Item.deliver kvCodec snapshotCodec) ∅

namespace Driver

open Attempt (Within Fixes Maps Reaches)

variable {X : Externals}

/-- This observation pairs the map with the items delivered so far. -/
def kvView (driver : Driver X) : KvMap × List Item := (driver.kvNode.kv, delivered driver.trace)

/-- Between two states raft delivers some items, and the map folds exactly these. -/
def Folds (before after : Driver X) : Prop :=
  ∃ items, after.kvNode.kv = items.foldl (Item.deliver X.kvCodec X.snapshotCodec) before.kvNode.kv ∧
    delivered after.trace = delivered before.trace ++ items

instance foldsPreorder : IsPreorder (Driver X) Folds where
  refl _ := ⟨[], rfl, (List.append_nil _).symm⟩
  trans first second third := by
    intro ⟨items, kv, listed⟩ ⟨items', kv', listed'⟩
    refine ⟨items ++ items', ?_, ?_⟩
    · rw [kv', kv, List.foldl_append]
    · rw [listed', listed, List.append_assoc]

/-- What reaches the map is read from the outputs only. -/
theorem delivered_outputs (trace : List Effect) : delivered trace = delivered (outputs trace) :=
  flatMap_outputs (fun effect silent => by cases effect <;> first | rfl | cases silent) trace

/-- The map and the deliveries stay when no output of raft comes in. -/
theorem kvView_eq {before after : Driver X} (kvNode : after.kvNode = before.kvNode)
    (same : outputs after.trace = outputs before.trace) : after.kvView = before.kvView := by
  rw [kvView, kvView, kvNode, delivered_outputs, same, ← delivered_outputs]

section Fixes

variable {Error Value : Type} {first : Attempt (Driver X) Error Value}

/-- Quiet computations keep the map and its history. -/
theorem fixes_of_quiet (quiet : Within Quiet first) : Fixes kvView first :=
  fun driver => kvView_eq (quiet driver).kvNode (quiet driver).outputs

/-- Storage calls keep the map and its history. -/
theorem fixes_of_stores (stores : Within Stores first) : Fixes kvView first :=
  fun driver => kvView_eq (stores driver).kvNode (stores driver).outputs

/-- Handled commands keep the map and its history. -/
theorem fixes_of_handles (handles : Within Handles first) : Fixes kvView first :=
  fun driver => kvView_eq (handles driver).kvNode (handles driver).outputs

end Fixes

/-- The report of an applied entry keeps the map and its history. -/
theorem reportApplied_fixes (entry : Entry) (result : Except String Unit) :
    Fixes kvView (reportApplied entry result : Attempt (Driver X) RaftLoopError Unit) :=
  fun driver => kvView_eq (reportApplied_reports entry result driver).kvNode
    (reportApplied_reports entry result driver).outputs

/-- The state machine runs a normal entry as its delivery does. -/
theorem applyKvCommand_maps {entry : Entry} (normal : entry.entryType = .entryNormal)
    (filled : entry.data ≠ []) :
    Maps kvView (fun seen => (Item.deliver X.kvCodec X.snapshotCodec seen.1 (.entry entry), seen.2))
      (applyKvCommand entry : Attempt (Driver X) RaftLoopError (Except String Unit)) := by
  intro driver value final done
  simp only [applyKvCommand, Prod.mk.injEq] at done
  rw [← done.2]
  apply Prod.ext
  · simp only [kvView, Node.applyKvCommand, Item.deliver]
    rw [if_pos ⟨normal, filled⟩]
    rcases X.kvCodec.decode entry.data with text | ⟨_ | put⟩ <;> rfl
  · simp [kvView, delivered, Effect.items]

/-- A configuration change keeps the map and its history. -/
theorem applyConfEntry_fixes (decode : Bytes → Except String X.Change) (entry : Entry) :
    Fixes kvView (applyConfEntry decode entry : Attempt (Driver X) RaftLoopError Unit) :=
  applyConfEntry_within (fun _ => fixes_of_quiet (withRaft_quiet _)) fun cs =>
    fixes_of_stores (persistConfState_stores entry cs)

/-- One entry of any type and any data changes the map as its delivery does. -/
theorem applyEntry_maps (entry : Entry) :
    Maps kvView (fun seen => (Item.deliver X.kvCodec X.snapshotCodec seen.1 (.entry entry), seen.2))
      (applyEntry entry : Attempt (Driver X) RaftLoopError Unit) := by
  have skipped (same : ∀ kv, Item.deliver X.kvCodec X.snapshotCodec kv (.entry entry) = kv)
      {first : Attempt (Driver X) RaftLoopError Unit} (fixes : Fixes kvView first) :
      Maps kvView (fun seen => (Item.deliver X.kvCodec X.snapshotCodec seen.1 (.entry entry), seen.2))
        first := by
    simp only [same]
    exact Fixes.maps fixes
  unfold applyEntry
  split
  · case isTrue empty =>
      have nothing : entry.data = [] := List.isEmpty_iff.mp empty
      exact skipped (fun kv => by simp [Item.deliver, nothing]) (Within.pure ())
  · case isFalse filled =>
      have something : entry.data ≠ [] := by simpa using filled
      split
      · case h_1 normal =>
          have reported (result : Except String Unit) : Fixes kvView (reportApplied entry result >>=
              fun _ => setAppliedIndex entry.index : Attempt (Driver X) RaftLoopError Unit) :=
            Within.bind (reportApplied_fixes entry result) fun _ =>
              fixes_of_stores (setAppliedIndex_stores entry.index)
          exact Maps.bind (applyKvCommand_maps normal something) fun result =>
            Fixes.maps (reported result)
      · case h_2 change =>
          exact skipped (fun kv => by simp [Item.deliver, change]) (applyConfEntry_fixes _ entry)
      · case h_3 change =>
          exact skipped (fun kv => by simp [Item.deliver, change]) (applyConfEntry_fixes _ entry)

/-- A batch is delivered to the map in its order. -/
theorem applyEntries_maps (entries : List Entry) :
    Maps kvView (fun seen =>
        ((entries.map .entry).foldl (Item.deliver X.kvCodec X.snapshotCodec) seen.1, seen.2))
      (applyEntries entries : Attempt (Driver X) RaftLoopError Unit) := by
  intro driver value final done
  have folded := Maps.forEach entries (fun entry _ => applyEntry_maps entry) driver value final done
  rw [folded]
  generalize driver.kvView = seen
  clear folded done
  induction entries generalizing seen with
  | nil => rfl
  | cons entry rest ih => exact ih _

/-- An installed snapshot replaces the map as its delivery does. -/
theorem applySnapshotPart_maps (ready : Ready) :
    Maps kvView (fun seen =>
        (((if ready.snapshot.isEmpty then [] else [.snapshot ready.snapshot.data]) : List Item).foldl
          (Item.deliver X.kvCodec X.snapshotCodec) seen.1, seen.2))
      (applySnapshotPart ready : Attempt (Driver X) RaftLoopError Unit) := by
  unfold applySnapshotPart
  split
  · exact Fixes.maps (Within.pure ())
  · intro driver value final done
    obtain ⟨_, stored, store, done⟩ := Attempt.bind_eq_ok.mp done
    obtain ⟨_, restored, restore, done⟩ := Attempt.bind_eq_ok.mp done
    obtain ⟨_, counted, count, done⟩ := Attempt.bind_eq_ok.mp done
    have storing := Fixes.maps (fixes_of_stores (Within.relabel _ (withStore_stores _))) _ _ _ store
    have counting := Fixes.maps (fixes_of_stores (setAppliedIndex_stores _)) _ _ _ count
    have notifying := Fixes.maps (fixes_of_quiet (notify_quiet _)) _ _ _ done
    have restoring : restored.kvView = (Item.deliver X.kvCodec X.snapshotCodec stored.kvView.1
        (.snapshot ready.snapshot.data), stored.kvView.2) := by
      simp only [restoreSnapshot, Node.restoreFromSnapshot, Prod.mk.injEq] at restore
      rw [← restore.2]
      cases decoded : X.snapshotCodec.decode ready.snapshot.data with
      | error error =>
          rw [decoded] at restore
          cases restore.1
      | ok kv => simp [kvView, Item.deliver, decoded]
    rw [notifying, counting, restoring, storing]
    rfl

/-- A processed ready hands out its items and those of its light ready, and the map folds them. -/
theorem processReady_folds : Reaches Folds (processReady : Attempt (Driver X) RaftLoopError Unit) := by
  intro before _ after done
  obtain ⟨run⟩ := processReady_ok done
  have taken : run.taken.kvView = (before.kvView.1, before.kvView.2 ++ run.ready.items) := by
    rw [run.taken_eq]
    simp [kvView, delivered, Effect.items]
  have advanced : run.advanced.kvView =
      (run.shown.kvView.1, run.shown.kvView.2 ++ run.light.committedEntries.map .entry) := by
    rw [run.advanced_eq]
    simp [kvView, delivered, Effect.items]
  have shown : run.shown.kvView = run.applied.kvView :=
    (fixes_of_quiet updateTuiState_quiet).maps _ _ _ run.present
  obtain ⟨applied, finished⟩ := run.observe (fun _ => fixes_of_quiet (sendMessages_quiet _))
    (applySnapshotPart_maps _)
    (fixes_of_stores (appendEntriesPart_stores _)).maps
    (fixes_of_stores (persistHardstatePart_stores _)).maps (applyEntries_maps _) (applyEntries_maps _)
  rw [advanced, shown, applied, id, id, taken] at finished
  refine ⟨run.ready.items ++ run.light.committedEntries.map .entry, ?_, ?_⟩
  · have map := congrArg Prod.fst finished
    rw [List.foldl_append, Ready.items, List.foldl_append]
    exact map
  · have listed := congrArg Prod.snd finished
    rw [← List.append_assoc]
    exact listed

/-- What keeps the map and its history keeps the fold. -/
theorem folds_of_fixes {Error Value : Type} {first : Attempt (Driver X) Error Value}
    (fixes : Fixes kvView first) : Within Folds first := by
  intro driver
  have same := fixes driver
  refine ⟨[], congrArg Prod.fst same, ?_⟩
  rw [List.append_nil]
  exact congrArg Prod.snd same

/-- Every run of the loop delivers its items to the map and to nothing else. -/
theorem performAll_folds (actions : List Action) :
    Reaches Folds (performAll actions : Attempt (Driver X) RaftLoopError Unit) :=
  performAll_reaches processReady_folds
    (fun _ other => folds_of_fixes (fixes_of_handles (perform_handles other))) actions

/-- From a fresh start the map is the fold of the delivered items. -/
theorem performAll_kv {start final : Driver X} {actions : List Action} (fresh : Fresh start)
    (done : performAll actions start = (.ok (), final)) :
    final.kvNode.kv = foldDelivered X.kvCodec X.snapshotCodec (delivered final.trace) := by
  obtain ⟨items, kv, listed⟩ := performAll_folds actions start () final done
  rw [fresh.trace] at listed
  rw [fresh.kvNode] at kv
  rw [listed]
  exact kv

/-- A map is the fold of what consensus delivered. Equal deliveries give equal maps on any two nodes. -/
theorem kv_foldDelivered {start final : Driver X} {actions : List Action} (fresh : Fresh start)
    (done : performAll actions start = (.ok (), final)) :
    final.kvNode.kv = foldDelivered X.kvCodec X.snapshotCodec (delivered final.trace) ∧
      ∀ (Y : Externals) (other last : Driver Y) (others : List Action),
        Y.kvCodec = X.kvCodec → Y.snapshotCodec = X.snapshotCodec → Fresh other →
        performAll others other = (.ok (), last) → delivered last.trace = delivered final.trace →
        last.kvNode.kv = final.kvNode.kv := by
  refine ⟨performAll_kv fresh done, ?_⟩
  intro Y other last others codec snapshots freshOther doneOther same
  rw [performAll_kv fresh done, performAll_kv freshOther doneOther, codec, snapshots, same]

/-- This leader takes a put and gets its entry back in a ready. -/
def foldLeader : Except RaftLoopError Unit × Driver scripted :=
  performAll [.command (.rpc (.put "k" "v" 7)), .ready] <| scriptedDriver
    (.begin .leader [{ Ready.default with committedEntries := [scriptedPut 1 1 0 "k" "v"] }] [] [])
    (.newWithDisk .new [])

/-- This follower gets the same entry in a light ready. -/
def foldFollower : Except RaftLoopError Unit × Driver scripted :=
  performAll [.ready] <| scriptedDriver
    (.begin .follower [.default]
      [{ LightReady.default with committedEntries := [scriptedPut 1 1 0 "k" "v"] }] [])
    (.new scripted.mem)

/-- The leader and the follower end with the same map. -/
theorem kv_foldDelivered_put :
    foldLeader.2.kvNode.kv =
        foldDelivered Protobuf.kvCodec Bincode.snapshotCodec (delivered foldLeader.2.trace) ∧
      foldFollower.2.kvNode.kv = foldLeader.2.kvNode.kv ∧ foldLeader.2.kvNode.kv["k"]? = some "v" := by
  have leading : foldLeader = (.ok (), foldLeader.2) := Attempt.eq_ok (by decide +kernel)
  have following : foldFollower = (.ok (), foldFollower.2) := Attempt.eq_ok (by decide +kernel)
  have folded := kv_foldDelivered (scriptedDriver_fresh _ _) leading
  refine ⟨folded.1, ?_, by decide +kernel⟩
  exact folded.2 scripted _ _ _ rfl rfl (scriptedDriver_fresh _ _) following (by decide +kernel)

end Driver

end RaftATui
