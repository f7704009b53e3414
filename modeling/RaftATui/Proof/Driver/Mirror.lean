import RaftATui.Proof.Driver.Screen

namespace RaftATui
open Machinery

def StateUpdate.put : StateUpdate → Option (String × String)
  | .kvUpdate key value => some (key, value)
  | _ => none

/-- The map of the TUI replays the pairs of its updates. -/
theorem Server.App.consume_kvStore (app : Server.App) (updates : List StateUpdate) :
    (app.consume updates).kvStore = updates.foldl (Overwrite.write StateUpdate.put) app.kvStore := by
  induction updates generalizing app with
  | nil => rfl
  | cons update rest ih =>
      have step : (app.applyStateUpdate update).kvStore =
          Overwrite.write StateUpdate.put app.kvStore update := by cases update <;> rfl
      rw [List.foldl_cons, ← step, ← ih]
      rfl

def Item.asEntry : Item → Option Entry
  | .snapshot _ => none
  | .entry committed => some committed

/-- These are the entries among the items. -/
def committedIn (items : List Item) : List Entry := items.filterMap Item.asEntry

@[simp] theorem committedIn_append (first second : List Item) :
    committedIn (first ++ second) = committedIn first ++ committedIn second := List.filterMap_append

/-- The committed entries are read back from their items. -/
theorem committedIn_entries (entries : List Entry) : committedIn (entries.map .entry) = entries := by
  rw [committedIn, List.filterMap_map]
  exact List.filterMap_some (l := entries)

/-- A snapshot moves all entries so far behind it into the past. -/
def Item.past : List Entry × List Entry → Item → List Entry × List Entry
  | (all, _), .snapshot _ => (all, all)
  | (all, past), .entry committed => (all ++ [committed], past)

/-- These are the entries before the last delivered snapshot. -/
def beforeSnapshot (items : List Item) : List Entry := (items.foldl Item.past ([], [])).2

/-- The last snapshot splits the delivered entries. -/
theorem committedIn_eq (items : List Item) :
    committedIn items = beforeSnapshot items ++ (sinceSnapshot items).2 := by
  have both : (items.foldl Item.past ([], [])).1 = committedIn items ∧
      committedIn items = beforeSnapshot items ++ (sinceSnapshot items).2 := by
    induction items using List.reverseRecOn with
    | nil => exact ⟨rfl, rfl⟩
    | append_singleton items item ih =>
        obtain ⟨all, split⟩ := ih
        unfold beforeSnapshot sinceSnapshot at split ⊢
        rw [List.foldl_concat, List.foldl_concat, committedIn_append]
        cases item with
        | snapshot data =>
            have none : committedIn [.snapshot data] = [] := rfl
            simp [Item.past, Item.since, none, all]
        | entry entry =>
            have one : committedIn [.entry entry] = [entry] := rfl
            simp [Item.past, Item.since, one, all, split]
  exact both.2

/-- The puts before the last snapshot give its map, except on the keys that later entries put. -/
def Agrees (kvCodec : KvCodec) (snapshotCodec : SnapshotCodec) (items : List Item) : Prop :=
  ∀ key, (∃ entry ∈ (sinceSnapshot items).2, ∃ value, entry.puts kvCodec = some (key, value)) ∨
    ((beforeSnapshot items).foldl (Overwrite.write (Entry.puts kvCodec)) ∅)[key]? =
      (restored snapshotCodec (sinceSnapshot items).1)[key]?

/-- The replayed entries give the map exactly when each installed snapshot agrees with them. -/
theorem replay_eq_foldDelivered_iff {kvCodec : KvCodec} {snapshotCodec : SnapshotCodec} {items : List Item}
    (decodes : Decodes snapshotCodec items) :
    (committedIn items).foldl (Overwrite.write (Entry.puts kvCodec)) ∅ =
        foldDelivered kvCodec snapshotCodec items ↔ Agrees kvCodec snapshotCodec items := by
  rw [committedIn_eq, List.foldl_append, foldDelivered_since kvCodec decodes, Overwrite.replay_eq_iff]
  rfl

namespace Driver

open Attempt (Within Fixes Maps Reaches)

variable {X : Externals}

/-- What the TUI reads of the entries are their puts. -/
theorem applyEntries_put (entries : List Entry) :
    Maps (seen StateUpdate.put) (Option.map (· ++ entries.filterMap (Entry.puts X.kvCodec)))
      (applyEntries entries : Attempt (Driver X) RaftLoopError Unit) := by
  have same : (fun entry : Entry => (entry.puts X.kvCodec).bind fun pair =>
      StateUpdate.put (.kvUpdate pair.1 pair.2)) = Entry.puts X.kvCodec := by
    funext entry
    cases entry.puts X.kvCodec <;> rfl
  have told := @applyEntries_seen X _ StateUpdate.put entries
  rw [same] at told
  exact told

/-- The TUI gets the pairs of exactly the entries that raft delivers. -/
def Echoes (before after : Driver X) : Prop :=
  ∃ items, delivered after.trace = delivered before.trace ++ items ∧
    after.seen StateUpdate.put =
      (before.seen StateUpdate.put).map (· ++ (committedIn items).filterMap (Entry.puts X.kvCodec))

instance echoesPreorder : IsPreorder (Driver X) Echoes where
  refl driver := ⟨[], by simp, by cases driver.seen StateUpdate.put <;> simp [committedIn]⟩
  trans first second third := by
    intro ⟨items, listed, told⟩ ⟨items', listed', told'⟩
    refine ⟨items ++ items', ?_, ?_⟩
    · rw [listed', listed, List.append_assoc]
    · rw [told', told, Option.map_map]
      congr 1
      funext pairs
      simp

/-- A ready echoes each delivered entry to the TUI. -/
theorem processReady_echoes : Reaches Echoes (processReady : Attempt (Driver X) RaftLoopError Unit) := by
  intro before _ after done
  obtain ⟨run⟩ := processReady_ok done
  have displayed : run.shown.seen StateUpdate.put = run.applied.seen StateUpdate.put := by
    rw [updateTuiState_seen run.present]
    cases run.applied.seen StateUpdate.put <;> simp [StateUpdate.put]
  obtain ⟨applied, finished⟩ := run.observe (fun _ => seen_of_screen (sendMessages_screen _))
    (seen_of_screen (applySnapshotPart_screen _)).maps (seen_of_screen (appendEntriesPart_screen _)).maps
    (seen_of_screen (persistHardstatePart_screen _)).maps (applyEntries_put _) (applyEntries_put _)
  refine ⟨run.ready.items ++ run.light.committedEntries.map .entry, ?_, ?_⟩
  · rw [delivered_outputs, run.outputs, delivered, List.flatMap_append, ← delivered, ← delivered_outputs]
    simp [Effect.items]
  · have handed : committedIn run.ready.items = run.ready.committedEntries := by
      rw [Ready.items, committedIn_append, committedIn_entries]
      split <;> rfl
    rw [finished, seen_congr run.advanced_screen, displayed, applied, id, id, id,
      seen_congr run.taken_screen, Option.map_map, committedIn_append, handed, committedIn_entries]
    congr 1
    funext pairs
    simp

/-- Each run echoes its delivered entries to the TUI. -/
theorem performAll_echoes (actions : List Action) :
    Reaches Echoes (performAll actions : Attempt (Driver X) RaftLoopError Unit) := by
  apply performAll_reaches processReady_echoes
  intro action other before
  refine ⟨[], ?_, ?_⟩
  · rw [delivered_outputs, (perform_handles other before).outputs, ← delivered_outputs, List.append_nil]
  · rw [seen_congr (perform_screen other before)]
    cases before.seen StateUpdate.put <;> simp [committedIn]

/-- At every point of a run the TUI shows the map of the node exactly when the puts before the last installed
snapshot give its map on the keys that no later entry puts. -/
theorem kvStore_eq_kv_iff {start final : Driver X} {actions : List Action} (fresh : Fresh start)
    (watched : start.Watched) (nodeId : Nat) (done : performAll actions start = (.ok (), final)) :
    ((Server.App.new nodeId).consume (updates final.trace)).kvStore = final.kvNode.kv ↔
      Agrees X.kvCodec X.snapshotCodec (delivered final.trace) := by
  obtain ⟨items, listed, told⟩ := performAll_echoes actions start () final done
  have decodes := performAll_decodes actions start () final done (by
    rw [fresh.trace]
    exact fun data inside => by cases inside)
  rw [fresh.trace] at listed
  have all : delivered final.trace = items := listed
  rw [seen_eq watched, fresh.trace] at told
  have pairs : (updates final.trace).filterMap StateUpdate.put =
      (committedIn items).filterMap (Entry.puts X.kvCodec) := by
    rw [← filterMap_shown (fun update text => by cases update <;> first | rfl | cases text)]
    exact seen_some told
  have kv := performAll_kv fresh done
  rw [← replay_eq_foldDelivered_iff decodes, ← kv, Server.App.consume_kvStore, Overwrite.replay_filterMap,
    pairs, ← Overwrite.replay_filterMap, all]
  rfl

/-- This node gets a snapshot of one pair and then the given entries. -/
def mirroringNode (entries : List Entry) : Driver scripted := scriptedDriver
  (.begin .follower
    [{ Ready.default with
        hs := some ⟨1, 0, 1⟩
        snapshot := ⟨Bincode.encodeMap {("k", "v")}, ⟨{ voters := [1] }, 1, 1⟩⟩ },
      { Ready.default with hs := some ⟨1, 0, 2⟩, entries := entries, committedEntries := entries }] [] [])
  (RaftNode.newStore scripted.mem [1] (.newWithDisk .new []))

/-- The TUI of the example receives from the start. -/
theorem mirroringNode_watched (entries : List Entry) : (mirroringNode entries).Watched := fun _ => rfl

/-- A later put of the same key closes the gap. -/
theorem kvStore_eq_kv_iff_put :
    (performAll [.ready, .ready] (mirroringNode [scriptedPut 1 2 0 "k" "w"])).2.kvNode.kv["k"]? = some "w" ∧
      (((Server.App.new 1).consume
          (updates (performAll [.ready, .ready] (mirroringNode [scriptedPut 1 2 0 "k" "w"])).2.trace)).kvStore =
        (performAll [.ready, .ready] (mirroringNode [scriptedPut 1 2 0 "k" "w"])).2.kvNode.kv ↔
        Agrees Protobuf.kvCodec Bincode.snapshotCodec
          (delivered (performAll [.ready, .ready] (mirroringNode [scriptedPut 1 2 0 "k" "w"])).2.trace)) :=
  ⟨by decide +kernel, kvStore_eq_kv_iff (scriptedDriver_fresh _ _) (mirroringNode_watched _) 1
    (Attempt.eq_ok (by decide +kernel))⟩

/-- The TUI shows nothing of an installed snapshot. -/
theorem applySnapshot_unseen :
    Fresh (mirroringNode []) ∧ (mirroringNode []).Watched ∧
      (performAll [.ready] (mirroringNode [])).1 = .ok () ∧
      (performAll [.ready] (mirroringNode [])).2.kvNode.kv["k"]? = some "v" ∧
      ((Server.App.new 1).consume (updates (performAll [.ready] (mirroringNode [])).2.trace)).kvStore = ∅ :=
  ⟨scriptedDriver_fresh _ _, mirroringNode_watched _, by decide +kernel, by decide +kernel, by decide +kernel⟩

end Driver

end RaftATui
