import RaftATui.Proof.Snapshot.Format

namespace RaftATui
open Machinery
open Bincode

/-- A restore accepts no bytes but the empty ones and the encoding of its map. It refuses all others with an
error and without a change. -/
structure Detects (crate : Crate) (kv : KvMap) (bytes : Bytes) : Prop where
  accepted : ∀ node, crate.restoreFromSnapshot bytes ⟨kv⟩ = some (.ok (), node) →
    (bytes = [] ∧ node.kv = ∅) ∨ crate.encodeToVec node.kv = .ok bytes
  refused : (∀ node, crate.restoreFromSnapshot bytes ⟨kv⟩ ≠ some (.ok (), node)) →
    ∃ error, crate.restoreFromSnapshot bytes ⟨kv⟩ = some (.error error, ⟨kv⟩)

/-- The bytes announce no string that cannot be allocated. Where they begin with a spelling of pairs, it is all
of them, its lengths have the least widths, and its keys ascend. -/
structure Proper (memory : Memory) (bytes : Bytes) : Prop where
  sized : ¬ Oversized memory bytes
  whole : ∀ pairs part rest, SpellsMap pairs part → bytes = part ++ rest →
    rest = [] ∧ part = shortest pairs ∧ Ascending pairs

variable {memory : Memory} {crate : Crate} {bytes : Bytes} {kv : KvMap} {node : Node}

/-- No bytes announce nothing. -/
theorem not_oversized_nil (memory : Memory) : ¬ Oversized memory [] := by
  rintro ⟨count, len, rest, counted, same, _⟩
  exact counted.filled (List.append_eq_nil_iff.mp same.symm).1

/-- A restore aborts exactly where the decode does. -/
theorem restoreFromSnapshot_eq_none_iff : crate.restoreFromSnapshot bytes node = none ↔ crate.decode bytes = none :=
  Option.map_eq_none_iff

/-- A restore accepts exactly what is decoded. -/
theorem restoreFromSnapshot_accepts_iff :
    crate.restoreFromSnapshot bytes node = some (.ok (), ⟨kv⟩) ↔ crate.decode bytes = some (.ok kv) := by
  rw [← Crate.codec_decode_iff, ← @restoreFromSnapshot_ok_iff _ _ _ node, Crate.restoreFromSnapshot,
    Option.map_eq_some_iff]
  constructor
  · rintro ⟨_, _, restored⟩
    exact restored
  · intro restored
    have decoded := Crate.codec_decode_iff.mp (restoreFromSnapshot_ok_iff.mp restored)
    exact ⟨_, decoded, restored⟩

/-- A restore that does not abort and does not succeed keeps the node. -/
theorem restoreFromSnapshot_refuses (ends : crate.decode bytes ≠ none)
    (refused : ∀ after, crate.restoreFromSnapshot bytes node ≠ some (.ok (), after)) :
    ∃ error, crate.restoreFromSnapshot bytes node = some (.error error, node) := by
  obtain ⟨result, decoded⟩ := Option.ne_none_iff_exists'.mp ends
  cases result with
  | ok kv => exact absurd (restoreFromSnapshot_accepts_iff.mpr decoded) (refused ⟨kv⟩)
  | error error =>
      refine ⟨error, ?_⟩
      simp [Crate.restoreFromSnapshot, Node.restoreFromSnapshot, Crate.codec, decoded]

/-- A spelling is decoded unless the bytes are oversized. -/
theorem decode_spelled (standard : crate.Standard memory) {pairs : List (String × String)} {part rest : Bytes}
    (spelled : SpellsMap pairs part) (sized : ¬ Oversized memory (part ++ rest)) :
    crate.decode (part ++ rest) = some (.ok (Std.ExtTreeMap.ofList pairs)) := by
  have filled : part ++ rest ≠ [] := List.append_ne_nil_of_left_ne_nil spelled.filled rest
  exact (Crate.decode_iff filled).mpr
    ⟨_, (standard.decodes _ _ _).mpr ⟨pairs, part, rest, spelled, spelled.held sized, rfl, rfl, rfl⟩⟩

/-- A restore detects malformed bytes exactly when they announce no string that cannot be allocated and no
improper spelling begins them. -/
theorem restoreFromSnapshot_detects_iff (standard : crate.Standard memory) (kv : KvMap) (bytes : Bytes) :
    Detects crate kv bytes ↔ Proper memory bytes := by
  constructor
  · rintro ⟨accepted, refused⟩
    have sized : ¬ Oversized memory bytes := by
      intro oversized
      have filled : bytes ≠ [] := fun empty => not_oversized_nil memory (empty ▸ oversized)
      have aborted : crate.restoreFromSnapshot bytes ⟨kv⟩ = none :=
        restoreFromSnapshot_eq_none_iff.mpr ((Crate.decode_eq_none_iff filled).mpr ((standard.aborts bytes).mpr oversized))
      obtain ⟨error, returned⟩ := refused fun node => by simp [aborted]
      rw [aborted] at returned
      cases returned
    refine ⟨sized, fun pairs part rest spelled same => ?_⟩
    subst same
    rcases accepted ⟨_⟩ (restoreFromSnapshot_accepts_iff.mpr (decode_spelled standard spelled sized)) with
      ⟨empty, _⟩ | encoded
    · exact absurd empty (List.append_ne_nil_of_left_ne_nil spelled.filled rest)
    · -- The encoding of the map is a spelling of the same bytes, so it is the given one.
      obtain ⟨held, same⟩ := (standard.encodes _ _).mp encoded
      obtain ⟨listed, whole, nothing⟩ := spelled.unique (shortest_spells held.fits)
        (same.trans (List.append_nil _).symm)
      refine ⟨nothing, by rw [whole, ← listed], ?_⟩
      rw [listed]
      exact Std.ExtTreeMap.ordered_keys_toList
  · rintro ⟨sized, whole⟩
    refine ⟨fun node restored => ?_, restoreFromSnapshot_refuses ?_⟩
    · have decoded := restoreFromSnapshot_accepts_iff.mp restored
      by_cases filled : bytes = []
      · subst filled
        exact Or.inl ⟨rfl, (Except.ok.inj (Option.some.inj decoded)).symm⟩
      · obtain ⟨read, found⟩ := (Crate.decode_iff filled).mp decoded
        obtain ⟨pairs, part, rest, spelled, held, rfl, _, same⟩ := (standard.decodes _ _ _).mp found
        obtain ⟨rfl, least, ascending⟩ := whole pairs part rest spelled rfl
        have listed : node.kv.toList = pairs := by rw [same, OrderedTree.toList_ofList ascending]
        refine Or.inr ((standard.encodes _ _).mpr ?_)
        rw [listed, List.append_nil]
        exact ⟨held, least⟩
    · by_cases filled : bytes = []
      · subst filled
        exact fun none => by cases none
      · rw [Ne, Crate.decode_eq_none_iff filled, standard.aborts]
        exact sized

/-- The spelling with the least widths of ascending pairs is proper. -/
theorem proper_shortest {pairs : List (String × String)} (held : Held memory pairs) (ascending : Ascending pairs) :
    Proper memory (shortest pairs) := by
  have spells := shortest_spells held.fits
  refine ⟨by simpa using spells.not_oversized held [], fun others part rest spelled same => ?_⟩
  obtain ⟨rfl, rfl, rfl⟩ := spells.unique spelled ((List.append_nil _).trans same)
  exact ⟨rfl, rfl, ascending⟩

/-- A restore of one written pair is a restore of its own bytes. -/
theorem restoreFromSnapshot_detects_pair : Detects (standard .full) ∅ (shortest [("a", "1")]) :=
  (restoreFromSnapshot_detects_iff (standard_standard .full) ∅ _).mpr
    (proper_shortest (by decide +kernel) (List.pairwise_singleton _ _))

/-- The encoding of the empty map with one more byte clears the store. -/
theorem restoreFromSnapshot_trailing :
    (standard .full).Standard .full ∧
      (standard .full).restoreFromSnapshot [0, 7] ⟨{("k", "v")}⟩ = some (.ok (), ⟨∅⟩) ∧
      (standard .full).encodeToVec ∅ = .ok [0] ∧ ¬ Detects (standard .full) {("k", "v")} [0, 7] := by
  have restored : (standard .full).restoreFromSnapshot [0, 7] ⟨{("k", "v")}⟩ = some (.ok (), ⟨∅⟩) := rfl
  have encoded : (standard .full).encodeToVec ∅ = .ok [0] := rfl
  refine ⟨standard_standard .full, restored, encoded, fun detects => ?_⟩
  rcases detects.accepted ⟨∅⟩ restored with ⟨empty, _⟩ | same
  · cases empty
  · rw [encoded] at same
    cases same

/-- A snapshot of one string that announces the greatest length aborts the process with every crate. -/
theorem restoreFromSnapshot_aborts (standard : crate.Standard memory) (node : Node) :
    crate.restoreFromSnapshot [1, 253, 255, 255, 255, 255, 255, 255, 255, 255] node = none := by
  refine restoreFromSnapshot_eq_none_iff.mpr ((Crate.decode_eq_none_iff (by simp)).mpr ((standard.aborts _).mpr ?_))
  have refused : memory.allocates (2 ^ 64 - 1) = false := by
    rw [Bool.eq_false_iff]
    exact fun allocated => absurd (memory.capacity _ allocated) (by decide)
  refine ⟨1, [1], _, .single (by decide), rfl, [], [], 2 ^ 64 - 1, _, [], rfl, by decide, .eight (by decide), refused, rfl⟩

end RaftATui
