import RaftATui.Library.OrderedTree

/-
This file gives the rules for a sequence of writes that is replayed over a tree.
-/

namespace Machinery.Overwrite

variable {Item Key Value : Type} {put : Item → Option (Key × Value)}

section Written

variable [DecidableEq Key]

/-- This is the value that the items write last under a key. -/
def written (put : Item → Option (Key × Value)) : List Item → Key → Option Value
  | [], _ => none
  | item :: rest, key =>
      (written put rest key).or ((put item).bind fun pair => if pair.1 = key then some pair.2 else none)

theorem written_eq_none {items : List Item} {key : Key} :
    written put items key = none ↔ ∀ item ∈ items, ∀ value, put item ≠ some (key, value) := by
  induction items with
  | nil => simp [written]
  | cons item rest ih =>
      rw [written, Option.or_eq_none_iff, ih, List.forall_mem_cons, and_comm]
      refine and_congr_left fun _ => ?_
      cases put item with
      | none => simp
      | some pair =>
          obtain ⟨first, value⟩ := pair
          simp only [Option.bind_some, ite_eq_right_iff, reduceCtorEq, imp_false, ne_eq, Option.some.injEq,
            Prod.mk.injEq, not_and]
          exact ⟨fun other _ same => absurd same other, fun free same => free value same rfl⟩

/-- The last value under a key is written by an item behind all others that write it. -/
theorem written_eq_some {items : List Item} {key : Key} {final : Value} (found : written put items key = some final) :
    ∃ (last : Nat) (writer : Item), items[last]? = some writer ∧ put writer = some (key, final) ∧
      ∀ (index : Nat) (item : Item) (value : Value), items[index]? = some item → put item = some (key, value) →
        index ≤ last := by
  induction items with
  | nil => cases found
  | cons first rest ih =>
      rw [written] at found
      cases later : written put rest key with
      | none =>
          rw [later, Option.none_or, Option.bind_eq_some_iff] at found
          obtain ⟨⟨other, value⟩, wrote, same⟩ := found
          obtain ⟨rfl, equal⟩ := Option.ite_none_right_eq_some.mp same
          obtain rfl := Option.some.inj equal
          refine ⟨0, first, rfl, wrote, fun index item value present wrote => ?_⟩
          cases index with
          | zero => exact Nat.le_refl 0
          | succ index => exact absurd wrote (written_eq_none.mp later item (List.mem_of_getElem? present) value)
      | some answer =>
          rw [later, Option.some_or] at found
          obtain ⟨last, writer, present, wrote, behind⟩ := ih (later.trans found)
          refine ⟨last + 1, writer, present, wrote, fun index item value there wrote => ?_⟩
          cases index with
          | zero => exact Nat.zero_le _
          | succ index => exact Nat.succ_le_succ (behind index item value there wrote)

end Written

variable [Ord Key] [Std.TransOrd Key]

/-- An item writes one pair or nothing. -/
def write (put : Item → Option (Key × Value)) (tree : Std.ExtTreeMap Key Value) (item : Item) :
    Std.ExtTreeMap Key Value :=
  match put item with
  | some (key, value) => tree.insert key value
  | none => tree

/-- A replay inserts the pairs of its items. -/
theorem replay_filterMap (items : List Item) (tree : Std.ExtTreeMap Key Value) :
    items.foldl (write put) tree = OrderedTree.insertAll tree (items.filterMap put) := by
  induction items generalizing tree with
  | nil => rfl
  | cons item rest ih =>
      rw [List.foldl_cons, ih, write]
      cases wrote : put item with
      | none => rw [List.filterMap_cons_none wrote]
      | some pair =>
          rw [List.filterMap_cons_some wrote]
          rfl

variable [Std.LawfulEqOrd Key] [DecidableEq Key]

theorem getElem?_write (tree : Std.ExtTreeMap Key Value) (item : Item) (key : Key) :
    (write put tree item)[key]? =
      ((put item).bind fun pair => if pair.1 = key then some pair.2 else none).or tree[key]? := by
  unfold write
  cases put item with
  | none => rfl
  | some pair =>
      rw [OrderedTree.getElem?_insert, Option.bind_some]
      by_cases same : pair.1 = key
      · rw [if_pos same, if_pos same, Option.some_or]
      · rw [if_neg same, if_neg same, Option.none_or]

/-- A replay reads what it wrote last, and below that the first tree. -/
theorem getElem?_replay (items : List Item) (tree : Std.ExtTreeMap Key Value) (key : Key) :
    (items.foldl (write put) tree)[key]? = (written put items key).or tree[key]? := by
  induction items generalizing tree with
  | nil => rfl
  | cons item rest ih => rw [List.foldl_cons, ih, getElem?_write, written, Option.or_assoc]

/-- A replay changes nothing when the tree holds each pair that is written last. -/
theorem replay_eq_self_iff {items : List Item} {tree : Std.ExtTreeMap Key Value} :
    items.foldl (write put) tree = tree ↔
      ∀ key value, written put items key = some value → tree[key]? = some value := by
  constructor
  · intro same key value wrote
    have lookup := @getElem?_replay _ _ _ put _ _ _ _ items tree key
    rw [same, wrote, Option.some_or] at lookup
    exact lookup
  · intro held
    apply Std.ExtTreeMap.ext_getElem?
    intro key
    rw [getElem?_replay]
    cases wrote : written put items key with
    | none => exact Option.none_or
    | some value => rw [Option.some_or, held key value wrote]

/-- Two replays agree when the trees do on each key that the items leave as it is. -/
theorem replay_eq_iff {items : List Item} {first second : Std.ExtTreeMap Key Value} :
    items.foldl (write put) first = items.foldl (write put) second ↔
      ∀ key, (∃ item ∈ items, ∃ value, put item = some (key, value)) ∨ first[key]? = second[key]? := by
  constructor
  · intro same key
    by_contra differs
    have free : written put items key = none := written_eq_none.mpr fun item inside value wrote =>
      differs (Or.inl ⟨item, inside, value, wrote⟩)
    have lookups := congrArg (fun later : Std.ExtTreeMap Key Value => later[key]?) same
    simp only [getElem?_replay, free, Option.none_or] at lookups
    exact differs (Or.inr lookups)
  · intro agree
    apply Std.ExtTreeMap.ext_getElem?
    intro key
    rw [getElem?_replay, getElem?_replay]
    rcases agree key with ⟨item, inside, value, wrote⟩ | same
    · cases found : written put items key with
      | some value => rfl
      | none => exact absurd wrote (written_eq_none.mp found item inside value)
    · rw [same]

/-- A replay over nothing gives what it gives over a tree when it writes each key of the tree. -/
theorem replay_empty_iff {items : List Item} {tree : Std.ExtTreeMap Key Value} :
    items.foldl (write put) ∅ = items.foldl (write put) tree ↔
      ∀ key ∈ tree, ∃ item ∈ items, ∃ value, put item = some (key, value) := by
  rw [replay_eq_iff]
  refine forall_congr' fun key => ?_
  rw [Std.ExtTreeMap.getElem?_empty, Std.ExtTreeMap.mem_iff_isSome_getElem?]
  cases tree[key]? <;> simp

/-- A replay over nothing gives nothing when it writes nothing. -/
theorem replay_eq_empty_iff {items : List Item} :
    items.foldl (write put) ∅ = ∅ ↔ ∀ item ∈ items, put item = none := by
  constructor
  · intro empty item inside
    by_contra some
    obtain ⟨⟨key, value⟩, wrote⟩ := Option.ne_none_iff_exists'.mp some
    have lookups := congrArg (fun later : Std.ExtTreeMap Key Value => later[key]?) empty
    simp only [getElem?_replay, Std.ExtTreeMap.getElem?_empty, Option.or_none] at lookups
    exact written_eq_none.mp lookups item inside value wrote
  · intro silent
    apply Std.ExtTreeMap.ext_getElem?
    intro key
    have free : written put items key = none := written_eq_none.mpr fun item inside value wrote => by
      rw [silent item inside] at wrote
      cases wrote
    rw [getElem?_replay, free, Option.none_or]

end Machinery.Overwrite
