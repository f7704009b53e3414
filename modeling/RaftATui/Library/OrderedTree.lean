import Std.Data.ExtTreeMap
import Mathlib.Data.List.Sort
import Mathlib.Order.Compare

/-
This file relates the sorted listing of an ordered tree to its lookups.
-/

namespace Machinery.OrderedTree

theorem toList_nodup {Key Value : Type} [Ord Key] [Std.TransOrd Key] {tree : Std.ExtTreeMap Key Value} :
    tree.toList.Nodup := by
  have keys : (tree.toList.map Prod.fst).Nodup := by
    rw [Std.ExtTreeMap.map_fst_toList_eq_keys]
    exact Std.ExtTreeMap.nodup_keys
  exact List.Nodup.of_map Prod.fst keys

section Update

variable {Key Value : Type} [Ord Key] [Std.TransOrd Key] [Std.LawfulEqOrd Key] [DecidableEq Key]
  {tree : Std.ExtTreeMap Key Value}

theorem getElem?_insert (key query : Key) (value : Value) :
    (tree.insert key value)[query]? = if key = query then some value else tree[query]? := by
  rw [Std.ExtTreeMap.getElem?_insert]
  simp only [Std.LawfulEqOrd.compare_eq_iff_eq]

theorem getElem?_erase (key query : Key) :
    (tree.erase key)[query]? = if key = query then none else tree[query]? := by
  rw [Std.ExtTreeMap.getElem?_erase]
  simp only [Std.LawfulEqOrd.compare_eq_iff_eq]

/-- An ascending list is the listing of the tree that it builds. -/
theorem toList_ofList {pairs : List (Key × Value)}
    (ascending : pairs.Pairwise fun first second => compare first.1 second.1 = .lt) :
    (Std.ExtTreeMap.ofList pairs).toList = pairs := by
  let less : Key × Value → Key × Value → Prop := fun first second => compare first.1 second.1 = .lt
  have irreflexive : Std.Irrefl less := ⟨fun pair same => by simp [less] at same⟩
  have antisymmetric : Std.Antisymm less := ⟨fun first second forward backward => by
    have turned : compare second.1 first.1 = .gt := Std.OrientedCmp.gt_iff_lt.mpr forward
    have contrary := turned.symm.trans backward
    cases contrary⟩
  have distinct : pairs.Pairwise fun first second => ¬compare first.1 second.1 = .eq :=
    ascending.imp fun below same => by rw [same] at below; cases below
  apply List.Pairwise.eq_of_mem_iff (r := less) Std.ExtTreeMap.ordered_keys_toList ascending
  rintro ⟨key, value⟩
  rw [Std.ExtTreeMap.mem_toList_iff_getElem?_eq_some]
  constructor
  · intro found
    by_contra missing
    by_cases listed : (pairs.map Prod.fst).contains key = true
    · obtain ⟨⟨other, stored⟩, inside, rfl⟩ := List.mem_map.mp (List.contains_iff_mem.mp listed)
      rw [Std.ExtTreeMap.getElem?_ofList_of_mem Std.ReflCmp.compare_self distinct inside] at found
      obtain rfl := Option.some.inj found
      exact missing inside
    · have absent : (Std.ExtTreeMap.ofList pairs)[key]? = none :=
        Std.ExtTreeMap.getElem?_ofList_of_contains_eq_false (Bool.eq_false_iff.mpr listed)
      rw [absent] at found
      cases found
  · exact Std.ExtTreeMap.getElem?_ofList_of_mem Std.ReflCmp.compare_self distinct

/-- A tree is built again from its listing. -/
theorem ofList_toList : Std.ExtTreeMap.ofList tree.toList = tree := by
  apply Std.ExtTreeMap.ext_toList
  rw [toList_ofList Std.ExtTreeMap.ordered_keys_toList]

/-- These pairs are inserted one after the other. -/
def insertAll (tree : Std.ExtTreeMap Key Value) (pairs : List (Key × Value)) : Std.ExtTreeMap Key Value :=
  pairs.foldl (fun grown pair => grown.insert pair.1 pair.2) tree

/-- Pairs of distinct keys are all found, and the other keys keep their values. -/
theorem getElem?_insertAll {pairs : List (Key × Value)} (distinct : (pairs.map Prod.fst).Nodup) {key : Key}
    {value : Value} : (insertAll tree pairs)[key]? = some value ↔
      (key, value) ∈ pairs ∨ (key ∉ pairs.map Prod.fst ∧ tree[key]? = some value) := by
  induction pairs generalizing tree with
  | nil => simp [insertAll]
  | cons pair rest ih =>
      obtain ⟨first, stored⟩ := pair
      obtain ⟨fresh, later⟩ := List.nodup_cons.mp distinct
      change (insertAll (tree.insert first stored) rest)[key]? = some value ↔ _
      rw [ih later, getElem?_insert]
      by_cases same : first = key
      · subst same
        have absent : ∀ other, (first, other) ∉ rest := fun other inside =>
          fresh (List.mem_map.mpr ⟨(first, other), inside, rfl⟩)
        simp only [absent, fresh, not_false_eq_true, if_true, true_and, false_or, Option.some.injEq,
          List.mem_cons, Prod.mk.injEq, or_false, List.map_cons, not_true_eq_false, false_and]
        exact eq_comm
      · have other : ¬ key = first := fun equal => same equal.symm
        simp only [if_neg same, List.mem_cons, Prod.mk.injEq, other, false_and, false_or, List.map_cons]

/-- A tree is built from pairs of distinct keys exactly when it lists them in some order. -/
theorem eq_insertAll_iff {pairs : List (Key × Value)} (distinct : (pairs.map Prod.fst).Nodup) :
    tree = insertAll ∅ pairs ↔ tree.toList.Perm pairs := by
  have found (key : Key) (value : Value) :
      (insertAll ∅ pairs)[key]? = some value ↔ (key, value) ∈ pairs := by
    rw [getElem?_insertAll distinct]
    simp
  constructor
  · rintro rfl
    apply (List.perm_ext_iff_of_nodup ?_ (List.Nodup.of_map Prod.fst distinct)).mpr
    · rintro ⟨key, value⟩
      rw [Std.ExtTreeMap.mem_toList_iff_getElem?_eq_some, found]
    · have keys : ((insertAll ∅ pairs).toList.map Prod.fst).Nodup := by
        rw [Std.ExtTreeMap.map_fst_toList_eq_keys]
        exact Std.ExtTreeMap.nodup_keys
      exact List.Nodup.of_map Prod.fst keys
  · intro same
    apply Std.ExtTreeMap.ext_getElem?
    intro key
    ext value
    rw [found, ← Std.ExtTreeMap.mem_toList_iff_getElem?_eq_some, same.mem_iff]

/-- A pair under a new key joins the listing. -/
theorem toList_insert_perm {key : Key} (absent : tree[key]? = none) (value : Value) :
    (tree.insert key value).toList.Perm ((key, value) :: tree.toList) := by
  have fresh : (key, value) ∉ tree.toList := by
    rw [Std.ExtTreeMap.mem_toList_iff_getElem?_eq_some, absent]
    simp
  apply (List.perm_ext_iff_of_nodup toList_nodup (List.nodup_cons.mpr ⟨fresh, toList_nodup⟩)).mpr
  rintro ⟨other, stored⟩
  rw [Std.ExtTreeMap.mem_toList_iff_getElem?_eq_some, getElem?_insert, List.mem_cons, Prod.mk.injEq,
    Std.ExtTreeMap.mem_toList_iff_getElem?_eq_some]
  by_cases same : key = other
  · subst same
    rw [if_pos rfl, absent]
    simp [eq_comm]
  · rw [if_neg same]
    simp [Ne.symm same]

/-- An erased pair leaves the listing. -/
theorem toList_erase_perm {key : Key} {value : Value} (present : tree[key]? = some value) :
    tree.toList.Perm ((key, value) :: (tree.erase key).toList) := by
  have absent : (tree.erase key)[key]? = none := (getElem?_erase key key).trans (if_pos rfl)
  have restored : (tree.erase key).insert key value = tree := by
    apply Std.ExtTreeMap.ext_getElem?
    intro other
    rw [getElem?_insert, getElem?_erase]
    by_cases same : key = other
    · rw [if_pos same, ← same, present]
    · rw [if_neg same, if_neg same]
  have listed := toList_insert_perm absent value
  rwa [restored] at listed

end Update

variable {Key Value : Type} [LinearOrder Key] {tree : Std.ExtTreeMap Key Value}

/-- A tree lists its keys in strictly ascending order. -/
theorem keys_pairwise : tree.keys.Pairwise (· < ·) :=
  Std.ExtTreeMap.ordered_keys.imp fun less => compare_lt_iff_lt.mp less

theorem toList_pairwise : tree.toList.Pairwise (fun first second => first.1 < second.1) :=
  Std.ExtTreeMap.ordered_keys_toList.imp fun less => compare_lt_iff_lt.mp less

theorem mem_iff_getElem? {key : Key} : key ∈ tree ↔ ∃ value, tree[key]? = some value := by
  rw [Std.ExtTreeMap.mem_iff_isSome_getElem?, Option.isSome_iff_exists]

theorem not_mem_iff_getElem? {key : Key} : key ∉ tree ↔ tree[key]? = none := by
  rw [mem_iff_getElem?, ← Option.isSome_iff_exists, Option.not_isSome_iff_eq_none]

/-- A sorted listing of the stored pairs is the listing of the tree. -/
theorem toList_eq_of_mem_iff {listing : List (Key × Value)}
    (sorted : listing.Pairwise (fun first second => first.1 < second.1))
    (same : ∀ key value, (key, value) ∈ listing ↔ tree[key]? = some value) :
    tree.toList = listing := by
  let less : Key × Value → Key × Value → Prop := fun first second => first.1 < second.1
  have irreflexive : Std.Irrefl less := ⟨fun pair => lt_irrefl pair.1⟩
  have antisymmetric : Std.Antisymm less :=
    ⟨fun _ _ forward backward => absurd forward backward.asymm⟩
  apply List.Pairwise.eq_of_mem_iff (r := less) toList_pairwise sorted
  rintro ⟨key, value⟩
  rw [Std.ExtTreeMap.mem_toList_iff_getElem?_eq_some, same]

/-- A key that ends a sorted list bounds every member. -/
theorem le_getLast_of_pairwise {keys : List Key} (sorted : keys.Pairwise (· < ·)) {last : Key}
    (ends : keys.getLast? = some last) : ∀ key ∈ keys, key ≤ last := by
  obtain ⟨front, rfl⟩ := List.getLast?_eq_some_iff.mp ends
  intro key inside
  rcases List.mem_append.mp inside with before | final
  · exact le_of_lt ((List.pairwise_append.mp sorted).2.2 key before last (List.mem_singleton.mpr rfl))
  · exact le_of_eq (List.mem_singleton.mp final)

/-- The last listed key is the greatest stored key. -/
theorem getLast?_keys_eq_some {last : Key} :
    tree.keys.getLast? = some last ↔ last ∈ tree ∧ ∀ key ∈ tree, key ≤ last := by
  constructor
  · intro ends
    have bound := le_getLast_of_pairwise keys_pairwise ends
    refine ⟨Std.ExtTreeMap.mem_keys.mp (List.mem_of_getLast? ends), ?_⟩
    exact fun key stored => bound key (Std.ExtTreeMap.mem_keys.mpr stored)
  · rintro ⟨stored, greatest⟩
    have listed : last ∈ tree.keys := Std.ExtTreeMap.mem_keys.mpr stored
    have ends := List.getLast?_eq_some_getLast (List.ne_nil_of_mem listed)
    rw [ends]
    have final := Std.ExtTreeMap.mem_keys.mp (List.mem_of_getLast? ends)
    exact congrArg some (le_antisymm (greatest _ final)
      (le_getLast_of_pairwise keys_pairwise ends last listed))

theorem keys_eq_nil : tree.keys = [] ↔ ∀ key, key ∉ tree := by
  rw [List.eq_nil_iff_forall_not_mem]
  simp only [Std.ExtTreeMap.mem_keys]

theorem isEmpty_iff : tree.isEmpty = true ↔ ∀ key, key ∉ tree := by
  rw [← Std.ExtTreeMap.isEmpty_keys, List.isEmpty_iff, keys_eq_nil]

theorem getLast?_keys_eq_none : tree.keys.getLast? = none ↔ ∀ key, key ∉ tree := by
  rw [List.getLast?_eq_none_iff, keys_eq_nil]

/-- The first listed key is the least stored key. -/
theorem head?_keys_eq_some {first : Key} :
    tree.keys.head? = some first ↔ first ∈ tree ∧ ∀ key ∈ tree, first ≤ key := by
  have sorted : tree.keys.Pairwise (· < ·) := keys_pairwise
  constructor
  · intro begins
    obtain ⟨rest, split⟩ := List.head?_eq_some_iff.mp begins
    rw [split] at sorted
    refine ⟨Std.ExtTreeMap.mem_keys.mp (List.mem_of_head? begins), fun key stored => ?_⟩
    have listed := Std.ExtTreeMap.mem_keys.mpr stored
    rw [split] at listed
    rcases List.mem_cons.mp listed with same | later
    · exact le_of_eq same.symm
    · exact le_of_lt (List.rel_of_pairwise_cons sorted later)
  · rintro ⟨stored, least⟩
    have listed : first ∈ tree.keys := Std.ExtTreeMap.mem_keys.mpr stored
    cases split : tree.keys with
    | nil => simp [split] at listed
    | cons head rest =>
        rw [split] at sorted listed
        have headStored : head ∈ tree := Std.ExtTreeMap.mem_keys.mp (by rw [split]; exact List.mem_cons_self)
        rcases List.mem_cons.mp listed with same | later
        · rw [same, List.head?_cons]
        · exact absurd (List.rel_of_pairwise_cons sorted later) (not_lt.mpr (least head headStored))

end Machinery.OrderedTree
