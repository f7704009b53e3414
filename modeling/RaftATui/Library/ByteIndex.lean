import Mathlib.Algebra.GroupWithZero.Nat
import Mathlib.Data.List.Basic

/-
This file gives the byte offsets of a text and the changes at an offset, which has to be between two characters.
-/

namespace Machinery.ByteIndex

/-- This is the length of a text in UTF-8. -/
def byteLength (text : List Char) : Nat := (text.map Char.utf8Size).sum

/-- No result is an offset inside a character or behind the text. -/
def splitAt : (offset : Nat) → (text : List Char) → Option (List Char × List Char)
  | 0, text => some ([], text)
  | _ + 1, [] => none
  | offset + 1, letter :: rest =>
      if letter.utf8Size ≤ offset + 1 then
        (splitAt (offset + 1 - letter.utf8Size) rest).map fun (front, back) => (letter :: front, back)
      else none

def insert (offset : Nat) (letter : Char) (text : List Char) : Option (List Char) :=
  (splitAt offset text).map fun (front, back) => front ++ letter :: back

/-- No result is also an offset at the end of the text. -/
def remove (offset : Nat) (text : List Char) : Option (List Char) :=
  match splitAt offset text with
  | some (front, _ :: back) => some (front ++ back)
  | _ => none

@[simp] theorem byteLength_nil : byteLength [] = 0 := rfl

@[simp] theorem byteLength_cons (letter : Char) (rest : List Char) :
    byteLength (letter :: rest) = letter.utf8Size + byteLength rest := rfl

@[simp] theorem byteLength_append (front back : List Char) :
    byteLength (front ++ back) = byteLength front + byteLength back := by
  rw [byteLength, List.map_append, List.sum_append]
  rfl

/-- An offset behind whole characters splits the text there. -/
theorem splitAt_byteLength (front back : List Char) :
    splitAt (byteLength front) (front ++ back) = some (front, back) := by
  induction front with
  | nil => cases back <;> rfl
  | cons letter front ih =>
      have positive := letter.utf8Size_pos
      obtain ⟨size, width⟩ : ∃ size, letter.utf8Size + byteLength front = size + 1 :=
        ⟨letter.utf8Size + byteLength front - 1, by omega⟩
      have rest : size + 1 - letter.utf8Size = byteLength front := by omega
      rw [byteLength_cons, width, List.cons_append, splitAt, if_pos (by omega), rest, ih]
      rfl

theorem insert_byteLength (front back : List Char) (letter : Char) :
    insert (byteLength front) letter (front ++ back) = some (front ++ letter :: back) := by
  rw [insert, splitAt_byteLength]
  rfl

theorem remove_byteLength (front back : List Char) (letter : Char) :
    remove (byteLength front) (front ++ letter :: back) = some (front ++ back) := by
  rw [remove, splitAt_byteLength]

/-- Every character of the text is one byte long. -/
def Narrow (text : List Char) : Prop := ∀ letter ∈ text, letter.utf8Size = 1

theorem byteLength_narrow {text : List Char} (narrow : Narrow text) : byteLength text = text.length := by
  induction text with
  | nil => rfl
  | cons letter rest ih =>
      rw [byteLength_cons, narrow letter List.mem_cons_self, List.length_cons,
        ih fun other inside => narrow other (List.mem_cons_of_mem letter inside), Nat.add_comm]

theorem Narrow.take {text : List Char} (narrow : Narrow text) (count : Nat) : Narrow (text.take count) :=
  fun letter inside => narrow letter (List.mem_of_mem_take inside)

theorem byteLength_take {text : List Char} (narrow : Narrow text) {count : Nat} (within : count ≤ text.length) :
    byteLength (text.take count) = count := by
  rw [byteLength_narrow (narrow.take count), List.length_take, Nat.min_eq_left within]

theorem insertIdx_eq_take_drop {text : List Char} {count : Nat} (within : count ≤ text.length) (letter : Char) :
    text.insertIdx count letter = text.take count ++ letter :: text.drop count := by
  induction count generalizing text with
  | zero => rfl
  | succ count ih =>
      cases text with
      | nil => cases within
      | cons first rest =>
          rw [List.insertIdx_succ_cons, ih (Nat.le_of_succ_le_succ within)]
          rfl

/-- Behind narrow characters an insertion at a byte is one at a character. -/
theorem insert_narrow {text : List Char} (narrow : Narrow text) {count : Nat} (within : count ≤ text.length)
    (letter : Char) : insert count letter text = some (text.insertIdx count letter) := by
  have inserted := insert_byteLength (text.take count) (text.drop count) letter
  rwa [byteLength_take narrow within, List.take_append_drop, ← insertIdx_eq_take_drop within] at inserted

/-- Behind narrow characters a removal at a byte is one at a character. -/
theorem remove_narrow {text : List Char} (narrow : Narrow text) {count : Nat} (inside : count < text.length) :
    remove count text = some (text.eraseIdx count) := by
  have removed := remove_byteLength (text.take count) (text.drop (count + 1)) text[count]
  rwa [byteLength_take narrow (Nat.le_of_lt inside), ← List.drop_eq_getElem_cons inside, List.take_append_drop,
    ← List.eraseIdx_eq_take_drop_succ] at removed

/-- The bytes up to a fresh character are those before it and its own. -/
theorem byteLength_take_insertIdx {text : List Char} (narrow : Narrow text) {count : Nat}
    (within : count ≤ text.length) (letter : Char) :
    byteLength ((text.insertIdx count letter).take (count + 1)) = count + letter.utf8Size := by
  have front : (text.take count).length = count := by rw [List.length_take, Nat.min_eq_left within]
  have split : (text.insertIdx count letter).take (count + 1) = text.take count ++ [letter] := by
    rw [insertIdx_eq_take_drop within, List.take_append, front, List.take_of_length_le (by omega)]
    simp
  rw [split, byteLength_append, byteLength_take narrow within]
  rfl

theorem Narrow.insertIdx {text : List Char} (narrow : Narrow text) {count : Nat} (within : count ≤ text.length)
    {letter : Char} (one : letter.utf8Size = 1) : Narrow (text.insertIdx count letter) := by
  intro other inside
  rcases (List.mem_insertIdx within).mp inside with rfl | before
  · exact one
  · exact narrow other before

theorem Narrow.eraseIdx {text : List Char} (narrow : Narrow text) (count : Nat) : Narrow (text.eraseIdx count) :=
  fun letter inside => narrow letter (List.mem_of_mem_eraseIdx inside)

end Machinery.ByteIndex
