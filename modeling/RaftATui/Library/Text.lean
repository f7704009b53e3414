import Mathlib.Data.List.Basic
import Mathlib.Data.List.TakeWhile
import Mathlib.Tactic.IntervalCases

/-
This file gives the decimal texts, the trimming and the heads of strings.
-/

namespace Machinery.Text

/-- These are the characters with the Unicode property White_Space. -/
def isWhitespace (letter : Char) : Bool :=
  let code := letter.toNat
  (9 ≤ code && code ≤ 13) || (0x2000 ≤ code && code ≤ 0x200A) ||
    [0x20, 0x85, 0xA0, 0x1680, 0x2028, 0x2029, 0x202F, 0x205F, 0x3000].contains code

def trim (text : List Char) : List Char :=
  ((text.dropWhile isWhitespace).reverse.dropWhile isWhitespace).reverse

/-- These are the pieces between the whitespace. -/
def words (text : List Char) : List (List Char) := (text.splitOnP isWhitespace).filter fun word => !word.isEmpty

def toAsciiLowercase (text : List Char) : List Char := text.map Char.toLower

/-- These words stand behind each other with one blank between them. -/
def joined (words : List (List Char)) : List Char := [' '].intercalate words

/-- This is the rest of a text behind the given head. -/
def behind (head text : String) : Option String :=
  (text.toList.dropPrefix? head.toList).map String.ofList

/-- A plus sign may stand before the digits of a number. -/
def withoutSign : List Char → List Char
  | '+' :: rest => rest
  | text => text

/-- This reads a whole text as an unsigned number below the bound. -/
def parseUnsigned (bound : Nat) (text : List Char) : Option Nat :=
  let digits := withoutSign text
  let value := Nat.ofDigitChars 10 digits 0
  if digits.isEmpty || !digits.all Char.isDigit || bound ≤ value then none else some value

/-- This reads the number at the start of a text and returns it with the rest. -/
def readNumber (bound : Nat) (maxDigits : Option Nat) (allowZeros : Bool) (text : List Char) :
    Option (Nat × List Char) :=
  let digits := text.takeWhile Char.isDigit
  let value := Nat.ofDigitChars 10 digits 0
  if digits.isEmpty || bound ≤ value || maxDigits.any (· < digits.length) ||
      (!allowZeros && digits.head? == some '0' && 1 < digits.length) then none
  else some (value, text.dropWhile Char.isDigit)

theorem ne_nil_of_mem_words {text word : List Char} (inside : word ∈ words text) : word ≠ [] := by
  have filled := (List.mem_filter.mp inside).2
  simpa using filled

theorem joined_cons_ne_nil {first : List Char} (filled : first ≠ []) (rest : List (List Char)) :
    joined (first :: rest) ≠ [] := by
  cases rest with
  | nil => simpa [joined] using filled
  | cons next rest => simp [joined, List.intercalate_cons_cons]

/-- Whitespace around a text is trimmed away. -/
theorem trim_padded {before after : List Char} (text : List Char)
    (beforeBlank : ∀ letter ∈ before, isWhitespace letter = true)
    (afterBlank : ∀ letter ∈ after, isWhitespace letter = true) :
    trim (before ++ text ++ after) = trim text := by
  have turned : ∀ letter ∈ after.reverse, isWhitespace letter = true := fun letter inside =>
    afterBlank letter (List.mem_reverse.mp inside)
  rw [trim, trim, List.append_assoc, List.dropWhile_append_of_pos beforeBlank, List.dropWhile_append]
  cases rest : text.dropWhile isWhitespace with
  | nil =>
      have nothing : after.dropWhile isWhitespace = [] := List.dropWhile_eq_nil_iff.mpr afterBlank
      rw [List.isEmpty_nil, if_pos rfl, nothing]
  | cons letter more =>
      rw [List.isEmpty_cons, if_neg Bool.false_ne_true, List.reverse_append, List.dropWhile_append_of_pos turned]

theorem splitOn_eq_singleton_iff {text piece : List Char} {mark : Char} :
    text.splitOn mark = [piece] ↔ text = piece ∧ mark ∉ piece := by
  constructor
  · intro split
    by_cases inside : mark ∈ text
    · obtain ⟨front, back, rfl, clear⟩ := List.eq_append_cons_of_mem inside
      rw [List.splitOn_append_cons_self_of_not_mem clear] at split
      exact absurd (List.cons.inj split).2 (List.splitOn_ne_nil mark back)
    · rw [List.splitOn_eq_singleton inside] at split
      obtain rfl := List.singleton_inj.mp split
      exact ⟨rfl, inside⟩
  · rintro ⟨rfl, clear⟩
    exact List.splitOn_eq_singleton clear

/-- A text splits into two pieces exactly when it has the mark once between them. -/
theorem splitOn_eq_pair_iff {text first second : List Char} {mark : Char} :
    text.splitOn mark = [first, second] ↔ text = first ++ mark :: second ∧ mark ∉ first ∧ mark ∉ second := by
  constructor
  · intro split
    by_cases inside : mark ∈ text
    · obtain ⟨front, back, rfl, clear⟩ := List.eq_append_cons_of_mem inside
      rw [List.splitOn_append_cons_self_of_not_mem clear] at split
      obtain ⟨rfl, rest⟩ := List.cons.inj split
      obtain ⟨rfl, backClear⟩ := splitOn_eq_singleton_iff.mp rest
      exact ⟨rfl, clear, backClear⟩
    · rw [List.splitOn_eq_singleton inside] at split
      exact absurd (List.cons.inj split).2 (List.cons_ne_nil second []).symm
  · rintro ⟨rfl, frontClear, backClear⟩
    rw [List.splitOn_append_cons_self_of_not_mem frontClear, List.splitOn_eq_singleton backClear]

theorem behind_append (head rest : String) : behind head (head ++ rest) = some rest := by
  rw [behind, String.toList_append, List.dropPrefix?_append_of_beq _ (beq_self_eq_true _)]
  exact congrArg some String.ofList_toList

/-- A text with another head has nothing behind this one. -/
theorem behind_other {head other : String} (apart : ¬ head.toList <+: other.toList)
    (other_apart : ¬ other.toList <+: head.toList) (rest : String) : behind head (other ++ rest) = none := by
  rw [behind, Option.map_eq_none_iff, String.toList_append, Option.eq_none_iff_forall_ne_some]
  intro tail found
  obtain ⟨front, split, same⟩ := List.dropPrefix?_eq_some_iff.mp found
  rw [eq_of_beq same] at split
  rcases List.prefix_or_prefix_of_prefix ⟨tail, split.symm⟩ ⟨rest.toList, rfl⟩ with longer | shorter
  · exact apart longer
  · exact other_apart shorter

theorem isDigit_not_whitespace {letter : Char} (digit : letter.isDigit = true) :
    isWhitespace letter = false := by
  have range : 48 ≤ letter.toNat ∧ letter.toNat ≤ 57 := by
    simpa [Char.isDigit, UInt32.le_iff_toNat_le] using digit
  simp only [isWhitespace, List.contains_eq_mem, Bool.or_eq_false_iff, Bool.and_eq_false_iff,
    decide_eq_false_iff_not, List.mem_cons, List.not_mem_nil, or_false]
  omega

theorem dropWhile_whitespace {text : List Char} (plain : ∀ letter ∈ text, isWhitespace letter = false) :
    text.dropWhile isWhitespace = text := by
  rw [List.dropWhile_eq_self_iff]
  intro positive
  simp [plain _ (List.getElem_mem positive)]

/-- A text without whitespace is trimmed already. -/
theorem trim_eq_self {text : List Char} (plain : ∀ letter ∈ text, isWhitespace letter = false) :
    trim text = text := by
  have turned : ∀ letter ∈ text.reverse, isWhitespace letter = false := fun letter member =>
    plain letter (List.mem_reverse.mp member)
  rw [trim, dropWhile_whitespace plain, dropWhile_whitespace turned, List.reverse_reverse]

theorem toDigits_isDigit {number : Nat} {letter : Char} (member : letter ∈ Nat.toDigits 10 number) :
    letter.isDigit = true :=
  Nat.isDigit_of_mem_toDigits (by decide) (by decide) member

theorem trim_toDigits (number : Nat) : trim (Nat.toDigits 10 number) = Nat.toDigits 10 number :=
  trim_eq_self fun _ member => isDigit_not_whitespace (toDigits_isDigit member)

theorem withoutSign_toDigits (number : Nat) :
    withoutSign (Nat.toDigits 10 number) = Nat.toDigits 10 number := by
  have digits : ∀ letter ∈ Nat.toDigits 10 number, letter.isDigit = true := fun _ => toDigits_isDigit
  cases shape : Nat.toDigits 10 number with
  | nil => rfl
  | cons letter rest =>
      have first := digits letter (by simp [shape])
      unfold withoutSign
      split
      · next same =>
          rw [(List.cons.inj same).1] at first
          exact absurd first (by decide)
      · rfl

/-- The decimal text of a number below the bound is read back. -/
theorem parseUnsigned_toDigits (bound number : Nat) :
    parseUnsigned bound (Nat.toDigits 10 number) = if number < bound then some number else none := by
  have digits : (Nat.toDigits 10 number).all Char.isDigit = true :=
    List.all_eq_true.mpr fun _ => toDigits_isDigit
  simp only [parseUnsigned, withoutSign_toDigits, Nat.ofDigitChars_ten_toDigits, digits]
  by_cases small : number < bound
  · simp [small, Nat.not_le.mpr small]
  · simp [small, Nat.not_lt.mp small]

/-- The decimal text of a positive number has no leading zero. -/
theorem toDigits_head {number : Nat} (positive : 0 < number) :
    (Nat.toDigits 10 number).head? ≠ some '0' := by
  induction number using Nat.strong_induction_on with
  | h number inductionHypothesis =>
      by_cases single : number < 10
      · rw [Nat.toDigits_of_lt_base single]
        interval_cases number <;> decide
      · have shorter := inductionHypothesis (number / 10) (by omega) (by omega)
        have nonempty : Nat.toDigits 10 (number / 10) ≠ [] := Nat.toDigits_ne_nil
        rw [Nat.toDigits_of_base_le (by decide) (Nat.le_of_not_lt single), List.head?_append]
        cases shape : Nat.toDigits 10 (number / 10) with
        | nil => exact absurd shape nonempty
        | cons letter rest =>
            rw [shape] at shorter
            exact shorter

theorem toDigits_noLeadingZero (number : Nat) :
    (Nat.toDigits 10 number).head? = some '0' → (Nat.toDigits 10 number).length = 1 := by
  intro zero
  have none : number = 0 := Nat.eq_zero_of_not_pos fun positive => toDigits_head positive zero
  rw [none]
  decide

/-- A decimal text is read up to the first character that is no digit. -/
theorem readNumber_toDigits {bound number : Nat} (maxDigits : Option Nat) (allowZeros : Bool)
    (rest : List Char) (small : number < bound)
    (short : maxDigits.any (· < (Nat.toDigits 10 number).length) = false)
    (stops : rest.head?.any Char.isDigit = false) :
    readNumber bound maxDigits allowZeros (Nat.toDigits 10 number ++ rest) = some (number, rest) := by
  have digits : ∀ letter ∈ Nat.toDigits 10 number, letter.isDigit = true := fun _ => toDigits_isDigit
  have ends : rest.takeWhile Char.isDigit = [] ∧ rest.dropWhile Char.isDigit = rest := by
    cases rest with
    | nil => exact ⟨rfl, rfl⟩
    | cons letter rest =>
        have other : letter.isDigit = false := by simpa using stops
        simp [other]
  have leading : (!allowZeros && (Nat.toDigits 10 number).head? == some '0' &&
      decide (1 < (Nat.toDigits 10 number).length)) = false := by
    by_cases zero : (Nat.toDigits 10 number).head? = some '0'
    · simp [toDigits_noLeadingZero number zero]
    · simp [zero]
  have inside : ¬ bound ≤ number := Nat.not_le.mpr small
  simp only [readNumber, List.takeWhile_append_of_pos digits, List.dropWhile_append_of_pos digits,
    ends, List.append_nil, Nat.ofDigitChars_ten_toDigits, short, leading]
  simp [inside]

end Machinery.Text
