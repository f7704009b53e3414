import Mathlib.Algebra.GroupWithZero.Nat
import Mathlib.Data.List.Infix

/-
This file gives the rules for a stream of byte strings that may stop inside one of them.
-/

namespace Machinery.Framing

/-- These are the lowest bytes of a number, and the highest of them comes first. -/
def bigEndian : (width value : Nat) → List UInt8
  | 0, _ => []
  | width + 1, value => UInt8.ofNat (value / 256 ^ width) :: bigEndian width value

def fromBigEndian : List UInt8 → Nat
  | [] => 0
  | byte :: rest => fromBigEndian rest + 256 ^ rest.length * byte.toNat

@[simp] theorem length_bigEndian (width value : Nat) : (bigEndian width value).length = width := by
  induction width with
  | zero => rfl
  | succ width ih => rw [bigEndian, List.length_cons, ih]

/-- A number is read back when it fits into the width. -/
theorem fromBigEndian_bigEndian (width value : Nat) :
    fromBigEndian (bigEndian width value) = value % 256 ^ width := by
  induction width with
  | zero => rw [Nat.pow_zero, Nat.mod_one, bigEndian, fromBigEndian]
  | succ width ih =>
      rw [bigEndian, fromBigEndian, ih, length_bigEndian, UInt8.toNat_ofNat']
      exact Nat.mod_pow_succ.symm

theorem fromBigEndian_lt (bytes : List UInt8) : fromBigEndian bytes < 256 ^ bytes.length := by
  induction bytes with
  | nil => exact Nat.one_pos
  | cons byte rest ih =>
      have digit : byte.toNat < 256 := byte.toNat_lt
      have places : 256 ^ rest.length * (byte.toNat + 1) ≤ 256 ^ rest.length * 256 :=
        Nat.mul_le_mul_left _ digit
      rw [Nat.mul_succ] at places
      rw [fromBigEndian, List.length_cons, Nat.pow_succ]
      omega

/-- The bytes of a number depend on its lowest places only. -/
theorem bigEndian_add_mul (width value places : Nat) :
    bigEndian width (value + 256 ^ width * places) = bigEndian width value := by
  induction width generalizing places with
  | zero => rfl
  | succ width ih =>
      have lower : value + 256 ^ (width + 1) * places = value + 256 ^ width * (256 * places) := by
        rw [Nat.pow_succ, Nat.mul_assoc]
      have higher : (value + 256 ^ (width + 1) * places) / 256 ^ width = value / 256 ^ width + 256 * places := by
        rw [lower, Nat.add_mul_div_left _ _ (Nat.pow_pos (by decide))]
      have digit : UInt8.ofNat (value / 256 ^ width + 256 * places) = UInt8.ofNat (value / 256 ^ width) := by
        apply UInt8.toNat_inj.mp
        simp only [UInt8.toNat_ofNat', Nat.reducePow, Nat.add_mul_mod_self_left]
      rw [bigEndian, bigEndian, higher, digit, lower, ih]

/-- Bytes are written again from the number that they give. -/
theorem bigEndian_fromBigEndian (bytes : List UInt8) :
    bigEndian bytes.length (fromBigEndian bytes) = bytes := by
  induction bytes with
  | nil => rfl
  | cons byte rest ih =>
      have small := fromBigEndian_lt rest
      have digit : (fromBigEndian rest + 256 ^ rest.length * byte.toNat) / 256 ^ rest.length = byte.toNat := by
        rw [Nat.add_mul_div_left _ _ (Nat.pow_pos (by decide)), Nat.div_eq_of_lt small, Nat.zero_add]
      rw [List.length_cons, bigEndian, fromBigEndian, digit, UInt8.ofNat_toNat, bigEndian_add_mul, ih]

/-- The highest place decides between two numbers, and on a tie the lower places decide. -/
theorem mod_pow_succ_lt_iff (width first second : Nat) :
    first % 256 ^ (width + 1) < second % 256 ^ (width + 1) ↔
      first / 256 ^ width % 256 < second / 256 ^ width % 256 ∨
        first / 256 ^ width % 256 = second / 256 ^ width % 256 ∧ first % 256 ^ width < second % 256 ^ width := by
  have positive : 0 < 256 ^ width := Nat.pow_pos (by decide)
  have below := Nat.mod_lt first positive
  have behind := Nat.mod_lt second positive
  rw [Nat.mod_pow_succ, Nat.mod_pow_succ]
  rcases Nat.lt_trichotomy (first / 256 ^ width % 256) (second / 256 ^ width % 256) with less | same | more
  · have gap := Nat.mul_le_mul_left (256 ^ width) less
    rw [Nat.mul_succ] at gap
    omega
  · rw [same]
    omega
  · have gap := Nat.mul_le_mul_left (256 ^ width) more
    rw [Nat.mul_succ] at gap
    omega

/-- Big-endian bytes of one width are in lexicographic order exactly as their numbers are. -/
theorem bigEndian_lt_iff (width first second : Nat) :
    bigEndian width first < bigEndian width second ↔ first % 256 ^ width < second % 256 ^ width := by
  induction width with
  | zero => simp [bigEndian, Nat.mod_one]
  | succ width ih =>
      rw [bigEndian, bigEndian, List.cons_lt_cons_iff, ih, mod_pow_succ_lt_iff, UInt8.lt_iff_toNat_lt,
        ← UInt8.toNat_inj, UInt8.toNat_ofNat', UInt8.toNat_ofNat']

/-- The comparison of two byte strings is the lexicographic order. -/
theorem compare_eq_lt_iff_lt (first second : List UInt8) : compare first second = .lt ↔ first < second := by
  induction first generalizing second with
  | nil => cases second <;> simp
  | cons byte rest ih =>
      cases second with
      | nil => simp
      | cons other more =>
          rw [List.compare_cons_cons, List.cons_lt_cons_iff, Ordering.then_eq_lt, ih,
            Std.LawfulEqOrd.compare_eq_iff_eq, Std.compare_eq_lt]

variable {Byte : Type} {pieces more : List (List Byte)} {bytes seen part piece : List Byte}

/-- The bytes are whole pieces in their order. -/
def Unbroken (pieces : List (List Byte)) (bytes : List Byte) : Prop :=
  ∃ whole : List (List Byte), whole.Sublist pieces ∧ bytes = whole.flatten

/-- The bytes are whole pieces in their order and then at most a part of one later piece. -/
def Torn (pieces : List (List Byte)) (bytes : List Byte) : Prop :=
  Unbroken pieces bytes ∨ ∃ (whole : List (List Byte)) (last part : List Byte), (whole ++ [last]).Sublist pieces ∧
    bytes = whole.flatten ++ part ∧ part <+: last ∧ part ≠ last

theorem unbroken_nil : Unbroken pieces [] := ⟨[], List.nil_sublist pieces, rfl⟩

theorem Unbroken.mono (whole : Unbroken pieces bytes) (grows : pieces.Sublist more) : Unbroken more bytes := by
  obtain ⟨kept, order, rfl⟩ := whole
  exact ⟨kept, order.trans grows, rfl⟩

theorem Torn.mono (torn : Torn pieces bytes) (grows : pieces.Sublist more) : Torn more bytes := by
  rcases torn with whole | ⟨whole, last, part, order, rest⟩
  · exact Or.inl (whole.mono grows)
  · exact Or.inr ⟨whole, last, part, order.trans grows, rest⟩

/-- One more piece follows whole pieces. -/
theorem Unbroken.snoc (whole : Unbroken pieces bytes) : Unbroken (pieces ++ [piece]) (bytes ++ piece) := by
  obtain ⟨kept, order, rfl⟩ := whole
  refine ⟨kept ++ [piece], order.append (List.Sublist.refl _), ?_⟩
  rw [List.flatten_append, List.flatten_singleton]

/-- A part of one more piece follows whole pieces. -/
theorem Unbroken.tear (whole : Unbroken pieces bytes) (begun : part <+: piece) :
    Torn (pieces ++ [piece]) (bytes ++ part) := by
  by_cases complete : part = piece
  · rw [complete]
    exact Or.inl whole.snoc
  · obtain ⟨kept, order, rfl⟩ := whole
    exact Or.inr ⟨kept, piece, part, order.append (List.Sublist.refl _), rfl, begun, complete⟩

/-- An initial part of two joined parts ends in the first or in the second. -/
theorem begins_append {first second : List Byte} (initial : seen <+: first ++ second) :
    seen <+: first ∧ seen ≠ first ∨ ∃ later, later <+: second ∧ seen = first ++ later := by
  rcases le_or_gt first.length seen.length with long | short
  · obtain ⟨later, rfl⟩ := List.prefix_of_prefix_length_le (List.prefix_append first second) initial long
    exact Or.inr ⟨later, (List.prefix_append_right_inj first).mp initial, rfl⟩
  · refine Or.inl ⟨List.prefix_of_prefix_length_le initial (List.prefix_append first second) short.le, ?_⟩
    rintro rfl
    exact Nat.lt_irrefl _ short

/-- An initial part of whole pieces is torn. -/
theorem torn_of_prefix_flatten {whole : List (List Byte)} (initial : seen <+: whole.flatten) :
    Torn whole seen := by
  induction whole generalizing seen with
  | nil =>
      rw [List.prefix_nil.mp initial]
      exact Or.inl unbroken_nil
  | cons piece rest ih =>
      rw [List.flatten_cons] at initial
      rcases begins_append initial with ⟨begun, short⟩ | ⟨later, begun, rfl⟩
      · exact Or.inr ⟨[], piece, seen, by simp, rfl, begun, short⟩
      · rcases ih begun with ⟨kept, order, rfl⟩ | ⟨kept, last, part, order, rfl, begins, short⟩
        · exact Or.inl ⟨piece :: kept, order.cons_cons piece, rfl⟩
        · refine Or.inr ⟨piece :: kept, last, part, order.cons_cons piece, ?_, begins, short⟩
          rw [List.flatten_cons, List.append_assoc]

/-- An initial part of a torn stream is torn. -/
theorem Torn.shrink (torn : Torn pieces bytes) (initial : seen <+: bytes) : Torn pieces seen := by
  rcases torn with ⟨whole, order, rfl⟩ | ⟨whole, last, part, order, rfl, begun, short⟩
  · exact (torn_of_prefix_flatten initial).mono order
  · have longer : seen <+: (whole ++ [last]).flatten := by
      rw [List.flatten_append, List.flatten_singleton]
      exact initial.trans ((List.prefix_append_right_inj whole.flatten).mpr begun)
    exact (torn_of_prefix_flatten longer).mono order

end Machinery.Framing
