/-
# Bit fields

The bytes of a string are the digits of one number, least significant first.  A field of it is
gathered bit by bit: into a number without bounds, or into a word, whose places repeat.
-/

import Mathlib.Data.Nat.Bitwise

namespace GsUsb.Math

/-- The number with these bytes as its digits, least significant first. -/
def leNumber : List UInt8 → ℕ
  | [] => 0
  | b :: bs => 2 ^ 8 * leNumber bs + b.toNat

/-- A bit of the number is a bit of one byte; behind the bytes there is none. -/
theorem testBit_leNumber (bs : List UInt8) (n : ℕ) :
    (leNumber bs).testBit n = bs[n / 8]?.any fun b => b.toNat.testBit (n % 8) := by
  induction bs generalizing n with
  | nil => exact Nat.zero_testBit n
  | cons b bs ih =>
      rw [leNumber, Nat.testBit_two_pow_mul_add _ b.toNat_lt]
      by_cases hn : n < 8
      · rw [if_pos hn, Nat.div_eq_of_lt hn, Nat.mod_eq_of_lt hn]
        rfl
      · have hdiv : n / 8 = (n - 8) / 8 + 1 := by omega
        have hmod : n % 8 = (n - 8) % 8 := by omega
        rw [if_neg hn, ih, hdiv, hmod, List.getElem?_cons_succ]

/-- The number with the bits of `p` below `length`. -/
def gatherBits (p : ℕ → Bool) (length : ℕ) : ℕ :=
  (List.range length).foldl (fun value i => if p i then value ||| 1 <<< i else value) 0

theorem gatherBits_succ (p : ℕ → Bool) (length : ℕ) :
    gatherBits p (length + 1) =
      if p length then gatherBits p length ||| 1 <<< length else gatherBits p length := by
  rw [gatherBits, List.range_succ, List.foldl_append]
  rfl

theorem testBit_gatherBits (p : ℕ → Bool) (length k : ℕ) :
    (gatherBits p length).testBit k = (decide (k < length) && p k) := by
  induction length with
  | zero => exact Nat.zero_testBit k
  | succ length ih =>
      rw [gatherBits_succ]
      by_cases hk : k = length
      · subst hk
        cases hp : p k with
        | false => simp [ih]
        | true => simp [Nat.one_shiftLeft]
      · have hlt : k < length + 1 ↔ k < length := by omega
        cases hp : p length with
        | false => simp [ih, hlt]
        | true => simp [ih, hlt, Nat.one_shiftLeft, Ne.symm hk]

/-- Gathering the bits of a number from `start` on cuts the field out of it. -/
theorem gatherBits_testBit (x start length : ℕ) :
    gatherBits (fun i => x.testBit (start + i)) length = x / 2 ^ start % 2 ^ length := by
  apply Nat.eq_of_testBit_eq
  intro k
  rw [testBit_gatherBits, Nat.testBit_mod_two_pow, ← Nat.shiftRight_eq_div_pow,
    Nat.testBit_shiftRight]

section Word

variable {width : ℕ}

/-- The word that results where a place is counted modulo the width. -/
def gatherWord (width : ℕ) (p : ℕ → Bool) (length : ℕ) : BitVec width :=
  (List.range length).foldl
    (fun word i => if p i then word ||| BitVec.ofNat width 1 <<< (i % width) else word)
    (BitVec.ofNat width 0)

theorem gatherWord_succ (p : ℕ → Bool) (length : ℕ) :
    gatherWord width p (length + 1) =
      if p length then gatherWord width p length ||| BitVec.ofNat width 1 <<< (length % width)
      else gatherWord width p length := by
  rw [gatherWord, List.range_succ, List.foldl_append]
  rfl

/-- A place of the word holds the bits that share it. -/
theorem getLsbD_gatherWord (p : ℕ → Bool) (length : ℕ) {k : ℕ} (hk : k < width) :
    (gatherWord width p length).getLsbD k = true ↔ ∃ i < length, i % width = k ∧ p i = true := by
  induction length with
  | zero => simp [gatherWord]
  | succ length ih =>
      have hplace : (BitVec.ofNat width 1 <<< (length % width)).getLsbD k =
          decide (length % width = k) := by
        rw [BitVec.getLsbD_shiftLeft, BitVec.getLsbD_one]
        by_cases heq : length % width = k
        · simp [heq, hk, Nat.zero_lt_of_lt hk]
        · by_cases hlt : k < length % width
          · simp [heq, hlt]
          · have hne : k - length % width ≠ 0 := by omega
            simp [heq, hne]
      rw [gatherWord_succ, Nat.exists_lt_succ_right, ← ih]
      cases hp : p length with
      | false => simp
      | true => simp only [if_true, BitVec.getLsbD_or, hplace, Bool.or_eq_true,
          decide_eq_true_eq, and_true]

/-- While nothing is gathered from the sign place on, the word is the number. -/
theorem toNat_gatherWord {p : ℕ → Bool} {length : ℕ} (hwidth : 0 < width)
    (hlt : gatherBits p length < 2 ^ (width - 1)) :
    (gatherWord width p length).toNat = gatherBits p length := by
  have hlow {i : ℕ} (hi : i < length) (hp : p i = true) : i < width - 1 := by
    by_contra hge
    have hbit : (gatherBits p length).testBit i = true := by
      rw [testBit_gatherBits, decide_eq_true hi, hp]
      rfl
    have hpow : 2 ^ (width - 1) ≤ 2 ^ i := Nat.pow_le_pow_right (by decide) (by omega)
    rw [Nat.testBit_lt_two_pow (hlt.trans_le hpow)] at hbit
    cases hbit
  apply Nat.eq_of_testBit_eq
  intro k
  rw [BitVec.testBit_toNat, testBit_gatherBits]
  by_cases hk : k < width
  · rw [Bool.eq_iff_iff, getLsbD_gatherWord p length hk, Bool.and_eq_true, decide_eq_true_eq]
    constructor
    · rintro ⟨i, hi, rfl, hp⟩
      have hmod : i % width = i := Nat.mod_eq_of_lt (by have := hlow hi hp; omega)
      rw [hmod]
      exact ⟨hi, hp⟩
    · rintro ⟨hlength, hp⟩
      exact ⟨k, hlength, Nat.mod_eq_of_lt hk, hp⟩
  · rw [BitVec.getLsbD_of_ge _ _ (not_lt.mp hk)]
    symm
    rw [Bool.and_eq_false_iff, decide_eq_false_iff_not, or_iff_not_imp_left, not_not]
    intro hlength
    cases hp : p k with
    | false => rfl
    | true => exact absurd (hlow hlength hp) (by omega)

/-- **A field comes out the same in both ways exactly if it is not negative as a word.** -/
theorem toInt_gatherWord_iff {p : ℕ → Bool} {length : ℕ} (hwidth : 0 < width) :
    (gatherWord width p length).toInt = gatherBits p length ↔
      gatherBits p length < 2 ^ (width - 1) := by
  constructor
  · intro heq
    have hlt : (gatherWord width p length).toInt < 2 ^ (width - 1) := BitVec.toInt_lt
    rw [heq] at hlt
    exact_mod_cast hlt
  · intro hlt
    have hnat := toNat_gatherWord hwidth hlt
    have hpow : 2 ^ width = 2 * 2 ^ (width - 1) := by
      rw [← Nat.pow_succ', Nat.succ_eq_add_one, Nat.sub_add_cancel hwidth]
    rw [BitVec.toInt_eq_toNat_of_lt (by omega), hnat]

end Word

end GsUsb.Math
