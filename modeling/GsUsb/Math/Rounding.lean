/-
# Rounding to the nearest integer

The quotient `(a + d / 2) / d` that unsigned code uses for rounded division, and the
rounding of a rational that leaves ties away from zero.
-/

import Mathlib.Data.Rat.Floor
import Mathlib.Tactic.Linarith

namespace GsUsb.Math

/-- The rounded quotient of two natural numbers. -/
def roundDiv (a d : ℕ) : ℕ := (a + d / 2) / d

/-- The rounded quotient is off by at most half a divisor. -/
theorem abs_sub_roundDiv_mul_le (a : ℕ) {d : ℕ} (hd : 0 < d) :
    |(a : ℚ) - roundDiv a d * d| ≤ d / 2 := by
  have hlow : roundDiv a d * d ≤ a + d / 2 := Nat.div_mul_le_self _ _
  have hhigh : a + d / 2 < roundDiv a d * d + d := Nat.lt_div_mul_add hd
  have hlow' : ((2 * (roundDiv a d * d) : ℕ) : ℚ) ≤ ((2 * a + d : ℕ) : ℚ) := by
    exact_mod_cast (by omega : 2 * (roundDiv a d * d) ≤ 2 * a + d)
  have hhigh' : ((2 * a : ℕ) : ℚ) ≤ ((2 * (roundDiv a d * d) + d : ℕ) : ℚ) := by
    exact_mod_cast (by omega : 2 * a ≤ 2 * (roundDiv a d * d) + d)
  push_cast at hlow' hhigh'
  rw [abs_le]
  constructor
  · linarith
  · linarith

/-- A rounded quotient is no larger than the dividend. -/
theorem roundDiv_le (a : ℕ) {d : ℕ} (hd : 0 < d) : roundDiv a d ≤ a := by
  rcases Nat.lt_or_ge d 2 with hone | htwo
  · obtain rfl : d = 1 := by omega
    simp [roundDiv]
  · rcases Nat.eq_zero_or_pos a with rfl | ha
    · rw [roundDiv, Nat.zero_add, Nat.div_eq_of_lt (Nat.div_lt_self hd (by decide))]
    · apply Nat.div_le_of_le_mul
      calc
        a + d / 2 ≤ a + (d - 1) := by omega
        _ ≤ a + (d - 1) * a := Nat.add_le_add_left (Nat.le_mul_of_pos_right _ ha) _
        _ = d * a := by
          rw [Nat.sub_mul, Nat.one_mul]
          exact Nat.add_sub_cancel' (Nat.le_mul_of_pos_left _ hd)

/-- A multiple of the divisor is divided exactly. -/
theorem roundDiv_mul (q : ℕ) {d : ℕ} (hd : 0 < d) : roundDiv (q * d) d = q := by
  rw [roundDiv, Nat.add_comm, Nat.add_mul_div_right _ _ hd,
    Nat.div_eq_of_lt (Nat.div_lt_self hd (by decide)), Nat.zero_add]

/-- `lround`: the nearest integer, ties away from zero. -/
def lround (x : ℚ) : ℤ := if 0 ≤ x then ⌊x + 1 / 2⌋ else -⌊-x + 1 / 2⌋

theorem lround_nonneg {x : ℚ} (hx : 0 ≤ x) : 0 ≤ lround x := by
  rw [lround, if_pos hx]
  exact Int.floor_nonneg.mpr (by linarith)

/-- A rational below an integer is not rounded above it. -/
theorem lround_le {x : ℚ} (hx : 0 ≤ x) {k : ℤ} (hxk : x < k) : lround x ≤ k := by
  rw [lround, if_pos hx, ← Int.lt_add_one_iff, Int.floor_lt]
  push_cast
  linarith

/-- Rounding moves a rational by at most a half. -/
theorem abs_lround_sub_le (x : ℚ) : |(lround x : ℚ) - x| ≤ 1 / 2 := by
  rw [lround, abs_le]
  split_ifs with hx
  · have hlow := Int.lt_floor_add_one (x + 1 / 2)
    have hhigh := Int.floor_le (x + 1 / 2)
    constructor
    · linarith
    · linarith
  · have hlow := Int.lt_floor_add_one (-x + 1 / 2)
    have hhigh := Int.floor_le (-x + 1 / 2)
    push_cast
    constructor
    · linarith
    · linarith

/-- **Clamping keeps the nearest integer.** On the way from the rounded rational to any
integer, every integer is nearer to the rational than the end. -/
theorem abs_sub_le_of_between {x : ℚ} {m k : ℤ}
    (h : (lround x ≤ m ∧ m ≤ k) ∨ (k ≤ m ∧ m ≤ lround x)) :
    |(m : ℚ) - x| ≤ |(k : ℚ) - x| := by
  obtain ⟨hlow, hhigh⟩ := abs_le.mp (abs_lround_sub_le x)
  rcases eq_or_ne m k with rfl | hne
  · exact le_rfl
  rcases h with ⟨hround, hk⟩ | ⟨hk, hround⟩
  · have hlt : m + 1 ≤ k := by omega
    have hround' : (lround x : ℚ) ≤ m := by exact_mod_cast hround
    have hlt' : (m : ℚ) + 1 ≤ k := by exact_mod_cast hlt
    rw [abs_of_nonneg (a := (k : ℚ) - x) (by linarith), abs_le]
    constructor
    · linarith
    · linarith
  · have hlt : k + 1 ≤ m := by omega
    have hround' : (m : ℚ) ≤ lround x := by exact_mod_cast hround
    have hlt' : (k : ℚ) + 1 ≤ m := by exact_mod_cast hlt
    rw [abs_of_nonpos (a := (k : ℚ) - x) (by linarith), abs_le]
    constructor
    · linarith
    · linarith

end GsUsb.Math
