/-
# Integer frequency dividers

A clock `c` divided by a natural number `N` approximates a frequency `b` up to a relative
error.  On one side of `b` two dividers with small errors have errors that differ by an
amount that depends on `c` and `b` only, so of three different small errors the outer
two are that far apart.
-/

import Mathlib.Algebra.Order.Field.Basic
import Mathlib.Algebra.Order.Field.Rat
import Mathlib.Tactic.FieldSimp
import Mathlib.Tactic.Linarith
import Mathlib.Tactic.NormNum
import Mathlib.Tactic.Ring

namespace GsUsb.Math

/-- The relative error of `c / N` as an approximation of `b`. -/
def relErr (c b : ℚ) (N : ℕ) : ℚ := |c / N - b| / b

variable {c b : ℚ}

/-- The error is the distance of the quotient of the two frequencies from 1. -/
theorem relErr_eq (hb : 0 < b) (N : ℕ) : relErr c b N = |c / N / b - 1| := by
  calc
    relErr c b N = |c / N - b| / |b| := by rw [relErr, abs_of_pos hb]
    _ = |(c / N - b) / b| := (abs_div _ _).symm
    _ = |c / N / b - 1| := by rw [sub_div, div_self hb.ne']

/-- Two different quotients near 1 are apart. -/
theorem quotient_gap (hc : 0 < c) (hb : 0 < b) {N N' : ℕ} (hN : 0 < N) (hN' : 0 < N')
    (hnear : 4 / 5 ≤ c / N / b) (hnear' : 4 / 5 ≤ c / N' / b) (hne : c / N / b ≠ c / N' / b) :
    16 / 25 * (b / c) ≤ |c / N / b - c / N' / b| := by
  have hNq : (0 : ℚ) < N := Nat.cast_pos.mpr hN
  have hNq' : (0 : ℚ) < N' := Nat.cast_pos.mpr hN'
  have hfactor :
      c / N / b - c / N' / b = c / N / b * (c / N' / b) * (b / c) * ((N' : ℤ) - N : ℤ) := by
    push_cast
    field_simp
  have hint : (1 : ℚ) ≤ |(((N' : ℤ) - N : ℤ) : ℚ)| := by
    have hdiff : (N' : ℤ) - N ≠ 0 := by
      intro hzero
      have heq : N' = N := by omega
      exact hne (by rw [heq])
    exact_mod_cast Int.one_le_abs hdiff
  have hprod : 16 / 25 ≤ c / N / b * (c / N' / b) := by nlinarith
  have hratio : 0 < b / c := div_pos hb hc
  have hpos : 0 ≤ c / N / b * (c / N' / b) * (b / c) :=
    mul_nonneg (by linarith) hratio.le
  rw [hfactor, abs_mul, abs_of_nonneg hpos]
  calc
    16 / 25 * (b / c) ≤ c / N / b * (c / N' / b) * (b / c) :=
      mul_le_mul_of_nonneg_right hprod hratio.le
    _ = c / N / b * (c / N' / b) * (b / c) * 1 := (mul_one _).symm
    _ ≤ c / N / b * (c / N' / b) * (b / c) * |(((N' : ℤ) - N : ℤ) : ℚ)| :=
      mul_le_mul_of_nonneg_left hint hpos

/-- A small error means a quotient near 1. -/
theorem le_quotient_of_relErr_le (hb : 0 < b) {N : ℕ} (herr : relErr c b N ≤ 1 / 5) :
    4 / 5 ≤ c / N / b := by
  rw [relErr_eq hb, abs_le] at herr
  linarith

/-- An absolute error of a fifth of the period bounds the relative error. -/
theorem relErr_le_of_abs_sub_le (hb : 0 < b) {N : ℕ} (hN : 0 < N)
    (habs : |c - N * b| ≤ N * b / 5) : relErr c b N ≤ 1 / 5 := by
  have hNb : 0 < N * b := mul_pos (Nat.cast_pos.mpr hN) hb
  have hquot : c / N / b - 1 = (c - N * b) / (N * b) := by
    rw [div_div, sub_div, div_self hNb.ne']
  rw [relErr_eq hb, hquot, abs_div, abs_of_pos hNb, div_le_iff₀ hNb]
  calc
    |c - N * b| ≤ N * b / 5 := habs
    _ = 1 / 5 * (N * b) := by ring

/-- Integer frequencies that do not divide exactly leave a small error apart from zero. -/
theorem relErr_gap_zero {c b N : ℕ} (hb : 0 < b) (hN : 0 < N) (hne : c ≠ N * b)
    (herr : relErr c b N ≤ 1 / 5) : 4 / 5 * (1 / (c : ℚ)) ≤ relErr c b N := by
  have hbq : (0 : ℚ) < b := Nat.cast_pos.mpr hb
  have hNb : (0 : ℚ) < N * b := mul_pos (Nat.cast_pos.mpr hN) hbq
  have hquot := le_quotient_of_relErr_le hbq herr
  rw [div_div, le_div_iff₀ hNb] at hquot
  have hc : (0 : ℚ) < c := by linarith
  have hint : (1 : ℚ) ≤ |(((c : ℤ) - N * b : ℤ) : ℚ)| := by
    have hdiff : (c : ℤ) - N * b ≠ 0 := by
      intro hzero
      apply hne
      exact_mod_cast (by omega : (c : ℤ) = N * b)
    exact_mod_cast Int.one_le_abs hdiff
  push_cast at hint
  have heq : relErr c b N = |(c : ℚ) - N * b| / (N * b) := by
    have hsub : (c : ℚ) / N / b - 1 = (c - N * b) / (N * b) := by
      rw [div_div, sub_div, div_self hNb.ne']
    rw [relErr_eq hbq, hsub, abs_div, abs_of_pos hNb]
  rw [heq]
  calc
    4 / 5 * (1 / (c : ℚ)) ≤ 1 / (N * b) := by
      rw [mul_one_div, div_le_div_iff₀ hc hNb]
      linarith
    _ ≤ |(c : ℚ) - N * b| / (N * b) := div_le_div_of_nonneg_right hint hNb.le

/-- Two different small errors on the fast side, or two on the slow side, are apart. -/
theorem relErr_gap (hc : 0 < c) (hb : 0 < b) {N N' : ℕ} (hN : 0 < N) (hN' : 0 < N')
    (hlt : relErr c b N < relErr c b N') (herr' : relErr c b N' ≤ 1 / 5)
    (hside : (1 ≤ c / N / b ∧ 1 ≤ c / N' / b) ∨ (c / N / b ≤ 1 ∧ c / N' / b ≤ 1)) :
    relErr c b N + 16 / 25 * (b / c) ≤ relErr c b N' := by
  have hne : c / N / b ≠ c / N' / b := by
    intro heq
    rw [relErr_eq hb, relErr_eq hb, heq] at hlt
    exact lt_irrefl _ hlt
  have hgap := quotient_gap hc hb hN hN' (le_quotient_of_relErr_le hb (hlt.le.trans herr'))
    (le_quotient_of_relErr_le hb herr') hne
  rw [relErr_eq hb, relErr_eq hb] at hlt ⊢
  rcases hside with ⟨h, h'⟩ | ⟨h, h'⟩
  · rw [abs_of_nonneg (sub_nonneg.mpr h), abs_of_nonneg (sub_nonneg.mpr h')] at hlt ⊢
    rw [abs_of_neg (by linarith)] at hgap
    linarith
  · rw [abs_of_nonpos (sub_nonpos.mpr h), abs_of_nonpos (sub_nonpos.mpr h')] at hlt ⊢
    rw [abs_of_pos (by linarith)] at hgap
    linarith

/-- **Spread of small errors.** The outer two of three different small errors are
apart. -/
theorem relErr_spread (hc : 0 < c) (hb : 0 < b) {N₁ N₂ N₃ : ℕ} (hN₁ : 0 < N₁) (hN₂ : 0 < N₂)
    (hN₃ : 0 < N₃) (h₁₂ : relErr c b N₁ < relErr c b N₂) (h₂₃ : relErr c b N₂ < relErr c b N₃)
    (herr : relErr c b N₃ ≤ 1 / 5) :
    relErr c b N₁ + 16 / 25 * (b / c) ≤ relErr c b N₃ := by
  have herr₂ := h₂₃.le.trans herr
  -- two of the three are on the same side
  rcases le_total 1 (c / N₁ / b) with h₁ | h₁
  · rcases le_total 1 (c / N₃ / b) with h₃ | h₃
    · exact relErr_gap hc hb hN₁ hN₃ (h₁₂.trans h₂₃) herr (.inl ⟨h₁, h₃⟩)
    · rcases le_total 1 (c / N₂ / b) with h₂ | h₂
      · exact (relErr_gap hc hb hN₁ hN₂ h₁₂ herr₂ (.inl ⟨h₁, h₂⟩)).trans h₂₃.le
      · exact (add_le_add_left h₁₂.le _).trans
          (relErr_gap hc hb hN₂ hN₃ h₂₃ herr (.inr ⟨h₂, h₃⟩))
  · rcases le_total 1 (c / N₃ / b) with h₃ | h₃
    · rcases le_total 1 (c / N₂ / b) with h₂ | h₂
      · exact (add_le_add_left h₁₂.le _).trans
          (relErr_gap hc hb hN₂ hN₃ h₂₃ herr (.inl ⟨h₂, h₃⟩))
      · exact (relErr_gap hc hb hN₁ hN₂ h₁₂ herr₂ (.inr ⟨h₁, h₂⟩)).trans h₂₃.le
    · exact relErr_gap hc hb hN₁ hN₃ (h₁₂.trans h₂₃) herr (.inr ⟨h₁, h₃⟩)

end GsUsb.Math
