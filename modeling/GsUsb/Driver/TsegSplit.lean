/-
# The split of a fixed number of quanta

For a number of quanta the search rounds the sample point to a first segment and clamps
both segments to their ranges.  The clamps move the rounded segment no further than they
must, so of all splits the ranges allow the one found is nearest to the sample point; and
where the ranges allow a split at all, one is found.
-/

import GsUsb.Driver.Bittiming

namespace GsUsb.Driver

open GsUsb.Math

/-- The distance of the sample point of a split from the wanted one. -/
def samplePointErr (samplePoint : ℚ) (tseg1 : ℤ) (tq : ℕ) : ℚ :=
  |(1 + tseg1) / tq - samplePoint|

variable {btc : GsusbBittimingConst} {samplePoint : ℚ} {tq : UInt32}

/-- The distance in quanta. -/
theorem samplePointErr_eq {tq : ℕ} (htq : 0 < tq) (samplePoint : ℚ) (tseg1 : ℤ) :
    samplePointErr samplePoint tseg1 tq = |((1 + tseg1 : ℤ) : ℚ) - samplePoint * tq| / tq := by
  have hpos : (0 : ℚ) < tq := Nat.cast_pos.mpr htq
  have hquot : ((1 + tseg1 : ℤ) : ℚ) / tq - samplePoint =
      (((1 + tseg1 : ℤ) : ℚ) - samplePoint * tq) / tq := by
    rw [sub_div, mul_div_cancel_right₀ _ hpos.ne']
  have hcast : samplePointErr samplePoint tseg1 tq =
      |((1 + tseg1 : ℤ) : ℚ) / tq - samplePoint| := by
    rw [samplePointErr]
    push_cast
    rfl
  rw [hcast, hquot, abs_div, abs_of_pos hpos]

/-- The clamped segment lies between the rounded one and any other that is allowed. -/
theorem clampTsegs_between {tsegs : ℤ × ℤ} (htq : 0 < tq.toNat)
    (hsplit : splitTsegs btc samplePoint tq = some tsegs) {tseg1 tseg2 : ℤ}
    (htotal : tseg1 + tseg2 = tq.toNat - 1)
    (h1 : btc.tseg1Min.toNat ≤ tseg1 ∧ tseg1 ≤ btc.tseg1Max.toNat)
    (h2 : btc.tseg2Min.toNat ≤ tseg2 ∧ tseg2 ≤ btc.tseg2Max.toNat) :
    (lround (samplePoint * tq.toNat) ≤ 1 + tsegs.1 ∧ 1 + tsegs.1 ≤ 1 + tseg1) ∨
      (1 + tseg1 ≤ 1 + tsegs.1 ∧ 1 + tsegs.1 ≤ lround (samplePoint * tq.toNat)) := by
  have hsub : (tq - 1).toNat = tq.toNat - 1 := UInt32.toNat_sub_of_le _ _ htq
  obtain ⟨-, hlow1, hhigh1, hlow2, hhigh2⟩ := splitTsegs_eq_some htq hsplit
  have hclamp : tsegs = clampTsegs btc samplePoint tq := by
    rw [splitTsegs] at hsplit
    dsimp only at hsplit
    split_ifs at hsplit
    exact (Option.some.inj hsplit).symm
  subst hclamp
  generalize hround : lround (samplePoint * tq.toNat) = round
  simp only [clampTsegs, clampTseg1, hsub, hround] at hlow1 hhigh1 hlow2 hhigh2 ⊢
  split_ifs at hlow1 hhigh1 hlow2 hhigh2 ⊢ <;> dsimp only at * <;> omega

/-- **The split is the best one.** No split of the same quanta that the constants allow is
sampled nearer to the wanted point. -/
theorem samplePointErr_splitTsegs_le {tsegs : ℤ × ℤ} (htq : 0 < tq.toNat)
    (hsplit : splitTsegs btc samplePoint tq = some tsegs) {tseg1 tseg2 : ℤ}
    (htotal : tseg1 + tseg2 = tq.toNat - 1)
    (h1 : btc.tseg1Min.toNat ≤ tseg1 ∧ tseg1 ≤ btc.tseg1Max.toNat)
    (h2 : btc.tseg2Min.toNat ≤ tseg2 ∧ tseg2 ≤ btc.tseg2Max.toNat) :
    samplePointErr samplePoint tsegs.1 tq.toNat ≤ samplePointErr samplePoint tseg1 tq.toNat := by
  rw [samplePointErr_eq htq, samplePointErr_eq htq]
  apply div_le_div_of_nonneg_right _ (Nat.cast_nonneg _)
  exact abs_sub_le_of_between (clampTsegs_between htq hsplit htotal h1 h2)

/-- Two integers in the ranges of the constants that share out the quanta after the
synchronisation segment. -/
structure Splits (btc : GsusbBittimingConst) (tq : UInt32) (tseg1 tseg2 : ℤ) : Prop where
  total : tseg1 + tseg2 = tq.toNat - 1
  tseg1_mem : btc.tseg1Min.toNat ≤ tseg1 ∧ tseg1 ≤ btc.tseg1Max.toNat
  tseg2_mem : btc.tseg2Min.toNat ≤ tseg2 ∧ tseg2 ≤ btc.tseg2Max.toNat

/-- The code gives a number of quanta up exactly where the constants allow no split. -/
theorem splitTsegs_eq_none_iff (htq : 0 < tq.toNat) :
    splitTsegs btc samplePoint tq = none ↔ ¬ ∃ tseg1 tseg2, Splits btc tq tseg1 tseg2 := by
  constructor
  · rintro hnone ⟨tseg1, tseg2, hsplits⟩
    obtain ⟨htotal, h1, h2⟩ := hsplits
    -- the bounds are unsigned, so the segments are natural numbers
    lift tseg1 to ℕ using (Int.natCast_nonneg _).trans h1.1
    lift tseg2 to ℕ using (Int.natCast_nonneg _).trans h2.1
    have hquanta : 1 + tseg1 + tseg2 = tq.toNat := by omega
    have hmem1 : btc.tseg1Min.toNat ≤ tseg1 ∧ tseg1 ≤ btc.tseg1Max.toNat := by omega
    have hmem2 : btc.tseg2Min.toNat ≤ tseg2 ∧ tseg2 ≤ btc.tseg2Max.toNat := by omega
    obtain ⟨tsegs, hsome⟩ : ∃ tsegs, splitTsegs btc samplePoint tq = some tsegs :=
      exists_splitTsegs hquanta hmem1 hmem2
    rw [hnone] at hsome
    cases hsome
  · intro hnosplit
    rcases hsplit : splitTsegs btc samplePoint tq with _ | tsegs
    · rfl
    · obtain ⟨htotal, hlow1, hhigh1, hlow2, hhigh2⟩ := splitTsegs_eq_some htq hsplit
      exact absurd ⟨_, _, htotal, ⟨hlow1, hhigh1⟩, ⟨hlow2, hhigh2⟩⟩ hnosplit

/-- The body of the search loop goes as far as the split for every prescaler that gives a
number of quanta from 3 on, and it continues exactly where the split does. -/
theorem tryBrp_eq_none_iff {clockHz bitrate brp : UInt32} (hbrp : brp ≠ 0)
    (hdenom : brp.toUInt64 * bitrate.toUInt64 ≠ 0) (hthree : 3 ≤ tq.toNat)
    (htq : timeQuanta clockHz bitrate brp = tq.toUInt64) :
    tryBrp clockHz bitrate samplePoint btc brp = none ↔
      splitTsegs btc samplePoint tq = none := by
  have hlow : ¬ tq.toUInt64 < 3 := by
    rw [UInt64.lt_iff_toNat_lt, UInt32.toNat_toUInt64]
    exact Nat.not_lt.mpr hthree
  have hhigh : ¬ tq.toUInt64 > 0xffffffff := by
    rw [gt_iff_lt, UInt64.lt_iff_toNat_lt, UInt32.toNat_toUInt64]
    exact Nat.not_lt.mpr (Nat.le_of_lt_succ tq.toNat_lt)
  rw [tryBrp, if_neg hbrp, if_neg hdenom]
  dsimp only
  rw [htq, if_neg (not_or.mpr ⟨hlow, hhigh⟩), UInt32.toUInt32_toUInt64]
  rcases splitTsegs btc samplePoint tq with _ | ⟨tseg1, tseg2⟩
  · simp only
  · simp only [reduceCtorEq]

/-- **The split is complete and optimal.** The code gives a number of quanta up exactly
where no segments in the ranges share it out.  What it computes otherwise are such segments,
none are sampled nearer to the wanted point, and no `long` on the way needs more than 64
bits. -/
theorem splitTsegs_complete_and_optimal (btc : GsusbBittimingConst) {samplePoint : ℚ}
    (hsp : 0 < samplePoint ∧ samplePoint < 1) {tq : UInt32} (htq : 3 ≤ tq.toNat) :
    (splitTsegs btc samplePoint tq = none ↔ ¬ ∃ tseg1 tseg2, Splits btc tq tseg1 tseg2) ∧
      (∀ tsegs, splitTsegs btc samplePoint tq = some tsegs →
        Splits btc tq tsegs.1 tsegs.2 ∧
          ∀ tseg1 tseg2, Splits btc tq tseg1 tseg2 →
            |(1 + tsegs.1) / tq.toNat - samplePoint| ≤ |(1 + tseg1) / tq.toNat - samplePoint|) ∧
      ∀ x ∈ splitLongs btc samplePoint tq, -2 ^ 63 ≤ x ∧ x < 2 ^ 63 := by
  have hpos : 0 < tq.toNat := by omega
  refine ⟨splitTsegs_eq_none_iff hpos, ?_, ?_⟩
  · intro tsegs hsplit
    obtain ⟨htotal, hlow1, hhigh1, hlow2, hhigh2⟩ := splitTsegs_eq_some hpos hsplit
    refine ⟨⟨htotal, ⟨hlow1, hhigh1⟩, ⟨hlow2, hhigh2⟩⟩, ?_⟩
    intro tseg1 tseg2 hsplits
    exact samplePointErr_splitTsegs_le hpos hsplit hsplits.total hsplits.tseg1_mem
      hsplits.tseg2_mem
  · intro x hx
    obtain ⟨hlow, hhigh⟩ := splitLongs_range btc hsp tq x hx
    exact ⟨by omega, by omega⟩

/-- The constants of an adapter whose lower bounds add up to more than 32 bits hold. -/
def wrappingConst : GsusbBittimingConst :=
  { (default : GsusbBittimingConst) with
    tseg1Min := 0xffffffff, tseg1Max := 0xffffffff, tseg2Min := 3, tseg2Max := 8 }

/-- The split of 16 quanta under a wrapped sum of the lower bounds. -/
theorem splitTsegs_complete_and_optimal_wrapping :
    (0 < (7 / 8 : ℚ) ∧ (7 / 8 : ℚ) < 1) ∧ 3 ≤ (16 : UInt32).toNat ∧
      splitTsegs wrappingConst (7 / 8) 16 = none := by
  have hsp : 0 < (7 / 8 : ℚ) ∧ (7 / 8 : ℚ) < 1 := by norm_num
  have hthree : 3 ≤ (16 : UInt32).toNat := by decide
  refine ⟨hsp, hthree, ?_⟩
  obtain ⟨hnone, -, -⟩ := splitTsegs_complete_and_optimal wrappingConst hsp hthree
  rw [hnone]
  rintro ⟨tseg1, tseg2, htotal, ⟨hlow1, -⟩, hlow2, -⟩
  have hmin1 : wrappingConst.tseg1Min.toNat = 4294967295 := rfl
  have hmin2 : wrappingConst.tseg2Min.toNat = 3 := rfl
  have hquanta : (16 : UInt32).toNat = 16 := rfl
  omega

end GsUsb.Driver
