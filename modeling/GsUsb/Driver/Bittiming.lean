/-
# The bit-timing calculator

`gsusb_calc_bittiming` with its 32- and 64-bit unsigned arithmetic as it stands, `double`
replaced by exact rationals and `long` by integers.  For each prescaler of the sweep the
code tries the one number of time quanta that comes closest to the bitrate, splits it
into two segments, and keeps the best candidate.
-/

import GsUsb.Driver.Device
import GsUsb.Math.Divider
import GsUsb.Math.Rounding
import GsUsb.Math.RunningBest

namespace GsUsb.Driver

open GsUsb.Math GsUsb.Math.RunningBest

/-- `default_sample_point`. -/
def defaultSamplePoint (bitrate : UInt32) : ℚ :=
  if bitrate > 800000 then 3 / 4 else if bitrate > 500000 then 4 / 5 else 7 / 8

/-- `sample_point` after its default was put in. -/
def effectiveSamplePoint (bitrate : UInt32) (samplePoint : ℚ) : ℚ :=
  if samplePoint ≤ 0 ∨ samplePoint ≥ 1 then defaultSamplePoint bitrate else samplePoint

/-- `tq64`: the time quanta of one bit, rounded. -/
def timeQuanta (clockHz bitrate brp : UInt32) : UInt64 :=
  let denom := brp.toUInt64 * bitrate.toUInt64
  (clockHz.toUInt64 + denom / 2) / denom

/-- `tseg1` for a sample point, clamped to its range. -/
def clampTseg1 (btc : GsusbBittimingConst) (samplePoint : ℚ) (tq : UInt32) : ℤ :=
  let tseg1 := lround (samplePoint * tq.toNat) - 1
  let tseg1 := if tseg1 < btc.tseg1Min.toNat then (btc.tseg1Min.toNat : ℤ) else tseg1
  if tseg1 > btc.tseg1Max.toNat then (btc.tseg1Max.toNat : ℤ) else tseg1

/-- `tseg1` and `tseg2` after `tseg2` was clamped to its range too. -/
def clampTsegs (btc : GsusbBittimingConst) (samplePoint : ℚ) (tq : UInt32) : ℤ × ℤ :=
  let tsegTotal : ℤ := (tq - 1).toNat
  let tseg1 := clampTseg1 btc samplePoint tq
  let tseg2 := tsegTotal - tseg1
  if tseg2 < btc.tseg2Min.toNat then (tsegTotal - btc.tseg2Min.toNat, btc.tseg2Min.toNat)
  else if tseg2 > btc.tseg2Max.toNat then (tsegTotal - btc.tseg2Max.toNat, btc.tseg2Max.toNat)
  else (tseg1, tseg2)

/-- The split of `tq` quanta, or none where the code gives the prescaler up. -/
def splitTsegs (btc : GsusbBittimingConst) (samplePoint : ℚ) (tq : UInt32) : Option (ℤ × ℤ) :=
  if tq - 1 < btc.tseg1Min + btc.tseg2Min then none
  else
    let tsegs := clampTsegs btc samplePoint tq
    if tsegs.1 < btc.tseg1Min.toNat ∨ tsegs.1 > btc.tseg1Max.toNat then none
    else if tsegs.2 < btc.tseg2Min.toNat ∨ tsegs.2 > btc.tseg2Max.toNat then none
    else some tsegs

/-- What the search knows of a setting. -/
structure Candidate where
  brp : UInt32
  tseg1 : ℤ
  tseg2 : ℤ
  bitrateErr : ℚ
  spErr : ℚ

/-- The body of the search loop up to the comparison; none where it continues. -/
def tryBrp (clockHz bitrate : UInt32) (samplePoint : ℚ) (btc : GsusbBittimingConst)
    (brp : UInt32) : Option Candidate :=
  if brp = 0 then none
  else if brp.toUInt64 * bitrate.toUInt64 = 0 then none
  else
    let tq64 := timeQuanta clockHz bitrate brp
    if tq64 < 3 ∨ tq64 > 0xffffffff then none
    else
      let tq := tq64.toUInt32
      match splitTsegs btc samplePoint tq with
      | none => none
      | some (tseg1, tseg2) =>
        let actualBitrate : ℚ := clockHz.toNat / (brp.toNat * tq.toNat)
        let achievedSp : ℚ := (1 + tseg1) / tq.toNat
        some
          { brp := brp
            tseg1 := tseg1
            tseg2 := tseg2
            bitrateErr := |actualBitrate - bitrate.toNat| / bitrate.toNat
            spErr := |achievedSp - samplePoint| }

/-- The tolerance `1e-12` of the comparison. -/
def bitrateTol : ℚ := 1 / 10 ^ 12

/-- The body of the search loop. -/
def visitBrp (clockHz bitrate : UInt32) (samplePoint : ℚ) (btc : GsusbBittimingConst)
    (best : Option Candidate) (brp : UInt32) : Option Candidate :=
  match tryBrp clockHz bitrate samplePoint btc brp with
  | none => best
  | some c => keep bitrateTol Candidate.bitrateErr Candidate.spErr best c

/-- `brp_inc`. -/
def effectiveBrpInc (btc : GsusbBittimingConst) : UInt32 :=
  if btc.brpInc ≠ 0 then btc.brpInc else 1

/-- The search loop from `brp` on, none when it is still running after `fuel` tests. -/
def brpLoop (clockHz bitrate : UInt32) (samplePoint : ℚ) (btc : GsusbBittimingConst) :
    (fuel : ℕ) → (brp : UInt32) → Option Candidate → Option (Option Candidate)
  | 0, _, _ => none
  | fuel + 1, brp, best =>
    if brp ≤ btc.brpMax then
      brpLoop clockHz bitrate samplePoint btc fuel (brp + effectiveBrpInc btc)
        (visitBrp clockHz bitrate samplePoint btc best brp)
    else some best

/-- The registers `gsusb_calc_bittiming` writes. -/
structure BittimingRegs where
  propSeg : UInt32
  phaseSeg1 : UInt32
  phaseSeg2 : UInt32
  sjw : UInt32
  brp : UInt32
  deriving DecidableEq

/-- The registers for the best candidate. -/
def Candidate.regs (btc : GsusbBittimingConst) (c : Candidate) : BittimingRegs :=
  let tseg2 := UInt32.ofNat (c.tseg2 % 2 ^ 32).toNat
  let sjw := if tseg2 > btc.sjwMax then btc.sjwMax else tseg2
  { propSeg := 0
    phaseSeg1 := UInt32.ofNat (c.tseg1 % 2 ^ 32).toNat
    phaseSeg2 := tseg2
    sjw := if sjw = 0 then 1 else sjw
    brp := c.brp }

/-- `gsusb_calc_bittiming` on pointers that are not null: the error or the registers it
writes.  It is none where the loop does not end: `brp` has `2 ^ 32` values, so a loop that
is still running after that many tests has come back to one it had. -/
def gsusbCalcBittiming (clockHz bitrate : UInt32) (samplePoint : ℚ)
    (btc : GsusbBittimingConst) : Option (Except ℤ BittimingRegs) :=
  if clockHz = 0 ∨ bitrate = 0 then some (.error gsusbErrInvalid)
  else if btc.brpMin = 0 ∨ btc.brpMax < btc.brpMin then some (.error gsusbErrInvalid)
  else
    (brpLoop clockHz bitrate (effectiveSamplePoint bitrate samplePoint) btc (2 ^ 32 + 1)
        btc.brpMin none).map fun best =>
      match best with
      | none => .error gsusbErrNoBittimingSolution
      | some c => .ok (c.regs btc)

/-! ## Arithmetic that does not wrap -/

/-- The prescaled bitrate in 64 bits is the product. -/
theorem toNat_denom (brp bitrate : UInt32) :
    (brp.toUInt64 * bitrate.toUInt64).toNat = brp.toNat * bitrate.toNat := by
  have hlt : brp.toNat * bitrate.toNat < 2 ^ 32 * 2 ^ 32 :=
    Nat.mul_lt_mul'' brp.toNat_lt bitrate.toNat_lt
  rw [UInt64.toNat_mul, UInt32.toNat_toUInt64, UInt32.toNat_toUInt64]
  exact Nat.mod_eq_of_lt hlt

/-- The number of time quanta is the rounded quotient, without a carry out of 64 bits. -/
theorem toNat_timeQuanta (clockHz bitrate brp : UInt32) :
    (timeQuanta clockHz bitrate brp).toNat =
      roundDiv clockHz.toNat (brp.toNat * bitrate.toNat) := by
  have hclock := clockHz.toNat_lt
  have hdenom := (brp.toUInt64 * bitrate.toUInt64).toNat_lt
  have htwo : (2 : UInt64).toNat = 2 := rfl
  rw [timeQuanta, UInt64.toNat_div, UInt64.toNat_add, UInt64.toNat_div, UInt32.toNat_toUInt64,
    htwo, Nat.mod_eq_of_lt (by omega), toNat_denom, roundDiv]

/-- The time quanta fit 32 bits. -/
theorem toNat_toUInt32_timeQuanta (clockHz : UInt32) {bitrate brp : UInt32}
    (hpos : 0 < brp.toNat * bitrate.toNat) :
    (timeQuanta clockHz bitrate brp).toUInt32.toNat =
      roundDiv clockHz.toNat (brp.toNat * bitrate.toNat) := by
  have hle := roundDiv_le clockHz.toNat hpos
  have hclock := clockHz.toNat_lt
  rw [UInt64.toNat_toUInt32, toNat_timeQuanta, Nat.mod_eq_of_lt (by omega)]

/-- The sample point the search uses lies inside the bit. -/
theorem effectiveSamplePoint_mem (bitrate : UInt32) (samplePoint : ℚ) :
    0 < effectiveSamplePoint bitrate samplePoint ∧
      effectiveSamplePoint bitrate samplePoint < 1 := by
  rw [effectiveSamplePoint]
  split
  · rw [defaultSamplePoint]
    split_ifs <;> norm_num
  · rename_i h
    rw [not_or, not_le, ge_iff_le, not_le] at h
    exact h

/-- The values the split keeps in a `long`. -/
def splitLongs (btc : GsusbBittimingConst) (samplePoint : ℚ) (tq : UInt32) : List ℤ :=
  [lround (samplePoint * tq.toNat), lround (samplePoint * tq.toNat) - 1,
    clampTseg1 btc samplePoint tq, (tq - 1).toNat - clampTseg1 btc samplePoint tq,
    (clampTsegs btc samplePoint tq).1, (clampTsegs btc samplePoint tq).2]

/-- Every `long` of the split lies far inside 64 bits. -/
theorem splitLongs_range (btc : GsusbBittimingConst) {samplePoint : ℚ}
    (hsp : 0 < samplePoint ∧ samplePoint < 1) (tq : UInt32) :
    ∀ x ∈ splitLongs btc samplePoint tq, -2 ^ 33 ≤ x ∧ x ≤ 2 ^ 33 := by
  have htq := tq.toNat_lt
  have htotal := (tq - 1).toNat_lt
  have hmin1 := btc.tseg1Min.toNat_lt
  have hmax1 := btc.tseg1Max.toNat_lt
  have hmin2 := btc.tseg2Min.toNat_lt
  have hmax2 := btc.tseg2Max.toNat_lt
  have htq0 : (0 : ℚ) ≤ tq.toNat := Nat.cast_nonneg _
  have hnonneg : 0 ≤ samplePoint * tq.toNat := mul_nonneg hsp.1.le htq0
  have hlow := lround_nonneg hnonneg
  have hhigh : lround (samplePoint * tq.toNat) ≤ (2 ^ 32 : ℕ) := by
    apply lround_le hnonneg
    calc
      samplePoint * tq.toNat ≤ 1 * tq.toNat := mul_le_mul_of_nonneg_right hsp.2.le htq0
      _ = tq.toNat := one_mul _
      _ < ((2 ^ 32 : ℕ) : ℤ) := by exact_mod_cast htq
  have hclamp1 : -1 ≤ clampTseg1 btc samplePoint tq ∧ clampTseg1 btc samplePoint tq ≤ 2 ^ 32 := by
    rw [clampTseg1]
    split_ifs <;> omega
  have hclamp : (-2 ^ 33 ≤ (clampTsegs btc samplePoint tq).1 ∧
      (clampTsegs btc samplePoint tq).1 ≤ 2 ^ 33) ∧
      -2 ^ 33 ≤ (clampTsegs btc samplePoint tq).2 ∧
      (clampTsegs btc samplePoint tq).2 ≤ 2 ^ 33 := by
    rw [clampTsegs]
    split_ifs <;> dsimp only <;> omega
  simp only [splitLongs, List.forall_mem_cons]
  refine ⟨by omega, by omega, by omega, by omega, hclamp.1, hclamp.2, nofun⟩

variable {btc : GsusbBittimingConst} {samplePoint : ℚ} {tq : UInt32}

/-- The clamped segments share out all quanta but the first. -/
theorem clampTsegs_add (htq : 0 < tq.toNat) :
    (clampTsegs btc samplePoint tq).1 + (clampTsegs btc samplePoint tq).2 = tq.toNat - 1 := by
  have htotal : (tq - 1).toNat = tq.toNat - 1 := UInt32.toNat_sub_of_le _ _ htq
  rw [clampTsegs, htotal]
  split_ifs <;> dsimp only <;> omega

/-- A split is one the constants allow. -/
theorem splitTsegs_eq_some {tsegs : ℤ × ℤ} (htq : 0 < tq.toNat)
    (hsplit : splitTsegs btc samplePoint tq = some tsegs) :
    tsegs.1 + tsegs.2 = tq.toNat - 1 ∧
      btc.tseg1Min.toNat ≤ tsegs.1 ∧ tsegs.1 ≤ btc.tseg1Max.toNat ∧
      btc.tseg2Min.toNat ≤ tsegs.2 ∧ tsegs.2 ≤ btc.tseg2Max.toNat := by
  rw [splitTsegs] at hsplit
  dsimp only at hsplit
  split_ifs at hsplit
  obtain rfl := Option.some.inj hsplit
  exact ⟨clampTsegs_add htq, by omega, by omega, by omega, by omega⟩

/-- **The split is complete.** If the constants allow any split of the quanta, the code
finds one; a wrapped `tseg1_min + tseg2_min` does not stop it. -/
theorem exists_splitTsegs {tseg1 tseg2 : ℕ} (htotal : 1 + tseg1 + tseg2 = tq.toNat)
    (h1 : btc.tseg1Min.toNat ≤ tseg1 ∧ tseg1 ≤ btc.tseg1Max.toNat)
    (h2 : btc.tseg2Min.toNat ≤ tseg2 ∧ tseg2 ≤ btc.tseg2Max.toNat) :
    ∃ tsegs, splitTsegs btc samplePoint tq = some tsegs := by
  have hsub : (tq - 1).toNat = tq.toNat - 1 :=
    UInt32.toNat_sub_of_le _ _ (UInt32.le_iff_toNat_le.mpr (by
      show 1 ≤ tq.toNat
      omega))
  have hlong : ¬ tq - 1 < btc.tseg1Min + btc.tseg2Min := by
    rw [UInt32.lt_iff_toNat_lt, hsub, UInt32.toNat_add, not_lt]
    exact (Nat.mod_le _ _).trans (by omega)
  have hclamp1 : (btc.tseg1Min.toNat : ℤ) ≤ clampTseg1 btc samplePoint tq ∧
      clampTseg1 btc samplePoint tq ≤ btc.tseg1Max.toNat := by
    rw [clampTseg1]
    split_ifs <;> omega
  have hclamp : (btc.tseg1Min.toNat : ℤ) ≤ (clampTsegs btc samplePoint tq).1 ∧
      (clampTsegs btc samplePoint tq).1 ≤ btc.tseg1Max.toNat ∧
      (btc.tseg2Min.toNat : ℤ) ≤ (clampTsegs btc samplePoint tq).2 ∧
      (clampTsegs btc samplePoint tq).2 ≤ btc.tseg2Max.toNat := by
    rw [clampTsegs, hsub]
    split_ifs
    · refine ⟨?_, ?_, ?_, ?_⟩ <;> dsimp only <;> omega
    · refine ⟨?_, ?_, ?_, ?_⟩ <;> dsimp only <;> omega
    · refine ⟨?_, ?_, ?_, ?_⟩ <;> dsimp only <;> omega
  refine ⟨clampTsegs btc samplePoint tq, ?_⟩
  rw [splitTsegs, if_neg hlong]
  dsimp only
  rw [if_neg (by omega), if_neg (by omega)]

/-- The distance of two prescalers of the sweep. -/
def gridStep (btc : GsusbBittimingConst) : ℕ := max btc.brpInc.toNat 1

/-- The number of quanta that comes closest to the bitrate at a prescaler. -/
def nearQuanta (clockHz bitrate : UInt32) (brp : ℕ) : ℕ :=
  roundDiv clockHz.toNat (brp * bitrate.toNat)

/-- The error of the bitrate with `tq` quanta at a prescaler. -/
def settingErr (clockHz bitrate : UInt32) (brp tq : ℕ) : ℚ :=
  relErr clockHz.toNat bitrate.toNat (brp * tq)

/-- A split of `tq` quanta that respects the ranges of the segments. -/
structure Split (btc : GsusbBittimingConst) (tseg1 tseg2 tq : ℕ) : Prop where
  total : 1 + tseg1 + tseg2 = tq
  three_le : 3 ≤ tq
  tseg1_mem : btc.tseg1Min.toNat ≤ tseg1 ∧ tseg1 ≤ btc.tseg1Max.toNat
  tseg2_mem : btc.tseg2Min.toNat ≤ tseg2 ∧ tseg2 ≤ btc.tseg2Max.toNat

/-- A prescaler of the sweep. -/
structure OnGrid (btc : GsusbBittimingConst) (brp : ℕ) : Prop where
  exists_eq : ∃ k, brp = btc.brpMin.toNat + k * gridStep btc
  le_max : brp ≤ btc.brpMax.toNat

variable {clockHz bitrate : UInt32} {c : Candidate} {brp : UInt32}

/-- What the search keeps of a candidate. -/
structure Candidate.Near (clockHz bitrate : UInt32) (btc : GsusbBittimingConst)
    (c : Candidate) (tseg1 tseg2 : ℕ) : Prop where
  tseg1_eq : c.tseg1 = tseg1
  tseg2_eq : c.tseg2 = tseg2
  split : Split btc tseg1 tseg2 (nearQuanta clockHz bitrate c.brp.toNat)
  err_eq : c.bitrateErr =
    settingErr clockHz bitrate c.brp.toNat (nearQuanta clockHz bitrate c.brp.toNat)

/-- A candidate splits the nearest number of quanta. -/
theorem tryBrp_eq_some (hbitrate : 0 < bitrate.toNat)
    (htry : tryBrp clockHz bitrate samplePoint btc brp = some c) :
    c.brp = brp ∧ 0 < brp.toNat ∧ ∃ tseg1 tseg2, c.Near clockHz bitrate btc tseg1 tseg2 := by
  rw [tryBrp] at htry
  dsimp only at htry
  split_ifs at htry with hbrp hdenom htq
  have hbrp' : 0 < brp.toNat := Nat.pos_of_ne_zero fun h => hbrp (UInt32.toNat_inj.mp h)
  have hnear := toNat_toUInt32_timeQuanta clockHz (Nat.mul_pos hbrp' hbitrate)
  rw [not_or, UInt64.lt_iff_toNat_lt, toNat_timeQuanta] at htq
  have hthree : 3 ≤ nearQuanta clockHz bitrate brp.toNat := Nat.not_lt.mp htq.1
  split at htry
  · cases htry
  rename_i tseg1 tseg2 hsplit
  obtain rfl := (Option.some.inj htry).symm
  obtain ⟨htotal, h1, h1', h2, h2'⟩ :=
    splitTsegs_eq_some (by rw [hnear]; exact Nat.lt_of_lt_of_le (by decide) hthree) hsplit
  rw [hnear] at htotal
  have htotal' : tseg1 + tseg2 = nearQuanta clockHz bitrate brp.toNat - 1 := htotal
  have hpos1 : 0 ≤ tseg1 := (Int.natCast_nonneg _).trans h1
  have hpos2 : 0 ≤ tseg2 := (Int.natCast_nonneg _).trans h2
  refine ⟨rfl, hbrp', tseg1.toNat, tseg2.toNat, (Int.toNat_of_nonneg hpos1).symm,
    (Int.toNat_of_nonneg hpos2).symm, ⟨?_, hthree, ?_, ?_⟩, ?_⟩
  · show 1 + tseg1.toNat + tseg2.toNat = nearQuanta clockHz bitrate brp.toNat
    omega
  · dsimp only at h1 h1'
    omega
  · dsimp only at h2 h2'
    omega
  · show |(clockHz.toNat : ℚ) / _ - _| / _ = _
    rw [hnear, settingErr, relErr, Nat.cast_mul]
    rfl

/-- Where a split of the nearest quanta is allowed there is a candidate. -/
theorem exists_tryBrp (hbitrate : 0 < bitrate.toNat) (hbrp : 0 < brp.toNat) {tseg1 tseg2 : ℕ}
    (hsplit : Split btc tseg1 tseg2 (nearQuanta clockHz bitrate brp.toNat)) :
    ∃ c, tryBrp clockHz bitrate samplePoint btc brp = some c := by
  have hpos := Nat.mul_pos hbrp hbitrate
  have hnear := toNat_toUInt32_timeQuanta clockHz hpos
  have hthree : 3 ≤ roundDiv clockHz.toNat (brp.toNat * bitrate.toNat) := hsplit.three_le
  have hle := roundDiv_le clockHz.toNat hpos
  have hclock := clockHz.toNat_lt
  have hbrp0 : ¬ brp = 0 := fun h => by
    rw [h] at hbrp
    exact lt_irrefl _ hbrp
  have hdenom : ¬ brp.toUInt64 * bitrate.toUInt64 = 0 := fun h => by
    rw [← toNat_denom, h] at hpos
    exact lt_irrefl _ hpos
  have htq : ¬ (timeQuanta clockHz bitrate brp < 3 ∨
      timeQuanta clockHz bitrate brp > 0xffffffff) := by
    have hbig : (0xffffffff : UInt64).toNat = 4294967295 := rfl
    have hsmall : (3 : UInt64).toNat = 3 := rfl
    rw [gt_iff_lt, UInt64.lt_iff_toNat_lt, UInt64.lt_iff_toNat_lt, toNat_timeQuanta, hbig, hsmall]
    omega
  obtain ⟨tsegs, htsegs⟩ : ∃ tsegs, splitTsegs btc samplePoint
      (timeQuanta clockHz bitrate brp).toUInt32 = some tsegs :=
    exists_splitTsegs (by rw [hnear]; exact hsplit.total) hsplit.tseg1_mem hsplit.tseg2_mem
  rw [tryBrp, if_neg hbrp0, if_neg hdenom]
  dsimp only
  rw [if_neg htq, htsegs]
  exact ⟨_, rfl⟩

theorem toNat_effectiveBrpInc (btc : GsusbBittimingConst) :
    (effectiveBrpInc btc).toNat = gridStep btc := by
  rw [effectiveBrpInc, gridStep]
  by_cases h : btc.brpInc = 0
  · rw [if_neg (not_not.mpr h), h]
    rfl
  · rw [if_pos h]
    have hpos : btc.brpInc.toNat ≠ 0 := fun hzero => h (UInt32.toNat_inj.mp hzero)
    exact (max_eq_left (Nat.one_le_iff_ne_zero.mpr hpos)).symm

theorem gridStep_pos (btc : GsusbBittimingConst) : 0 < gridStep btc :=
  lt_max_of_lt_right Nat.one_pos

/-- The prescalers from `brp` on. -/
def gridFrom (btc : GsusbBittimingConst) (brp : ℕ) : List UInt32 :=
  (List.range ((btc.brpMax.toNat - brp) / gridStep btc + 1)).map fun k =>
    UInt32.ofNat (brp + k * gridStep btc)

/-- The prescalers but the last one. -/
theorem gridFrom_eq_cons {first : ℕ} (hmore : first + gridStep btc ≤ btc.brpMax.toNat) :
    gridFrom btc first = UInt32.ofNat first :: gridFrom btc (first + gridStep btc) := by
  have hcount : (btc.brpMax.toNat - first) / gridStep btc =
      (btc.brpMax.toNat - (first + gridStep btc)) / gridStep btc + 1 := by
    rw [Nat.div_eq_sub_div (gridStep_pos btc) (by omega), Nat.sub_sub]
  rw [gridFrom, hcount, List.range_succ_eq_map, List.map_cons, List.map_map, Nat.zero_mul,
    Nat.add_zero, gridFrom]
  congr 2
  funext k
  show UInt32.ofNat (first + (k + 1) * gridStep btc) =
    UInt32.ofNat (first + gridStep btc + k * gridStep btc)
  rw [Nat.succ_mul, Nat.add_comm (k * _), Nat.add_assoc]

/-- The last prescaler. -/
theorem gridFrom_eq_singleton {first : ℕ} (hlast : btc.brpMax.toNat < first + gridStep btc) :
    gridFrom btc first = [UInt32.ofNat first] := by
  have hcount : (btc.brpMax.toNat - first) / gridStep btc = 0 :=
    Nat.div_eq_of_lt (by have := gridStep_pos btc; omega)
  rw [gridFrom, hcount]
  simp

/-- A sweep that does not wrap ends, and visits the prescalers in order. -/
theorem brpLoop_eq (hsweep : btc.brpMax.toNat + gridStep btc < 2 ^ 32) (fuel : ℕ)
    (best : Option Candidate) (hle : brp.toNat ≤ btc.brpMax.toNat)
    (hfuel : btc.brpMax.toNat - brp.toNat + 2 ≤ fuel) :
    brpLoop clockHz bitrate samplePoint btc fuel brp best =
      some ((gridFrom btc brp.toNat).foldl (visitBrp clockHz bitrate samplePoint btc) best) := by
  induction fuel generalizing brp best with
  | zero => omega
  | succ fuel ih =>
      have hstep := gridStep_pos btc
      have hnext : (brp + effectiveBrpInc btc).toNat = brp.toNat + gridStep btc := by
        rw [UInt32.toNat_add, toNat_effectiveBrpInc, Nat.mod_eq_of_lt (by omega)]
      rw [brpLoop, if_pos (UInt32.le_iff_toNat_le.mpr hle)]
      by_cases hmore : brp.toNat + gridStep btc ≤ btc.brpMax.toNat
      · rw [ih _ (by rw [hnext]; exact hmore) (by rw [hnext]; omega), hnext,
          gridFrom_eq_cons hmore, List.foldl_cons, UInt32.ofNat_toNat]
      · obtain ⟨fuel, rfl⟩ : ∃ k, fuel = k + 1 := ⟨fuel - 1, by omega⟩
        have hend : ¬ brp + effectiveBrpInc btc ≤ btc.brpMax := by
          rw [UInt32.le_iff_toNat_le, hnext]
          exact hmore
        rw [brpLoop, if_neg hend, gridFrom_eq_singleton (Nat.lt_of_not_le hmore),
          UInt32.ofNat_toNat]
        rfl

/-- The loop body only looks at candidates. -/
theorem foldl_visitBrp (l : List UInt32) (best : Option Candidate) :
    l.foldl (visitBrp clockHz bitrate samplePoint btc) best =
      (l.filterMap (tryBrp clockHz bitrate samplePoint btc)).foldl
        (keep bitrateTol Candidate.bitrateErr Candidate.spErr) best := by
  induction l generalizing best with
  | nil => rfl
  | cons brp l ih =>
      rw [List.foldl_cons, ih, visitBrp, List.filterMap_cons]
      cases tryBrp clockHz bitrate samplePoint btc brp with
      | none => rfl
      | some c => rfl

/-- The candidates of a search. -/
def candidates (clockHz bitrate : UInt32) (samplePoint : ℚ) (btc : GsusbBittimingConst) :
    List Candidate :=
  (gridFrom btc btc.brpMin.toNat).filterMap (tryBrp clockHz bitrate samplePoint btc)

/-- With arguments that pass the checks, the call returns what the loop ends with. -/
theorem gsusbCalcBittiming_eq_map (hclock : 0 < clockHz.toNat) (hbitrate : 0 < bitrate.toNat)
    (hmin : 0 < btc.brpMin.toNat) (hmax : btc.brpMin.toNat ≤ btc.brpMax.toNat)
    (samplePoint : ℚ) :
    gsusbCalcBittiming clockHz bitrate samplePoint btc =
      (brpLoop clockHz bitrate (effectiveSamplePoint bitrate samplePoint) btc (2 ^ 32 + 1)
          btc.brpMin none).map fun best =>
        match best with
        | none => .error gsusbErrNoBittimingSolution
        | some c => .ok (c.regs btc) := by
  have hne {x : UInt32} (hx : 0 < x.toNat) : x ≠ 0 := by
    rintro rfl
    exact lt_irrefl _ hx
  have hrange : ¬ (btc.brpMin = 0 ∨ btc.brpMax < btc.brpMin) := by
    rw [not_or, UInt32.lt_iff_toNat_lt, not_lt]
    exact ⟨hne hmin, hmax⟩
  rw [gsusbCalcBittiming, if_neg (not_or.mpr ⟨hne hclock, hne hbitrate⟩), if_neg hrange]

/-- **The search without wrapping.** The call returns the best candidate, or no solution
without any. -/
theorem gsusbCalcBittiming_eq (hclock : 0 < clockHz.toNat) (hbitrate : 0 < bitrate.toNat)
    (hmin : 0 < btc.brpMin.toNat) (hmax : btc.brpMin.toNat ≤ btc.brpMax.toNat)
    (hsweep : btc.brpMax.toNat + gridStep btc < 2 ^ 32) (samplePoint : ℚ) :
    gsusbCalcBittiming clockHz bitrate samplePoint btc =
      some (match runningBest bitrateTol Candidate.bitrateErr Candidate.spErr
          (candidates clockHz bitrate (effectiveSamplePoint bitrate samplePoint) btc) with
        | none => .error gsusbErrNoBittimingSolution
        | some c => .ok (c.regs btc)) := by
  rw [gsusbCalcBittiming_eq_map hclock hbitrate hmin hmax,
    brpLoop_eq hsweep _ _ hmax (by omega), foldl_visitBrp]
  rfl

/-- The prescalers of the sweep, as 32-bit values. -/
theorem mem_gridFrom_iff (hmax : btc.brpMin.toNat ≤ btc.brpMax.toNat) :
    brp ∈ gridFrom btc btc.brpMin.toNat ↔ OnGrid btc brp.toNat := by
  have hstep := gridStep_pos btc
  have hlt := btc.brpMax.toNat_lt
  rw [gridFrom, List.mem_map]
  constructor
  · rintro ⟨k, hk, rfl⟩
    have hle : k * gridStep btc ≤ btc.brpMax.toNat - btc.brpMin.toNat :=
      (Nat.le_div_iff_mul_le hstep).mp (Nat.lt_succ_iff.mp (List.mem_range.mp hk))
    have hval : (UInt32.ofNat (btc.brpMin.toNat + k * gridStep btc)).toNat =
        btc.brpMin.toNat + k * gridStep btc := by
      rw [UInt32.toNat_ofNat']
      exact Nat.mod_eq_of_lt (by omega)
    rw [hval]
    exact ⟨⟨k, rfl⟩, by omega⟩
  · rintro ⟨⟨k, hk⟩, hle⟩
    refine ⟨k, List.mem_range.mpr (Nat.lt_succ_iff.mpr ?_), ?_⟩
    · rw [Nat.le_div_iff_mul_le hstep]
      omega
    · rw [← hk, UInt32.ofNat_toNat]

/-- The registers of a candidate hold its segments. -/
theorem Candidate.Near.regs_eq {tseg1 tseg2 : ℕ}
    (h : c.Near clockHz bitrate btc tseg1 tseg2) :
    (c.regs btc).phaseSeg1.toNat = tseg1 ∧ (c.regs btc).phaseSeg2.toNat = tseg2 := by
  have h1 := h.split.tseg1_mem.2
  have h2 := h.split.tseg2_mem.2
  have hlt1 := btc.tseg1Max.toNat_lt
  have hlt2 := btc.tseg2Max.toNat_lt
  constructor
  · show (UInt32.ofNat (c.tseg1 % 2 ^ 32).toNat).toNat = tseg1
    rw [h.tseg1_eq, UInt32.toNat_ofNat']
    omega
  · show (UInt32.ofNat (c.tseg2 % 2 ^ 32).toNat).toNat = tseg2
    rw [h.tseg2_eq, UInt32.toNat_ofNat']
    omega

/-- The synchronisation jump width is positive, and small where the ranges allow it. -/
theorem Candidate.regs_sjw (btc : GsusbBittimingConst) (c : Candidate) :
    0 < (c.regs btc).sjw.toNat ∧
      (0 < (c.regs btc).phaseSeg2.toNat → 0 < btc.sjwMax.toNat →
        (c.regs btc).sjw.toNat ≤ (c.regs btc).phaseSeg2.toNat ∧
          (c.regs btc).sjw.toNat ≤ btc.sjwMax.toNat) := by
  have hclamp (seg2 sjwMax : UInt32) :
      let sjw := if seg2 > sjwMax then sjwMax else seg2
      let sjw := if sjw = 0 then 1 else sjw
      0 < sjw.toNat ∧ (0 < seg2.toNat → 0 < sjwMax.toNat →
        sjw.toNat ≤ seg2.toNat ∧ sjw.toNat ≤ sjwMax.toNat) := by
    intro sjw sjw'
    have hmin : sjw.toNat = min seg2.toNat sjwMax.toNat := by
      by_cases hbig : seg2 > sjwMax
      · rw [show sjw = sjwMax from if_pos hbig]
        exact (min_eq_right (UInt32.lt_iff_toNat_lt.mp hbig).le).symm
      · rw [show sjw = seg2 from if_neg hbig]
        rw [gt_iff_lt, UInt32.lt_iff_toNat_lt, not_lt] at hbig
        exact (min_eq_left hbig).symm
    by_cases hzero : sjw = 0
    · rw [show sjw' = 1 from if_pos hzero]
      rw [hzero] at hmin
      have hone : (1 : UInt32).toNat = 1 := rfl
      have hnone : (0 : UInt32).toNat = 0 := rfl
      refine ⟨by decide, fun hseg2 hmax => ?_⟩
      omega
    · rw [show sjw' = sjw from if_neg hzero, hmin]
      have hpos : sjw.toNat ≠ 0 := fun h => hzero (UInt32.toNat_inj.mp h)
      rw [hmin] at hpos
      exact ⟨Nat.pos_of_ne_zero hpos, fun _ _ => ⟨min_le_left _ _, min_le_right _ _⟩⟩
  exact hclamp (c.regs btc).phaseSeg2 btc.sjwMax

/-- Where the call succeeds its arguments passed the checks; and where it runs through its
candidates after them, it found one. -/
theorem exists_of_search {regs : BittimingRegs}
    (hsearch : 0 < clockHz.toNat → 0 < bitrate.toNat → 1 ≤ btc.brpMin.toNat →
      btc.brpMin.toNat ≤ btc.brpMax.toNat → gsusbCalcBittiming clockHz bitrate samplePoint btc =
        some (match runningBest bitrateTol Candidate.bitrateErr Candidate.spErr
            (candidates clockHz bitrate (effectiveSamplePoint bitrate samplePoint) btc) with
          | none => .error gsusbErrNoBittimingSolution
          | some c => .ok (c.regs btc)))
    (hcalc : gsusbCalcBittiming clockHz bitrate samplePoint btc = some (.ok regs)) :
    0 < bitrate.toNat ∧ ∃ c tseg1 tseg2, regs = c.regs btc ∧ OnGrid btc c.brp.toNat ∧
      0 < c.brp.toNat ∧ c.Near clockHz bitrate btc tseg1 tseg2 ∧
      runningBest bitrateTol Candidate.bitrateErr Candidate.spErr
        (candidates clockHz bitrate (effectiveSamplePoint bitrate samplePoint) btc) =
          some c := by
  have hpos {x : UInt32} (hx : x ≠ 0) : 0 < x.toNat :=
    Nat.pos_of_ne_zero fun h => hx (UInt32.toNat_inj.mp h)
  by_cases hargs : clockHz = 0 ∨ bitrate = 0
  · rw [gsusbCalcBittiming, if_pos hargs] at hcalc
    cases hcalc
  by_cases hrange : btc.brpMin = 0 ∨ btc.brpMax < btc.brpMin
  · rw [gsusbCalcBittiming, if_neg hargs, if_pos hrange] at hcalc
    cases hcalc
  rw [not_or] at hargs hrange
  have hmax : btc.brpMin.toNat ≤ btc.brpMax.toNat := by
    rw [← not_lt, ← UInt32.lt_iff_toNat_lt]
    exact hrange.2
  rw [hsearch (hpos hargs.1) (hpos hargs.2) (hpos hrange.1) hmax] at hcalc
  rcases hbest : runningBest bitrateTol Candidate.bitrateErr Candidate.spErr
      (candidates clockHz bitrate (effectiveSamplePoint bitrate samplePoint) btc) with _ | c
  · rw [hbest] at hcalc
    cases hcalc
  rw [hbest] at hcalc
  cases hcalc
  obtain ⟨brp, hgrid, htry⟩ := List.mem_filterMap.mp (mem_of_runningBest hbest)
  obtain ⟨rfl, hbrp, tseg1, tseg2, hnear⟩ := tryBrp_eq_some (hpos hargs.2) htry
  exact ⟨hpos hargs.2, c, tseg1, tseg2, rfl, (mem_gridFrom_iff hmax).mp hgrid, hbrp,
    hnear, rfl⟩

/-- **Soundness.** Registers the call returns are ones the constants allow, with at least
three quanta, half a quantum per bit or less off the bitrate, and a jump width in range;
and the integers the search keeps in a `long` fit one. -/
theorem gsusbCalcBittiming_sound {regs : BittimingRegs}
    (hsweep : btc.brpMax.toNat + max btc.brpInc.toNat 1 < 2 ^ 32)
    (hcalc : gsusbCalcBittiming clockHz bitrate samplePoint btc = some (.ok regs)) :
    (∃ k, regs.brp.toNat = btc.brpMin.toNat + k * max btc.brpInc.toNat 1) ∧
      regs.brp.toNat ≤ btc.brpMax.toNat ∧
      (btc.tseg1Min.toNat ≤ regs.propSeg.toNat + regs.phaseSeg1.toNat ∧
        regs.propSeg.toNat + regs.phaseSeg1.toNat ≤ btc.tseg1Max.toNat) ∧
      (btc.tseg2Min.toNat ≤ regs.phaseSeg2.toNat ∧
        regs.phaseSeg2.toNat ≤ btc.tseg2Max.toNat) ∧
      (let tq := 1 + regs.propSeg.toNat + regs.phaseSeg1.toNat + regs.phaseSeg2.toNat;
        3 ≤ tq ∧ |(clockHz.toNat : ℚ) - regs.brp.toNat * tq * bitrate.toNat| ≤
          regs.brp.toNat * bitrate.toNat / 2) ∧
      1 ≤ regs.sjw.toNat ∧
      (1 ≤ btc.tseg2Min.toNat → 1 ≤ btc.sjwMax.toNat →
        regs.sjw.toNat ≤ regs.phaseSeg2.toNat ∧ regs.sjw.toNat ≤ btc.sjwMax.toNat) ∧
      ∀ tq, ∀ x ∈ splitLongs btc (effectiveSamplePoint bitrate samplePoint) tq,
        -2 ^ 63 ≤ x ∧ x < 2 ^ 63 := by
  obtain ⟨hbitrate, c, tseg1, tseg2, rfl, hgrid, hbrp, hnear, -⟩ :=
    exists_of_search
      (fun hclock hbitrate hmin hmax => gsusbCalcBittiming_eq hclock hbitrate hmin hmax hsweep _)
      hcalc
  obtain ⟨hseg1, hseg2⟩ := hnear.regs_eq
  obtain ⟨hsjw, hsjw'⟩ := c.regs_sjw btc
  have hprop : (c.regs btc).propSeg.toNat = 0 := rfl
  have hbrp' : (c.regs btc).brp = c.brp := rfl
  have hsplit := hnear.split
  refine ⟨hgrid.exists_eq, hgrid.le_max, ?_, ?_, ?_, hsjw, ?_, ?_⟩
  · rw [hprop, hseg1, Nat.zero_add]
    exact hsplit.tseg1_mem
  · rw [hseg2]
    exact hsplit.tseg2_mem
  · rw [hprop, hseg1, hseg2, hbrp', Nat.add_zero, hsplit.total]
    refine ⟨hsplit.three_le, ?_⟩
    have habs := abs_sub_roundDiv_mul_le clockHz.toNat (Nat.mul_pos hbrp hbitrate)
    push_cast at habs
    rw [← nearQuanta] at habs
    calc
      |(clockHz.toNat : ℚ) - c.brp.toNat * nearQuanta clockHz bitrate c.brp.toNat *
          bitrate.toNat| =
          |(clockHz.toNat : ℚ) - nearQuanta clockHz bitrate c.brp.toNat *
            (c.brp.toNat * bitrate.toNat)| := by
        congr 2
        ring
      _ ≤ c.brp.toNat * bitrate.toNat / 2 := habs
  · intro hmin hmax
    have hmem := hsplit.tseg2_mem.1
    exact hsjw' (by rw [hseg2]; omega) hmax
  · intro tq x hx
    have hrange := splitLongs_range btc (effectiveSamplePoint_mem bitrate samplePoint) tq x hx
    omega

/-- Timing constants of an adapter with a 48 MHz clock. -/
def clock48 : GsusbBittimingConst :=
  { feature := 0, fclkCan := 48000000, tseg1Min := 1, tseg1Max := 16, tseg2Min := 1,
    tseg2Max := 8, sjwMax := 4, brpMin := 1, brpMax := 1024, brpInc := 1 }

/-- 500 kbit/s from 48 MHz: sixteen quanta, sampled after fourteen. -/
theorem calc_clock48 : gsusbCalcBittiming clock48.fclkCan 500000 0 clock48 =
    some (.ok ⟨0, 13, 2, 2, 6⟩) := by
  decide +kernel

/-- The prescaler 6 is one of 1024. -/
theorem gsusbCalcBittiming_sound_clock48 :
    gsusbCalcBittiming 48000000 500000 0 clock48 = some (.ok ⟨0, 13, 2, 2, 6⟩) ∧
      (3 ≤ 1 + 0 + 13 + 2 ∧ |(48000000 : ℚ) - 6 * (1 + 0 + 13 + 2 : ℕ) * 500000| ≤
        6 * 500000 / 2) :=
  ⟨calc_clock48, (gsusbCalcBittiming_sound (by decide) calc_clock48).2.2.2.2.1⟩

end GsUsb.Driver
