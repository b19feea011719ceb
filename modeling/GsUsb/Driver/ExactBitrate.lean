/-
# Bitrates the clock divides into exactly

Where some allowed setting produces the bitrate exactly, every other setting misses it by
far more than the tolerance of the comparison.  The search then returns an exact setting,
and of the exact settings one that is sampled nearest to the wanted point.
-/

import GsUsb.Driver.BittimingSearch
import GsUsb.Driver.TsegSplit

namespace GsUsb.Driver

open GsUsb.Math GsUsb.Math.RunningBest

/-- The setting divides the clock into the bitrate. -/
def ExactSetting (clockHz bitrate : UInt32) (brp tseg1 tseg2 : ℕ) : Prop :=
  clockHz.toNat = brp * (1 + tseg1 + tseg2) * bitrate.toNat

section Exact

variable {clockHz bitrate : UInt32} {samplePoint : ℚ} {btc : GsusbBittimingConst}
  {brp tseg1 tseg2 : ℕ}

/-- The nearest number of quanta is the exact one. -/
theorem ExactSetting.nearQuanta_eq (h : ExactSetting clockHz bitrate brp tseg1 tseg2)
    (hpos : 0 < brp * bitrate.toNat) : nearQuanta clockHz bitrate brp = 1 + tseg1 + tseg2 := by
  have hclock : clockHz.toNat = (1 + tseg1 + tseg2) * (brp * bitrate.toNat) := by
    rw [h, Nat.mul_comm brp, Nat.mul_assoc]
  rw [nearQuanta, hclock, roundDiv_mul _ hpos]

/-- An exact setting has no error. -/
theorem ExactSetting.settingErr_eq (h : ExactSetting clockHz bitrate brp tseg1 tseg2)
    (hbrp : 0 < brp) : settingErr clockHz bitrate brp (1 + tseg1 + tseg2) = 0 := by
  have hN : ((brp * (1 + tseg1 + tseg2) : ℕ) : ℚ) ≠ 0 :=
    Nat.cast_ne_zero.mpr (Nat.mul_pos hbrp (by omega)).ne'
  rw [settingErr, relErr, h, Nat.cast_mul, mul_div_cancel_left₀ _ hN, sub_self, abs_zero,
    zero_div]

/-- A setting whose error is within the tolerance is exact. -/
theorem tol_lt_settingErr (hbitrate : 0 < bitrate.toNat) {tq : ℕ} (hN : 0 < brp * tq)
    (herr : settingErr clockHz bitrate brp tq ≤ 1 / 5)
    (hne : clockHz.toNat ≠ brp * tq * bitrate.toNat) :
    bitrateTol < settingErr clockHz bitrate brp tq := by
  have hgap := relErr_gap_zero hbitrate hN hne herr
  have hclock : (clockHz.toNat : ℚ) ≤ 2 ^ 32 := by exact_mod_cast clockHz.toNat_lt.le
  have hpos : (0 : ℚ) < clockHz.toNat := by
    rcases Nat.eq_zero_or_pos clockHz.toNat with hzero | hpos
    · have hquot := le_quotient_of_relErr_le (Nat.cast_pos.mpr hbitrate) herr
      rw [hzero, Nat.cast_zero, zero_div, zero_div] at hquot
      norm_num at hquot
    · exact Nat.cast_pos.mpr hpos
  calc
    bitrateTol < 4 / 5 * (1 / 2 ^ 32) := by norm_num [bitrateTol]
    _ ≤ 4 / 5 * (1 / (clockHz.toNat : ℚ)) :=
      mul_le_mul_of_nonneg_left (one_div_le_one_div_of_le hpos hclock) (by norm_num)
    _ ≤ settingErr clockHz bitrate brp tq := hgap

/-- The candidates are exact or clear of the tolerance. -/
theorem candidates_gap (hbitrate : 0 < bitrate.toNat) {c : Candidate}
    (hc : c ∈ candidates clockHz bitrate samplePoint btc) :
    c.bitrateErr = 0 ∨ bitrateTol < c.bitrateErr := by
  obtain ⟨hbrp, seg1, seg2, hnear⟩ := near_of_mem_candidates hbitrate hc
  have hthree := hnear.split.three_le
  rw [hnear.err_eq]
  by_cases hexact : ExactSetting clockHz bitrate c.brp.toNat seg1 seg2
  · left
    rw [← hnear.split.total]
    exact hexact.settingErr_eq hbrp
  · right
    rw [ExactSetting, hnear.split.total] at hexact
    exact tol_lt_settingErr hbitrate (Nat.mul_pos hbrp (by omega))
      (settingErr_nearQuanta_le hbitrate hbrp hthree) hexact

/-- A candidate without error is exact. -/
theorem Candidate.Near.exactSetting (hbitrate : 0 < bitrate.toNat) {c : Candidate}
    (hbrp : 0 < c.brp.toNat) (h : c.Near clockHz bitrate btc tseg1 tseg2)
    (hzero : c.bitrateErr = 0) : ExactSetting clockHz bitrate c.brp.toNat tseg1 tseg2 := by
  have hthree := h.split.three_le
  by_contra hne
  rw [ExactSetting, h.split.total] at hne
  have htol := tol_lt_settingErr hbitrate (Nat.mul_pos hbrp (by omega))
    (settingErr_nearQuanta_le hbitrate hbrp hthree) hne
  rw [← h.err_eq, hzero] at htol
  exact absurd htol (by norm_num [bitrateTol])

/-- What a candidate is sampled at, against any other split of its quanta. -/
theorem tryBrp_spErr (hbitrate : 0 < bitrate.toNat) {brp : UInt32} {c : Candidate}
    (htry : tryBrp clockHz bitrate samplePoint btc brp = some c) :
    c.spErr = samplePointErr samplePoint c.tseg1 (nearQuanta clockHz bitrate brp.toNat) ∧
      ∀ tseg1 tseg2, Split btc tseg1 tseg2 (nearQuanta clockHz bitrate brp.toNat) →
        c.spErr ≤ samplePointErr samplePoint tseg1 (nearQuanta clockHz bitrate brp.toNat) := by
  obtain ⟨-, hbrp, seg1, seg2, hnear⟩ := tryBrp_eq_some hbitrate htry
  have hthree := hnear.split.three_le
  have htq := toNat_toUInt32_timeQuanta clockHz (Nat.mul_pos hbrp hbitrate)
  rw [tryBrp] at htry
  dsimp only at htry
  split_ifs at htry
  split at htry
  · cases htry
  rename_i tseg1 tseg2 hsplit
  obtain rfl := Option.some.inj htry
  have herr : |(1 + (tseg1 : ℚ)) / ((timeQuanta clockHz bitrate brp).toUInt32.toNat : ℚ) -
      samplePoint| = samplePointErr samplePoint tseg1 (nearQuanta clockHz bitrate brp.toNat) := by
    rw [samplePointErr, htq]
    rfl
  refine ⟨herr, ?_⟩
  intro other1 other2 hother
  show |_| ≤ _
  rw [herr]
  have htq' : (timeQuanta clockHz bitrate brp).toUInt32.toNat =
      nearQuanta clockHz bitrate brp.toNat := htq
  have htotal := hother.total
  have htotal' : (other1 : ℤ) + (other2 : ℤ) =
      (timeQuanta clockHz bitrate brp).toUInt32.toNat - 1 := by
    rw [htq']
    omega
  have hbest := samplePointErr_splitTsegs_le
    (by rw [htq']; exact Nat.lt_of_lt_of_le (by decide) hthree) hsplit htotal'
    (by have := hother.tseg1_mem; omega) (by have := hother.tseg2_mem; omega)
  rw [htq'] at hbest
  exact hbest

/-- An exact setting is matched by a candidate that is sampled at least as well. -/
theorem ExactSetting.exists_candidate (h : ExactSetting clockHz bitrate brp tseg1 tseg2)
    (samplePoint : ℚ) (hbitrate : 0 < bitrate.toNat) (hmin : 1 ≤ btc.brpMin.toNat)
    (hallowed : Allowed btc brp tseg1 tseg2) :
    ∃ c ∈ candidates clockHz bitrate samplePoint btc, c.bitrateErr = 0 ∧
      c.spErr ≤ samplePointErr samplePoint tseg1 (1 + tseg1 + tseg2) := by
  have hbrp := hallowed.grid.pos hmin
  have hnear := h.nearQuanta_eq (Nat.mul_pos hbrp hbitrate)
  obtain ⟨c, hc, htry, herr⟩ : ∃ c ∈ candidates clockHz bitrate samplePoint btc, _ :=
    hallowed.exists_candidate hbitrate hmin hnear.symm
  have hleast := (tryBrp_spErr hbitrate htry).2 tseg1 tseg2
  rw [hallowed.grid.toNat_ofNat, hnear] at hleast
  exact ⟨c, hc, herr.trans (h.settingErr_eq hbrp), hleast hallowed.split⟩

/-- **Exact bitrates are found, sampled as near as can be.** -/
theorem gsusbCalcBittiming_exact (hbitrate : 0 < bitrate.toNat) (hmin : 1 ≤ btc.brpMin.toNat)
    (hsweep : NoWrap btc) (hallowed : Allowed btc brp tseg1 tseg2)
    (hexact : ExactSetting clockHz bitrate brp tseg1 tseg2) :
    ∃ regs, gsusbCalcBittiming clockHz bitrate samplePoint btc = some (.ok regs) ∧
      Allowed btc regs.brp.toNat (regs.propSeg.toNat + regs.phaseSeg1.toNat)
        regs.phaseSeg2.toNat ∧
      ExactSetting clockHz bitrate regs.brp.toNat
        (regs.propSeg.toNat + regs.phaseSeg1.toNat) regs.phaseSeg2.toNat ∧
      ∀ brp tseg1 tseg2, Allowed btc brp tseg1 tseg2 →
        ExactSetting clockHz bitrate brp tseg1 tseg2 →
          samplePointErr (effectiveSamplePoint bitrate samplePoint) regs.phaseSeg1.toNat
              (1 + regs.phaseSeg1.toNat + regs.phaseSeg2.toNat) ≤
            samplePointErr (effectiveSamplePoint bitrate samplePoint) tseg1
              (1 + tseg1 + tseg2) := by
  have hbrp := hallowed.grid.pos hmin
  have hclock : 0 < clockHz.toNat := by
    rw [hexact]
    exact Nat.mul_pos (Nat.mul_pos hbrp (by omega)) hbitrate
  obtain ⟨c, hc, hzero, -⟩ := hexact.exists_candidate (effectiveSamplePoint bitrate samplePoint)
    hbitrate hmin hallowed
  obtain ⟨r, hbest⟩ : ∃ r, runningBest bitrateTol Candidate.bitrateErr Candidate.spErr
      (candidates clockHz bitrate (effectiveSamplePoint bitrate samplePoint) btc) = some r :=
    exists_runningBest (List.ne_nil_of_mem hc)
  have hwins := runningBest_of_zero (by norm_num [bitrateTol])
    (fun x hx => candidates_gap hbitrate hx) hbest
  have hr := mem_of_runningBest hbest
  obtain ⟨brp', hgrid, htry⟩ := List.mem_filterMap.mp hr
  obtain ⟨rfl, hbrp', seg1, seg2, hnear⟩ := tryBrp_eq_some hbitrate htry
  have hgrid' : OnGrid btc r.brp.toNat :=
    (mem_gridFrom_iff hallowed.grid.min_le_max).mp hgrid
  have htotal := hnear.split.total
  obtain ⟨hseg1, hseg2⟩ := hnear.regs_eq
  have hprop : (r.regs btc).propSeg.toNat = 0 := rfl
  have hregs : (r.regs btc).brp = r.brp := rfl
  refine ⟨r.regs btc, ?_, ?_, ?_, ?_⟩
  · rw [hsweep.gsusbCalcBittiming_eq hclock hbitrate hmin hallowed.grid.min_le_max, hbest]
  · rw [hregs, hprop, hseg1, hseg2, Nat.zero_add]
    exact ⟨hgrid', htotal ▸ hnear.split⟩
  · rw [hregs, hprop, hseg1, hseg2, Nat.zero_add]
    exact hnear.exactSetting hbitrate hbrp' (hwins c hc hzero).1
  · intro brp tseg1 tseg2 hallowed hexact
    obtain ⟨d, hd, hdzero, hdle⟩ := hexact.exists_candidate
      (effectiveSamplePoint bitrate samplePoint) hbitrate hmin hallowed
    rw [hseg1, hseg2, htotal]
    calc
      samplePointErr (effectiveSamplePoint bitrate samplePoint) seg1
          (nearQuanta clockHz bitrate r.brp.toNat) = r.spErr := by
        rw [(tryBrp_spErr hbitrate htry).1, hnear.tseg1_eq]
      _ ≤ d.spErr := (hwins d hd hdzero).2
      _ ≤ samplePointErr (effectiveSamplePoint bitrate samplePoint) tseg1
          (1 + tseg1 + tseg2) := hdle

end Exact

/-- 500 kbit/s from 48 MHz, with one of the prescalers that divide it. -/
theorem gsusbCalcBittiming_exact_clock48 :
    ∃ regs, gsusbCalcBittiming 48000000 500000 0 clock48 = some (.ok regs) ∧
      ExactSetting 48000000 500000 regs.brp.toNat
        (regs.propSeg.toNat + regs.phaseSeg1.toNat) regs.phaseSeg2.toNat := by
  have hallowed : Allowed clock48 8 8 3 :=
    ⟨⟨⟨7, rfl⟩, by decide⟩, ⟨rfl, by decide, by decide, by decide⟩⟩
  have hdivides : ExactSetting 48000000 500000 8 8 3 := rfl
  obtain ⟨regs, hcalc, -, hexact, -⟩ :=
    gsusbCalcBittiming_exact (by decide) (by decide) (.inl (by decide)) hallowed hdivides
  exact ⟨regs, hcalc, hexact⟩

end GsUsb.Driver
