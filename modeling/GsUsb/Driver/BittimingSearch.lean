/-
# What the bit-timing search finds

The documentation of `gsusb_calc_bittiming` promises the combination with the smallest
bitrate error among all that the constants allow.  The search looks at one number of
quanta for each prescaler, the nearest one, so it finds that combination exactly where
the nearest numbers suffice.
-/

import GsUsb.Driver.BrpSweep

namespace GsUsb.Driver

open GsUsb.Math GsUsb.Math.RunningBest

/-- An allowed triple. -/
structure Allowed (btc : GsusbBittimingConst) (brp tseg1 tseg2 : ℕ) : Prop where
  grid : OnGrid btc brp
  split : Split btc tseg1 tseg2 (1 + tseg1 + tseg2)

/-- What the documentation promises: if any setting is allowed the call succeeds, and no
allowed setting beats the bitrate error of the returned one by more than the tolerance. -/
def FindsBest (clockHz bitrate : UInt32) (samplePoint : ℚ) (btc : GsusbBittimingConst) : Prop :=
  (∃ brp tseg1 tseg2, Allowed btc brp tseg1 tseg2) →
    ∃ regs, gsusbCalcBittiming clockHz bitrate samplePoint btc = some (.ok regs) ∧
      ∀ brp tseg1 tseg2, Allowed btc brp tseg1 tseg2 →
        settingErr clockHz bitrate regs.brp.toNat
            (1 + regs.propSeg.toNat + regs.phaseSeg1.toNat + regs.phaseSeg2.toNat) ≤
          settingErr clockHz bitrate brp (1 + tseg1 + tseg2) + 1 / 10 ^ 12

/-- Every allowed setting is matched, up to the tolerance, by an allowed one with the
nearest number of quanta for its prescaler. -/
def NearestSuffices (clockHz bitrate : UInt32) (btc : GsusbBittimingConst) : Prop :=
  ∀ brp tseg1 tseg2, Allowed btc brp tseg1 tseg2 →
    ∃ brp' tseg1' tseg2', Allowed btc brp' tseg1' tseg2' ∧
      1 + tseg1' + tseg2' = nearQuanta clockHz bitrate brp' ∧
      settingErr clockHz bitrate brp' (1 + tseg1' + tseg2') ≤
        settingErr clockHz bitrate brp (1 + tseg1 + tseg2) + 1 / 10 ^ 12

section Search

variable {clockHz bitrate : UInt32} {samplePoint : ℚ} {btc : GsusbBittimingConst}

theorem OnGrid.pos (hmin : 1 ≤ btc.brpMin.toNat) {brp : ℕ} (h : OnGrid btc brp) : 0 < brp := by
  obtain ⟨k, hk⟩ := h.exists_eq
  omega

theorem OnGrid.min_le_max {brp : ℕ} (h : OnGrid btc brp) :
    btc.brpMin.toNat ≤ btc.brpMax.toNat := by
  obtain ⟨k, hk⟩ := h.exists_eq
  have hle := h.le_max
  omega

theorem OnGrid.toNat_ofNat {brp : ℕ} (h : OnGrid btc brp) : (UInt32.ofNat brp).toNat = brp := by
  have hle := h.le_max
  have hlt := btc.brpMax.toNat_lt
  rw [UInt32.toNat_ofNat']
  exact Nat.mod_eq_of_lt (by omega)

/-- The nearest number of quanta is never off by more than a fifth. -/
theorem settingErr_nearQuanta_le (hbitrate : 0 < bitrate.toNat) {brp : ℕ} (hbrp : 0 < brp)
    (hthree : 3 ≤ nearQuanta clockHz bitrate brp) :
    settingErr clockHz bitrate brp (nearQuanta clockHz bitrate brp) ≤ 1 / 5 := by
  have hb : (0 : ℚ) < bitrate.toNat := Nat.cast_pos.mpr hbitrate
  have hbrp' : (0 : ℚ) < brp := Nat.cast_pos.mpr hbrp
  have hq : (3 : ℚ) ≤ nearQuanta clockHz bitrate brp := by exact_mod_cast hthree
  have habs := abs_sub_roundDiv_mul_le clockHz.toNat (Nat.mul_pos hbrp hbitrate)
  rw [← nearQuanta] at habs
  push_cast at habs
  apply relErr_le_of_abs_sub_le hb (Nat.mul_pos hbrp (by omega))
  push_cast
  have hprod : (0 : ℚ) < brp * bitrate.toNat := mul_pos hbrp' hb
  have hswap : (clockHz.toNat : ℚ) - brp * nearQuanta clockHz bitrate brp * bitrate.toNat =
      clockHz.toNat - nearQuanta clockHz bitrate brp * (brp * bitrate.toNat) := by ring
  rw [hswap]
  calc
    |(clockHz.toNat : ℚ) - nearQuanta clockHz bitrate brp * (brp * bitrate.toNat)| ≤
        brp * bitrate.toNat / 2 := habs
    _ ≤ 3 * (brp * bitrate.toNat) / 5 := by linarith
    _ ≤ nearQuanta clockHz bitrate brp * (brp * bitrate.toNat) / 5 := by
      have hmul := mul_le_mul_of_nonneg_right hq hprod.le
      linarith
    _ = brp * nearQuanta clockHz bitrate brp * bitrate.toNat / 5 := by ring

/-- Three different errors, the largest of a nearest number of quanta, never lie within
twice the tolerance. -/
theorem settingErr_spread (hclock : 0 < clockHz.toNat) (hbitrate : 0 < bitrate.toNat)
    {brp₁ tq₁ brp₂ tq₂ brp₃ : ℕ} (hpos₁ : 0 < brp₁ * tq₁) (hpos₂ : 0 < brp₂ * tq₂)
    (hbrp₃ : 0 < brp₃) (hthree : 3 ≤ nearQuanta clockHz bitrate brp₃)
    (h₁₂ : settingErr clockHz bitrate brp₁ tq₁ < settingErr clockHz bitrate brp₂ tq₂)
    (h₂₃ : settingErr clockHz bitrate brp₂ tq₂ <
      settingErr clockHz bitrate brp₃ (nearQuanta clockHz bitrate brp₃)) :
    settingErr clockHz bitrate brp₁ tq₁ + (bitrateTol + bitrateTol) <
      settingErr clockHz bitrate brp₃ (nearQuanta clockHz bitrate brp₃) := by
  have hc : (0 : ℚ) < clockHz.toNat := Nat.cast_pos.mpr hclock
  have hb : (1 : ℚ) ≤ bitrate.toNat := by exact_mod_cast hbitrate
  have hspread := relErr_spread hc (lt_of_lt_of_le one_pos hb) hpos₁ hpos₂
    (Nat.mul_pos hbrp₃ (by omega)) h₁₂ h₂₃ (settingErr_nearQuanta_le hbitrate hbrp₃ hthree)
  have hclock' : (clockHz.toNat : ℚ) ≤ 2 ^ 32 := by exact_mod_cast clockHz.toNat_lt.le
  have hgap : bitrateTol + bitrateTol < 16 / 25 * (bitrate.toNat / clockHz.toNat) := by
    calc
      bitrateTol + bitrateTol < 16 / 25 * (1 / 2 ^ 32) := by norm_num [bitrateTol]
      _ ≤ 16 / 25 * (bitrate.toNat / clockHz.toNat) :=
        mul_le_mul_of_nonneg_left (div_le_div₀ (by linarith) hb hc hclock') (by norm_num)
  calc
    settingErr clockHz bitrate brp₁ tq₁ + (bitrateTol + bitrateTol) <
        settingErr clockHz bitrate brp₁ tq₁ + 16 / 25 * (bitrate.toNat / clockHz.toNat) := by
      linarith
    _ ≤ settingErr clockHz bitrate brp₃ (nearQuanta clockHz bitrate brp₃) := hspread

/-- A candidate has a positive prescaler and the nearest number of quanta. -/
theorem near_of_mem_candidates (hbitrate : 0 < bitrate.toNat) {c : Candidate}
    (hc : c ∈ candidates clockHz bitrate samplePoint btc) :
    0 < c.brp.toNat ∧ ∃ tseg1 tseg2, c.Near clockHz bitrate btc tseg1 tseg2 := by
  obtain ⟨brp, -, htry⟩ := List.mem_filterMap.mp hc
  obtain ⟨rfl, hbrp, hnear⟩ := tryBrp_eq_some hbitrate htry
  exact ⟨hbrp, hnear⟩

/-- The candidates of a search are spread. -/
theorem candidates_spread (hclock : 0 < clockHz.toNat) (hbitrate : 0 < bitrate.toNat) :
    Spread bitrateTol Candidate.bitrateErr (candidates clockHz bitrate samplePoint btc) := by
  intro x hx y hy z hz hxy hyz
  obtain ⟨hbrpx, _, _, hx⟩ := near_of_mem_candidates hbitrate hx
  obtain ⟨hbrpy, _, _, hy⟩ := near_of_mem_candidates hbitrate hy
  obtain ⟨hbrpz, _, _, hz⟩ := near_of_mem_candidates hbitrate hz
  have hpos {brp tq : ℕ} (hbrp : 0 < brp) (hthree : 3 ≤ tq) : 0 < brp * tq :=
    Nat.mul_pos hbrp (by omega)
  rw [hx.err_eq, hy.err_eq] at hxy
  rw [hy.err_eq, hz.err_eq] at hyz
  rw [hx.err_eq, hz.err_eq]
  exact settingErr_spread hclock hbitrate (hpos hbrpx hx.split.three_le)
    (hpos hbrpy hy.split.three_le) hbrpz hz.split.three_le hxy hyz

/-- An allowed triple with the nearest number of quanta is a candidate. -/
theorem Allowed.exists_candidate (hbitrate : 0 < bitrate.toNat) (hmin : 1 ≤ btc.brpMin.toNat)
    {brp tseg1 tseg2 : ℕ} (hallowed : Allowed btc brp tseg1 tseg2)
    (hnear : 1 + tseg1 + tseg2 = nearQuanta clockHz bitrate brp) :
    ∃ c ∈ candidates clockHz bitrate samplePoint btc,
      tryBrp clockHz bitrate samplePoint btc (UInt32.ofNat brp) = some c ∧
        c.bitrateErr = settingErr clockHz bitrate brp (1 + tseg1 + tseg2) := by
  have hgrid := hallowed.grid
  have hval := hgrid.toNat_ofNat
  have hsplit := hallowed.split
  rw [hnear, ← hval] at hsplit
  obtain ⟨c, htry⟩ : ∃ c, tryBrp clockHz bitrate samplePoint btc (UInt32.ofNat brp) = some c :=
    exists_tryBrp hbitrate (by rw [hval]; exact hgrid.pos hmin) hsplit
  obtain ⟨hbrp, -, _, _, hc⟩ := tryBrp_eq_some hbitrate htry
  refine ⟨c, List.mem_filterMap.mpr ⟨UInt32.ofNat brp, ?_, htry⟩, htry, ?_⟩
  · rw [mem_gridFrom_iff hgrid.min_le_max, hval]
    exact hgrid
  · rw [hc.err_eq, hbrp, hval, hnear]

/-- The result of a search with a candidate is one that nothing beats by more than the
tolerance. -/
theorem exists_best (hclock : 0 < clockHz.toNat) (hbitrate : 0 < bitrate.toNat)
    (hmin : 1 ≤ btc.brpMin.toNat) (hmax : btc.brpMin.toNat ≤ btc.brpMax.toNat)
    (hsweep : NoWrap btc)
    (hne : candidates clockHz bitrate (effectiveSamplePoint bitrate samplePoint) btc ≠ []) :
    ∃ r ∈ candidates clockHz bitrate (effectiveSamplePoint bitrate samplePoint) btc,
      gsusbCalcBittiming clockHz bitrate samplePoint btc = some (.ok (r.regs btc)) ∧
      ∀ c ∈ candidates clockHz bitrate (effectiveSamplePoint bitrate samplePoint) btc,
        r.bitrateErr ≤ c.bitrateErr + bitrateTol := by
  obtain ⟨r, hbest⟩ : ∃ r, runningBest bitrateTol Candidate.bitrateErr Candidate.spErr
      (candidates clockHz bitrate (effectiveSamplePoint bitrate samplePoint) btc) = some r :=
    exists_runningBest hne
  refine ⟨r, mem_of_runningBest hbest, ?_, ?_⟩
  · rw [hsweep.gsusbCalcBittiming_eq hclock hbitrate hmin hmax, hbest]
  · exact runningBest_le (by norm_num [bitrateTol]) (candidates_spread hclock hbitrate) hbest

/-- A near tie on top of a near match is still a near match, as three different errors do
not lie that close together. -/
theorem bitrateErr_le_of_near_tie (hclock : 0 < clockHz.toNat) (hbitrate : 0 < bitrate.toNat)
    {c r : Candidate} (hc : c ∈ candidates clockHz bitrate samplePoint btc)
    (hr : r ∈ candidates clockHz bitrate samplePoint btc) {brp tq : ℕ} (hpos : 0 < brp * tq)
    (hmatch : c.bitrateErr ≤ settingErr clockHz bitrate brp tq + bitrateTol)
    (htie : r.bitrateErr ≤ c.bitrateErr + bitrateTol) :
    r.bitrateErr ≤ settingErr clockHz bitrate brp tq + bitrateTol := by
  obtain ⟨hbrpc, _, _, hc⟩ := near_of_mem_candidates hbitrate hc
  obtain ⟨hbrpr, _, _, hr⟩ := near_of_mem_candidates hbitrate hr
  have hposc : 0 < c.brp.toNat * nearQuanta clockHz bitrate c.brp.toNat :=
    Nat.mul_pos hbrpc (Nat.lt_of_lt_of_le (by decide) hc.split.three_le)
  rw [hc.err_eq] at hmatch htie
  rw [hr.err_eq] at htie ⊢
  by_contra hfar
  rw [not_le] at hfar
  have hspread := settingErr_spread hclock hbitrate hpos hposc hbrpr hr.split.three_le
    (by linarith) (by linarith)
  linarith

/-- The registers of a candidate hold its prescaler and its number of quanta. -/
theorem settingErr_regs (hbitrate : 0 < bitrate.toNat) {r : Candidate}
    (hr : r ∈ candidates clockHz bitrate samplePoint btc) :
    settingErr clockHz bitrate (r.regs btc).brp.toNat (1 + (r.regs btc).propSeg.toNat +
      (r.regs btc).phaseSeg1.toNat + (r.regs btc).phaseSeg2.toNat) = r.bitrateErr := by
  obtain ⟨-, tseg1, tseg2, hr⟩ := near_of_mem_candidates hbitrate hr
  obtain ⟨hseg1, hseg2⟩ := hr.regs_eq
  have hprop : (r.regs btc).propSeg.toNat = 0 := rfl
  rw [hprop, hseg1, hseg2, Nat.add_zero, hr.split.total, hr.err_eq]
  rfl

/-- What is promised comes from a candidate. -/
theorem FindsBest.nearestSuffices (hsweep : NoWrap btc)
    (hfinds : FindsBest clockHz bitrate samplePoint btc) : NearestSuffices clockHz bitrate btc := by
  intro brp tseg1 tseg2 hallowed
  obtain ⟨regs, hcalc, hbest⟩ := hfinds ⟨brp, tseg1, tseg2, hallowed⟩
  obtain ⟨-, c, seg1, seg2, rfl, hgrid, -, hc, -⟩ :=
    hsweep.exists_of_gsusbCalcBittiming hcalc
  obtain ⟨hseg1, hseg2⟩ := hc.regs_eq
  have htotal := hc.split.total
  have hle := hbest brp tseg1 tseg2 hallowed
  rw [hseg1, hseg2] at hle
  refine ⟨c.brp.toNat, seg1, seg2, ⟨hgrid, ?_⟩, htotal, hle⟩
  rw [htotal]
  exact hc.split

/-- A candidate for every allowed triple is enough. -/
theorem NearestSuffices.findsBest (hclock : 0 < clockHz.toNat) (hbitrate : 0 < bitrate.toNat)
    (hmin : 1 ≤ btc.brpMin.toNat) (hsweep : NoWrap btc)
    (hnear : NearestSuffices clockHz bitrate btc) :
    FindsBest clockHz bitrate samplePoint btc := by
  have hcandidate {brp tseg1 tseg2 : ℕ} (h : Allowed btc brp tseg1 tseg2) :
      ∃ c ∈ candidates clockHz bitrate (effectiveSamplePoint bitrate samplePoint) btc,
        c.bitrateErr ≤ settingErr clockHz bitrate brp (1 + tseg1 + tseg2) + bitrateTol := by
    obtain ⟨brp', tseg1', tseg2', h', htq, hle⟩ := hnear brp tseg1 tseg2 h
    obtain ⟨c, hc, -, herr⟩ := h'.exists_candidate hbitrate hmin htq
    exact ⟨c, hc, herr.trans_le hle⟩
  rintro ⟨brp, tseg1, tseg2, hallowed⟩
  obtain ⟨c, hc, -⟩ := hcandidate hallowed
  obtain ⟨r, hr, hcalc, hbest⟩ := exists_best hclock hbitrate hmin hallowed.grid.min_le_max hsweep
    (List.ne_nil_of_mem hc)
  refine ⟨r.regs btc, hcalc, ?_⟩
  intro brp tseg1 tseg2 hallowed
  obtain ⟨c, hc, hmatch⟩ := hcandidate hallowed
  rw [settingErr_regs hbitrate hr]
  exact bitrateErr_le_of_near_tie hclock hbitrate hc hr
    (Nat.mul_pos (hallowed.grid.pos hmin) (by omega)) hmatch (hbest c hc)

/-- **Exactly when the search keeps its promise.** -/
theorem findsBest_iff (hclock : 0 < clockHz.toNat) (hbitrate : 0 < bitrate.toNat)
    (hmin : 1 ≤ btc.brpMin.toNat) (hsweep : NoWrap btc) :
    FindsBest clockHz bitrate samplePoint btc ↔ NearestSuffices clockHz bitrate btc :=
  ⟨FindsBest.nearestSuffices hsweep, NearestSuffices.findsBest hclock hbitrate hmin hsweep⟩

end Search

/-- Six is one of the 1024 prescalers of an adapter and meets 500 kbit/s exactly, so nothing beats
what the call returns. -/
theorem findsBest_iff_clock48 : FindsBest 48000000 500000 0 clock48 := by
  have hexact : settingErr 48000000 500000 6 16 = 0 := by
    have hclock : (48000000 : UInt32).toNat = 48000000 := rfl
    have hbitrate : (500000 : UInt32).toNat = 500000 := rfl
    rw [settingErr, relErr, hclock, hbitrate]
    norm_num
  apply (findsBest_iff (by decide) (by decide) (by decide) (.inl (by decide))).mpr
  intro brp tseg1 tseg2 _
  refine ⟨6, 13, 2, ⟨⟨⟨5, rfl⟩, by decide⟩, ⟨rfl, by decide, by decide, by decide⟩⟩, rfl, ?_⟩
  have hnonneg : 0 ≤ settingErr 48000000 500000 brp (1 + tseg1 + tseg2) :=
    div_nonneg (abs_nonneg _) (Nat.cast_nonneg _)
  calc
    settingErr 48000000 500000 6 16 = 0 := hexact
    _ ≤ settingErr 48000000 500000 brp (1 + tseg1 + tseg2) + 1 / 10 ^ 12 :=
      add_nonneg hnonneg (by norm_num)

/-- 1800 bit/s from 48 MHz: the largest prescaler is nearest to the bitrate with 26 quanta,
which do not split, so the call finds no solution although 25 quanta are allowed. -/
theorem not_findsBest_clock48 :
    Allowed clock48 1024 16 8 ∧
      gsusbCalcBittiming 48000000 1800 0 clock48 = some (.error gsusbErrNoBittimingSolution) ∧
      ¬ FindsBest 48000000 1800 0 clock48 := by
  have hallowed : Allowed clock48 1024 16 8 :=
    ⟨⟨⟨1023, rfl⟩, by decide⟩, ⟨rfl, by decide, by decide, by decide⟩⟩
  have hnone : gsusbCalcBittiming 48000000 1800 0 clock48 =
      some (.error gsusbErrNoBittimingSolution) := by
    decide +kernel
  refine ⟨hallowed, hnone, ?_⟩
  intro hfinds
  obtain ⟨regs, hcalc, -⟩ := hfinds ⟨1024, 16, 8, hallowed⟩
  rw [hnone] at hcalc
  cases hcalc

end GsUsb.Driver
