/-
# The sweep through the prescalers

The counter of the search loop is a 32-bit value and its increment comes from the device.
The loop ends after its grid exactly when the first value past the grid does not wrap, or
wraps to zero and is then carried out of the range by the next increment.  Otherwise it
comes back to small values: it visits prescalers that are off the grid or were visited
before, and it may never end.
-/

import GsUsb.Driver.Bittiming
import Mathlib.Data.List.Nodup

namespace GsUsb.Driver

open GsUsb.Math GsUsb.Math.RunningBest

/-- The values of `brp` with which the loop enters its body, none when it is still running
after `fuel` tests. -/
def brpVisits (btc : GsusbBittimingConst) : (fuel : ℕ) → (brp : UInt32) → Option (List UInt32)
  | 0, _ => none
  | fuel + 1, brp =>
    if brp ≤ btc.brpMax then
      (brpVisits btc fuel (brp + effectiveBrpInc btc)).map (brp :: ·)
    else some []

/-- The visits whose body does not start with `continue`: all but `brp == 0`. -/
def evaluated (visits : List UInt32) : List UInt32 := visits.filter fun brp => brp ≠ 0

/-- The loop ends, evaluates each prescaler of the grid once, and evaluates no other. -/
def SweepsGrid (btc : GsusbBittimingConst) : Prop :=
  ∃ fuel visits, brpVisits btc fuel btc.brpMin = some visits ∧ (evaluated visits).Nodup ∧
    ∀ brp, brp ∈ evaluated visits ↔ OnGrid btc brp.toNat

-- `enum gs_usb_breq`
def gsUsbBreqBittiming : UInt8 := 1
def gsUsbBreqDataBittiming : UInt8 := 10

/-- A bit-timing request: `breq`, `wValue` and the bytes of its buffer. -/
structure BittimingRequest where
  breq : UInt8
  wValue : UInt16
  buf : Bytes
  deriving DecidableEq

/-- `send_bittiming`, with what `libusb_control_transfer` returns. -/
def sendBittiming (breq : UInt8) (ch : Channel) (regs : BittimingRegs) (rc : ℤ) :
    ℤ × Option BittimingRequest :=
  let buf := gsPutLe32 regs.propSeg ++ gsPutLe32 regs.phaseSeg1 ++ gsPutLe32 regs.phaseSeg2 ++
    gsPutLe32 regs.sjw ++ gsPutLe32 regs.brp
  (ctrlResult rc buf.length, some ⟨breq, UInt16.ofNat ch.index, buf⟩)

/-- What the two `set` functions share: calculate the registers from some constants and
send them; none where the calculation does not end. -/
def calcAndSend (breq : UInt8) (btc : GsusbBittimingConst) (ch : Channel) (bitrate : UInt32)
    (samplePoint : ℚ) (rc : ℤ) : Option (ℤ × Option BittimingRequest) :=
  (gsusbCalcBittiming btc.fclkCan bitrate samplePoint btc).map fun result =>
    match result with
    | .error err => (err, none)
    | .ok regs => sendBittiming breq ch regs rc

/-- `gsusb_channel_set_bitrate`. -/
def gsusbChannelSetBitrate (ch : Channel) : UInt32 → ℚ → ℤ → Option (ℤ × Option BittimingRequest) :=
  calcAndSend gsUsbBreqBittiming ch.btConst ch

/-- `gsusb_channel_set_data_bitrate`. -/
def gsusbChannelSetDataBitrate (ch : Channel) :
    UInt32 → ℚ → ℤ → Option (ℤ × Option BittimingRequest) :=
  calcAndSend gsUsbBreqDataBittiming (if ch.hasDataBtConst then ch.dataBtConst else ch.btConst) ch

/-- Both `set` functions return, whatever they are called with, on a channel that reported
these constants. -/
def AlwaysReturns (btc : GsusbBittimingConst) : Prop :=
  ∀ (ch : Channel) (bitrate : UInt32) (samplePoint : ℚ) (rc : ℤ),
    (ch.btConst = btc → (gsusbChannelSetBitrate ch bitrate samplePoint rc).isSome) ∧
      ((if ch.hasDataBtConst then ch.dataBtConst else ch.btConst) = btc →
        (gsusbChannelSetDataBitrate ch bitrate samplePoint rc).isSome)

section Sweep

variable {btc : GsusbBittimingConst}

/-- The search loop handles its visits one after the other. -/
theorem brpLoop_eq_map (clockHz bitrate : UInt32) (samplePoint : ℚ) (fuel : ℕ) (brp : UInt32)
    (best : Option Candidate) :
    brpLoop clockHz bitrate samplePoint btc fuel brp best =
      (brpVisits btc fuel brp).map fun visits =>
        visits.foldl (visitBrp clockHz bitrate samplePoint btc) best := by
  induction fuel generalizing brp best with
  | zero => rfl
  | succ fuel ih =>
      rw [brpLoop, brpVisits]
      split
      · rw [ih, Option.map_map]
        rfl
      · rfl

/-- More fuel does not change the visits of a loop that ends. -/
theorem brpVisits_add {fuel : ℕ} {brp : UInt32} {visits : List UInt32}
    (h : brpVisits btc fuel brp = some visits) (more : ℕ) :
    brpVisits btc (fuel + more) brp = some visits := by
  induction fuel generalizing brp visits with
  | zero => cases h
  | succ fuel ih =>
      rw [Nat.succ_add, brpVisits]
      rw [brpVisits] at h
      split at h
      · rename_i hle
        obtain ⟨rest, hrest, rfl⟩ := Option.map_eq_some_iff.mp h
        rw [if_pos hle, ih hrest]
        rfl
      · rename_i hgt
        rw [if_neg hgt]
        exact h

/-- The number of prescalers after the first one. -/
def gridCount (btc : GsusbBittimingConst) (brp : ℕ) : ℕ :=
  (btc.brpMax.toNat - brp) / gridStep btc

/-- The first value past the grid. -/
def pastGrid (btc : GsusbBittimingConst) (brp : ℕ) : ℕ :=
  brp + (gridCount btc brp + 1) * gridStep btc

theorem lt_pastGrid {brp : ℕ} (hle : brp ≤ btc.brpMax.toNat) :
    btc.brpMax.toNat < pastGrid btc brp := by
  have hdiv : btc.brpMax.toNat - brp < (gridCount btc brp + 1) * gridStep btc :=
    Nat.lt_mul_of_div_lt (Nat.lt_succ_self _) (gridStep_pos btc)
  rw [pastGrid]
  omega

/-- The first value past the grid is one step past the range at most. -/
theorem pastGrid_le {brp : ℕ} (hle : brp ≤ btc.brpMax.toNat) :
    pastGrid btc brp ≤ btc.brpMax.toNat + gridStep btc := by
  have hdiv : gridCount btc brp * gridStep btc ≤ btc.brpMax.toNat - brp := Nat.div_mul_le_self _ _
  rw [pastGrid, Nat.succ_mul]
  omega

/-- One prescaler further there is one fewer to come. -/
theorem gridCount_eq_succ {brp : ℕ} (hmore : brp + gridStep btc ≤ btc.brpMax.toNat) :
    gridCount btc brp = gridCount btc (brp + gridStep btc) + 1 := by
  rw [gridCount, Nat.div_eq_sub_div (gridStep_pos btc) (by omega), Nat.sub_sub, gridCount]

theorem gridCount_eq_zero {brp : ℕ} (hlast : btc.brpMax.toNat < brp + gridStep btc) :
    gridCount btc brp = 0 :=
  Nat.div_eq_of_lt (by have := gridStep_pos btc; omega)

/-- The loop goes through the grid and on to the first value past it, which may wrap. -/
theorem brpVisits_grid (fuel : ℕ) {brp : UInt32} (hle : brp.toNat ≤ btc.brpMax.toNat) :
    brpVisits btc (gridCount btc brp.toNat + 1 + fuel) brp =
      (brpVisits btc fuel (UInt32.ofNat (pastGrid btc brp.toNat))).map
        (gridFrom btc brp.toNat ++ ·) := by
  induction hcount : gridCount btc brp.toNat generalizing brp with
  | zero =>
      have hlast : btc.brpMax.toNat < brp.toNat + gridStep btc := by
        by_contra hmore
        rw [gridCount_eq_succ (Nat.not_lt.mp hmore)] at hcount
        cases hcount
      have hnext : brp + effectiveBrpInc btc = UInt32.ofNat (pastGrid btc brp.toNat) := by
        rw [pastGrid, hcount, Nat.zero_add, Nat.one_mul, UInt32.ofNat_add, UInt32.ofNat_toNat,
          ← toNat_effectiveBrpInc, UInt32.ofNat_toNat]
      rw [Nat.zero_add, Nat.add_comm, brpVisits, if_pos (UInt32.le_iff_toNat_le.mpr hle), hnext,
        gridFrom_eq_singleton hlast, UInt32.ofNat_toNat]
      rfl
  | succ k ih =>
      have hmore : brp.toNat + gridStep btc ≤ btc.brpMax.toNat := by
        by_contra hlast
        rw [gridCount_eq_zero (Nat.not_le.mp hlast)] at hcount
        cases hcount
      have hlt := btc.brpMax.toNat_lt
      have hnext : (brp + effectiveBrpInc btc).toNat = brp.toNat + gridStep btc := by
        rw [UInt32.toNat_add, toNat_effectiveBrpInc, Nat.mod_eq_of_lt (by omega)]
      have hrest : gridCount btc (brp + effectiveBrpInc btc).toNat = k := by
        rw [hnext]
        exact Nat.succ.inj ((gridCount_eq_succ hmore).symm.trans hcount)
      have hpast : pastGrid btc (brp.toNat + gridStep btc) = pastGrid btc brp.toNat := by
        rw [pastGrid, pastGrid, gridCount_eq_succ hmore, Nat.succ_mul (_ + 1)]
        omega
      rw [Nat.add_right_comm, brpVisits, if_pos (UInt32.le_iff_toNat_le.mpr hle),
        ih (by rw [hnext]; exact hmore) hrest, hnext, hpast, gridFrom_eq_cons hmore,
        Option.map_map, UInt32.ofNat_toNat]
      rfl

/-- The prescalers of the grid are different from each other. -/
theorem nodup_gridFrom {first : ℕ} (hle : first ≤ btc.brpMax.toNat) :
    (gridFrom btc first).Nodup := by
  have hlt := btc.brpMax.toNat_lt
  refine List.Nodup.map_on ?_ List.nodup_range
  intro j hj k hk heq
  have hbound {i : ℕ} (hi : i ∈ List.range (gridCount btc first + 1)) :
      (UInt32.ofNat (first + i * gridStep btc)).toNat = first + i * gridStep btc := by
    have hmul : i * gridStep btc ≤ btc.brpMax.toNat - first :=
      (Nat.le_div_iff_mul_le (gridStep_pos btc)).mp (Nat.lt_succ_iff.mp (List.mem_range.mp hi))
    rw [UInt32.toNat_ofNat']
    exact Nat.mod_eq_of_lt (by omega)
  have hsum := congrArg UInt32.toNat heq
  rw [hbound hj, hbound hk] at hsum
  exact Nat.eq_of_mul_eq_mul_right (gridStep_pos btc) (Nat.add_left_cancel hsum)

/-- The first value past the grid does not wrap, or it wraps to 0 and the next increment
leaves the range. -/
def NoWrap (btc : GsusbBittimingConst) : Prop :=
  pastGrid btc btc.brpMin.toNat < 2 ^ 32 ∨
    (pastGrid btc btc.brpMin.toNat = 2 ^ 32 ∧ btc.brpMax.toNat < gridStep btc)

/-- The grid is what the loop evaluates before it comes past it. -/
theorem evaluated_gridFrom (hmin : 1 ≤ btc.brpMin.toNat)
    (hmax : btc.brpMin.toNat ≤ btc.brpMax.toNat) :
    evaluated (gridFrom btc btc.brpMin.toNat) = gridFrom btc btc.brpMin.toNat := by
  refine List.filter_eq_self.mpr fun brp hbrp => ?_
  obtain ⟨k, hk⟩ := ((mem_gridFrom_iff hmax).mp hbrp).exists_eq
  have hne : brp ≠ 0 := by
    rintro rfl
    have hzero : (0 : UInt32).toNat = 0 := rfl
    omega
  simpa using hne

/-- A loop that enters its body once more goes on with the next value. -/
theorem exists_of_brpVisits {fuel : ℕ} {brp : UInt32} {visits : List UInt32}
    (h : brpVisits btc fuel brp = some visits) (hle : brp ≤ btc.brpMax) :
    ∃ fuel' rest, brpVisits btc fuel' (brp + effectiveBrpInc btc) = some rest ∧
      visits = brp :: rest := by
  cases fuel with
  | zero => cases h
  | succ fuel =>
      rw [brpVisits, if_pos hle] at h
      obtain ⟨rest, hrest, rfl⟩ := Option.map_eq_some_iff.mp h
      exact ⟨fuel, rest, hrest, rfl⟩

/-- A sweep that does not come back ends with the grid, or with the grid and a 0. -/
theorem NoWrap.exists_visits (hmin : 1 ≤ btc.brpMin.toNat)
    (hmax : btc.brpMin.toNat ≤ btc.brpMax.toNat) (h : NoWrap btc) :
    ∃ visits, brpVisits btc (2 ^ 32 + 1) btc.brpMin = some visits ∧
      evaluated visits = gridFrom btc btc.brpMin.toNat := by
  have hpast := lt_pastGrid hmax
  have hlt := btc.brpMax.toNat_lt
  have hcount : gridCount btc btc.brpMin.toNat ≤ btc.brpMax.toNat - btc.brpMin.toNat :=
    Nat.div_le_self _ _
  rcases h with hnowrap | ⟨hzero, hstep⟩
  · have hend : brpVisits btc 1 (UInt32.ofNat (pastGrid btc btc.brpMin.toNat)) = some [] := by
      rw [brpVisits, if_neg]
      rw [UInt32.le_iff_toNat_le, UInt32.toNat_ofNat', Nat.mod_eq_of_lt hnowrap]
      exact Nat.not_le.mpr hpast
    have hvisits := brpVisits_grid 1 hmax
    rw [hend, Option.map_some, List.append_nil] at hvisits
    have hmore := brpVisits_add hvisits (2 ^ 32 - 1 - gridCount btc btc.brpMin.toNat)
    rw [show gridCount btc btc.brpMin.toNat + 1 + 1 +
      (2 ^ 32 - 1 - gridCount btc btc.brpMin.toNat) = 2 ^ 32 + 1 by omega] at hmore
    exact ⟨_, hmore, evaluated_gridFrom hmin hmax⟩
  · have hskip : brpVisits btc 2 (UInt32.ofNat (pastGrid btc btc.brpMin.toNat)) = some [0] := by
      have hinc : ¬ 0 + effectiveBrpInc btc ≤ btc.brpMax := by
        rw [UInt32.zero_add, UInt32.le_iff_toNat_le, toNat_effectiveBrpInc]
        exact Nat.not_le.mpr hstep
      have hle : (0 : UInt32) ≤ btc.brpMax := UInt32.le_iff_toNat_le.mpr (Nat.zero_le _)
      rw [hzero]
      show brpVisits btc 2 0 = some [0]
      rw [brpVisits, if_pos hle, brpVisits, if_neg hinc]
      rfl
    have hvisits := brpVisits_grid 2 hmax
    rw [hskip, Option.map_some] at hvisits
    have hmore := brpVisits_add hvisits (2 ^ 32 - 2 - gridCount btc btc.brpMin.toNat)
    rw [show gridCount btc btc.brpMin.toNat + 1 + 2 +
      (2 ^ 32 - 2 - gridCount btc btc.brpMin.toNat) = 2 ^ 32 + 1 by omega] at hmore
    refine ⟨_, hmore, ?_⟩
    rw [evaluated, List.filter_append, ← evaluated, evaluated_gridFrom hmin hmax]
    simp

/-- A sweep that comes back evaluates something after its grid. -/
theorem exists_evaluated_of_wrap (hmax : btc.brpMin.toNat ≤ btc.brpMax.toNat)
    (hwrap : ¬ NoWrap btc) {fuel : ℕ} {rest : List UInt32}
    (hrest : brpVisits btc fuel (UInt32.ofNat (pastGrid btc btc.brpMin.toNat)) = some rest) :
    ∃ brp, brp ∈ evaluated rest := by
  have hlt := btc.brpMax.toNat_lt
  have hpast := pastGrid_le hmax
  have hinc := (effectiveBrpInc btc).toNat_lt
  rw [toNat_effectiveBrpInc] at hinc
  rw [NoWrap, not_or, not_lt, not_and, not_lt] at hwrap
  have hnext : (UInt32.ofNat (pastGrid btc btc.brpMin.toNat)).toNat =
      pastGrid btc btc.brpMin.toNat - 2 ^ 32 := by
    rw [UInt32.toNat_ofNat']
    omega
  obtain ⟨fuel', rest', hrest', rfl⟩ := exists_of_brpVisits hrest
    (UInt32.le_iff_toNat_le.mpr (by rw [hnext]; omega))
  by_cases hzero : UInt32.ofNat (pastGrid btc btc.brpMin.toNat) = 0
  · rw [hzero, UInt32.toNat_zero] at hnext
    have hstep := hwrap.2 (by omega)
    rw [hzero, UInt32.zero_add] at hrest'
    obtain ⟨-, rest'', -, rfl⟩ := exists_of_brpVisits hrest'
      (UInt32.le_iff_toNat_le.mpr (by rw [toNat_effectiveBrpInc]; exact hstep))
    have hne : effectiveBrpInc btc ≠ 0 := by
      intro heq
      have hpos := gridStep_pos btc
      rw [← toNat_effectiveBrpInc, heq, UInt32.toNat_zero] at hpos
      exact lt_irrefl _ hpos
    exact ⟨effectiveBrpInc btc, by simp [evaluated, hne]⟩
  · exact ⟨UInt32.ofNat (pastGrid btc btc.brpMin.toNat), by simp [evaluated, hzero]⟩

/-- A right sweep does not come back. -/
theorem SweepsGrid.noWrap (hmin : 1 ≤ btc.brpMin.toNat)
    (hmax : btc.brpMin.toNat ≤ btc.brpMax.toNat) (h : SweepsGrid btc) : NoWrap btc := by
  obtain ⟨fuel, visits, hvisits, hnodup, hmem⟩ := h
  by_contra hwrap
  have hmore := brpVisits_add hvisits (gridCount btc btc.brpMin.toNat + 1)
  rw [Nat.add_comm fuel, brpVisits_grid fuel hmax] at hmore
  obtain ⟨rest, hrest, rfl⟩ := Option.map_eq_some_iff.mp hmore
  obtain ⟨brp, hbrp⟩ := exists_evaluated_of_wrap hmax hwrap hrest
  have happend : evaluated (gridFrom btc btc.brpMin.toNat ++ rest) =
      gridFrom btc btc.brpMin.toNat ++ evaluated rest := by
    rw [evaluated, List.filter_append, ← evaluated, evaluated_gridFrom hmin hmax]
    rfl
  rw [happend] at hnodup hmem
  have hgrid := (mem_gridFrom_iff hmax).mpr ((hmem brp).mp (List.mem_append_right _ hbrp))
  exact (List.nodup_append.mp hnodup).2.2 brp hgrid brp hbrp rfl

/-- A sweep that does not come back is right. -/
theorem NoWrap.sweepsGrid (hmin : 1 ≤ btc.brpMin.toNat)
    (hmax : btc.brpMin.toNat ≤ btc.brpMax.toNat) (h : NoWrap btc) : SweepsGrid btc := by
  obtain ⟨visits, hvisits, heval⟩ := h.exists_visits hmin hmax
  refine ⟨_, visits, hvisits, ?_, ?_⟩
  · rw [heval]
    exact nodup_gridFrom hmax
  · intro brp
    rw [heval]
    exact mem_gridFrom_iff hmax

/-- The visit of 0 gives no candidate. -/
theorem filterMap_evaluated (clockHz bitrate : UInt32) (samplePoint : ℚ)
    (visits : List UInt32) :
    (evaluated visits).filterMap (tryBrp clockHz bitrate samplePoint btc) =
      visits.filterMap (tryBrp clockHz bitrate samplePoint btc) := by
  rw [evaluated, List.filterMap_filter]
  congr 1
  funext brp
  by_cases hbrp : brp = 0
  · simp [tryBrp, hbrp]
  · simp [hbrp]

/-- **The search without coming back.** The call returns the best candidate, or no solution
without any. -/
theorem NoWrap.gsusbCalcBittiming_eq {clockHz bitrate : UInt32} (h : NoWrap btc)
    (hclock : 0 < clockHz.toNat) (hbitrate : 0 < bitrate.toNat) (hmin : 1 ≤ btc.brpMin.toNat)
    (hmax : btc.brpMin.toNat ≤ btc.brpMax.toNat) (samplePoint : ℚ) :
    gsusbCalcBittiming clockHz bitrate samplePoint btc =
      some (match runningBest bitrateTol Candidate.bitrateErr Candidate.spErr
          (candidates clockHz bitrate (effectiveSamplePoint bitrate samplePoint) btc) with
        | none => .error gsusbErrNoBittimingSolution
        | some c => .ok (c.regs btc)) := by
  obtain ⟨visits, hvisits, heval⟩ := h.exists_visits hmin hmax
  rw [gsusbCalcBittiming_eq_map hclock hbitrate hmin hmax, brpLoop_eq_map, hvisits,
    Option.map_some, foldl_visitBrp, ← filterMap_evaluated, heval]
  rfl

/-- Where the call succeeds on such constants it found a candidate. -/
theorem NoWrap.exists_of_gsusbCalcBittiming (h : NoWrap btc) {clockHz bitrate : UInt32}
    {samplePoint : ℚ} {regs : BittimingRegs}
    (hcalc : gsusbCalcBittiming clockHz bitrate samplePoint btc = some (.ok regs)) :
    0 < bitrate.toNat ∧ ∃ c tseg1 tseg2, regs = c.regs btc ∧ OnGrid btc c.brp.toNat ∧
      0 < c.brp.toNat ∧ c.Near clockHz bitrate btc tseg1 tseg2 ∧
      runningBest bitrateTol Candidate.bitrateErr Candidate.spErr
        (candidates clockHz bitrate (effectiveSamplePoint bitrate samplePoint) btc) =
          some c :=
  exists_of_search
    (fun hclock hbitrate hmin hmax => h.gsusbCalcBittiming_eq hclock hbitrate hmin hmax _) hcalc

/-- With such constants the calculation always returns. -/
theorem NoWrap.calc_isSome (hmin : 1 ≤ btc.brpMin.toNat)
    (hmax : btc.brpMin.toNat ≤ btc.brpMax.toNat) (h : NoWrap btc) (clockHz bitrate : UInt32)
    (samplePoint : ℚ) : (gsusbCalcBittiming clockHz bitrate samplePoint btc).isSome := by
  obtain ⟨visits, hvisits, -⟩ := h.exists_visits hmin hmax
  rw [gsusbCalcBittiming, brpLoop_eq_map, hvisits]
  split_ifs <;> rfl

theorem NoWrap.alwaysReturns (hmin : 1 ≤ btc.brpMin.toNat)
    (hmax : btc.brpMin.toNat ≤ btc.brpMax.toNat) (h : NoWrap btc) : AlwaysReturns btc := by
  intro ch bitrate samplePoint rc
  constructor
  · rintro rfl
    rw [gsusbChannelSetBitrate, calcAndSend, Option.isSome_map]
    exact h.calc_isSome hmin hmax _ _ _
  · intro hbtc
    rw [gsusbChannelSetDataBitrate, calcAndSend, hbtc, Option.isSome_map]
    exact h.calc_isSome hmin hmax _ _ _

/-- **Exactly when the sweep ends and stays on its grid.** -/
theorem sweepsGrid_and_alwaysReturns_iff (hmin : 1 ≤ btc.brpMin.toNat)
    (hmax : btc.brpMin.toNat ≤ btc.brpMax.toNat) :
    SweepsGrid btc ∧ AlwaysReturns btc ↔ NoWrap btc := by
  constructor
  · intro h
    exact h.1.noWrap hmin hmax
  · intro h
    exact ⟨h.sweepsGrid hmin hmax, h.alwaysReturns hmin hmax⟩

/-- A loop that runs up to the largest value never ends. -/
theorem brpVisits_eq_none (hmax : btc.brpMax = 0xffffffff) (fuel : ℕ) (brp : UInt32) :
    brpVisits btc fuel brp = none := by
  induction fuel generalizing brp with
  | zero => rfl
  | succ fuel ih =>
      have hlt := brp.toNat_lt
      have hle : brp ≤ btc.brpMax := by
        rw [hmax, UInt32.le_iff_toNat_le]
        exact Nat.le_of_lt_succ hlt
      rw [brpVisits, if_pos hle, ih]
      rfl

end Sweep

/-- The 1024 prescalers of an adapter are swept. -/
theorem sweepsGrid_and_alwaysReturns_iff_clock48 :
    SweepsGrid clock48 ∧ AlwaysReturns clock48 :=
  (sweepsGrid_and_alwaysReturns_iff (by decide) (by decide)).mpr (.inl (by decide))

/-- Constants whose range reaches up to the largest value of the counter. -/
def fullRange : GsusbBittimingConst := { clock48 with brpMax := 0xffffffff }

/-- On these constants `brp <= brp_max` always holds, so setting a bitrate does not
return. -/
theorem not_sweepsGrid_fullRange :
    ¬ SweepsGrid fullRange ∧
      gsusbChannelSetBitrate (.ofBtConst 0 fullRange none) 500000 0 20 = none := by
  constructor
  · rintro ⟨fuel, visits, hvisits, -⟩
    rw [brpVisits_eq_none rfl] at hvisits
    cases hvisits
  · have hclock : ¬ ((48000000 : UInt32) = 0 ∨ (500000 : UInt32) = 0) := by decide
    have hrange : ¬ (fullRange.brpMin = 0 ∨ fullRange.brpMax < fullRange.brpMin) := by decide
    rw [gsusbChannelSetBitrate, calcAndSend]
    show (gsusbCalcBittiming 48000000 500000 0 fullRange).map _ = none
    rw [gsusbCalcBittiming, if_neg hclock, if_neg hrange, brpLoop_eq_map, brpVisits_eq_none rfl]
    rfl

end GsUsb.Driver
