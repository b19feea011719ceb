/-
# The engine speed monitor in Python

`extract_intel` cuts a field out of the data of a frame bit by bit, and `try_get_engine_speed`
reads the engine speed of a J1939 message with it.
-/

import Mathlib.Data.Rat.Init
import GsUsb.Math.BitField
import GsUsb.Python.Frame

namespace GsUsb.Python

open GsUsb.Driver GsUsb.Math

def eec1Pgn : ℕ := 0xF004

def spn190StartBit : ℕ := 24

def spn190Length : ℕ := 16

/-- rpm per bit -/
def spn190Scale : ℚ := 1 / 8

/-- raw high byte above this = error/NA -/
def spn190NotAvailableHighByte : ℕ := 0xFA

/-- `pgn_of`. -/
def pgnOf (canId : ℕ) : ℕ := (canId >>> 8) &&& 0xFFFF

/-- `extract_intel`. -/
def extractIntel (data : Bytes) (startBit length : ℕ) : ℕ :=
  (List.range length).foldl (fun value i =>
    let bit := startBit + i
    let byteIdx := bit / 8
    let bitIdx := bit % 8
    if data[byteIdx]?.any fun byte => (byte.toNat >>> bitIdx) &&& 1 ≠ 0 then value ||| 1 <<< i
    else value) 0

/-- `try_get_engine_speed`. -/
def tryGetEngineSpeed (frame : Frame) : Option ℚ :=
  if ¬ frame.isExtended ∨ pgnOf frame.id ≠ eec1Pgn then none
  else if frame.data.length < 6 then none
  else
    let raw := extractIntel frame.data spn190StartBit spn190Length
    if raw >>> 8 > spn190NotAvailableHighByte then none else some (raw * spn190Scale)

/-- The bits of the data from `startBit` on. -/
def dataBit (data : Bytes) (startBit i : ℕ) : Bool := (leNumber data).testBit (startBit + i)

/-- The test in the loop of `extract_intel`. -/
theorem any_shiftRight_eq_dataBit (data : Bytes) (startBit i : ℕ) :
    (data[(startBit + i) / 8]?.any fun byte =>
      (byte.toNat >>> ((startBit + i) % 8)) &&& 1 ≠ 0) = dataBit data startBit i := by
  rw [dataBit, testBit_leNumber]
  cases data[(startBit + i) / 8]? with
  | none => rfl
  | some byte =>
      simp only [Option.any_some]
      rw [Nat.testBit_eq_decide_div_mod_eq, Nat.shiftRight_eq_div_pow, Nat.and_one_is_mod,
        decide_eq_decide]
      omega

theorem extractIntel_eq_gatherBits (data : Bytes) (startBit length : ℕ) :
    extractIntel data startBit length = gatherBits (dataBit data startBit) length := by
  simp only [extractIntel, any_shiftRight_eq_dataBit]
  rfl

/-- **`extract_intel` cuts a field out of one number.**  The data are its bytes, least significant
first, and the bits behind them are zero. -/
theorem extractIntel_eq (data : Bytes) (startBit length : ℕ) :
    extractIntel data startBit length = leNumber data / 2 ^ startBit % 2 ^ length := by
  rw [extractIntel_eq_gatherBits]
  exact gatherBits_testBit _ _ _

/-- Two bytes of a frame as one number. -/
theorem extractIntel_spn190 (data : Bytes) (hlen : 6 ≤ data.length) :
    extractIntel data spn190StartBit spn190Length =
      2 ^ 8 * data[4].toNat + data[3].toNat := by
  obtain ⟨b0, b1, b2, b3, b4, rest, rfl⟩ :
      ∃ b0 b1 b2 b3 b4 rest, data = b0 :: b1 :: b2 :: b3 :: b4 :: rest := by
    match data, hlen with
    | b0 :: b1 :: b2 :: b3 :: b4 :: rest, _ => exact ⟨b0, b1, b2, b3, b4, rest, rfl⟩
  have h0 := b0.toNat_lt
  have h1 := b1.toNat_lt
  have h2 := b2.toNat_lt
  have h3 := b3.toNat_lt
  have h4 := b4.toNat_lt
  rw [extractIntel_eq]
  simp only [leNumber, spn190StartBit, spn190Length, List.getElem_cons_succ,
    List.getElem_cons_zero]
  omega

section EngineSpeed

variable {f : GsusbFrame} {rpm : ℚ}

/-- A frame is an engine speed message with a reading. -/
structure ShowsSpeed (f : GsusbFrame) (rpm : ℚ) : Prop where
  extended : isEff f.canId = true
  pgn_eq : f.canId.toNat / 2 ^ 8 % 2 ^ 16 = eec1Pgn
  len_ge : 6 ≤ f.len.toNat
  available : f.data[4].toNat ≤ spn190NotAvailableHighByte
  rpm_eq : rpm = (2 ^ 8 * f.data[4].toNat + f.data[3].toNat : ℕ) * spn190Scale

/-- The number of a message is cut out of the raw word; neither flags nor mask reach it. -/
theorem pgnOf_fromCtypes (heff : isEff f.canId = true) :
    pgnOf (Frame.fromCtypes f).id = f.canId.toNat / 2 ^ 8 % 2 ^ 16 := by
  have hmask : gsusbEffMask.toNat = 2 ^ 29 - 1 := rfl
  have hlow : (0xFFFF : ℕ) = 2 ^ 16 - 1 := rfl
  rw [Frame.id_fromCtypes, heff, idMask, if_pos rfl, pgnOf, UInt32.toNat_and, hmask, hlow,
    Nat.and_two_pow_sub_one_eq_mod, Nat.and_two_pow_sub_one_eq_mod, Nat.shiftRight_eq_div_pow]
  omega

/-- The number read from a frame that is long enough. -/
theorem extractIntel_fromCtypes (hlen : 6 ≤ f.len.toNat) :
    extractIntel (Frame.fromCtypes f).data spn190StartBit spn190Length =
      2 ^ 8 * f.data[4].toNat + f.data[3].toNat := by
  have hlength : 6 ≤ (Frame.fromCtypes f).data.length := by
    rw [Frame.fromCtypes, List.length_take, Vector.length_toList]
    exact le_min hlen (by decide)
  rw [extractIntel_spn190 _ hlength]
  simp only [Frame.fromCtypes, List.getElem_take, Vector.getElem_toList]

/-- The function finds a speed exactly in the frames that show one. -/
theorem tryGetEngineSpeed_eq_some_iff (hlen : f.len.toNat ≤ gsusbMaxDlen) :
    tryGetEngineSpeed (.fromCtypes f) = some rpm ↔ ShowsSpeed f rpm := by
  have hlength : (Frame.fromCtypes f).data.length = f.len.toNat := by
    rw [Frame.fromCtypes, List.length_take, Vector.length_toList]
    exact min_eq_left hlen
  rw [tryGetEngineSpeed, Frame.isExtended_fromCtypes, hlength]
  by_cases heff : isEff f.canId = true
  · rw [pgnOf_fromCtypes heff]
    by_cases hpgn : f.canId.toNat / 2 ^ 8 % 2 ^ 16 = eec1Pgn
    · rw [if_neg (not_or.mpr ⟨not_not.mpr heff, not_not.mpr hpgn⟩)]
      by_cases hshort : f.len.toNat < 6
      · rw [if_pos hshort]
        exact ⟨nofun, fun h => absurd h.len_ge (not_le.mpr hshort)⟩
      · have hlow := f.data[3].toNat_lt
        have hhigh : (2 ^ 8 * f.data[4].toNat + f.data[3].toNat) >>> 8 = f.data[4].toNat := by
          rw [Nat.shiftRight_eq_div_pow]
          omega
        rw [if_neg hshort, extractIntel_fromCtypes (not_lt.mp hshort)]
        dsimp only
        rw [hhigh]
        by_cases hhighByte : f.data[4].toNat > spn190NotAvailableHighByte
        · rw [if_pos hhighByte]
          exact ⟨nofun, fun h => absurd h.available (not_le.mpr hhighByte)⟩
        · rw [if_neg hhighByte, Option.some_inj]
          exact ⟨fun h => ⟨heff, hpgn, not_lt.mp hshort, not_lt.mp hhighByte, h.symm⟩,
            fun h => h.rpm_eq.symm⟩
    · rw [if_pos (.inr hpgn)]
      exact ⟨nofun, fun h => absurd h.pgn_eq hpgn⟩
  · rw [if_pos (.inl heff)]
    exact ⟨nofun, fun h => absurd h.extended heff⟩

end EngineSpeed

end GsUsb.Python
