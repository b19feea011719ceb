/-
# The engine speed monitor in Lua

The same monitor with the 32-bit operations of LuaJIT.  `extract_intel` is called there for a field
of 16 bits; as the generic function that it is meant to be, it differs from the one in Python for
fields that reach the sign place.
-/

import GsUsb.Lua.Bit
import GsUsb.Lua.Marshal
import GsUsb.Python.RpmMonitor

namespace GsUsb.Lua

open GsUsb.Driver GsUsb.Math GsUsb.Lua.Bit
open GsUsb.Python (eec1Pgn spn190StartBit spn190Length spn190Scale spn190NotAvailableHighByte)

/-- `pgn_of`. -/
def pgnOf (canId : ℤ) : ℤ := band (rshift canId 8) 0xFFFF

/-- `extract_intel`. -/
def extractIntel (data : Bytes) (startBit length : ℕ) : ℤ :=
  (List.range length).foldl (fun value i =>
    let pos := startBit + i
    let byteIdx := pos / 8
    let bitIdx := pos % 8
    if data[byteIdx]?.any fun byte => band (rshift byte.toNat bitIdx) 1 = 1
    then bor value (lshift 1 i)
    else value) 0

/-- `try_get_engine_speed`. -/
def tryGetEngineSpeed (frame : PushedTable) : Except Raised (Option ℚ) := do
  if ¬ frame.extended then
    return none
  let id ← frame.id.check
  if pgnOf id ≠ eec1Pgn then
    return none
  let data ← frame.data.check
  if data.length < 6 then
    return none
  let raw := extractIntel data spn190StartBit spn190Length
  if rshift raw 8 > spn190NotAvailableHighByte then
    return none
  return some (raw * spn190Scale)

/-- The test in the loop of `extract_intel`. -/
theorem any_rshift_eq_dataBit (data : Bytes) (startBit i : ℕ) :
    (data[(startBit + i) / 8]?.any fun byte =>
      band (rshift byte.toNat ((startBit + i) % 8)) 1 = 1) =
        Python.dataBit data startBit i := by
  rw [← Python.any_shiftRight_eq_dataBit]
  refine congrArg (Option.any · _) (funext fun byte => ?_)
  have hbyte := byte.toNat_lt
  have hshift : byte.toNat / 2 ^ ((startBit + i) % 8) ≤ byte.toNat := Nat.div_le_self _ _
  have hone : (1 : ℤ) = (1 : ℕ) := rfl
  rw [rshift_natCast (by omega) (by omega), hone, band_natCast (by omega) (by decide),
    Nat.shiftRight_eq_div_pow, Nat.and_one_is_mod, decide_eq_decide]
  omega

theorem extractIntel_eq_gatherWord (data : Bytes) (startBit length : ℕ) :
    extractIntel data startBit length =
      (gatherWord 32 (Python.dataBit data startBit) length).toInt := by
  simp only [extractIntel, any_rshift_eq_dataBit]
  exact foldl_bor_lshift _ _

/-- The results are the same as long as the field stays below the sign place. -/
theorem extractIntel_eq_iff (data : Bytes) (startBit length : ℕ) :
    extractIntel data startBit length = Python.extractIntel data startBit length ↔
      leNumber data / 2 ^ startBit % 2 ^ length < 2 ^ 31 := by
  rw [extractIntel_eq_gatherWord, Python.extractIntel_eq_gatherBits,
    ← gatherBits_testBit (leNumber data)]
  exact toInt_gatherWord_iff (by decide)

/-- **The two functions agree exactly on the fields that stay below the sign place of 32 bits.**
For all data, all positions and all lengths, the one in Python cuts the field out of the data as
one number, and the one in Lua does the same while the sign is not reached. -/
theorem extractIntel_agrees (data : Bytes) (startBit length : ℕ) :
    Python.extractIntel data startBit length =
        leNumber data / 2 ^ startBit % 2 ^ length ∧
      (extractIntel data startBit length = Python.extractIntel data startBit length ↔
        leNumber data / 2 ^ startBit % 2 ^ length < 2 ^ 31) :=
  ⟨Python.extractIntel_eq _ _ _, extractIntel_eq_iff _ _ _⟩

/-- Where the sign place is reached, the result is negative. -/
example : extractIntel [0, 0, 0, 0x80] 0 32 = -2 ^ 31 ∧
    Python.extractIntel [0, 0, 0, 0x80] 0 32 = 2 ^ 31 := by decide

/-- The two functions for the number of a message agree on the id of every table. -/
theorem pgnOf_natCast {id : ℕ} (hid : id < 2 ^ 31) : pgnOf id = Python.pgnOf id := by
  have hmask : (0xFFFF : ℤ) = (0xFFFF : ℕ) := rfl
  have hle : id / 2 ^ 8 ≤ id := Nat.div_le_self _ _
  rw [pgnOf, Python.pgnOf, rshift_natCast hid (by decide), hmask,
    band_natCast (by omega) (by decide), Nat.shiftRight_eq_div_pow]

/-- The two functions read the same speed, or none, out of what becomes of one frame. -/
theorem tryGetEngineSpeed_pushFrame {f : GsusbFrame} {t : PushedTable} {target : Target}
    (hpush : pushFrame target f = .ok t) :
    tryGetEngineSpeed t = .ok (Python.tryGetEngineSpeed (.fromCtypes f)) := by
  have hid := toNat_and_idMask_lt f.canId (isEff f.canId)
  have hdata : f.data.toList.take f.len.toNat = (Python.Frame.fromCtypes f).data := rfl
  have hfield : leNumber (Python.Frame.fromCtypes f).data / 2 ^ spn190StartBit %
      2 ^ spn190Length < 2 ^ 31 :=
    (Nat.mod_lt _ (Nat.two_pow_pos _)).trans (by decide)
  have hraw := (extractIntel_eq_iff _ _ _).mpr hfield
  rw [← Python.extractIntel_eq] at hfield
  rw [pushFrame] at hpush
  split_ifs at hpush
  cases hpush
  rw [tryGetEngineSpeed, Python.tryGetEngineSpeed, Python.Frame.isExtended_fromCtypes,
    Python.Frame.id_fromCtypes]
  simp only [Field.check, bind, Except.bind, pure, Except.pure]
  rw [(luaInteger_eq_iff _).mpr (.inr hid), pgnOf_natCast hid, hdata, hraw,
    rshift_natCast hfield (by decide)]
  -- the conditions of the two functions are the same, and tested in the same order
  simp only [ne_eq, Int.natCast_inj, gt_iff_lt, Int.ofNat_lt, Nat.shiftRight_eq_div_pow,
    Rat.intCast_natCast, ite_or, apply_ite Except.ok]

/-- **Both monitors show the engine speed, and the same.**  On every frame of the driver and both
targets of the binding, the function in Lua raises no error and finds what the one in Python finds:
a speed exactly if the frame is an engine speed message with a reading. -/
theorem engineSpeed_agrees (target : Target) {f : GsusbFrame} (hlen : f.len.toNat ≤ gsusbMaxDlen) :
    ∃ t, pushFrame target f = .ok t ∧
      tryGetEngineSpeed t = .ok (Python.tryGetEngineSpeed (.fromCtypes f)) ∧
      ∀ rpm, Python.tryGetEngineSpeed (.fromCtypes f) = some rpm ↔ Python.ShowsSpeed f rpm := by
  obtain ⟨t, hpush⟩ : ∃ t, pushFrame target f = .ok t := by
    rw [pushFrame, if_neg (not_lt.mpr hlen)]
    exact ⟨_, rfl⟩
  exact ⟨t, hpush, tryGetEngineSpeed_pushFrame hpush,
    fun _ => Python.tryGetEngineSpeed_eq_some_iff hlen⟩

/-- 1000 rpm, on the target with 32 bits. -/
theorem engineSpeed_agrees_mipsel :
    let f := filledFrame 0x8CF00400 0 [0, 0, 0, 0x40, 0x1F, 0, 0, 0]
    ∃ t, pushFrame .bits32 f = .ok t ∧
      tryGetEngineSpeed t = .ok (Python.tryGetEngineSpeed (.fromCtypes f)) ∧
      ∀ rpm, Python.tryGetEngineSpeed (.fromCtypes f) = some rpm ↔ Python.ShowsSpeed f rpm :=
  engineSpeed_agrees .bits32 (by decide)

end GsUsb.Lua
