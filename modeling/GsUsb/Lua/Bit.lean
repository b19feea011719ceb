/-
# The `bit` library of LuaJIT

Numbers are cut down to 32 bits, of a shift count only the lowest five bits are used, and a result
is a signed 32-bit number.
-/

import GsUsb.Math.BitField

namespace GsUsb.Lua.Bit

open GsUsb.Math

/-- `bit.tobit`, before the result is made a signed number. -/
def tobit (x : ℤ) : BitVec 32 := BitVec.ofInt 32 x

/-- `bit.band`. -/
def band (x y : ℤ) : ℤ := (tobit x &&& tobit y).toInt

/-- `bit.bor`. -/
def bor (x y : ℤ) : ℤ := (tobit x ||| tobit y).toInt

/-- `bit.lshift`. -/
def lshift (x : ℤ) (n : ℕ) : ℤ := (tobit x <<< (n % 32)).toInt

/-- `bit.rshift`. -/
def rshift (x : ℤ) (n : ℕ) : ℤ := (tobit x >>> (n % 32)).toInt

/-- The result of an operation is an operand as it was. -/
@[simp]
theorem tobit_toInt (w : BitVec 32) : tobit w.toInt = w := BitVec.ofInt_toInt

/-- A number below the sign place is not changed. -/
theorem toInt_of_lt {w : BitVec 32} (hw : w.toNat < 2 ^ 31) : w.toInt = w.toNat :=
  BitVec.toInt_eq_toNat_of_lt (by omega)

/-- The word of a natural number that fits. -/
theorem toNat_tobit {n : ℕ} (hn : n < 2 ^ 32) : (tobit n).toNat = n := by
  rw [tobit, BitVec.ofInt_natCast, BitVec.toNat_ofNat, Nat.mod_eq_of_lt hn]

/-- A shift of a number below the sign place is a division. -/
theorem rshift_natCast {x n : ℕ} (hx : x < 2 ^ 31) (hn : n < 32) :
    rshift x n = (x / 2 ^ n : ℕ) := by
  have hnat : (tobit x >>> (n % 32)).toNat = x / 2 ^ n := by
    rw [BitVec.toNat_ushiftRight, toNat_tobit (by omega), Nat.mod_eq_of_lt hn,
      Nat.shiftRight_eq_div_pow]
  rw [rshift, toInt_of_lt (hnat ▸ (Nat.div_le_self x _).trans_lt hx), hnat]

/-- A mask on a number below the sign place. -/
theorem band_natCast {x y : ℕ} (hx : x < 2 ^ 31) (hy : y < 2 ^ 32) :
    band x y = (x &&& y : ℕ) := by
  have hnat : (tobit x &&& tobit y).toNat = x &&& y := by
    rw [BitVec.toNat_and, toNat_tobit (by omega), toNat_tobit hy]
  rw [band, toInt_of_lt (hnat ▸ Nat.and_le_left.trans_lt hx), hnat]

/-- Bits set one by one, at places that are counted modulo 32. -/
theorem foldl_bor_lshift (p : ℕ → Bool) (length : ℕ) :
    (List.range length).foldl (fun value i => if p i then bor value (lshift 1 i) else value) 0 =
      (gatherWord 32 p length).toInt := by
  have hzero : (0 : ℤ) = (0#32).toInt := rfl
  rw [gatherWord, hzero]
  refine List.foldl_hom BitVec.toInt fun word i => ?_
  cases p i with
  | false => rfl
  | true =>
      show bor word.toInt (lshift 1 i) = _
      rw [bor, lshift, tobit_toInt, tobit_toInt]
      rfl

end GsUsb.Lua.Bit
