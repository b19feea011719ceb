/-
# Words, their bits and their integers

Masks of a 32-bit word, and the way of a word through an integer and back.
-/

import Mathlib.Data.Nat.Bitwise

namespace GsUsb.Math

/-- What a mask finds in either of two words. -/
theorem or_and_word (x y mask : UInt32) : (x ||| y) &&& mask = (x &&& mask) ||| (y &&& mask) := by
  apply UInt32.toBitVec_inj.mp
  ext i
  simp [Bool.and_or_distrib_right]

/-- A word has either all or nothing of a single bit. -/
theorem and_flag {flag : UInt32} {k : ℕ} (hflag : flag.toNat = 2 ^ k) (x : UInt32) :
    x &&& flag = if x &&& flag ≠ 0 then flag else 0 := by
  have hbit : (x &&& flag).toNat = 2 ^ k * (x.toNat.testBit k).toNat := by
    rw [UInt32.toNat_and, hflag, Nat.and_comm, Nat.two_pow_and]
  cases htest : x.toNat.testBit k with
  | false =>
      have hzero : x &&& flag = 0 := by
        apply UInt32.toNat_inj.mp
        rw [hbit, htest]
        rfl
      rw [hzero]
      rfl
  | true =>
      have hall : x &&& flag = flag := by
        apply UInt32.toNat_inj.mp
        rw [hbit, htest, hflag]
        exact Nat.mul_one _
      have hne : flag ≠ 0 := by
        rintro rfl
        exact absurd hflag (Nat.pow_pos (by decide)).ne
      rw [hall, if_pos hne]

/-- A natural number is cut down to a word in the same way as an integer. -/
theorem ofInt_natCast_word (n : ℕ) : UInt32.ofInt (n : ℤ) = UInt32.ofNat n := by
  apply UInt32.toNat_inj.mp
  have hmod : ((n : ℤ) % 2 ^ 32).toNat = n % 2 ^ 32 := by omega
  rw [UInt32.ofInt, hmod, UInt32.toNat_ofNat', UInt32.toNat_ofNat', Nat.mod_mod]

/-- A word survives the way through an integer. -/
theorem ofInt_toNat_word (w : UInt32) : UInt32.ofInt (w.toNat : ℤ) = w := by
  rw [ofInt_natCast_word, UInt32.ofNat_toNat]

/-- A byte survives the way through an integer. -/
theorem ofInt_toNat_byte (b : UInt8) : UInt8.ofInt (b.toNat : ℤ) = b := by
  have hlt := b.toNat_lt
  rw [UInt8.ofInt, Int.emod_eq_of_lt (by omega) (by exact_mod_cast hlt), Int.toNat_natCast,
    UInt8.ofNat_toNat]

end GsUsb.Math
