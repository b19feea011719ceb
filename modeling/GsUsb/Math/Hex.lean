/-
# Hexadecimal numerals

The value of a hexadecimal digit in either case, of a string of digits, and the bytes that
a string of pairs of digits stands for.
-/

import Mathlib.Data.Nat.Basic
import Mathlib.Tactic.Ring

namespace GsUsb.Math

/-- The value of a hexadecimal digit. -/
def hexVal (c : Char) : Option ℕ :=
  if '0' ≤ c ∧ c ≤ '9' then some (c.toNat - '0'.toNat)
  else if 'a' ≤ c ∧ c ≤ 'f' then some (c.toNat - 'a'.toNat + 10)
  else if 'A' ≤ c ∧ c ≤ 'F' then some (c.toNat - 'A'.toNat + 10)
  else none

/-- A character is a hexadecimal digit. -/
def isHex (c : Char) : Bool := (hexVal c).isSome

/-- The value of a string of digits, the most significant first. -/
def hexNumber (ds : List Char) : ℕ := ds.foldl (fun n c => 16 * n + (hexVal c).getD 0) 0

/-- The bytes that pairs of digits stand for. -/
def hexBytes : List Char → List UInt8
  | a :: b :: ds => UInt8.ofNat (16 * (hexVal a).getD 0 + (hexVal b).getD 0) :: hexBytes ds
  | _ => []

theorem hexVal_lt {c : Char} {d : ℕ} (h : hexVal c = some d) : d < 16 := by
  simp only [hexVal, Char.le_def, UInt32.le_iff_toNat_le] at h
  have hnat : c.val.toNat = c.toNat := rfl
  have h9 : ('9' : Char).val.toNat = 57 := rfl
  have h0 : ('0' : Char).toNat = 48 := rfl
  have hf : ('f' : Char).val.toNat = 102 := rfl
  have ha : ('a' : Char).toNat = 97 := rfl
  have hF : ('F' : Char).val.toNat = 70 := rfl
  have hA : ('A' : Char).toNat = 65 := rfl
  split_ifs at h <;> cases h <;> omega

theorem isHex_iff {c : Char} : isHex c = true ↔ ∃ d, hexVal c = some d := Option.isSome_iff_exists

theorem hexVal_getD_lt (c : Char) : (hexVal c).getD 0 < 16 := by
  cases h : hexVal c with
  | none => decide
  | some d => exact hexVal_lt h

/-- A string of `k` digits is below `16 ^ k`. -/
theorem hexNumber_lt (ds : List Char) : hexNumber ds < 16 ^ ds.length := by
  have hfold : ∀ (ds : List Char) (n : ℕ),
      ds.foldl (fun n c => 16 * n + (hexVal c).getD 0) n < 16 ^ ds.length * (n + 1) := by
    intro ds
    induction ds with
    | nil =>
        intro n
        simp
    | cons c ds ih =>
        intro n
        have hc := hexVal_getD_lt c
        calc (c :: ds).foldl (fun n c => 16 * n + (hexVal c).getD 0) n
            < 16 ^ ds.length * (16 * n + (hexVal c).getD 0 + 1) := ih _
          _ ≤ 16 ^ ds.length * (16 * n + 16) := Nat.mul_le_mul_left _ (by omega)
          _ = 16 ^ (c :: ds).length * (n + 1) := by
            rw [List.length_cons, pow_succ]
            ring
  simpa [hexNumber] using hfold ds 0

/-- Two digits make a byte. -/
@[simp]
theorem length_hexBytes (ds : List Char) : (hexBytes ds).length = ds.length / 2 := by
  fun_induction hexBytes ds with
  | case1 a b ds ih =>
      simp only [List.length_cons, ih]
      omega
  | case2 ds h =>
      match ds, h with
      | [], _ => rfl
      | [a], _ =>
          rw [List.length_singleton]
          rfl
      | a :: b :: ds, h => exact absurd rfl (h a b ds)

end GsUsb.Math
