/-
# The occupied window of a circular buffer

A circular buffer of `n` slots holds its content in `len` consecutive slots from
`head` on, modulo `n`.  Writing the slot behind the window extends the content at
the back, and moving the head forward removes its front.  Nothing here fixes the
integer type the indices are computed in.
-/

import Mathlib.Data.List.Basic
import Mathlib.Data.List.GetD
import Mathlib.Data.Nat.ModEq

namespace GsUsb.Math

universe u

variable {α : Type u} [Inhabited α]

/-- The slots `head, head+1, ..., head+len-1` modulo the buffer's length. -/
def window (buf : List α) (head len : ℕ) : List α :=
  (List.range len).map fun i => buf.getD ((head + i) % buf.length) default

@[simp]
theorem length_window (buf : List α) (head len : ℕ) :
    (window buf head len).length = len := by
  simp [window]

@[simp]
theorem window_zero (buf : List α) (head : ℕ) : window buf head 0 = [] := rfl

/-- Two offsets below the buffer's length address the same slot only if they are
equal. -/
theorem add_mod_injOn {n head i j : ℕ} (hi : i < n) (hj : j < n)
    (h : (head + i) % n = (head + j) % n) : i = j := by
  have hmod : i ≡ j [MOD n] := Nat.ModEq.add_left_cancel' head h
  exact Nat.ModEq.eq_of_lt_of_lt hmod hi hj

/-- Writing the first free slot appends to the content. -/
theorem window_set {buf : List α} {head len : ℕ} (x : α) (hlen : len < buf.length) :
    window (buf.set ((head + len) % buf.length) x) head (len + 1) =
      window buf head len ++ [x] := by
  have htail : (head + len) % buf.length < buf.length := Nat.mod_lt _ (by omega)
  simp only [window, List.length_set, List.range_succ, List.map_append, List.map_cons,
    List.map_nil]
  congr 1
  · apply List.map_congr_left
    intro i hi
    have hlt : i < len := List.mem_range.mp hi
    -- an occupied slot is not the one being written
    have hne : (head + len) % buf.length ≠ (head + i) % buf.length := fun h =>
      absurd (add_mod_injOn hlen (by omega) h) (by omega)
    simp [List.getD_eq_getElem?_getD, List.getElem?_set_ne hne]
  · simp [List.getD_eq_getElem?_getD, htail]

/-- The front of a nonempty window is the slot at the head, and the rest is the
window one slot further on. -/
theorem window_succ (buf : List α) (head len : ℕ) :
    window buf head (len + 1) =
      buf.getD (head % buf.length) default ::
        window buf ((head + 1) % buf.length) len := by
  simp only [window, List.range_succ_eq_map, List.map_cons, List.map_map, Nat.add_zero]
  congr 1
  apply List.map_congr_left
  intro i _
  simp [Function.comp, Nat.mod_add_mod, Nat.add_assoc, Nat.add_comm 1 i]

/-- The last element of a nonempty window sits in its last slot. -/
theorem getLast?_window_succ (buf : List α) (head len : ℕ) :
    (window buf head (len + 1)).getLast? =
      some (buf.getD ((head + len) % buf.length) default) := by
  rw [window, List.range_succ, List.map_append, List.map_cons, List.map_nil]
  exact List.getLast?_concat

end GsUsb.Math
