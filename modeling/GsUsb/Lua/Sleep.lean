/-
# Sleeping while frames are dispatched

`Bus:sleep` polls until `os.time`, which counts whole seconds, has reached its deadline.  A poll
returns as soon as there is a frame, so the time that polls may take says nothing about how long a
sleep lasts; the clock does.
-/

import Mathlib.Algebra.Order.Archimedean.Basic
import Mathlib.Algebra.Order.Floor.Ring
import Mathlib.Data.Rat.Floor
import Mathlib.Tactic.Linarith
import GsUsb.Lua.Dispatch

namespace GsUsb.Lua

open GsUsb.Math

universe u v w

variable {φ : Type w} {ω : Type u} {δ : Type v} [DecidableEq δ]

/-- The times at which the clock is read: first for the deadline, then in every turn of the loop. -/
structure Clock where
  start : ℚ
  test : ℕ → ℚ
  /-- The longest turn: the timeout of the poll and what the callbacks take. -/
  turn : ℚ
  first_le : start ≤ test 0 ∧ test 0 ≤ start + turn
  next_le : ∀ k, test k ≤ test (k + 1) ∧ test (k + 1) ≤ test k + turn
  unbounded : ∀ t, ∃ k, t ≤ test k

/-- The whole second at which a sleep ends. -/
def Clock.wake (clock : Clock) (seconds : ℚ) : ℤ := ⌊clock.start⌋ + ⌈seconds⌉

/-- The frame, if there is one. -/
def Received.frame? : Received φ → Option φ
  | .frame f => some f
  | .timeout => none
  | .failed _ => none

/-- The frames that come with `n` polls from poll `k` on. -/
def Received.frames (received : ℕ → Received φ) (k n : ℕ) : List φ :=
  (List.range' k n).filterMap fun j => (received j).frame?

namespace Bus

/-- Every callback is called with every frame, one frame after the other. -/
def deliver (act : Behaviour φ ω δ) (frames : List φ) (bus : Bus ω δ) : Bus ω δ :=
  frames.foldl (fun bus frame => bus.detectors.foldl (call act frame) bus) bus

variable {act : Behaviour φ ω δ} {bus : Bus ω δ} {received : ℕ → Received φ} {clock : Clock}
  {seconds : ℚ} {fuel turns k n : ℕ}

end Bus

end GsUsb.Lua
