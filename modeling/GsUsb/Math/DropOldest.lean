/-
# A bounded queue that drops its oldest element

The purpose of a receive queue, stated without any buffer: elements are appended
at the back, and when the queue already holds `cap` of them its front element is
discarded first.  The ledger also remembers how every element that left the queue
left it, so that conservation is one equation: what left, in order, followed by
what is queued, is exactly what was pushed.
-/

import Mathlib.Data.List.Basic
import Mathlib.Data.List.Induction

namespace GsUsb.Math.DropOldest

universe u

variable {α : Type u}

/-- One call on the queue. -/
inductive Op (α : Type u)
  | push (x : α)
  | pop

/-- The elements a call sequence pushes, in order. -/
def pushes : List (Op α) → List α
  | [] => []
  | .push x :: ops => x :: pushes ops
  | .pop :: ops => pushes ops

@[simp]
theorem pushes_map (xs : List α) : pushes (xs.map Op.push) = xs := by
  induction xs with
  | nil => rfl
  | cons x xs ih => simp [pushes, ih]

@[simp]
theorem pushes_append (ops later : List (Op α)) :
    pushes (ops ++ later) = pushes ops ++ pushes later := by
  induction ops with
  | nil => rfl
  | cons op ops ih => cases op <;> simp [pushes, ih]

/-- Appending at the back of a bounded queue, discarding the front when it is full. -/
def pushQueue (cap : ℕ) (xs : List α) (x : α) : List α :=
  (if xs.length = cap then xs.tail else xs) ++ [x]

/-- The two ways an element leaves the queue. -/
inductive Exit
  | returned
  | dropped
  deriving DecidableEq

/-- The queue together with the record of everything that left it. -/
structure Ledger (α : Type u) where
  /-- What is queued, oldest first. -/
  queue : List α
  /-- What left the queue, in the order it left. -/
  exits : List (Exit × α)

namespace Ledger

/-- Nothing has been pushed. -/
def empty : Ledger α := ⟨[], []⟩

/-- Remove the front element, recording how it leaves. -/
def takeFront (ledger : Ledger α) (exit : Exit) : Ledger α :=
  match ledger.queue with
  | [] => ledger
  | x :: xs => ⟨xs, ledger.exits ++ [(exit, x)]⟩

/-- Append at the back, discarding the front first when the queue is full. -/
def push (cap : ℕ) (ledger : Ledger α) (x : α) : Ledger α :=
  let room := if ledger.queue.length = cap then ledger.takeFront .dropped else ledger
  ⟨room.queue ++ [x], room.exits⟩

/-- The queue after a push depends on the queue alone. -/
theorem queue_push (cap : ℕ) (ledger : Ledger α) (x : α) :
    (ledger.push cap x).queue = pushQueue cap ledger.queue x := by
  obtain ⟨queue, exits⟩ := ledger
  by_cases hfull : queue.length = cap
  · cases queue <;> simp [push, pushQueue, takeFront, hfull]
  · simp [push, pushQueue, hfull]

/-- One call; a pop of the empty queue changes nothing. -/
def step (cap : ℕ) (ledger : Ledger α) : Op α → Ledger α
  | .push x => ledger.push cap x
  | .pop => ledger.takeFront .returned

/-- A sequence of calls. -/
def run (cap : ℕ) (ledger : Ledger α) (ops : List (Op α)) : Ledger α :=
  ops.foldl (step cap) ledger

/-- The elements that left by one of the two ways, in order. -/
def left (ledger : Ledger α) (exit : Exit) : List α :=
  (ledger.exits.filter fun e => e.1 = exit).map Prod.snd

/-- Everything pushed so far, recovered from the ledger. -/
def history (ledger : Ledger α) : List α :=
  ledger.exits.map Prod.snd ++ ledger.queue

@[simp]
theorem history_takeFront (ledger : Ledger α) (exit : Exit) :
    (ledger.takeFront exit).history = ledger.history := by
  obtain ⟨queue, exits⟩ := ledger
  cases queue with
  | nil => rfl
  | cons x xs => simp [takeFront, history]

@[simp]
theorem history_push (cap : ℕ) (ledger : Ledger α) (x : α) :
    (ledger.push cap x).history = ledger.history ++ [x] := by
  have hroom : (ledger.push cap x).history =
      (if ledger.queue.length = cap then ledger.takeFront .dropped
        else ledger).history ++ [x] := by
    simp [push, history]
  rw [hroom]
  split <;> simp

/-- **Conservation.** What left the queue followed by what is queued is what was
pushed: nothing is lost, repeated or reordered. -/
theorem history_run (cap : ℕ) (ledger : Ledger α) (ops : List (Op α)) :
    (ledger.run cap ops).history = ledger.history ++ pushes ops := by
  induction ops generalizing ledger with
  | nil => simp [run, pushes]
  | cons op ops ih =>
      have hrest := ih (ledger.step cap op)
      cases op with
      | push x => simpa [run, step, pushes] using hrest
      | pop => simpa [run, step, pushes] using hrest

/-- A front element leaves in the way it is taken, and in no other. -/
theorem left_takeFront (ledger : Ledger α) (exit other : Exit) :
    (ledger.takeFront exit).left other =
      ledger.left other ++ if exit = other then ledger.queue.head?.toList else [] := by
  obtain ⟨queue, exits⟩ := ledger
  cases queue with
  | nil => simp [takeFront]
  | cons x xs =>
      by_cases h : exit = other
      · simp [takeFront, left, h]
      · simp [takeFront, left, h]

/-- A push makes elements leave only by dropping the front of a full queue. -/
theorem left_push (cap : ℕ) (ledger : Ledger α) (x : α) (other : Exit) :
    (ledger.push cap x).left other = ledger.left other ++
      if ledger.queue.length = cap ∧ other = .dropped
        then ledger.queue.head?.toList else [] := by
  have hroom : (ledger.push cap x).left other =
      (if ledger.queue.length = cap then ledger.takeFront .dropped
        else ledger).left other := rfl
  rw [hroom]
  by_cases hfull : ledger.queue.length = cap
  · simp [hfull, left_takeFront, eq_comm]
  · simp [hfull]

theorem length_takeFront_le (ledger : Ledger α) (exit : Exit) :
    (ledger.takeFront exit).queue.length ≤ ledger.queue.length := by
  obtain ⟨queue, exits⟩ := ledger
  cases queue <;> simp [takeFront]

/-- A push never makes the queue longer than its capacity. -/
theorem length_push_le {cap : ℕ} (hcap : 1 ≤ cap) {ledger : Ledger α}
    (hlen : ledger.queue.length ≤ cap) (x : α) :
    (ledger.push cap x).queue.length ≤ cap := by
  obtain ⟨queue, exits⟩ := ledger
  cases queue with
  | nil => simpa [push, takeFront] using hcap
  | cons y ys =>
      simp only [List.length_cons] at hlen
      simp only [push, takeFront]
      split
      · simp; omega
      · rename_i hne
        simp only [List.length_cons] at hne
        simp; omega

/-- The queue never outgrows its capacity. -/
theorem length_run_le {cap : ℕ} (hcap : 1 ≤ cap) {ledger : Ledger α}
    (hlen : ledger.queue.length ≤ cap) (ops : List (Op α)) :
    (ledger.run cap ops).queue.length ≤ cap := by
  induction ops generalizing ledger with
  | nil => exact hlen
  | cons op ops ih =>
      apply ih
      cases op with
      | push x => exact length_push_le hcap hlen x
      | pop => exact Nat.le_trans (length_takeFront_le ledger .returned) hlen

/-- The last element pushed is the last one queued. -/
theorem getLast?_run_push (cap : ℕ) (ledger : Ledger α) (ops : List (Op α)) (x : α) :
    (ledger.run cap (ops ++ [.push x])).queue.getLast? = some x := by
  simp [run, step, push]

/-- Without pops nothing is returned. -/
theorem left_returned_run_pushes (cap : ℕ) (ledger : Ledger α) (xs : List α) :
    (ledger.run cap (xs.map Op.push)).left .returned = ledger.left .returned := by
  induction xs generalizing ledger with
  | nil => rfl
  | cons x xs ih =>
      have hstep : (ledger.step cap (.push x)).left .returned = ledger.left .returned := by
        simp [step, left_push]
      rw [← hstep]
      exact ih (ledger.step cap (.push x))

/-- What has been pushed splits into what left by each way and what is queued. -/
theorem length_history (ledger : Ledger α) :
    ledger.history.length =
      (ledger.left .returned).length + (ledger.left .dropped).length +
        ledger.queue.length := by
  have hsplit : ∀ exits : List (Exit × α), exits.length =
      (exits.filter fun e => e.1 = Exit.returned).length +
        (exits.filter fun e => e.1 = Exit.dropped).length := by
    intro exits
    induction exits with
    | nil => rfl
    | cons e exits ih =>
        obtain ⟨exit, x⟩ := e
        cases exit <;> simp [ih] <;> omega
  simp [history, left, hsplit ledger.exits]

/-- What was returned and what is queued, in order, is what was pushed without what was
dropped. -/
theorem returned_append_queue_sublist (ledger : Ledger α) :
    (ledger.left .returned ++ ledger.queue).Sublist ledger.history := by
  unfold left history
  exact (List.filter_sublist.map Prod.snd).append_right ledger.queue

/-- Nothing is missing exactly if nothing was dropped. -/
theorem returned_append_queue_eq_iff (ledger : Ledger α) :
    ledger.left .returned ++ ledger.queue = ledger.history ↔ ledger.left .dropped = [] := by
  have hlength := ledger.length_history
  rw [← List.length_eq_zero_iff]
  constructor
  · intro heq
    rw [← heq, List.length_append] at hlength
    omega
  · intro hnone
    refine ledger.returned_append_queue_sublist.eq_of_length ?_
    rw [List.length_append]
    omega

theorem run_append (cap : ℕ) (ledger : Ledger α) (ops later : List (Op α)) :
    ledger.run cap (ops ++ later) = (ledger.run cap ops).run cap later :=
  List.foldl_append

/-- What was dropped stays dropped. -/
theorem left_prefix_run (cap : ℕ) (ledger : Ledger α) (ops : List (Op α)) (exit : Exit) :
    ledger.left exit <+: (ledger.run cap ops).left exit := by
  induction ops generalizing ledger with
  | nil => exact List.prefix_rfl
  | cons op ops ih =>
      refine List.IsPrefix.trans ?_ (ih (ledger.step cap op))
      cases op with
      | push x =>
          rw [step, left_push]
          exact List.prefix_append _ _
      | pop =>
          rw [step, left_takeFront]
          exact List.prefix_append _ _

/-- Whoever takes elements out keeps up: never is more than one queueful pushed and not
returned. -/
def KeepsUp (cap : ℕ) (ops : List (Op α)) : Prop :=
  ∀ before, before <+: ops →
    (pushes before).length ≤ ((empty.run cap before).left .returned).length + cap

/-- **No loss.** Nothing is dropped exactly in the runs whose consumer keeps up. -/
theorem left_dropped_run_eq_nil_iff {cap : ℕ} (hcap : 1 ≤ cap) (ops : List (Op α)) :
    (empty.run cap ops).left .dropped = [] ↔ KeepsUp cap ops := by
  have hconserved (before : List (Op α)) : (pushes before).length =
      ((empty.run cap before).left .returned).length +
        ((empty.run cap before).left .dropped).length +
          (empty.run cap before).queue.length := by
    rw [← length_history, history_run]
    rfl
  constructor
  · rintro hnone before ⟨later, rfl⟩
    have hdropped : (empty.run cap before).left .dropped = [] := by
      rw [run_append] at hnone
      exact List.prefix_nil.mp (hnone ▸ left_prefix_run cap (empty.run cap before) later .dropped)
    have hlen := length_run_le hcap
      (show (empty : Ledger α).queue.length ≤ cap from Nat.zero_le cap) before
    rw [hconserved, hdropped, List.length_nil]
    omega
  · intro hkeeps
    induction ops using List.reverseRecOn with
    | nil => rfl
    | append_singleton ops op ih =>
        have hnone := ih fun before hbefore =>
          hkeeps before (hbefore.trans (List.prefix_append _ _))
        rw [run_append]
        cases op with
        | pop =>
            show ((empty.run cap ops).takeFront .returned).left .dropped = []
            rw [left_takeFront, hnone]
            rfl
        | push x =>
            show ((empty.run cap ops).push cap x).left .dropped = []
            -- a full queue would hold one queueful, and this push would be one too many
            have hroom : (empty.run cap ops).queue.length ≠ cap := by
              intro hfull
              have hlast := hkeeps _ List.prefix_rfl
              have hbefore := hconserved ops
              have hreturned : (empty.run cap (ops ++ [.push x])).left .returned =
                  (empty.run cap ops).left .returned := by
                rw [run_append]
                show ((empty.run cap ops).push cap x).left .returned = _
                rw [left_push]
                simp
              rw [hreturned, pushes_append, List.length_append] at hlast
              rw [hnone, List.length_nil] at hbefore
              have hone : (pushes [Op.push x]).length = 1 := rfl
              omega
            rw [left_push, hnone]
            simp [hroom]

/-- Who is never handed more than one queueful keeps up. -/
theorem keepsUp_of_length_le {cap : ℕ} {ops : List (Op α)} (hlen : (pushes ops).length ≤ cap) :
    KeepsUp cap ops := by
  rintro before ⟨later, rfl⟩
  rw [pushes_append, List.length_append] at hlen
  omega

end Ledger

end GsUsb.Math.DropOldest
