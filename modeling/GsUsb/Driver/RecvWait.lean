/-
# Waiting for a frame

`gsusb_channel_recv` with its wait loop, called by any number of threads while the reader
pushes frames and the channel is started and stopped.  A call gives up its lock only while it
waits; `pthread_cond_timedwait` comes back with the lock, either to test the queue again or,
once the deadline has passed, with `ETIMEDOUT`.  The latter exit leaves without testing the
queue, and so does not see a frame that was pushed since.
-/

import GsUsb.Driver.Device
import GsUsb.Driver.RxQueue
import GsUsb.Math.Run

namespace GsUsb.Driver

open GsUsb.Math

universe u

/-- Where a call of `gsusb_channel_recv` is. -/
inductive RecvPc
  /-- Before `pthread_mutex_lock`. -/
  | called
  /-- At the test of the loop, with the lock. -/
  | loop
  /-- Inside the loop, with the lock. -/
  | empty
  /-- In `pthread_cond_timedwait`, without the lock. -/
  | waiting
  | returned (rc : ℤ)
  deriving DecidableEq

/-- A call: its argument, the caller's `*frame`, and whether the deadline has passed. -/
structure Receiver (α : Type u) where
  timeoutMs : UInt32
  frame : α
  expired : Bool
  pc : RecvPc

/-- A channel and the calls made on it, which are numbered. -/
structure RecvState (α : Type u) (ulong : ℕ) where
  ring : Rxq α ulong
  started : Bool
  qLock : Option ℕ
  receiver : ℕ → Receiver α

/-- A step of a call, or of the threads around it. -/
inductive RecvEvent (α : Type u)
  /-- `pthread_mutex_lock` returns, and the deadline is set. -/
  | lock (i : ℕ)
  /-- `q_len == 0`, and the dequeue if it is not. -/
  | test (i : ℕ)
  /-- The body of the loop up to the wait. -/
  | body (i : ℕ)
  | expire (i : ℕ)
  /-- `pthread_cond_timedwait` returns 0. -/
  | wake (i : ℕ)
  /-- `pthread_cond_timedwait` returns `ETIMEDOUT`. -/
  | timedOut (i : ℕ)
  /-- The reader's `rxq_push`. -/
  | push (x : α)
  /-- A start or a stop of the channel; these do not take `q_lock`. -/
  | setStarted (started : Bool)

/-- The call that takes the step. -/
def RecvEvent.caller? {α : Type u} : RecvEvent α → Option ℕ
  | .lock i => some i
  | .test i => some i
  | .body i => some i
  | .expire _ => none
  | .wake i => some i
  | .timedOut i => some i
  | .push _ => none
  | .setStarted _ => none

namespace RecvState

variable {α : Type u} {ulong : ℕ}

/-- A channel that was just opened, on which calls are about to be made. -/
def init [Inhabited α] (timeoutMs : ℕ → UInt32) (frame : ℕ → α) : RecvState α ulong :=
  ⟨.ofCapacity gsusbRxqCapacity, false, none, fun i => ⟨timeoutMs i, frame i, false, .called⟩⟩

/-- How call `i` leaves the body of the loop, with the lock given up. -/
def bodyPc (s : RecvState α ulong) (i : ℕ) : RecvPc :=
  if s.started = false then .returned gsusbErrInvalid
  else if (s.receiver i).timeoutMs = 0 then .returned 0
  else .waiting

/-- How a call leaves the body of the loop is not by staying in it. -/
theorem bodyPc_ne (s : RecvState α ulong) (i : ℕ) :
    s.bodyPc i ≠ .loop ∧ s.bodyPc i ≠ .empty := by
  rw [bodyPc]
  split
  · simp
  · split <;> simp

/-- The body of the loop returns `GSUSB_ERR_INVALID` only for a stopped channel. -/
theorem bodyPc_returned (s : RecvState α ulong) (i : ℕ) :
    s.bodyPc i ≠ .returned 1 ∧
      (s.bodyPc i = .returned gsusbErrInvalid → s.started = false) := by
  rw [bodyPc]
  by_cases hstarted : s.started = false
  · rw [if_pos hstarted]
    exact ⟨by simp [gsusbErrInvalid], fun _ => hstarted⟩
  · rw [if_neg hstarted]
    split
    · exact ⟨by simp, by simp [gsusbErrInvalid]⟩
    · exact ⟨by simp, by simp⟩

/-- Call `i` goes on with the lock at the test of the loop. -/
def hold (s : RecvState α ulong) (i : ℕ) : RecvState α ulong :=
  { s with qLock := some i,
           receiver := Function.update s.receiver i { s.receiver i with pc := .loop } }

/-- Call `i` gives the lock up, to wait or to return. -/
def unlock (s : RecvState α ulong) (i : ℕ) (pc : RecvPc) : RecvState α ulong :=
  { s with qLock := none,
           receiver := Function.update s.receiver i { s.receiver i with pc := pc } }

/-- Call `i` found a frame: `*frame = x`, the ring is advanced, and it returns 1. -/
def take (s : RecvState α ulong) (i : ℕ) (x : α) (ring : Rxq α ulong) : RecvState α ulong :=
  unlock { s with ring := ring,
                  receiver := Function.update s.receiver i { s.receiver i with frame := x } }
    i (.returned 1)

/-- Call `i` found the queue empty. -/
def enterBody (s : RecvState α ulong) (i : ℕ) : RecvState α ulong :=
  { s with receiver := Function.update s.receiver i { s.receiver i with pc := .empty } }

/-- A step; an access outside the buffer would be no step. -/
def step (s : RecvState α ulong) : RecvEvent α → Option (RecvState α ulong)
  | .lock i =>
      if (s.receiver i).pc = .called ∧ s.qLock = none then some (s.hold i) else none
  | .test i =>
      if (s.receiver i).pc = .loop then
        match s.ring.recvDequeue with
        | .ok (none, _) => some (s.enterBody i)
        | .ok (some x, ring) => some (s.take i x ring)
        | .error _ => none
      else none
  | .body i =>
      if (s.receiver i).pc = .empty then some (s.unlock i (s.bodyPc i)) else none
  | .expire i =>
      if (s.receiver i).pc = .called then none
      else some { s with
        receiver := Function.update s.receiver i { s.receiver i with expired := true } }
  | .wake i =>
      if (s.receiver i).pc = .waiting ∧ s.qLock = none then some (s.hold i) else none
  | .timedOut i =>
      if (s.receiver i).pc = .waiting ∧ s.qLock = none ∧ (s.receiver i).expired then
        some (s.unlock i (.returned 0))
      else none
  | .push x =>
      if s.qLock = none then
        match s.ring.rxqPush x with
        | .ok ring => some { s with ring := ring }
        | .error _ => none
      else none
  | .setStarted started => some { s with started := started }

variable [Inhabited α]

/-- A call at work holds the lock, and inside the loop the queue is empty. -/
structure Inv (s : RecvState α ulong) : Prop where
  valid : s.ring.Valid
  holds : ∀ i, (s.receiver i).pc = .loop ∨ (s.receiver i).pc = .empty → s.qLock = some i
  empty : ∀ i, (s.receiver i).pc = .empty → s.ring.content = []

theorem Inv.init (timeoutMs : ℕ → UInt32) (frame : ℕ → α) :
    (init timeoutMs frame : RecvState α ulong).Inv where
  valid := Rxq.valid_ofCapacity (by decide) (by decide)
  holds i := by simp [RecvState.init]
  empty i := by simp [RecvState.init]

variable {s t : RecvState α ulong} {i : ℕ}

/-- With the lock free, no call is at work. -/
theorem Inv.of_free (h : s.Inv) (hfree : s.qLock = none) (ring : Rxq α ulong)
    (hvalid : ring.Valid) : Inv { s with ring := ring } where
  valid := hvalid
  holds := h.holds
  empty j hj := by
    have hlock := h.holds j (.inr hj)
    rw [hfree] at hlock
    cases hlock

theorem Inv.hold (h : s.Inv) (hfree : s.qLock = none) (i : ℕ) : (s.hold i).Inv where
  valid := h.valid
  holds j hj := by
    by_cases hji : j = i
    · exact congrArg some hji.symm
    · simp only [RecvState.hold, Function.update_of_ne hji] at hj
      have hlock := h.holds j hj
      rw [hfree] at hlock
      cases hlock
  empty j hj := by
    by_cases hji : j = i
    · subst hji
      simp [RecvState.hold] at hj
    · simp only [RecvState.hold, Function.update_of_ne hji] at hj
      exact h.empty j hj

/-- The holder may give up the lock, whatever it did to the queue. -/
theorem Inv.unlock {pc : RecvPc} (hvalid : s.ring.Valid)
    (hothers : ∀ j, j ≠ i → (s.receiver j).pc ≠ .loop ∧ (s.receiver j).pc ≠ .empty)
    (hpc : pc ≠ .loop ∧ pc ≠ .empty) : (s.unlock i pc).Inv where
  valid := hvalid
  holds j hj := by
    exfalso
    by_cases hji : j = i
    · subst hji
      simp only [RecvState.unlock, Function.update_self] at hj
      exact hj.elim hpc.1 hpc.2
    · simp only [RecvState.unlock, Function.update_of_ne hji] at hj
      exact hj.elim (hothers j hji).1 (hothers j hji).2
  empty j hj := by
    exfalso
    by_cases hji : j = i
    · subst hji
      simp only [RecvState.unlock, Function.update_self] at hj
      exact hpc.2 hj
    · simp only [RecvState.unlock, Function.update_of_ne hji] at hj
      exact (hothers j hji).2 hj

/-- No call but the holder of the lock is at work. -/
theorem Inv.others (h : s.Inv) (hlock : s.qLock = none ∨ s.qLock = some i) (j : ℕ)
    (hji : j ≠ i) : (s.receiver j).pc ≠ .loop ∧ (s.receiver j).pc ≠ .empty := by
  have hne : s.qLock ≠ some j := by
    rintro heq
    rcases hlock with hnone | hsome
    · rw [hnone] at heq
      cases heq
    · rw [hsome, Option.some.injEq] at heq
      exact hji heq.symm
  exact ⟨fun hpc => hne (h.holds j (.inl hpc)), fun hpc => hne (h.holds j (.inr hpc))⟩

/-- What a step does, on a queue that is in order. -/
inductive Transition (s : RecvState α ulong) : RecvEvent α → RecvState α ulong → Prop
  | lock (i : ℕ) (hfree : s.qLock = none) : Transition s (.lock i) (s.hold i)
  | foundNone (i : ℕ) (hpc : (s.receiver i).pc = .loop) (hnil : s.ring.content = []) :
      Transition s (.test i) (s.enterBody i)
  | found (i : ℕ) (x : α) (ring : Rxq α ulong) (hpc : (s.receiver i).pc = .loop)
      (hcontent : s.ring.content = x :: ring.content) (hvalid : ring.Valid) :
      Transition s (.test i) (s.take i x ring)
  | body (i : ℕ) (hpc : (s.receiver i).pc = .empty) :
      Transition s (.body i) (s.unlock i (s.bodyPc i))
  | expire (i : ℕ) : Transition s (.expire i) { s with
      receiver := Function.update s.receiver i { s.receiver i with expired := true } }
  | wake (i : ℕ) (hfree : s.qLock = none) : Transition s (.wake i) (s.hold i)
  | timedOut (i : ℕ) (hpc : (s.receiver i).pc = .waiting) (hfree : s.qLock = none)
      (hexpired : (s.receiver i).expired = true) :
      Transition s (.timedOut i) (s.unlock i (.returned 0))
  | push (x : α) (ring : Rxq α ulong) (hfree : s.qLock = none) (hvalid : ring.Valid) :
      Transition s (.push x) { s with ring := ring }
  | setStarted (started : Bool) : Transition s (.setStarted started) { s with started := started }

/-- **Inversion.** A step is one of these, for neither the dequeue nor the push can fail. -/
theorem Inv.transition (h : s.Inv) {e : RecvEvent α} (hstep : s.step e = some t) :
    s.Transition e t := by
  cases e with
  | lock i =>
      simp only [RecvState.step, Option.ite_none_right_eq_some] at hstep
      obtain ⟨⟨-, hfree⟩, heq⟩ := hstep
      cases heq
      exact .lock i hfree
  | test i =>
      simp only [RecvState.step, Option.ite_none_right_eq_some] at hstep
      obtain ⟨hpc, hstep⟩ := hstep
      obtain ⟨ring, hdequeue, hvalid, htail⟩ := h.valid.recvDequeue
      rcases hcontent : s.ring.content with _ | ⟨x, xs⟩
      · rw [hdequeue, hcontent] at hstep
        cases hstep
        exact .foundNone i hpc hcontent
      · rw [hdequeue, hcontent] at hstep
        cases hstep
        rw [hcontent, List.tail_cons] at htail
        exact .found i x ring hpc (htail ▸ hcontent) hvalid
  | body i =>
      simp only [RecvState.step, Option.ite_none_right_eq_some] at hstep
      obtain ⟨hpc, heq⟩ := hstep
      cases heq
      exact .body i hpc
  | expire i =>
      simp only [RecvState.step, Option.ite_none_left_eq_some] at hstep
      cases hstep.2
      exact .expire i
  | wake i =>
      simp only [RecvState.step, Option.ite_none_right_eq_some] at hstep
      obtain ⟨⟨-, hfree⟩, heq⟩ := hstep
      cases heq
      exact .wake i hfree
  | timedOut i =>
      simp only [RecvState.step, Option.ite_none_right_eq_some] at hstep
      obtain ⟨⟨hpc, hfree, hexpired⟩, heq⟩ := hstep
      cases heq
      exact .timedOut i hpc hfree hexpired
  | push x =>
      simp only [RecvState.step, Option.ite_none_right_eq_some] at hstep
      obtain ⟨hfree, hstep⟩ := hstep
      obtain ⟨ring, hpush, hvalid, -⟩ := h.valid.rxqPush x
      rw [hpush] at hstep
      cases hstep
      exact .push x ring hfree hvalid
  | setStarted started =>
      cases hstep
      exact .setStarted started

/-- **Step lemma.** -/
theorem Inv.step (h : s.Inv) {e : RecvEvent α} (hstep : s.step e = some t) : t.Inv := by
  cases h.transition hstep with
  | lock i hfree => exact h.hold hfree i
  | foundNone i hpc hnil =>
      have hlock := h.holds i (.inl hpc)
      refine ⟨h.valid, ?_, fun _ _ => hnil⟩
      intro j hj
      by_cases hji : j = i
      · rw [hji]
        exact hlock
      · simp only [enterBody, Function.update_of_ne hji] at hj
        exact h.holds j hj
  | found i x ring hpc hcontent hvalid =>
      have hlock := h.holds i (.inl hpc)
      refine Inv.unlock hvalid ?_ (by simp)
      intro j hji
      simp only [Function.update_of_ne hji]
      exact h.others (.inr hlock) j hji
  | body i hpc =>
      exact .unlock h.valid (h.others (.inr (h.holds i (.inr hpc)))) (s.bodyPc_ne i)
  | expire i =>
      have hpc : ∀ j, (Function.update s.receiver i
          { s.receiver i with expired := true } j).pc = (s.receiver j).pc := by
        intro j
        by_cases hji : j = i
        · rw [hji, Function.update_self]
        · rw [Function.update_of_ne hji]
      refine ⟨h.valid, ?_, ?_⟩
      · intro j hj
        simp only [hpc] at hj
        exact h.holds j hj
      · intro j hj
        simp only [hpc] at hj
        exact h.empty j hj
  | wake i hfree => exact h.hold hfree i
  | timedOut i hpc hfree hexpired => exact .unlock h.valid (h.others (.inl hfree)) (by simp)
  | push x ring hfree hvalid => exact h.of_free hfree ring hvalid
  | setStarted started => exact ⟨h.valid, h.holds, h.empty⟩

/-! ## The contract -/

/-- What the contract asks of a step of call `i`. -/
structure Right (s t : RecvState α ulong) (i : ℕ) : Prop where
  /-- Returning 1, it took the oldest frame off the queue and wrote it to `*frame`. -/
  taken : (t.receiver i).pc = .returned 1 →
    s.ring.content = (t.receiver i).frame :: t.ring.content
  /-- Otherwise it touched neither the queue nor `*frame`. -/
  untouched : (t.receiver i).pc ≠ .returned 1 →
    t.ring = s.ring ∧ (t.receiver i).frame = (s.receiver i).frame
  /-- Returning 0 or a negative code, it leaves the queue empty as it gives up the lock. -/
  queue_empty : ∀ rc ≤ 0, (t.receiver i).pc = .returned rc →
    t.qLock = none ∧ t.ring.content = []
  /-- It finds the channel stopped if it returns so. -/
  stopped : (t.receiver i).pc = .returned gsusbErrInvalid → s.started = false
  /-- It touched no other call. -/
  others : ∀ j, j ≠ i → t.receiver j = s.receiver j

/-- The contract of a step; the steps of no call leave every `*frame` alone. -/
def MeetsContract (s : RecvState α ulong) (e : RecvEvent α) : Prop :=
  ∀ t ∈ s.step e,
    match e.caller? with
    | some i => s.Right t i
    | none => ∀ j, (t.receiver j).frame = (s.receiver j).frame

/-- No call comes back with `ETIMEDOUT` to a queue that holds a frame. -/
def OnTime (s : RecvState α ulong) (e : RecvEvent α) : Prop :=
  ∀ i, e = .timedOut i → s.qLock = none → (s.receiver i).pc = .waiting →
    (s.receiver i).expired = true → s.ring.content = []

/-- A step of a call that does not return. -/
theorem right_of_going (pc : RecvPc) (hpc : (t.receiver i).pc = pc)
    (hgoing : ∀ rc, pc ≠ .returned rc) (hring : t.ring = s.ring)
    (hframe : (t.receiver i).frame = (s.receiver i).frame)
    (hothers : ∀ j, j ≠ i → t.receiver j = s.receiver j) : s.Right t i where
  taken hone := absurd (hpc.symm.trans hone) (hgoing 1)
  untouched _ := ⟨hring, hframe⟩
  queue_empty rc _ hrc := absurd (hpc.symm.trans hrc) (hgoing rc)
  stopped hinvalid := absurd (hpc.symm.trans hinvalid) (hgoing _)
  others := hothers

theorem right_hold (s : RecvState α ulong) (i : ℕ) : s.Right (s.hold i) i := by
  apply right_of_going .loop
  · simp [hold]
  · simp
  · rfl
  · simp [hold]
  · intro j hji
    simp [hold, hji]

/-- A call that gives up the lock at an empty queue, to wait or to return. -/
theorem right_unlock {pc : RecvPc} (hempty : s.ring.content = [])
    (hone : pc ≠ .returned 1) (hstopped : pc = .returned gsusbErrInvalid → s.started = false) :
    s.Right (s.unlock i pc) i where
  taken h := by
    simp only [unlock, Function.update_self] at h
    exact absurd h hone
  untouched _ := by simp [unlock]
  queue_empty _ _ _ := ⟨rfl, hempty⟩
  stopped h := by
    simp only [unlock, Function.update_self] at h
    exact hstopped h
  others j hji := by simp [unlock, hji]

/-- A call that finds a frame. -/
theorem right_take {x : α} {ring : Rxq α ulong} (hcontent : s.ring.content = x :: ring.content) :
    s.Right (s.take i x ring) i where
  taken _ := by simpa [take, unlock] using hcontent
  untouched h := by simp [take, unlock] at h
  queue_empty rc hle h := by
    simp only [take, unlock, Function.update_self, RecvPc.returned.injEq] at h
    omega
  stopped h := by simp [take, unlock, gsusbErrInvalid] at h
  others j hji := by simp [take, unlock, hji]

/-- **Contract of a step.** All steps but a late `ETIMEDOUT` meet the contract. -/
theorem Inv.meetsContract_iff (h : s.Inv) (e : RecvEvent α) :
    s.MeetsContract e ↔ s.OnTime e := by
  constructor
  · intro hcontract i he hfree hpc hexpired
    subst he
    have hstep : s.step (.timedOut i) = some (s.unlock i (.returned 0)) := by
      simp [RecvState.step, hfree, hpc, hexpired]
    have hright : s.Right (s.unlock i (.returned 0)) i := hcontract _ hstep
    exact (hright.queue_empty 0 le_rfl (by simp [RecvState.unlock])).2
  · intro htime t hstep
    cases h.transition hstep with
    | lock i hfree => exact s.right_hold i
    | foundNone i hpc hnil =>
        apply right_of_going .empty
        · simp [enterBody]
        · simp
        · rfl
        · simp [enterBody]
        · intro j hji
          simp [enterBody, hji]
    | found i x ring hpc hcontent hvalid => exact right_take hcontent
    | body i hpc =>
        exact right_unlock (h.empty i hpc) (s.bodyPc_returned i).1 (s.bodyPc_returned i).2
    | expire i =>
        intro j
        by_cases hji : j = i
        · simp [hji]
        · simp [hji]
    | wake i hfree => exact s.right_hold i
    | timedOut i hpc hfree hexpired =>
        exact right_unlock (htime i rfl hfree hpc hexpired) (by simp) (by simp [gsusbErrInvalid])
    | push x ring hfree hvalid => exact fun _ => rfl
    | setStarted started => exact fun _ => rfl

/-- **Exactly when `gsusb_channel_recv` keeps its contract.** Over any schedule of any calls,
with pushes, starts and stops in between: every step meets the contract if and only if no call
comes back with `ETIMEDOUT` to a queue that holds a frame. -/
theorem meets_contract_iff (timeoutMs : ℕ → UInt32) (frame : ℕ → α)
    (events : List (RecvEvent α)) :
    Meets step MeetsContract (init timeoutMs frame : RecvState α ulong) events ↔
      Meets step OnTime (init timeoutMs frame : RecvState α ulong) events :=
  meets_congr (fun _ _ _ h hstep => Inv.step h hstep) (fun _ e h => h.meetsContract_iff e)
    (.init timeoutMs frame)

set_option maxRecDepth 4000 in
/-- A frame arrives after the deadline of a waiting call and before it has the lock: the call
returns 0 and leaves the frame in the queue. -/
theorem not_meets_contract_late :
    ∃ s t : RecvState ℕ 64,
      run step (init (fun _ => 5) (fun _ => 0))
          [.setStarted true, .lock 0, .test 0, .body 0, .expire 0, .push 7] = some s ∧
        s.step (.timedOut 0) = some t ∧ (t.receiver 0).pc = .returned 0 ∧
        t.ring.content = [7] ∧
        ¬ Meets step MeetsContract (init (fun _ => 5) (fun _ => 0) : RecvState ℕ 64)
          [.setStarted true, .lock 0, .test 0, .body 0, .expire 0, .push 7, .timedOut 0] := by
  obtain ⟨s, t, hrun, hstep, hpc, hcontent⟩ : ∃ s t : RecvState ℕ 64,
      run step (init (fun _ => 5) (fun _ => 0))
          [.setStarted true, .lock 0, .test 0, .body 0, .expire 0, .push 7] = some s ∧
        s.step (.timedOut 0) = some t ∧ (t.receiver 0).pc = .returned 0 ∧
        t.ring.content = [7] := ⟨_, _, rfl, rfl, rfl, by decide⟩
  refine ⟨s, t, hrun, hstep, hpc, hcontent, ?_⟩
  intro hmeets
  have hcontract : s.MeetsContract (.timedOut 0) := Meets.ok_of_run hrun hmeets
  have hempty := ((hcontract t hstep).queue_empty 0 le_rfl hpc).2
  rw [hcontent] at hempty
  cases hempty

end RecvState

end GsUsb.Driver
