/-
# What one listener thread delivers

`Bus._listen_loop` beside `Bus.recv`, `Bus.add_detector` and `Bus.remove_detector`, which other
threads and the callbacks of detectors may call at any time.  The operations of the queue, and
what is done under `_detectors_lock`, are single steps; the overflow of the queue is three of
them, and the delivery of a frame to the detectors as many as there are callbacks.
-/

import GsUsb.Math.DropOldest
import GsUsb.Math.Run

namespace GsUsb.Python

open GsUsb.Math GsUsb.Math.DropOldest

universe u v

/-- `maxsize` of `_recv_queue`. -/
def recvQueueMaxsize : ℕ := 512

/-- How a call of `matches` ends; `raised` is any `Exception`. -/
inductive Verdict
  | yes
  | no
  | raised
  deriving DecidableEq

/-- What the listener does to a detector. -/
inductive Called (δ : Type v)
  | matches (d : δ)
  /-- The call of `matches` ends. -/
  | verdict (v : Verdict)
  | onDetect (d : δ)
  deriving DecidableEq

/-- A frame handed to the detectors: the snapshot taken for it, and the calls made since. -/
structure Delivery (φ : Type u) (δ : Type v) where
  frame : φ
  snapshot : List δ
  calls : List (Called δ)

/-- A frame discarded in favour of an arriving one, which is given by its number: the queue when
the arriving frame was first put, and when the other was taken out. -/
structure Drop (φ : Type u) where
  arrival : ℕ
  atPut : List φ
  atGet : List φ

/-- Where the listener is. -/
inductive ListenPc (φ : Type u) (δ : Type v)
  /-- At the test of `_stop_event`. -/
  | test
  /-- In `gsusb_channel_recv`. -/
  | recv
  /-- At the first `put_nowait`. -/
  | put (f : φ)
  /-- The queue was found full. -/
  | full (f : φ) (atPut : List φ)
  /-- At the second `put_nowait`. -/
  | putAgain (f : φ)
  /-- Before the snapshot of the detectors. -/
  | snapshot (f : φ)
  /-- At the head of the `for` loop. -/
  | dispatch (f : φ) (rest : List δ)
  /-- In `d.matches(f)`. -/
  | matching (f : φ) (d : δ) (rest : List δ)
  /-- In `d.on_detect(f)`. -/
  | detecting (f : φ) (rest : List δ)
  | ended

/-- A bus with its listener.  The ledger of the queue remembers how each frame left it, the rest
of the record what `gsusb_channel_recv` returned and what the listener did with it. -/
structure Listening (φ : Type u) (δ : Type v) where
  recvQueue : Ledger φ
  detectors : List δ
  stopEvent : Bool
  pc : ListenPc φ δ
  received : List φ
  drops : List (Drop φ)
  /-- The newest first. -/
  deliveries : List (Delivery φ δ)

/-- A step of the listener, or of what runs beside it. -/
inductive ListenEvent (φ : Type u) (δ : Type v)
  | test
  /-- `gsusb_channel_recv` returns 1. -/
  | frame (f : φ)
  /-- It returns 0. -/
  | idle
  /-- It returns a negative code. -/
  | error
  | putNowait
  | getNowait
  | putAgain
  | snapshot
  /-- The `for` loop goes on to its next detector, or ends. -/
  | next
  /-- The call of `matches` ends. -/
  | verdict (v : Verdict)
  /-- The call of `on_detect` returns or raises an `Exception`. -/
  | detected
  /-- `Bus.recv` takes the oldest frame out of the queue. -/
  | take
  | add (d : δ)
  /-- `remove_detector`, which raises an error if `d` is not there. -/
  | remove (d : δ)
  /-- `_stop_event` is set or cleared. -/
  | setStop (stop : Bool)

namespace Listening

variable {φ : Type u} {δ : Type v}

/-- A bus whose listener was just started. -/
def init (detectors : List δ) : Listening φ δ := ⟨.empty, detectors, false, .test, [], [], []⟩

/-- Note calls in the newest delivery. -/
def note (calls : List (Called δ)) : List (Delivery φ δ) → List (Delivery φ δ)
  | [] => []
  | delivery :: older => { delivery with calls := delivery.calls ++ calls } :: older

/-- A step. -/
def step [DecidableEq δ] (s : Listening φ δ) : ListenEvent φ δ → Option (Listening φ δ)
  | .test =>
    match s.pc with
    | .test => some { s with pc := if s.stopEvent then .ended else .recv }
    | _ => none
  | .frame f =>
    match s.pc with
    | .recv => some { s with received := s.received ++ [f], pc := .put f }
    | _ => none
  | .idle =>
    match s.pc with
    | .recv => some { s with pc := .test }
    | _ => none
  | .error =>
    match s.pc with
    | .recv => some { s with pc := .ended }
    | _ => none
  | .putNowait =>
    match s.pc with
    | .put f =>
      if s.recvQueue.queue.length < recvQueueMaxsize then
        some { s with recvQueue := s.recvQueue.push recvQueueMaxsize f, pc := .snapshot f }
      else some { s with pc := .full f s.recvQueue.queue }
    | _ => none
  | .getNowait =>
    match s.pc with
    | .full f atPut =>
      if s.recvQueue.queue = [] then some { s with pc := .putAgain f }
      else
        some { s with
          recvQueue := s.recvQueue.takeFront .dropped
          drops := s.drops ++ [⟨s.received.length, atPut, s.recvQueue.queue⟩]
          pc := .putAgain f }
    | _ => none
  | .putAgain =>
    match s.pc with
    | .putAgain f =>
      if s.recvQueue.queue.length < recvQueueMaxsize then
        some { s with recvQueue := s.recvQueue.push recvQueueMaxsize f, pc := .snapshot f }
      else some { s with pc := .snapshot f }
    | _ => none
  | .snapshot =>
    match s.pc with
    | .snapshot f =>
      some { s with
        deliveries := ⟨f, s.detectors, []⟩ :: s.deliveries
        pc := .dispatch f s.detectors }
    | _ => none
  | .next =>
    match s.pc with
    | .dispatch _ [] => some { s with pc := .test }
    | .dispatch f (d :: rest) =>
      some { s with deliveries := note [.matches d] s.deliveries, pc := .matching f d rest }
    | _ => none
  | .verdict v =>
    match s.pc with
    | .matching f d rest =>
      if v = .yes then
        some { s with
          deliveries := note [.verdict v, .onDetect d] s.deliveries, pc := .detecting f rest }
      else some { s with deliveries := note [.verdict v] s.deliveries, pc := .dispatch f rest }
    | _ => none
  | .detected =>
    match s.pc with
    | .detecting f rest => some { s with pc := .dispatch f rest }
    | _ => none
  | .take => some { s with recvQueue := s.recvQueue.takeFront .returned }
  | .add d => some { s with detectors := s.detectors ++ [d] }
  | .remove d => some { s with detectors := s.detectors.erase d }
  | .setStop stop => some { s with stopEvent := stop }

/-- The steps there are, by what they change. -/
inductive Transition (s : Listening φ δ) : Listening φ δ → Prop
  | quiet (pc : ListenPc φ δ) (hold : s.pc = .test ∨ s.pc = .recv)
      (hnew : pc = .test ∨ pc = .recv ∨ pc = .ended) : Transition s { s with pc := pc }
  | frame (f : φ) (hpc : s.pc = .recv) :
      Transition s { s with received := s.received ++ [f], pc := .put f }
  | put (f : φ) (hpc : s.pc = .put f ∨ s.pc = .putAgain f)
      (hroom : s.recvQueue.queue.length < recvQueueMaxsize) :
      Transition s { s with recvQueue := s.recvQueue.push recvQueueMaxsize f, pc := .snapshot f }
  | full (f : φ) (hpc : s.pc = .put f) (hfull : recvQueueMaxsize ≤ s.recvQueue.queue.length) :
      Transition s { s with pc := .full f s.recvQueue.queue }
  | emptied (f : φ) (atPut : List φ) (hpc : s.pc = .full f atPut)
      (hempty : s.recvQueue.queue = []) : Transition s { s with pc := .putAgain f }
  | drop (f : φ) (atPut : List φ) (hpc : s.pc = .full f atPut) (hne : s.recvQueue.queue ≠ []) :
      Transition s { s with
        recvQueue := s.recvQueue.takeFront .dropped
        drops := s.drops ++ [⟨s.received.length, atPut, s.recvQueue.queue⟩]
        pc := .putAgain f }
  | lost (f : φ) (hpc : s.pc = .putAgain f)
      (hfull : recvQueueMaxsize ≤ s.recvQueue.queue.length) :
      Transition s { s with pc := .snapshot f }
  | snapshot (f : φ) (hpc : s.pc = .snapshot f) :
      Transition s { s with
        deliveries := ⟨f, s.detectors, []⟩ :: s.deliveries
        pc := .dispatch f s.detectors }
  | done (f : φ) (hpc : s.pc = .dispatch f []) : Transition s { s with pc := .test }
  | call (f : φ) (d : δ) (rest : List δ) (hpc : s.pc = .dispatch f (d :: rest)) :
      Transition s { s with
        deliveries := note [.matches d] s.deliveries
        pc := .matching f d rest }
  | verdict (f : φ) (d : δ) (rest : List δ) (v : Verdict) (calls : List (Called δ))
      (pc : ListenPc φ δ) (hpc : s.pc = .matching f d rest)
      (hcalls : calls = .verdict v :: if v = .yes then [.onDetect d] else [])
      (hnew : pc = .dispatch f rest ∨ pc = .detecting f rest) :
      Transition s { s with deliveries := note calls s.deliveries, pc := pc }
  | detected (f : φ) (rest : List δ) (hpc : s.pc = .detecting f rest) :
      Transition s { s with pc := .dispatch f rest }
  | take : Transition s { s with recvQueue := s.recvQueue.takeFront .returned }
  | beside (detectors : List δ) (stop : Bool) :
      Transition s { s with detectors := detectors, stopEvent := stop }

variable {s t : Listening φ δ}

/-- **Inversion of a step.** -/
theorem transition_of_step [DecidableEq δ] {e : ListenEvent φ δ} (hstep : s.step e = some t) :
    s.Transition t := by
  cases e with
  | test =>
      simp only [step] at hstep
      split at hstep
      · rename_i hpc
        cases hstep
        refine .quiet _ (.inl hpc) ?_
        split
        · exact .inr (.inr rfl)
        · exact .inr (.inl rfl)
      · cases hstep
  | frame f =>
      simp only [step] at hstep
      split at hstep
      · rename_i hpc
        cases hstep
        exact .frame f hpc
      · cases hstep
  | idle =>
      simp only [step] at hstep
      split at hstep
      · rename_i hpc
        cases hstep
        exact .quiet _ (.inr hpc) (.inl rfl)
      · cases hstep
  | error =>
      simp only [step] at hstep
      split at hstep
      · rename_i hpc
        cases hstep
        exact .quiet _ (.inr hpc) (.inr (.inr rfl))
      · cases hstep
  | putNowait =>
      simp only [step] at hstep
      split at hstep
      · rename_i f hpc
        split at hstep
        · rename_i hroom
          cases hstep
          exact .put f (.inl hpc) hroom
        · rename_i hfull
          cases hstep
          exact .full f hpc (Nat.not_lt.mp hfull)
      · cases hstep
  | getNowait =>
      simp only [step] at hstep
      split at hstep
      · rename_i f atPut hpc
        split at hstep
        · rename_i hempty
          cases hstep
          exact .emptied f atPut hpc hempty
        · rename_i hne
          cases hstep
          exact .drop f atPut hpc hne
      · cases hstep
  | putAgain =>
      simp only [step] at hstep
      split at hstep
      · rename_i f hpc
        split at hstep
        · rename_i hroom
          cases hstep
          exact .put f (.inr hpc) hroom
        · rename_i hfull
          cases hstep
          exact .lost f hpc (Nat.not_lt.mp hfull)
      · cases hstep
  | snapshot =>
      simp only [step] at hstep
      split at hstep
      · rename_i f hpc
        cases hstep
        exact .snapshot f hpc
      · cases hstep
  | next =>
      simp only [step] at hstep
      split at hstep
      · rename_i f hpc
        cases hstep
        exact .done f hpc
      · rename_i f d rest hpc
        cases hstep
        exact .call f d rest hpc
      · cases hstep
  | verdict v =>
      simp only [step] at hstep
      split at hstep
      · rename_i f d rest hpc
        split at hstep
        · rename_i hyes
          cases hstep
          exact .verdict f d rest v _ _ hpc (by rw [if_pos hyes]) (.inr rfl)
        · rename_i hno
          cases hstep
          exact .verdict f d rest v _ _ hpc (by rw [if_neg hno]) (.inl rfl)
      · cases hstep
  | detected =>
      simp only [step] at hstep
      split at hstep
      · rename_i f rest hpc
        cases hstep
        exact .detected f rest hpc
      · cases hstep
  | take =>
      cases hstep
      exact .take
  | add d =>
      cases hstep
      exact .beside _ _
  | remove d =>
      cases hstep
      exact .beside _ _
  | setStop stop =>
      cases hstep
      exact .beside _ _

end Listening

namespace ListenPc

variable {φ : Type u} {δ : Type v}

/-- The frame that is not in the queue yet. -/
def waiting : ListenPc φ δ → List φ
  | .put f | .full f _ | .putAgain f => [f]
  | _ => []

/-- The frame for which no snapshot was taken yet. -/
def undelivered : ListenPc φ δ → List φ
  | .put f | .full f _ | .putAgain f | .snapshot f => [f]
  | _ => []

end ListenPc

namespace Listening

variable {φ : Type u} {δ : Type v} {s t : Listening φ δ}

/-- The queue keeps its bound, and every frame but the one at hand was put into it once. -/
structure Queued (s : Listening φ δ) : Prop where
  length_le : s.recvQueue.queue.length ≤ recvQueueMaxsize
  room : ∀ f, s.pc = .putAgain f → s.recvQueue.queue.length < recvQueueMaxsize
  history : s.recvQueue.history ++ s.pc.waiting = s.received

/-- The drops: of the oldest frame, for a frame that found the queue full, once for each. -/
structure Dropped (s : Listening φ δ) : Prop where
  left_eq : s.recvQueue.left .dropped = s.drops.filterMap fun drop => drop.atGet.head?
  atPut : ∀ f atPut, s.pc = .full f atPut → atPut.length = recvQueueMaxsize
  full : ∀ drop ∈ s.drops, drop.atPut.length = recvQueueMaxsize ∧ drop.atGet ≠ []
  once : s.drops.Pairwise fun drop drop' => drop.arrival < drop'.arrival
  arrived : ∀ drop ∈ s.drops, drop.arrival ≤ s.received.length
  fresh : ∀ f, (s.pc = .put f ∨ ∃ atPut, s.pc = .full f atPut) →
    ∀ drop ∈ s.drops, drop.arrival < s.received.length

/-- **Queue step.** -/
theorem Queued.step (h : s.Queued) (hstep : s.Transition t) : t.Queued := by
  have hhistory := h.history
  cases hstep with
  | quiet pc hold hnew =>
      refine ⟨h.length_le, ?_, ?_⟩
      · rintro f rfl
        simp at hnew
      · have hwaiting : s.pc.waiting = [] := by
          rcases hold with hpc | hpc <;> rw [hpc] <;> rfl
        rw [hwaiting] at hhistory
        rcases hnew with rfl | rfl | rfl <;> exact hhistory
  | frame f hpc =>
      rw [hpc] at hhistory
      refine ⟨h.length_le, by rintro _ ⟨⟩, ?_⟩
      rw [← hhistory]
      simp [ListenPc.waiting]
  | put f hpc hroom =>
      have hwaiting : s.pc.waiting = [f] := by
        rcases hpc with hpc | hpc <;> rw [hpc] <;> rfl
      rw [hwaiting] at hhistory
      refine ⟨Ledger.length_push_le (by decide) h.length_le f, by rintro _ ⟨⟩, ?_⟩
      simpa [ListenPc.waiting] using hhistory
  | full f hpc hfull =>
      rw [hpc] at hhistory
      exact ⟨h.length_le, by rintro _ ⟨⟩, hhistory⟩
  | emptied f atPut hpc hempty =>
      rw [hpc] at hhistory
      refine ⟨h.length_le, ?_, hhistory⟩
      intro _ _
      rw [hempty]
      show 0 < recvQueueMaxsize
      decide
  | drop f atPut hpc hne =>
      rw [hpc] at hhistory
      have hlength := h.length_le
      obtain ⟨x, xs, hqueue⟩ := List.exists_cons_of_ne_nil hne
      have htake : (s.recvQueue.takeFront .dropped).queue = xs := by
        rw [Ledger.takeFront, hqueue]
      rw [hqueue, List.length_cons] at hlength
      refine ⟨?_, ?_, ?_⟩
      · rw [htake]
        omega
      · intro _ _
        rw [htake]
        omega
      · rw [Ledger.history_takeFront]
        exact hhistory
  | lost f hpc hfull => exact absurd (h.room f hpc) (Nat.not_lt.mpr hfull)
  | snapshot f hpc =>
      rw [hpc] at hhistory
      exact ⟨h.length_le, by rintro _ ⟨⟩, hhistory⟩
  | done f hpc =>
      rw [hpc] at hhistory
      exact ⟨h.length_le, by rintro _ ⟨⟩, hhistory⟩
  | call f d rest hpc =>
      rw [hpc] at hhistory
      exact ⟨h.length_le, by rintro _ ⟨⟩, hhistory⟩
  | verdict f d rest v calls pc hpc hcalls hnew =>
      rw [hpc] at hhistory
      rcases hnew with rfl | rfl <;> exact ⟨h.length_le, by rintro _ ⟨⟩, hhistory⟩
  | detected f rest hpc =>
      rw [hpc] at hhistory
      exact ⟨h.length_le, by rintro _ ⟨⟩, hhistory⟩
  | take =>
      have hle := Ledger.length_takeFront_le s.recvQueue .returned
      refine ⟨Nat.le_trans hle h.length_le, ?_, ?_⟩
      · intro f hpc
        exact Nat.lt_of_le_of_lt hle (h.room f hpc)
      · simpa using hhistory
  | beside detectors stop => exact ⟨h.length_le, h.room, hhistory⟩

/-- A step that is neither a drop nor an arrival, nor comes to the queue with a new frame. -/
theorem Dropped.of_same (h : s.Dropped)
    (hqueue : t.recvQueue.left .dropped = s.recvQueue.left .dropped)
    (hdrops : t.drops = s.drops) (hreceived : t.received = s.received)
    (hpc : ∀ f, t.pc ≠ .put f ∧ ∀ atPut, t.pc ≠ .full f atPut) : t.Dropped where
  left_eq := by rw [hqueue, hdrops, h.left_eq]
  atPut f atPut hat := absurd hat ((hpc f).2 atPut)
  full := hdrops ▸ h.full
  once := hdrops ▸ h.once
  arrived := by
    rw [hdrops, hreceived]
    exact h.arrived
  fresh f hat := by
    rcases hat with hput | ⟨atPut, hfull⟩
    · exact absurd hput (hpc f).1
    · exact absurd hfull ((hpc f).2 atPut)

/-- **Drop step.** -/
theorem Dropped.step (hq : s.Queued) (h : s.Dropped) (hstep : s.Transition t) : t.Dropped := by
  cases hstep with
  | quiet pc hold hnew =>
      refine h.of_same rfl rfl rfl ?_
      intro f
      rcases hnew with rfl | rfl | rfl <;> simp
  | frame f hpc =>
      refine ⟨h.left_eq, nofun, h.full, h.once, ?_, ?_⟩
      · intro drop hdrop
        have hle := h.arrived drop hdrop
        simp only [List.length_append, List.length_singleton]
        omega
      · intro _ _ drop hdrop
        have hle := h.arrived drop hdrop
        simp only [List.length_append, List.length_singleton]
        omega
  | put f hpc hroom =>
      refine h.of_same ?_ rfl rfl (by simp)
      rw [Ledger.left_push, if_neg, List.append_nil]
      rintro ⟨heq, -⟩
      omega
  | full f hpc hfull =>
      refine ⟨h.left_eq, ?_, h.full, h.once, h.arrived, fun _ _ => h.fresh f (.inl hpc)⟩
      intro f' atPut hat
      cases hat
      exact Nat.le_antisymm hq.length_le hfull
  | emptied f atPut hpc hempty => exact h.of_same rfl rfl rfl (by simp)
  | drop f atPut hpc hne =>
      refine ⟨?_, nofun, ?_, ?_, ?_, ?_⟩
      · rw [Ledger.left_takeFront, if_pos rfl, h.left_eq, List.filterMap_append]
        cases hqueue : s.recvQueue.queue with
        | nil => exact absurd hqueue hne
        | cons x xs => rfl
      · intro drop hdrop
        rcases List.mem_append.mp hdrop with hold | hnew
        · exact h.full drop hold
        · cases List.mem_singleton.mp hnew
          exact ⟨h.atPut f atPut hpc, hne⟩
      · rw [List.pairwise_append]
        refine ⟨h.once, List.pairwise_singleton _ _, ?_⟩
        intro drop hdrop drop' hdrop'
        cases List.mem_singleton.mp hdrop'
        exact h.fresh f (.inr ⟨atPut, hpc⟩) drop hdrop
      · intro drop hdrop
        rcases List.mem_append.mp hdrop with hold | hnew
        · exact h.arrived drop hold
        · cases List.mem_singleton.mp hnew
          exact Nat.le_refl _
      · rintro f' (hput | ⟨atPut', hfull⟩)
        · cases hput
        · cases hfull
  | lost f hpc hfull => exact h.of_same rfl rfl rfl (by simp)
  | snapshot f hpc => exact h.of_same rfl rfl rfl (by simp)
  | done f hpc => exact h.of_same rfl rfl rfl (by simp)
  | call f d rest hpc => exact h.of_same rfl rfl rfl (by simp)
  | verdict f d rest v calls pc hpc hcalls hnew =>
      rcases hnew with rfl | rfl <;> exact h.of_same rfl rfl rfl (by simp)
  | detected f rest hpc => exact h.of_same rfl rfl rfl (by simp)
  | take =>
      refine ⟨?_, h.atPut, h.full, h.once, h.arrived, h.fresh⟩
      rw [Ledger.left_takeFront, if_neg (by decide), List.append_nil, h.left_eq]
  | beside detectors stop => exact ⟨h.left_eq, h.atPut, h.full, h.once, h.arrived, h.fresh⟩

/-- The queue was full only once more frames had come than it holds. -/
structure Filled (s : Listening φ δ) : Prop where
  full : ∀ f atPut, s.pc = .full f atPut → recvQueueMaxsize < s.received.length
  dropped : s.recvQueue.left .dropped ≠ [] → recvQueueMaxsize < s.received.length

/-- A step that drops nothing and does not find the queue full. -/
theorem Filled.of_same (h : s.Filled)
    (hqueue : t.recvQueue.left .dropped = s.recvQueue.left .dropped)
    (hreceived : s.received.length ≤ t.received.length)
    (hpc : ∀ f atPut, t.pc ≠ .full f atPut) : t.Filled where
  full f atPut hat := absurd hat (hpc f atPut)
  dropped hne := Nat.lt_of_lt_of_le (h.dropped (hqueue ▸ hne)) hreceived

/-- **Fill step.** -/
theorem Filled.step (hq : s.Queued) (h : s.Filled) (hstep : s.Transition t) : t.Filled := by
  cases hstep with
  | quiet pc hold hnew =>
      refine h.of_same rfl (Nat.le_refl _) ?_
      rcases hnew with rfl | rfl | rfl <;> simp
  | frame f hpc => exact h.of_same rfl (by simp) (by simp)
  | put f hpc hroom =>
      refine h.of_same ?_ (Nat.le_refl _) (by simp)
      rw [Ledger.left_push, if_neg fun hfull => Nat.ne_of_lt hroom hfull.1, List.append_nil]
  | full f hpc hfull =>
      -- what is queued, and the frame at hand, were all received
      have hlength := congrArg List.length hq.history
      rw [hpc, List.length_append, Ledger.length_history] at hlength
      have hone : (ListenPc.put f : ListenPc φ δ).waiting.length = 1 := rfl
      exact ⟨fun _ _ _ => by dsimp only; omega, h.dropped⟩
  | emptied f atPut hpc hempty => exact h.of_same rfl (Nat.le_refl _) (by simp)
  | drop f atPut hpc hne =>
      exact ⟨nofun, fun _ => h.full f atPut hpc⟩
  | lost f hpc hfull => exact h.of_same rfl (Nat.le_refl _) (by simp)
  | snapshot f hpc => exact h.of_same rfl (Nat.le_refl _) (by simp)
  | done f hpc => exact h.of_same rfl (Nat.le_refl _) (by simp)
  | call f d rest hpc => exact h.of_same rfl (Nat.le_refl _) (by simp)
  | verdict f d rest v calls pc hpc hcalls hnew =>
      refine h.of_same rfl (Nat.le_refl _) ?_
      rcases hnew with rfl | rfl <;> simp
  | detected f rest hpc => exact h.of_same rfl (Nat.le_refl _) (by simp)
  | take =>
      refine ⟨h.full, fun hne => h.dropped ?_⟩
      rwa [Ledger.left_takeFront, if_neg (by decide), List.append_nil] at hne
  | beside detectors stop => exact ⟨h.full, h.dropped⟩

/-- The calls of one detector: `matches`, and `on_detect` if it returned true. -/
def callsFor (served : δ × Verdict) : List (Called δ) :=
  .matches served.1 :: .verdict served.2 :: if served.2 = .yes then [.onDetect served.1] else []

/-- Each detector was served once, in this order. -/
def Served (detectors : List δ) (calls : List (Called δ)) : Prop :=
  ∃ served : List (δ × Verdict), served.map Prod.fst = detectors ∧ calls = served.flatMap callsFor

/-- The whole snapshot of a delivery was served. -/
def Complete (x : Delivery φ δ) : Prop := Served x.snapshot x.calls

/-- The newest delivery is that of `f`: its snapshot was served up to `rest`, after which the
calls `tail` were made; and the older ones are complete. -/
def Partly (deliveries : List (Delivery φ δ)) (f : φ) (rest : List δ) (tail : List (Called δ)) :
    Prop :=
  ∃ x older done calls, deliveries = x :: older ∧ x.frame = f ∧ x.snapshot = done ++ rest ∧
    x.calls = calls ++ tail ∧ Served done calls ∧ ∀ y ∈ older, Complete y

/-- How far the deliveries have come. -/
def Delivered (deliveries : List (Delivery φ δ)) : ListenPc φ δ → Prop
  | .dispatch f rest => Partly deliveries f rest []
  | .matching f d rest => Partly deliveries f (d :: rest) [.matches d]
  | .detecting f rest => Partly deliveries f rest []
  | _ => ∀ x ∈ deliveries, Complete x

theorem served_nil : Served ([] : List δ) [] := ⟨[], rfl, rfl⟩

/-- One more detector. -/
theorem Served.append {done : List δ} {calls : List (Called δ)} (h : Served done calls) (d : δ)
    (v : Verdict) : Served (done ++ [d]) (calls ++ callsFor (d, v)) := by
  obtain ⟨served, rfl, rfl⟩ := h
  exact ⟨served ++ [(d, v)], by simp, by simp⟩

/-- A detector's calls are noted. -/
theorem Partly.note {deliveries : List (Delivery φ δ)} {f : φ} {rest : List δ}
    {tail : List (Called δ)} (h : Partly deliveries f rest tail) (calls : List (Called δ)) :
    Partly (note calls deliveries) f rest (tail ++ calls) := by
  obtain ⟨x, older, done, before, rfl, hf, hsnapshot, hcalls, hserved, holder⟩ := h
  refine ⟨_, older, done, before, rfl, hf, hsnapshot, ?_, hserved, holder⟩
  simp [hcalls]

/-- A detector whose calls are made counts as served. -/
theorem Partly.next {deliveries : List (Delivery φ δ)} {f : φ} {d : δ} {rest : List δ}
    {v : Verdict} (h : Partly deliveries f (d :: rest) (callsFor (d, v))) :
    Partly deliveries f rest [] := by
  obtain ⟨x, older, done, before, hdeliveries, hf, hsnapshot, hcalls, hserved, holder⟩ := h
  refine ⟨x, older, done ++ [d], before ++ callsFor (d, v), hdeliveries, hf, ?_, ?_,
    hserved.append d v, holder⟩
  · simpa using hsnapshot
  · simpa using hcalls

/-- With the whole snapshot served, the deliveries are complete. -/
theorem Partly.complete {deliveries : List (Delivery φ δ)} {f : φ}
    (h : Partly deliveries f [] []) : ∀ x ∈ deliveries, Complete x := by
  obtain ⟨x, older, done, calls, rfl, -, hsnapshot, hcalls, hserved, holder⟩ := h
  intro y hy
  rcases List.mem_cons.mp hy with rfl | hy
  · rw [List.append_nil] at hsnapshot hcalls
    rw [Complete, hsnapshot, hcalls]
    exact hserved
  · exact holder y hy

/-- The frames of the deliveries are those received, and each is delivered as it should be. -/
structure Notified (s : Listening φ δ) : Prop where
  frames : (s.deliveries.map Delivery.frame).reverse ++ s.pc.undelivered = s.received
  delivered : Delivered s.deliveries s.pc

/-- **Delivery step.** -/
theorem Notified.step (h : s.Notified) (hstep : s.Transition t) : t.Notified := by
  have hframes := h.frames
  have hdelivered := h.delivered
  cases hstep with
  | quiet pc hold hnew =>
      have hidle : s.pc.undelivered = [] ∧ ∀ x ∈ s.deliveries, Complete x := by
        rcases hold with hpc | hpc <;> rw [hpc] at hdelivered ⊢ <;> exact ⟨rfl, hdelivered⟩
      rw [hidle.1] at hframes
      rcases hnew with rfl | rfl | rfl <;> exact ⟨hframes, hidle.2⟩
  | frame f hpc =>
      rw [hpc] at hframes hdelivered
      refine ⟨?_, hdelivered⟩
      rw [← hframes]
      simp [ListenPc.undelivered]
  | put f hpc hroom =>
      have hat : s.pc.undelivered = [f] ∧ ∀ x ∈ s.deliveries, Complete x := by
        rcases hpc with hpc | hpc <;> rw [hpc] at hdelivered ⊢ <;> exact ⟨rfl, hdelivered⟩
      rw [hat.1] at hframes
      exact ⟨hframes, hat.2⟩
  | full f hpc hfull =>
      rw [hpc] at hframes hdelivered
      exact ⟨hframes, hdelivered⟩
  | emptied f atPut hpc hempty =>
      rw [hpc] at hframes hdelivered
      exact ⟨hframes, hdelivered⟩
  | drop f atPut hpc hne =>
      rw [hpc] at hframes hdelivered
      exact ⟨hframes, hdelivered⟩
  | lost f hpc hfull =>
      rw [hpc] at hframes hdelivered
      exact ⟨hframes, hdelivered⟩
  | snapshot f hpc =>
      rw [hpc] at hframes hdelivered
      refine ⟨?_, _, s.deliveries, [], [], rfl, rfl, rfl, rfl, served_nil, hdelivered⟩
      rw [← hframes]
      simp [ListenPc.undelivered]
  | done f hpc =>
      rw [hpc] at hframes hdelivered
      exact ⟨hframes, Partly.complete hdelivered⟩
  | call f d rest hpc =>
      rw [hpc] at hframes hdelivered
      refine ⟨?_, Partly.note hdelivered [.matches d]⟩
      obtain ⟨x, older, -, -, hdeliveries, -⟩ := hdelivered
      rw [hdeliveries] at hframes ⊢
      exact hframes
  | verdict f d rest v calls pc hpc hcalls hnew =>
      rw [hpc] at hframes hdelivered
      have hnoted : Partly (note calls s.deliveries) f (d :: rest) (callsFor (d, v)) := by
        have hnote := Partly.note hdelivered calls
        rw [hcalls] at hnote ⊢
        exact hnote
      have hframes' : ((note calls s.deliveries).map Delivery.frame).reverse = s.received := by
        obtain ⟨x, older, -, -, hdeliveries, -⟩ := hdelivered
        rw [hdeliveries] at hframes ⊢
        simpa [ListenPc.undelivered, Listening.note] using hframes
      rcases hnew with rfl | rfl
      · exact ⟨by simpa [ListenPc.undelivered] using hframes', hnoted.next⟩
      · exact ⟨by simpa [ListenPc.undelivered] using hframes', hnoted.next⟩
  | detected f rest hpc =>
      rw [hpc] at hframes hdelivered
      exact ⟨hframes, hdelivered⟩
  | take => exact ⟨hframes, hdelivered⟩
  | beside detectors stop => exact ⟨hframes, hdelivered⟩

/-- The frame that `gsusb_channel_recv` returns in an event. -/
def frame? : ListenEvent φ δ → Option φ
  | .frame f => some f
  | _ => none

/-- The detectors that are registered after an event. -/
def registered [DecidableEq δ] (detectors : List δ) : ListenEvent φ δ → List δ
  | .add d => detectors ++ [d]
  | .remove d => detectors.erase d
  | _ => detectors

/-- The list that is registered when an event takes a snapshot of it. -/
def snapshot? (detectors : List δ) : ListenEvent φ δ → Option (List δ)
  | .snapshot => some detectors
  | _ => none

/-- The lists that are registered whenever a snapshot is taken. -/
def snapshots [DecidableEq δ] (detectors : List δ) : List (ListenEvent φ δ) → List (List δ)
  | [] => []
  | e :: es => (snapshot? detectors e).toList ++ snapshots (registered detectors e) es

/-- The frames received are those of the events, and each delivery has the list of detectors that
was registered when its snapshot was taken. -/
structure Follows [DecidableEq δ] (s : Listening φ δ) (detectors : List δ)
    (events : List (ListenEvent φ δ)) : Prop where
  received_eq : s.received = events.filterMap frame?
  snapshots_eq : (s.deliveries.map Delivery.snapshot).reverse = snapshots detectors events

theorem map_snapshot_note (calls : List (Called δ)) (deliveries : List (Delivery φ δ)) :
    (note calls deliveries).map Delivery.snapshot = deliveries.map Delivery.snapshot := by
  cases deliveries with
  | nil => rfl
  | cons delivery older => rfl

/-- What an event adds to the frames and to the deliveries, and makes of the detectors. -/
theorem record_of_step [DecidableEq δ] {e : ListenEvent φ δ} (hstep : s.step e = some t) :
    t.received = s.received ++ (frame? e).toList ∧
      t.deliveries.map Delivery.snapshot =
        (snapshot? s.detectors e).toList ++ s.deliveries.map Delivery.snapshot ∧
      t.detectors = registered s.detectors e := by
  cases e with
  | test | idle | error | detected =>
      simp only [step] at hstep
      split at hstep <;> cases hstep
      exact ⟨(List.append_nil _).symm, rfl, rfl⟩
  | frame f | snapshot =>
      simp only [step] at hstep
      split at hstep <;> cases hstep
      simp [frame?, snapshot?, registered]
  | putNowait | getNowait | putAgain =>
      simp only [step] at hstep
      split at hstep
      · split at hstep <;> cases hstep <;> exact ⟨(List.append_nil _).symm, rfl, rfl⟩
      · cases hstep
  | next =>
      simp only [step] at hstep
      split at hstep <;> cases hstep
      · exact ⟨(List.append_nil _).symm, rfl, rfl⟩
      · exact ⟨(List.append_nil _).symm, map_snapshot_note _ _, rfl⟩
  | verdict v =>
      simp only [step] at hstep
      split at hstep
      · split at hstep <;> cases hstep <;>
          exact ⟨(List.append_nil _).symm, map_snapshot_note _ _, rfl⟩
      · cases hstep
  | take | add d | remove d | setStop stop =>
      cases hstep
      exact ⟨(List.append_nil _).symm, rfl, rfl⟩

/-- So a run adds what its events say. -/
theorem record_of_run [DecidableEq δ] {events : List (ListenEvent φ δ)}
    (hrun : run step s events = some t) :
    t.received = s.received ++ events.filterMap frame? ∧
      (t.deliveries.map Delivery.snapshot).reverse =
        (s.deliveries.map Delivery.snapshot).reverse ++ snapshots s.detectors events := by
  induction events generalizing s with
  | nil =>
      cases hrun
      exact ⟨(List.append_nil _).symm, (List.append_nil _).symm⟩
  | cons e es ih =>
      obtain ⟨next, hstep, hrest⟩ := run_cons_eq_some.mp hrun
      obtain ⟨hreceived, hsnapshots, hdetectors⟩ := record_of_step hstep
      obtain ⟨ihreceived, ihsnapshots⟩ := ih hrest
      constructor
      · rw [ihreceived, hreceived, List.append_assoc]
        cases e <;> rfl
      · have hone : ((snapshot? s.detectors e).toList).reverse =
            (snapshot? s.detectors e).toList := by
          cases snapshot? s.detectors e <;> rfl
        rw [ihsnapshots, hsnapshots, hdetectors, List.reverse_append, hone, List.append_assoc]
        rfl

/-- What a bus with one listener owes to its detectors and to the callers of `recv()`. -/
structure Delivers (s : Listening φ δ) : Prop extends s.Queued, s.Dropped, s.Notified where
  taken : (s.recvQueue.left .returned).Sublist s.received

/-- What was taken out, in this order, are some of the frames received. -/
theorem Queued.taken (h : s.Queued) : (s.recvQueue.left .returned).Sublist s.received := by
  have hexits : (s.recvQueue.left .returned).Sublist (s.recvQueue.exits.map Prod.snd) :=
    List.filter_sublist.map Prod.snd
  have hhistory : (s.recvQueue.exits.map Prod.snd).Sublist s.recvQueue.history :=
    List.sublist_append_left _ _
  have hreceived : s.recvQueue.history.Sublist s.received := by
    rw [← h.history]
    exact List.sublist_append_left _ _
  exact (hexits.trans hhistory).trans hreceived

/-- **Delivery of frames.** However the listener, the callers of `recv()` and the changes of the
detectors are interleaved, and whatever the callbacks do: each frame that `gsusb_channel_recv`
returned is delivered to the detectors registered when its snapshot was taken, in order, once and
with `on_detect` where `matches` said so; the frames taken are some of those received, in their
order; and the queue keeps its bound, gets each frame once, and gives up none but its oldest, one
for an arrival that found it full. -/
theorem delivers_of_run [DecidableEq δ] {detectors : List δ} {events : List (ListenEvent φ δ)}
    (hrun : run step (init detectors) events = some s) :
    s.Delivers ∧ s.Follows detectors events := by
  have hinv : s.Queued ∧ s.Dropped ∧ s.Notified := by
    refine run_invariant (P := fun s => s.Queued ∧ s.Dropped ∧ s.Notified) ?_ ?_ hrun
    · rintro s e t ⟨hqueued, hdropped, hnotified⟩ hstep
      have htransition := transition_of_step hstep
      exact ⟨hqueued.step htransition, hdropped.step hqueued htransition,
        hnotified.step htransition⟩
    · refine ⟨⟨Nat.zero_le _, nofun, rfl⟩, ⟨rfl, nofun, nofun, .nil, nofun, nofun⟩, rfl, nofun⟩
  obtain ⟨hqueued, hdropped, hnotified⟩ := hinv
  obtain ⟨hreceived, hsnapshots⟩ := record_of_run hrun
  exact ⟨⟨hqueued, hdropped, hnotified, hqueued.taken⟩, hreceived, hsnapshots⟩

/-- A frame for two detectors: the first raises an error, the second is removed meanwhile and
served all the same, and `recv()` gets the frame. -/
theorem delivers_of_run_twoDetectors :
    let events : List (ListenEvent ℕ ℕ) :=
      [.test, .frame 7, .putNowait, .snapshot, .next, .remove 1, .verdict .raised, .next,
        .verdict .yes, .take, .detected, .next]
    ∃ s : Listening ℕ ℕ, run step (init [0, 1]) events = some s ∧
      s.deliveries.map Delivery.calls =
        [[.matches 0, .verdict .raised, .matches 1, .verdict .yes, .onDetect 1]] ∧
      s.Delivers ∧ s.Follows [0, 1] events := by
  intro events
  obtain ⟨s, hrun, hcalls⟩ : ∃ s : Listening ℕ ℕ, run step (init [0, 1]) events = some s ∧
      s.deliveries.map Delivery.calls =
        [[.matches 0, .verdict .raised, .matches 1, .verdict .yes, .onDetect 1]] := ⟨_, rfl, rfl⟩
  exact ⟨s, hrun, hcalls, delivers_of_run hrun⟩

end Listening

end GsUsb.Python
