/-
# From the adapter to the callers of `recv()`

The receive queue of a channel, the listener thread that is its only consumer, the queue that
the listener fills and the detectors that it calls, as one machine: packets arrive, channels are
started and stopped and frames are taken out at any time, in any order.  Two queues that drop
their oldest frame stand behind each other.
-/

import GsUsb.Driver.Traffic
import GsUsb.Python.Frame
import GsUsb.Python.Listener

namespace GsUsb.Python

open GsUsb.Driver GsUsb.Math GsUsb.Math.DropOldest

universe v

variable {n : ℕ} {δ : Type v}

/-- The driver, and the bus of one of its channels. -/
structure Pipeline (n : ℕ) (δ : Type v) where
  traffic : Traffic n
  listening : Listening Frame δ

/-- What happens in the driver, in the listener thread and around it, and the return of
`gsusb_channel_recv` with a frame. -/
inductive PipelineEvent (n : ℕ) (δ : Type v)
  | driver (e : TrafficEvent n)
  | python (e : ListenEvent Frame δ)
  | handOver

namespace Pipeline

/-- A device and a bus with some detectors. -/
def init (dev : Dev n) (detectors : List δ) : Pipeline n δ := ⟨.init dev, .init detectors⟩

/-- One event for the bus on channel `i`.  No one else receives on that channel, and the listener
gets no frame but from it; `gsusb_channel_recv` goes on waiting while the queue is empty. -/
def step [DecidableEq δ] (i : Fin n) (p : Pipeline n δ) :
    PipelineEvent n δ → Option (Pipeline n δ)
  | .driver (.recv j) =>
    if j = i then none
    else (p.traffic.step (.recv j)).toOption.map fun t => { p with traffic := t }
  | .driver e => (p.traffic.step e).toOption.map fun t => { p with traffic := t }
  | .python (.frame _) => none
  | .python e => (p.listening.step e).map fun l => { p with listening := l }
  | .handOver =>
    match p.traffic.host.dev.recvDequeue i, p.traffic.step (.recv i) with
    | .ok (some c, _), .ok t => (p.listening.step (.frame (.fromCtypes c))).map fun l => ⟨t, l⟩
    | _, _ => none

/-- What the driver sees of an event. -/
def driverEvents (i : Fin n) : List (PipelineEvent n δ) → List (TrafficEvent n)
  | [] => []
  | .driver e :: es => e :: driverEvents i es
  | .python _ :: es => driverEvents i es
  | .handOver :: es => .recv i :: driverEvents i es

/-- A call of `gsusb_channel_recv` gives its caller what the dequeue returned. -/
theorem received_of_recv {s t : Traffic n} {i : Fin n} {x : Option GsusbFrame} {dev : Dev n}
    (hdequeue : s.host.dev.recvDequeue i = .ok (x, dev)) (hstep : s.step (.recv i) = .ok t) :
    t.received i = s.received i ++ x.toList := by
  simp only [Traffic.step, hdequeue] at hstep
  cases hstep
  exact Function.update_self _ _ _

/-- Nothing else gives frames to the caller. -/
theorem received_of_other {s t : Traffic n} {i : Fin n} {e : TrafficEvent n}
    (hother : e ≠ .recv i) (hstep : s.step e = .ok t) : t.received i = s.received i := by
  cases e with
  | call c =>
      cases hstep
      rfl
  | packet buf =>
      simp only [Traffic.step] at hstep
      cases hhandle : handleRxPacket s.host.dev buf with
      | error fault =>
          rw [hhandle] at hstep
          cases hstep
      | ok dev =>
          rw [hhandle] at hstep
          cases hstep
          rfl
  | recv j =>
      have hji : j ≠ i := fun h => hother (h ▸ rfl)
      simp only [Traffic.step] at hstep
      cases hdequeue : s.host.dev.recvDequeue j with
      | error fault =>
          rw [hdequeue] at hstep
          cases hstep
      | ok result =>
          rw [hdequeue] at hstep
          cases hstep
          exact Function.update_of_ne hji.symm _ _

/-- The listener gets a frame from the return of `gsusb_channel_recv` only. -/
theorem received_of_listening [DecidableEq δ] {s t : Listening Frame δ} {e : ListenEvent Frame δ}
    (hother : ∀ f, e ≠ .frame f) (hstep : s.step e = some t) : t.received = s.received := by
  cases e with
  | frame f => exact absurd rfl (hother f)
  | test | idle | error | snapshot | detected =>
      simp only [Listening.step] at hstep
      split at hstep <;> cases hstep
      rfl
  | putNowait | getNowait | putAgain | verdict v =>
      simp only [Listening.step] at hstep
      split at hstep
      · split at hstep <;> cases hstep <;> rfl
      · cases hstep
  | next =>
      simp only [Listening.step] at hstep
      split at hstep <;> cases hstep <;> rfl
  | take | add d | remove d | setStop stop =>
      cases hstep
      rfl

/-- What an event does to the driver and to the listener. -/
inductive Effect (i : Fin n) (p : Pipeline n δ) : PipelineEvent n δ → Pipeline n δ → Prop
  | driver {e : TrafficEvent n} {t : Traffic n} (hstep : p.traffic.step e = .ok t)
      (hsame : t.received i = p.traffic.received i) :
      Effect i p (.driver e) { p with traffic := t }
  | python {e : ListenEvent Frame δ} {l : Listening Frame δ}
      (htransition : p.listening.Transition l) (hsame : l.received = p.listening.received) :
      Effect i p (.python e) { p with listening := l }
  | handOver {c : GsusbFrame} {t : Traffic n} {l : Listening Frame δ}
      (hstep : p.traffic.step (.recv i) = .ok t)
      (hreceived : t.received i = p.traffic.received i ++ [c])
      (htransition : p.listening.Transition l)
      (hlistened : l.received = p.listening.received ++ [.fromCtypes c]) :
      Effect i p .handOver ⟨t, l⟩

/-- An event of the driver that is no call of the listener. -/
theorem effect_of_driver {i : Fin n} {p q : Pipeline n δ} {e : TrafficEvent n}
    (hother : e ≠ .recv i)
    (hstep : (p.traffic.step e).toOption.map (fun t => { p with traffic := t }) = some q) :
    Effect i p (.driver e) q := by
  obtain ⟨t, ht, rfl⟩ := Option.map_eq_some_iff.mp hstep
  have hok : p.traffic.step e = .ok t := by
    cases hresult : p.traffic.step e with
    | error fault =>
        rw [hresult] at ht
        cases ht
    | ok t' =>
        rw [hresult] at ht
        cases ht
        rfl
  exact .driver hok (received_of_other hother hok)

/-- An event of the listener or around it. -/
theorem effect_of_python [DecidableEq δ] {i : Fin n} {p q : Pipeline n δ}
    {e : ListenEvent Frame δ} (hother : ∀ f, e ≠ .frame f)
    (hstep : (p.listening.step e).map (fun l => { p with listening := l }) = some q) :
    Effect i p (.python e) q := by
  obtain ⟨l, hl, rfl⟩ := Option.map_eq_some_iff.mp hstep
  exact .python (Listening.transition_of_step hl) (received_of_listening hother hl)

/-- **Inversion of a step.** -/
theorem effect_of_step [DecidableEq δ] {i : Fin n} {p q : Pipeline n δ} {e : PipelineEvent n δ}
    (hstep : step i p e = some q) : Effect i p e q := by
  cases e with
  | driver e =>
      cases e with
      | call c => exact effect_of_driver nofun hstep
      | packet buf => exact effect_of_driver nofun hstep
      | recv j =>
          simp only [step] at hstep
          split at hstep
          · cases hstep
          · rename_i hji
            refine effect_of_driver ?_ hstep
            rintro ⟨⟩
            exact hji rfl
  | python e =>
      cases e with
      | frame f => cases hstep
      | test | idle | error | putNowait | getNowait | putAgain | snapshot | next | verdict v
        | detected | take | add d | remove d | setStop stop => exact effect_of_python nofun hstep
  | handOver =>
      simp only [step] at hstep
      split at hstep
      · rename_i c dev t hdequeue htraffic
        obtain ⟨l, hl, rfl⟩ := Option.map_eq_some_iff.mp hstep
        have hlistened : l.received = p.listening.received ++ [.fromCtypes c] := by
          simp only [Listening.step] at hl
          split at hl <;> cases hl
          rfl
        exact .handOver htraffic (received_of_recv hdequeue htraffic)
          (Listening.transition_of_step hl) hlistened
      · cases hstep

/-- What the listener got is what the driver gave it. -/
structure Joined (i : Fin n) (p : Pipeline n δ) : Prop where
  queued : p.listening.Queued
  dropped : p.listening.Dropped
  filled : p.listening.Filled
  notified : p.listening.Notified
  received_eq : p.listening.received = (p.traffic.received i).map Frame.fromCtypes

/-- **Step lemma.** -/
theorem Joined.step [DecidableEq δ] {i : Fin n} {p q : Pipeline n δ} {e : PipelineEvent n δ}
    (h : p.Joined i) (hstep : step i p e = some q) : q.Joined i := by
  cases effect_of_step hstep with
  | driver htraffic hsame =>
      refine ⟨h.queued, h.dropped, h.filled, h.notified, ?_⟩
      rw [hsame]
      exact h.received_eq
  | python htransition hsame =>
      refine ⟨h.queued.step htransition, h.dropped.step h.queued htransition,
        h.filled.step h.queued htransition, h.notified.step htransition, ?_⟩
      rw [hsame]
      exact h.received_eq
  | handOver htraffic hreceived htransition hlistened =>
      refine ⟨h.queued.step htransition, h.dropped.step h.queued htransition,
        h.filled.step h.queued htransition, h.notified.step htransition, ?_⟩
      rw [hlistened, hreceived, h.received_eq, List.map_append]
      rfl

theorem joined_init (host : Host n) (detectors : List δ) (i : Fin n) :
    Joined i ⟨⟨host, fun _ => []⟩, .init detectors⟩ :=
  ⟨⟨Nat.zero_le _, nofun, rfl⟩, ⟨rfl, nofun, nofun, .nil, nofun, nofun⟩,
    ⟨nofun, fun hne => absurd rfl hne⟩, ⟨rfl, nofun⟩, rfl⟩

/-- The driver runs through its own events. -/
theorem run_driverEvents [DecidableEq δ] {i : Fin n} {p q : Pipeline n δ}
    {es : List (PipelineEvent n δ)} (hrun : run (step i) p es = some q) :
    p.traffic.run (driverEvents i es) = .ok q.traffic := by
  induction es generalizing p with
  | nil =>
      cases hrun
      rfl
  | cons e es ih =>
      obtain ⟨next, hstep, hrest⟩ := run_cons_eq_some.mp hrun
      have hih := ih hrest
      cases effect_of_step hstep with
      | driver htraffic hsame =>
          rw [driverEvents, Traffic.run, List.foldlM_cons, htraffic]
          exact hih
      | python htransition hsame => exact hih
      | handOver htraffic hreceived htransition hlistened =>
          rw [driverEvents, Traffic.run, List.foldlM_cons, htraffic]
          exact hih

/-- What `recv()` has returned. -/
def taken (p : Pipeline n δ) : List Frame := p.listening.recvQueue.left .returned

/-- What waits in the queue of the channel. -/
def inDriver (p : Pipeline n δ) (i : Fin n) : List Frame :=
  (p.traffic.host.dev.channel i).rxq.content.map .fromCtypes

/-- What is on its way to the callers of `recv()`, oldest first. -/
def waiting (p : Pipeline n δ) (i : Fin n) : List Frame :=
  p.listening.recvQueue.queue ++ p.listening.pc.waiting ++ p.inDriver i

/-- What the detectors have been called for, and are yet to be called for. -/
def notified (p : Pipeline n δ) : List Frame :=
  (p.listening.deliveries.map Delivery.frame).reverse ++ p.listening.pc.undelivered

/-- What becomes of the frames that arrived on a channel: each one is returned by `recv()`, on its
way there, or was dropped by one of the two queues, and no other frame is; the detectors are called
once for each that the driver did not drop.  The queue of `recv()` dropped none while the listener
has received no more frames than it holds. -/
structure Delivers (p : Pipeline n δ) (i : Fin n) (ops : List (Op GsusbFrame)) : Prop where
  sublist : (p.taken ++ p.waiting i).Sublist ((pushes ops).map .fromCtypes)
  notified : (p.notified ++ p.inDriver i).Sublist ((pushes ops).map .fromCtypes)
  count : (pushes ops).length = p.taken.length + (p.waiting i).length +
    ((Ledger.empty.run gsusbRxqCapacity.toNat ops).left .dropped).length +
      (p.listening.recvQueue.left .dropped).length
  complete_iff : p.taken ++ p.waiting i = (pushes ops).map .fromCtypes ↔
    Ledger.KeepsUp gsusbRxqCapacity.toNat ops ∧ p.listening.recvQueue.left .dropped = []
  kept : (p.traffic.received i).length ≤ recvQueueMaxsize →
    p.listening.recvQueue.left .dropped = []

/-- What the listener got is in its queue, left it or is on its way there. -/
theorem Joined.length_received {i : Fin n} {p : Pipeline n δ} (h : p.Joined i) :
    (p.traffic.received i).length = p.taken.length +
      (p.listening.recvQueue.left .dropped).length + p.listening.recvQueue.queue.length +
        p.listening.pc.waiting.length := by
  have hlength := congrArg List.length h.queued.history
  rw [h.received_eq, List.length_append, Ledger.length_history, List.length_map] at hlength
  exact hlength.symm

/-- The queue of `recv()` drops nothing that it can hold. -/
theorem Joined.kept {i : Fin n} {p : Pipeline n δ} (h : p.Joined i)
    (hfew : (p.traffic.received i).length ≤ recvQueueMaxsize) :
    p.listening.recvQueue.left .dropped = [] := by
  by_contra hne
  have hmany := h.filled.dropped hne
  rw [h.received_eq, List.length_map] at hmany
  exact Nat.not_lt.mpr hfew hmany

/-- From a driver that behaves to a bus that does. -/
theorem Joined.delivers {i : Fin n} {p : Pipeline n δ} {ops : List (Op GsusbFrame)}
    (h : p.Joined i) (hdriver : p.traffic.Delivered i ops) : p.Delivers i ops := by
  have harrived : ((p.traffic.received i).map Frame.fromCtypes ++ p.inDriver i).Sublist
      ((pushes ops).map .fromCtypes) := by
    rw [inDriver, ← List.map_append]
    exact hdriver.sublist.map _
  have hqueue : (p.taken ++ p.listening.recvQueue.queue ++ p.listening.pc.waiting).Sublist
      ((p.traffic.received i).map Frame.fromCtypes) := by
    rw [← h.received_eq, ← h.queued.history]
    exact (Ledger.returned_append_queue_sublist _).append_right _
  have hassoc : p.taken ++ p.waiting i =
      p.taken ++ p.listening.recvQueue.queue ++ p.listening.pc.waiting ++ p.inDriver i := by
    simp only [waiting, List.append_assoc]
  have hcount : (pushes ops).length = p.taken.length + (p.waiting i).length +
      ((Ledger.empty.run gsusbRxqCapacity.toNat ops).left .dropped).length +
        (p.listening.recvQueue.left .dropped).length := by
    have hhistory : (pushes ops).length = (p.traffic.received i).length +
        ((Ledger.empty.run gsusbRxqCapacity.toNat ops).left .dropped).length +
          (p.inDriver i).length := by
      have hlength := Ledger.length_history (Ledger.empty.run gsusbRxqCapacity.toNat ops)
      rw [Ledger.history_run, ← hdriver.received_eq, ← hdriver.content_eq] at hlength
      rw [inDriver, List.length_map]
      exact hlength
    have hwaiting : (p.waiting i).length = p.listening.recvQueue.queue.length +
        p.listening.pc.waiting.length + (p.inDriver i).length := by
      simp only [waiting, List.length_append]
    have hreceived := h.length_received
    omega
  refine ⟨?_, ?_, hcount, ?_, h.kept⟩
  · rw [hassoc]
    exact (hqueue.append_right _).trans harrived
  · rw [Pipeline.notified, h.notified.frames, h.received_eq]
    exact harrived
  · rw [← Ledger.left_dropped_run_eq_nil_iff (by decide)]
    constructor
    · intro hall
      have hlength := congrArg List.length hall
      rw [List.length_append, List.length_map] at hlength
      exact ⟨List.eq_nil_of_length_eq_zero (by omega), List.eq_nil_of_length_eq_zero (by omega)⟩
    · rintro ⟨hdriverDropped, hdropped⟩
      have hsub : (p.taken ++ p.waiting i).Sublist ((pushes ops).map .fromCtypes) := by
        rw [hassoc]
        exact (hqueue.append_right _).trans harrived
      refine hsub.eq_of_length ?_
      rw [hdriverDropped, hdropped] at hcount
      rw [List.length_append, List.length_map]
      exact hcount.symm

/-- **From the adapter to the callers of `recv()`.**  Whatever packets arrive, whenever channels are
started and stopped, and however the listener, the callers of `recv()` and the changes of the
detectors are interleaved: frames come out in the order in which they arrived, none twice and none
invented; what is missing was dropped by one of the two queues; none is missing exactly if the
listener never was more than a queueful behind the driver, and the queue of `recv()` dropped
nothing; and that queue drops nothing while the listener has received no more frames than it
holds. -/
theorem endToEnd_of_run [DecidableEq δ] {usb : Libusb} {vid pid : UInt16} {bus addr : ℤ}
    {dev : Dev n} (hopen : usb.gsusbOpen vid pid bus addr = .ok ⟨n, dev⟩) {detectors : List δ}
    {i : Fin n} {es : List (PipelineEvent n δ)} {p : Pipeline n δ}
    (hrun : run (step i) (init dev detectors) es = some p) :
    p.Delivers i (Traffic.frameOps i (.init dev) (driverEvents i es)) := by
  have hjoined : p.Joined i :=
    run_invariant (fun _ _ _ h hstep => h.step hstep) (joined_init _ detectors i) hrun
  obtain ⟨t, ht, htracks⟩ := (Traffic.tracks_init hopen).run (driverEvents i es)
  cases ht.symm.trans (run_driverEvents hrun)
  exact hjoined.delivers (htracks.delivered i)

set_option maxRecDepth 8000 in
/-- A frame arrives, is handed over, and is taken. -/
theorem endToEnd_of_run_fdAdapter :
    let es : List (PipelineEvent 1 ℕ) :=
      [.driver (.packet (fullPacket 0x123 2 0 0 0 [7, 8, 0, 0, 0, 0, 0, 0] none)),
        .python .test, .handOver, .python .putNowait, .python .take]
    ∃ dev : Dev 1, fdAdapter.gsusbOpen 0x1d50 0x606f (-1) (-1) = .ok ⟨1, dev⟩ ∧
      ∃ p, run (step 0) (init dev [7]) es = some p ∧
        p.Delivers 0 (Traffic.frameOps 0 (.init dev) (driverEvents 0 es)) := by
  intro es
  obtain ⟨dev, hopen, p, hrun⟩ : ∃ dev : Dev 1,
      fdAdapter.gsusbOpen 0x1d50 0x606f (-1) (-1) = .ok ⟨1, dev⟩ ∧
        ∃ p, run (step 0) (init dev [7]) es = some p := ⟨_, rfl, _, rfl⟩
  exact ⟨dev, hopen, p, hrun, endToEnd_of_run hopen hrun⟩

end Pipeline

end GsUsb.Python
