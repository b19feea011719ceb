/-
# Traffic of a device over whole runs

Everything that reaches the receive queues of an open device, in any order: the reader hands a
packet to `handle_rx_packet`, some thread takes a frame with `gsusb_channel_recv`, and channels
are started and stopped in between.  Pushes and dequeues happen under `q_lock`, so a run is a
sequence of these steps.

Each channel then behaves like a drop-oldest queue of its own.  What it delivers is decided by
the packets that name it and by its own receivers, whatever the other channels carry.
-/

import GsUsb.Driver.Open

namespace GsUsb.Driver

open GsUsb.Math.DropOldest

namespace Dev

variable {n : ℕ} (dev : Dev n)

/-- Everything about a device except what its queues hold. -/
def withoutQueues : Dev n :=
  { dev with channels := dev.channels.map fun ch => { ch with rxq := .init } }

theorem channel_withoutQueues (i : Fin n) :
    dev.withoutQueues.channel i = { dev.channel i with rxq := .init } := by
  simp [channel, withoutQueues]

section Same

variable {dev} {dev' : Dev n} (h : dev.withoutQueues = dev'.withoutQueues)

include h

/-- Devices that differ in their queues alone have the same channels otherwise. -/
theorem channel_eq_of_withoutQueues_eq (i : Fin n) :
    ({ dev.channel i with rxq := .init } : Channel) = { dev'.channel i with rxq := .init } := by
  rw [← channel_withoutQueues, ← channel_withoutQueues, h]

theorem started_eq_of_withoutQueues_eq (i : Fin n) :
    (dev.channel i).started = (dev'.channel i).started := by
  have hrest := channel_eq_of_withoutQueues_eq h i
  simp only [Channel.mk.injEq] at hrest
  exact hrest.2.2.2.2.2.1

theorem hwTsEnabled_eq_of_withoutQueues_eq (i : Fin n) :
    (dev.channel i).hwTsEnabled = (dev'.channel i).hwTsEnabled := by
  have hrest := channel_eq_of_withoutQueues_eq h i
  simp only [Channel.mk.injEq] at hrest
  exact hrest.2.2.2.2.2.2.1

theorem sameSetup_of_withoutQueues_eq : dev.SameSetup dev' := by
  refine ⟨(congrArg (fun d => Dev.hfSizeRx d) h).symm, fun i => ?_⟩
  have hrest := congrArg Channel.found (channel_eq_of_withoutQueues_eq h i)
  exact hrest.symm

end Same

/-- Two devices that differ in their queues alone, and not in the queue of this channel. -/
structure SameChannel (dev dev' : Dev n) (i : Fin n) : Prop where
  withoutQueues_eq : dev.withoutQueues = dev'.withoutQueues
  rxq_eq : (dev.channel i).rxq = (dev'.channel i).rxq

theorem SameChannel.channel_eq {dev dev' : Dev n} {i : Fin n} (h : dev.SameChannel dev' i) :
    dev.channel i = dev'.channel i := by
  have hrest := channel_eq_of_withoutQueues_eq h.withoutQueues_eq i
  simp only [Channel.mk.injEq] at hrest
  have hrxq := h.rxq_eq
  cases hdev : dev.channel i
  cases hdev' : dev'.channel i
  simp_all

/-- Assigning to fields of a channel that its queue has no part in. -/
theorem withoutQueues_updateChannel (i : Fin n) {f : Channel → Channel}
    (hf : ∀ ch, { f ch with rxq := .init } = f { ch with rxq := .init }) :
    (dev.updateChannel i f).withoutQueues = dev.withoutQueues.updateChannel i f := by
  unfold withoutQueues updateChannel
  congr 1
  ext j hj : 1
  by_cases hij : i.val = j
  · simp [hij, channel, hf]
  · simp [hij]

/-- Assigning to the queue of a channel. -/
theorem withoutQueues_updateRxq (i : Fin n) (q : RxQueue) :
    (dev.updateChannel i fun ch => { ch with rxq := q }).withoutQueues = dev.withoutQueues := by
  unfold withoutQueues updateChannel
  congr 1
  ext j hj : 1
  by_cases hij : i.val = j
  · simp [hij, channel]
  · simp [hij]

/-- The queue of a channel after an assignment to other fields. -/
theorem rxq_updateChannel (i j : Fin n) {f : Channel → Channel} (hf : ∀ ch, (f ch).rxq = ch.rxq) :
    ((dev.updateChannel i f).channel j).rxq = (dev.channel j).rxq := by
  rw [channel_updateChannel]
  split
  · exact hf _
  · rfl

theorem withoutQueues_markStarted (i : Fin n) :
    (dev.markStarted i).withoutQueues = dev.withoutQueues.markStarted i := by
  have hupdate := dev.withoutQueues_updateChannel i (f := Channel.markStarted) fun _ => rfl
  unfold markStarted
  rw [← hupdate]
  rfl

theorem withoutQueues_markStopped (i : Fin n) :
    (dev.markStopped i).withoutQueues = dev.withoutQueues.markStopped i := by
  have hupdate := dev.withoutQueues_updateChannel i (f := Channel.markStopped) fun _ => rfl
  unfold markStopped
  rw [← hupdate]
  rfl

end Dev

namespace Host

variable {n : ℕ} (host : Host n)

/-- Everything about a host except what the queues of its device hold. -/
def withoutQueues : Host n := ⟨host.dev.withoutQueues, host.world⟩

theorem withoutQueues_gsusbChannelStart (i : Fin n) (modeFlags : UInt32) (rc : ℤ)
    (thread : PthreadCreate) :
    (host.gsusbChannelStart i modeFlags rc thread).2.withoutQueues =
      (host.withoutQueues.gsusbChannelStart i modeFlags rc thread).2 := by
  have hchannel := host.dev.channel_withoutQueues i
  have hcheck :
      startCheck host.dev.withoutQueues i modeFlags = startCheck host.dev i modeFlags := by
    simp [startCheck, hchannel, Channel.hasFeature]
  have hrequest : startRequest (host.dev.withoutQueues.channel i) modeFlags =
      startRequest (host.dev.channel i) modeFlags := by
    simp [startRequest, hchannel, Channel.hasFeature]
  have hrunning' : host.dev.withoutQueues.readerRunning = host.dev.readerRunning := rfl
  by_cases hcheck' : startCheck host.dev i modeFlags = 0
  · have hmark : (host.dev.markStarted i).withoutQueues = host.dev.withoutQueues.markStarted i :=
      host.dev.withoutQueues_markStarted i
    rcases gsusbChannelStart_cases hcheck' rc thread with ⟨hrc, heq⟩ | ⟨hrc, hrunning, heq⟩ |
      ⟨hrc, hrunning, handle, rfl, heq⟩ | ⟨hrc, hrunning, rfl, heq⟩
    · rw [heq]
      simp [gsusbChannelStart, startTransfer, withoutQueues, hcheck, hcheck', hrequest, hrc]
    · rw [heq]
      simp [gsusbChannelStart, startTransfer, startReader, withoutQueues, hcheck, hcheck', hrequest,
        hrc, hrunning', hrunning, hmark]
    · have hunmark := (host.dev.markStarted i).withoutQueues_markStopped i
      rw [hmark] at hunmark
      rw [heq]
      simp only [gsusbChannelStart, startTransfer, startReader, withoutQueues, hcheck, hcheck',
        hrequest, hrc, Dev.readerRunning_markStarted, hrunning', hrunning, ne_eq,
        not_true_eq_false, if_false, Bool.false_eq_true]
      exact congrArg (fun dev : Dev n => (⟨{ dev with
        stopFlag := false, readerThread := handle, readerRunning := false }, _⟩ : Host n)) hunmark
    · rw [heq]
      simp only [gsusbChannelStart, startTransfer, startReader, withoutQueues, hcheck, hcheck',
        hrequest, hrc, Dev.readerRunning_markStarted, hrunning', hrunning, ne_eq,
        not_true_eq_false, if_false, Bool.false_eq_true]
      exact congrArg (fun dev : Dev n => (⟨{ dev with
        stopFlag := false, readerThread := some host.world.created, readerRunning := true }, _⟩ :
          Host n)) hmark
  · have hcheckless : startCheck host.withoutQueues.dev i modeFlags ≠ 0 := hcheck.symm ▸ hcheck'
    rw [gsusbChannelStart_of_check hcheck', gsusbChannelStart_of_check hcheckless]

theorem withoutQueues_stopSection (i : Fin n) :
    host.withoutQueues.stopSection i =
      ((host.stopSection i).1, (host.stopSection i).2.withoutQueues) := by
  have hstarted : (host.dev.withoutQueues.channel i).started = (host.dev.channel i).started := by
    rw [host.dev.channel_withoutQueues]
  have hupdate := host.dev.withoutQueues_updateChannel i (f := Channel.markStopped) fun _ => rfl
  unfold stopSection
  simp only [withoutQueues, hstarted, ← hupdate]
  by_cases hstopped : (host.dev.channel i).started = false
  · rw [if_pos hstopped, if_pos hstopped]
  · rw [if_neg hstopped, if_neg hstopped]
    generalize host.dev.updateChannel i Channel.markStopped = dev
    have hactive : dev.withoutQueues.activeChannels = dev.activeChannels := rfl
    rw [hactive]
    by_cases hpos : dev.activeChannels > 0
    · rw [if_pos hpos, if_pos hpos]
      by_cases hzero : dev.activeChannels - 1 = 0
      · simp only [hzero, decide_true, if_true]
        rfl
      · simp only [hzero, decide_false, Bool.false_eq_true, if_false]
        rfl
    · rw [if_neg hpos, if_neg hpos, hactive]
      by_cases hzero : dev.activeChannels = 0
      · simp only [hzero, decide_true, if_true]
        rfl
      · simp only [hzero, decide_false, Bool.false_eq_true, if_false]

theorem withoutQueues_gsusbChannelStop (i : Fin n) (rc : ℤ) :
    (host.gsusbChannelStop i rc).2.withoutQueues =
      (host.withoutQueues.gsusbChannelStop i rc).2 := by
  have hreset (host' : Host n) :
      (host'.stopReset i rc).withoutQueues = host'.withoutQueues.stopReset i rc := by
    have hrequest : resetRequest (host'.dev.withoutQueues.channel i) =
        resetRequest (host'.dev.channel i) := by
      rw [host'.dev.channel_withoutQueues]
      rfl
    simp only [stopReset, withoutQueues, hrequest]
  unfold gsusbChannelStop
  rw [withoutQueues_stopSection]
  rcases host.stopSection i with ⟨_ | stopReader, host'⟩
  · rfl
  · simp only
    rw [← hreset]
    cases stopReader <;> rfl

/-- A start or a stop does nothing to a queue, and does not depend on one. -/
theorem withoutQueues_call (c : Call n) :
    (host.call c).withoutQueues = host.withoutQueues.call c := by
  cases c with
  | start i modeFlags rc thread => exact host.withoutQueues_gsusbChannelStart i modeFlags rc thread
  | stop i rc => exact host.withoutQueues_gsusbChannelStop i rc

/-- A start or a stop leaves every queue as it is. -/
theorem rxq_call (c : Call n) (j : Fin n) :
    ((host.call c).dev.channel j).rxq = (host.dev.channel j).rxq := by
  have hstarted (i : Fin n) : ((host.dev.markStarted i).channel j).rxq =
      (host.dev.channel j).rxq := host.dev.rxq_updateChannel i j fun _ => rfl
  cases c with
  | start i modeFlags rc thread =>
      show ((host.gsusbChannelStart i modeFlags rc thread).2.dev.channel j).rxq = _
      by_cases hcheck : startCheck host.dev i modeFlags = 0
      · rcases gsusbChannelStart_cases hcheck rc thread with ⟨-, heq⟩ | ⟨-, -, heq⟩ |
          ⟨-, -, handle, -, heq⟩ | ⟨-, -, -, heq⟩
        · rw [heq]
        · rw [heq]
          exact hstarted i
        · rw [heq]
          exact ((host.dev.markStarted i).rxq_updateChannel i j (f := Channel.markStopped)
            fun _ => rfl).trans (hstarted i)
        · rw [heq]
          exact hstarted i
      · rw [gsusbChannelStart_of_check hcheck]
  | stop i rc =>
      show ((host.gsusbChannelStop i rc).2.dev.channel j).rxq = _
      have hsection : ((host.stopSection i).2.dev.channel j).rxq = (host.dev.channel j).rxq := by
        have hstopped : ((host.dev.updateChannel i Channel.markStopped).channel j).rxq =
            (host.dev.channel j).rxq := host.dev.rxq_updateChannel i j fun _ => rfl
        unfold stopSection
        split
        · rfl
        · dsimp only
          split_ifs <;> exact hstopped
      rw [← hsection]
      unfold gsusbChannelStop
      rcases host.stopSection i with ⟨_ | stopReader, host'⟩
      · rfl
      · cases stopReader <;> rfl

theorem rxq_calls (cs : List (Call n)) (j : Fin n) :
    ((host.calls cs).dev.channel j).rxq = (host.dev.channel j).rxq := by
  induction cs generalizing host with
  | nil => rfl
  | cons c cs ih => exact (ih (host.call c)).trans (host.rxq_call c j)

end Host

/-- What happens to a device and its queues. -/
inductive TrafficEvent (n : ℕ)
  | /-- A channel is started or stopped. -/
    call (c : Call n)
  | /-- The reader hands a packet to `handle_rx_packet`. -/
    packet (buf : Bytes)
  | /-- `gsusb_channel_recv` gets as far as its dequeue. -/
    recv (i : Fin n)

/-- A device in use, with the frames that `gsusb_channel_recv` wrote for each channel. -/
structure Traffic (n : ℕ) where
  host : Host n
  received : Fin n → List GsusbFrame

namespace Traffic

variable {n : ℕ}

/-- An open device before anything happens. -/
def init (dev : Dev n) : Traffic n := ⟨.init dev, fun _ => []⟩

def step (s : Traffic n) : TrafficEvent n → Except Fault (Traffic n)
  | .call c => .ok { s with host := s.host.call c }
  | .packet buf => do
      let dev ← handleRxPacket s.host.dev buf
      return { s with host := ⟨dev, s.host.world⟩ }
  | .recv i => do
      let (x, dev) ← s.host.dev.recvDequeue i
      return ⟨⟨dev, s.host.world⟩, Function.update s.received i (s.received i ++ x.toList)⟩

/-- Any sequence of events. -/
def run (s : Traffic n) (events : List (TrafficEvent n)) : Except Fault (Traffic n) :=
  events.foldlM step s

/-- What an event is to the queue of one channel. -/
def frameOp (dev : Dev n) (i : Fin n) : TrafficEvent n → List (Op GsusbFrame)
  | .call _ => []
  | .packet buf =>
    match rxDecode dev buf with
    | .ok (some (k, f)) => if k = i then [.push f] else []
    | _ => []
  | .recv j => if j = i then [.pop] else []

/-- What a sequence of events is to the queue of one channel. -/
def frameOps (i : Fin n) : Traffic n → List (TrafficEvent n) → List (Op GsusbFrame)
  | _, [] => []
  | s, e :: events => frameOp s.host.dev i e ++
      match s.step e with
      | .ok t => frameOps i t events
      | .error _ => []

/-- A queue is replaced, and frames are received from it. -/
def setQueue (s : Traffic n) (k : Fin n) (q : RxQueue) (frames : List GsusbFrame) : Traffic n :=
  ⟨⟨s.host.dev.updateChannel k fun ch => { ch with rxq := q }, s.host.world⟩,
    Function.update s.received k (s.received k ++ frames)⟩

theorem withoutQueues_setQueue (s : Traffic n) (k : Fin n) (q : RxQueue)
    (frames : List GsusbFrame) : (s.setQueue k q frames).host.withoutQueues =
      s.host.withoutQueues := by
  unfold Host.withoutQueues setQueue
  rw [Dev.withoutQueues_updateRxq]

/-- A decoded frame is for a channel that is there. -/
theorem rxDecode_cases (dev : Dev n) (buf : Bytes) :
    rxDecode dev buf = .ok none ∨ ∃ (k : Fin n) (f : GsusbFrame),
      rxDecode dev buf = .ok (some (k.val, f)) := by
  by_cases haccepts : RxAccepts dev buf
  · exact .inr ⟨⟨_, haccepts.channel_lt⟩, _, rxDecode_of_accepts haccepts⟩
  · exact .inl (rxDecode_of_not_accepts haccepts)

/-- A decoded frame goes to the queue of its channel. -/
theorem handleRxPacket_of_rxDecode {dev : Dev n} {buf : Bytes} {k : Fin n} {f : GsusbFrame}
    {q : RxQueue} (hdecode : rxDecode dev buf = .ok (some (k.val, f)))
    (hpush : (dev.channel k).rxq.push f = .ok q) :
    handleRxPacket dev buf = .ok (dev.updateChannel k fun ch => { ch with rxq := q }) := by
  have hrxqPush : dev.rxqPush k f = .ok (dev.updateChannel k fun ch => { ch with rxq := q }) := by
    rw [Dev.rxqPush, dif_pos k.isLt]
    show (dev.channel k).rxq.push f >>= _ = _
    rw [hpush]
    rfl
  rw [handleRxPacket, hdecode]
  exact hrxqPush

theorem step_packet_of_none {s : Traffic n} {buf : Bytes}
    (hdecode : rxDecode s.host.dev buf = .ok none) : s.step (.packet buf) = .ok s := by
  simp only [step, handleRxPacket, hdecode]
  rfl

theorem step_packet_of_some {s : Traffic n} {buf : Bytes} {k : Fin n} {f : GsusbFrame}
    {q : RxQueue} (hdecode : rxDecode s.host.dev buf = .ok (some (k.val, f)))
    (hpush : (s.host.dev.channel k).rxq.push f = .ok q) :
    s.step (.packet buf) = .ok (s.setQueue k q []) := by
  simp only [step, handleRxPacket_of_rxDecode hdecode hpush, setQueue, List.append_nil,
    Function.update_eq_self]
  rfl

theorem step_recv_of_pop {s : Traffic n} {k : Fin n} {x : Option GsusbFrame} {q : RxQueue}
    (hpop : (s.host.dev.channel k).rxq.pop = .ok (x, q)) :
    s.step (.recv k) = .ok (s.setQueue k q x.toList) := by
  simp only [step, Dev.recvDequeue, hpop]
  rfl

/-- Packets and dequeues change queues alone. -/
theorem withoutQueues_step {s t : Traffic n} {e : TrafficEvent n} (hstep : s.step e = .ok t)
    (he : ∀ c, e ≠ .call c) : t.host.withoutQueues = s.host.withoutQueues := by
  cases e with
  | call c => exact absurd rfl (he c)
  | packet buf =>
      rcases rxDecode_cases s.host.dev buf with hnone | ⟨k, f, hsome⟩
      · cases hstep.symm.trans (step_packet_of_none hnone)
        rfl
      · obtain ⟨q, hpush, -⟩ := (s.host.dev.channel k).rxq.exists_push f
        cases hstep.symm.trans (step_packet_of_some hsome hpush)
        exact s.withoutQueues_setQueue k q []
  | recv k =>
      obtain ⟨x, q, hpop⟩ := (s.host.dev.channel k).rxq.exists_pop
      cases hstep.symm.trans (step_recv_of_pop hpop)
      exact s.withoutQueues_setQueue k q x.toList

/-- The ledgers account for the queues and for what was received. -/
structure Tracks (s : Traffic n) (ledgers : Fin n → Ledger GsusbFrame) : Prop where
  represents : ∀ i, (s.host.dev.channel i).rxq.Represents (ledgers i)
  capacity_eq : ∀ i, (s.host.dev.channel i).rxq.capacity = gsusbRxqCapacity.toNat
  received_eq : ∀ i, s.received i = (ledgers i).left .returned

/-- One queue is replaced, and its ledger goes on. -/
theorem Tracks.setQueue {s : Traffic n} {ledgers : Fin n → Ledger GsusbFrame}
    (h : s.Tracks ledgers) (k : Fin n) (op : Op GsusbFrame) {q : RxQueue}
    (frames : List GsusbFrame) (hcap : q.capacity = (s.host.dev.channel k).rxq.capacity)
    (hrep : q.Represents ((ledgers k).step gsusbRxqCapacity.toNat op))
    (hframes : ((ledgers k).step gsusbRxqCapacity.toNat op).left .returned =
      (ledgers k).left .returned ++ frames) :
    (s.setQueue k q frames).Tracks
      fun i => (ledgers i).run gsusbRxqCapacity.toNat (if k = i then [op] else []) := by
  refine ⟨?_, ?_, ?_⟩
  · intro i
    show ((s.host.dev.updateChannel k _).channel i).rxq.Represents _
    rw [Dev.channel_updateChannel]
    by_cases hki : k = i
    · subst hki
      rw [if_pos rfl, if_pos rfl]
      exact hrep
    · rw [if_neg hki, if_neg hki]
      exact h.represents i
  · intro i
    show ((s.host.dev.updateChannel k _).channel i).rxq.capacity = _
    rw [Dev.channel_updateChannel]
    by_cases hki : k = i
    · subst hki
      rw [if_pos rfl]
      exact hcap.trans (h.capacity_eq k)
    · rw [if_neg hki]
      exact h.capacity_eq i
  · intro i
    show Function.update s.received k (s.received k ++ frames) i = _
    by_cases hki : k = i
    · subst hki
      rw [if_pos rfl, Function.update_self, h.received_eq, ← hframes]
      rfl
    · rw [if_neg hki, Function.update_of_ne (Ne.symm hki)]
      exact h.received_eq i

/-- **Step lemma.** An event goes through without a fault, and is to each ledger what it is to
the queue of that channel. -/
theorem Tracks.step {s : Traffic n} {ledgers : Fin n → Ledger GsusbFrame} (h : s.Tracks ledgers)
    (e : TrafficEvent n) :
    ∃ t, s.step e = .ok t ∧
      t.Tracks fun i => (ledgers i).run gsusbRxqCapacity.toNat (frameOp s.host.dev i e) := by
  cases e with
  | call c =>
      refine ⟨_, rfl, ?_, ?_, h.received_eq⟩
      · intro i
        show ((s.host.call c).dev.channel i).rxq.Represents _
        rw [Host.rxq_call]
        exact h.represents i
      · intro i
        show ((s.host.call c).dev.channel i).rxq.capacity = _
        rw [Host.rxq_call]
        exact h.capacity_eq i
  | packet buf =>
      rcases rxDecode_cases s.host.dev buf with hnone | ⟨k, f, hsome⟩
      · refine ⟨s, step_packet_of_none hnone, ?_⟩
        simp only [frameOp, hnone]
        exact h
      · obtain ⟨q, hpush, hcap, hrep⟩ := (h.represents k).push f
        rw [h.capacity_eq k] at hrep
        refine ⟨_, step_packet_of_some hsome hpush, ?_⟩
        have hset := h.setQueue k (.push f) [] hcap hrep (by
          rw [Ledger.step, Ledger.left_push]
          simp)
        simpa only [frameOp, hsome, Fin.val_inj] using hset
  | recv k =>
      obtain ⟨q, hpop, hcap, hrep⟩ := (h.represents k).pop
      refine ⟨_, step_recv_of_pop hpop, h.setQueue k .pop _ hcap hrep ?_⟩
      rw [Ledger.step, Ledger.left_takeFront]
      simp

/-- **Run lemma.** -/
theorem Tracks.run {s : Traffic n} {ledgers : Fin n → Ledger GsusbFrame} (h : s.Tracks ledgers)
    (events : List (TrafficEvent n)) :
    ∃ t, s.run events = .ok t ∧
      t.Tracks fun i => (ledgers i).run gsusbRxqCapacity.toNat (frameOps i s events) := by
  induction events generalizing s ledgers with
  | nil => exact ⟨s, rfl, h⟩
  | cons e events ih =>
      obtain ⟨t, hstep, ht⟩ := h.step e
      obtain ⟨u, hrun, hu⟩ := ih ht
      refine ⟨u, ?_, ?_⟩
      · rw [Traffic.run, List.foldlM_cons, hstep]
        exact hrun
      · simpa only [frameOps, hstep, Ledger.run_append] using hu

/-- Nothing happened on a device that was just opened. -/
theorem tracks_init {usb : Libusb} {vid pid : UInt16} {bus addr : ℤ} {dev : Dev n}
    (hopen : usb.gsusbOpen vid pid bus addr = .ok ⟨n, dev⟩) :
    (init dev).Tracks fun _ => .empty := by
  have hqueue (i : Fin n) : (dev.channel i).rxq = .init := by
    obtain ⟨btConst, dataBtConst, heq⟩ := Libusb.exists_ofBtConst_of_gsusbOpen hopen i
    rw [heq]
    rfl
  refine ⟨?_, ?_, fun _ => rfl⟩
  · intro i
    show (dev.channel i).rxq.Represents _
    rw [hqueue]
    exact RxQueue.represents_init
  · intro i
    show (dev.channel i).rxq.capacity = _
    rw [hqueue]
    rfl

/-- What a channel owes its receivers after some pushes and dequeues of its queue. -/
structure Delivered (t : Traffic n) (i : Fin n) (ops : List (Op GsusbFrame)) : Prop where
  /-- It holds and it has delivered what a drop-oldest queue would. -/
  content_eq : (t.host.dev.channel i).rxq.content =
    (Ledger.empty.run gsusbRxqCapacity.toNat ops).queue
  received_eq : t.received i = (Ledger.empty.run gsusbRxqCapacity.toNat ops).left .returned
  /-- No frame comes twice, out of order, or from another channel. -/
  sublist : (t.received i ++ (t.host.dev.channel i).rxq.content).Sublist (pushes ops)
  /-- Every missing frame is counted. -/
  drops_eq : (t.host.dev.channel i).rxq.1.qDrops.toNat = ((pushes ops).length -
    (t.received i).length - (t.host.dev.channel i).rxq.content.length) % 2 ^ 64
  /-- None is missing exactly if the receivers never were more than a queueful behind. -/
  complete_iff : t.received i ++ (t.host.dev.channel i).rxq.content = pushes ops ↔
    Ledger.KeepsUp gsusbRxqCapacity.toNat ops

theorem Tracks.delivered {t : Traffic n} {ops : Fin n → List (Op GsusbFrame)}
    (h : t.Tracks fun i => Ledger.empty.run gsusbRxqCapacity.toNat (ops i)) (i : Fin n) :
    t.Delivered i (ops i) := by
  have hcontent := (h.represents i).content_eq
  have hreceived := h.received_eq i
  have hhistory : (Ledger.empty.run gsusbRxqCapacity.toNat (ops i)).history = pushes (ops i) :=
    Ledger.history_run _ _ _
  refine ⟨hcontent, hreceived, ?_, ?_, ?_⟩
  · rw [hreceived, RxQueue.content, hcontent, ← hhistory]
    exact Ledger.returned_append_queue_sublist _
  · have hlength := Ledger.length_history
      (Ledger.empty.run gsusbRxqCapacity.toNat (ops i))
    have hdropped : (pushes (ops i)).length - (t.received i).length -
        (t.host.dev.channel i).rxq.content.length =
          ((Ledger.empty.run gsusbRxqCapacity.toNat (ops i)).left .dropped).length := by
      rw [hreceived, RxQueue.content, hcontent, ← hhistory]
      omega
    rw [hdropped, (h.represents i).drops_eq, BitVec.toNat_ofNat]
  · rw [hreceived, RxQueue.content, hcontent, ← hhistory, Ledger.returned_append_queue_eq_iff]
    exact Ledger.left_dropped_run_eq_nil_iff (by decide) (ops i)

/-- **Delivery.** In every run of an open device, each of its channels delivers what was decoded
for it: in order, at most once, at most a queueful late, and with every loss counted. -/
theorem delivered_of_run {usb : Libusb} {vid pid : UInt16} {bus addr : ℤ} {dev : Dev n}
    (hopen : usb.gsusbOpen vid pid bus addr = .ok ⟨n, dev⟩) (events : List (TrafficEvent n)) :
    ∃ t, (init dev).run events = .ok t ∧ ∀ i, t.Delivered i (frameOps i (init dev) events) := by
  obtain ⟨t, hrun, htracks⟩ := (tracks_init hopen).run events
  exact ⟨t, hrun, htracks.delivered⟩

/-- One packet to a new device, and one dequeue. -/
theorem delivered_of_run_fdAdapter :
    ∃ dev : Dev 1, fdAdapter.gsusbOpen 0x1d50 0x606f (-1) (-1) = .ok ⟨1, dev⟩ ∧
      ∃ t, (init dev).run [.packet (fullPacket 0x123 2 0 0 0 [7, 8, 0, 0, 0, 0, 0, 0] none),
          .recv 0] = .ok t ∧
        ∀ i, t.Delivered i (frameOps i (init dev)
          [.packet (fullPacket 0x123 2 0 0 0 [7, 8, 0, 0, 0, 0, 0, 0] none), .recv 0]) := by
  obtain ⟨dev, hopen⟩ : ∃ dev : Dev 1,
      fdAdapter.gsusbOpen 0x1d50 0x606f (-1) (-1) = .ok ⟨1, dev⟩ := ⟨_, rfl⟩
  exact ⟨dev, hopen, delivered_of_run hopen _⟩

theorem len_le_of_mem_frameOp {dev : Dev n} {i : Fin n} {e : TrafficEvent n} {f : GsusbFrame}
    (hf : f ∈ pushes (frameOp dev i e)) : f.len.toNat ≤ gsusbMaxDlen := by
  cases e with
  | call c => cases hf
  | recv j =>
      rw [frameOp] at hf
      split_ifs at hf <;> cases hf
  | packet buf =>
      by_cases haccepts : RxAccepts dev buf
      · simp only [frameOp, rxDecode_of_accepts haccepts] at hf
        split_ifs at hf
        · cases List.mem_singleton.mp hf
          exact (rxLen_le buf).trans (rxMaxDlen_le buf)
        · cases hf
      · simp only [frameOp, rxDecode_of_not_accepts haccepts] at hf
        cases hf

theorem len_le_of_mem_frameOps {i : Fin n} {s : Traffic n} {events : List (TrafficEvent n)}
    {f : GsusbFrame} (hf : f ∈ pushes (frameOps i s events)) : f.len.toNat ≤ gsusbMaxDlen := by
  induction events generalizing s with
  | nil => cases hf
  | cons e events ih =>
      rw [frameOps, pushes_append, List.mem_append] at hf
      cases hf with
      | inl hf => exact len_le_of_mem_frameOp hf
      | inr hf =>
          split at hf
          · exact ih hf
          · cases hf

/-- What a receiver gets is never longer than a payload. -/
theorem Delivered.len_le {s t : Traffic n} {i : Fin n} {events : List (TrafficEvent n)}
    (h : t.Delivered i (frameOps i s events)) {f : GsusbFrame} (hf : f ∈ t.received i) :
    f.len.toNat ≤ gsusbMaxDlen :=
  len_le_of_mem_frameOps (h.sublist.subset (List.mem_append_left _ hf))

/-! ## Channels do not disturb each other -/

/-- The events a channel takes part in: packets that name it, its own receivers, and every start
and stop, since these share the reader. -/
def Concerns (i : Fin n) : TrafficEvent n → Bool
  | .call _ => true
  | .packet buf => (byteAt buf 9).toNat = i
  | .recv j => j = i

/-- Two states that one channel cannot tell apart. -/
structure Agrees (s s' : Traffic n) (i : Fin n) : Prop where
  host_eq : s.host.withoutQueues = s'.host.withoutQueues
  rxq_eq : (s.host.dev.channel i).rxq = (s'.host.dev.channel i).rxq
  received_eq : s.received i = s'.received i

/-- What a packet is decoded to does not depend on what the queues hold. -/
theorem rxDecode_congr {dev dev' : Dev n} (h : dev.withoutQueues = dev'.withoutQueues)
    (buf : Bytes) : rxDecode dev buf = rxDecode dev' buf := by
  have hts := Dev.hwTsEnabled_eq_of_withoutQueues_eq h
  by_cases hheader : gsHostFrameHdrSize ≤ buf.length
  · rw [rxDecode_of_header dev hheader, rxDecode_of_header dev' hheader]
    simp only [hts]
  · rw [rxDecode, rxDecode, if_pos (not_le.mp hheader), if_pos (not_le.mp hheader)]

namespace Agrees

variable {s s' : Traffic n} {i : Fin n}

theorem refl (s : Traffic n) (i : Fin n) : s.Agrees s i := ⟨rfl, rfl, rfl⟩

theorem channel_eq (h : s.Agrees s' i) : s.host.dev.channel i = s'.host.dev.channel i :=
  Dev.SameChannel.channel_eq ⟨congrArg Host.dev h.host_eq, h.rxq_eq⟩

/-- A queue is replaced in both states, in the same way if it is the channel's own. -/
theorem setQueue (h : s.Agrees s' i) (k : Fin n) {q q' : RxQueue}
    {frames frames' : List GsusbFrame} (hown : k = i → q = q' ∧ frames = frames') :
    (s.setQueue k q frames).Agrees (s'.setQueue k q' frames') i := by
  refine ⟨?_, ?_, ?_⟩
  · rw [withoutQueues_setQueue, withoutQueues_setQueue]
    exact h.host_eq
  · show ((s.host.dev.updateChannel k _).channel i).rxq =
      ((s'.host.dev.updateChannel k _).channel i).rxq
    rw [Dev.channel_updateChannel, Dev.channel_updateChannel]
    by_cases hki : k = i
    · rw [if_pos hki, if_pos hki]
      exact (hown hki).1
    · rw [if_neg hki, if_neg hki]
      exact h.rxq_eq
  · show Function.update s.received k _ i = Function.update s'.received k _ i
    by_cases hki : k = i
    · subst hki
      rw [Function.update_self, Function.update_self, h.received_eq, (hown rfl).2]
    · rw [Function.update_of_ne (Ne.symm hki), Function.update_of_ne (Ne.symm hki)]
      exact h.received_eq

/-- The queue of another channel is replaced in one state alone. -/
theorem setQueue_left (h : s.Agrees s' i) {k : Fin n} (hki : k ≠ i) (q : RxQueue)
    (frames : List GsusbFrame) : (s.setQueue k q frames).Agrees s' i := by
  refine ⟨?_, ?_, ?_⟩
  · rw [withoutQueues_setQueue]
    exact h.host_eq
  · show ((s.host.dev.updateChannel k _).channel i).rxq = _
    rw [Dev.channel_updateChannel, if_neg hki]
    exact h.rxq_eq
  · show Function.update s.received k _ i = _
    rw [Function.update_of_ne hki.symm]
    exact h.received_eq

/-- An event that happens to both states. -/
theorem step (h : s.Agrees s' i) (e : TrafficEvent n) :
    ∃ t t', s.step e = .ok t ∧ s'.step e = .ok t' ∧ t.Agrees t' i := by
  cases e with
  | call c =>
      refine ⟨_, _, rfl, rfl, ?_, ?_, h.received_eq⟩
      · show (s.host.call c).withoutQueues = (s'.host.call c).withoutQueues
        rw [Host.withoutQueues_call, Host.withoutQueues_call, h.host_eq]
      · show ((s.host.call c).dev.channel i).rxq = ((s'.host.call c).dev.channel i).rxq
        rw [Host.rxq_call, Host.rxq_call, h.rxq_eq]
  | packet buf =>
      have hdecode := rxDecode_congr (congrArg Host.dev h.host_eq) buf
      rcases rxDecode_cases s.host.dev buf with hnone | ⟨k, f, hsome⟩
      · exact ⟨s, s', step_packet_of_none hnone, step_packet_of_none (hdecode ▸ hnone), h⟩
      · obtain ⟨q, hpush, -⟩ := (s.host.dev.channel k).rxq.exists_push f
        obtain ⟨q', hpush', -⟩ := (s'.host.dev.channel k).rxq.exists_push f
        refine ⟨_, _, step_packet_of_some hsome hpush, step_packet_of_some (hdecode ▸ hsome) hpush',
          h.setQueue k ?_⟩
        rintro rfl
        rw [h.rxq_eq] at hpush
        exact ⟨Except.ok.inj (hpush.symm.trans hpush'), rfl⟩
  | recv k =>
      obtain ⟨x, q, hpop⟩ := (s.host.dev.channel k).rxq.exists_pop
      obtain ⟨x', q', hpop'⟩ := (s'.host.dev.channel k).rxq.exists_pop
      refine ⟨_, _, step_recv_of_pop hpop, step_recv_of_pop hpop', h.setQueue k ?_⟩
      rintro rfl
      rw [h.rxq_eq] at hpop
      cases hpop.symm.trans hpop'
      exact ⟨rfl, rfl⟩

/-- An event of other channels happens to one state alone. -/
theorem step_left (h : s.Agrees s' i) {e : TrafficEvent n} (he : Concerns i e = false) :
    ∃ t, s.step e = .ok t ∧ t.Agrees s' i := by
  cases e with
  | call c => cases he
  | packet buf =>
      have hbyte : (byteAt buf 9).toNat ≠ i := by simpa [Concerns] using he
      by_cases haccepts : RxAccepts s.host.dev buf
      · obtain ⟨q, hpush, -⟩ := (s.host.dev.channel ⟨_, haccepts.channel_lt⟩).rxq.exists_push
          (rxFrame (s.host.dev.channel ⟨_, haccepts.channel_lt⟩).hwTsEnabled buf)
        have hki : (⟨_, haccepts.channel_lt⟩ : Fin n) ≠ i := fun heq => hbyte (congrArg Fin.val heq)
        exact ⟨_, step_packet_of_some (rxDecode_of_accepts haccepts) hpush,
          h.setQueue_left hki q []⟩
      · exact ⟨s, step_packet_of_none (rxDecode_of_not_accepts haccepts), h⟩
  | recv k =>
      have hki : k ≠ i := by simpa [Concerns] using he
      obtain ⟨x, q, hpop⟩ := (s.host.dev.channel k).rxq.exists_pop
      exact ⟨_, step_recv_of_pop hpop, h.setQueue_left hki q x.toList⟩

/-- **Run lemma.** All events against those that concern the channel. -/
theorem run (h : s.Agrees s' i) (events : List (TrafficEvent n)) :
    ∃ t t', s.run events = .ok t ∧ s'.run (events.filter (Concerns i)) = .ok t' ∧
      t.Agrees t' i := by
  induction events generalizing s s' with
  | nil => exact ⟨s, s', rfl, rfl, h⟩
  | cons e events ih =>
      cases he : Concerns i e with
      | true =>
          obtain ⟨t, t', hstep, hstep', ht⟩ := h.step e
          obtain ⟨u, u', hrun, hrun', hu⟩ := ih ht
          refine ⟨u, u', ?_, ?_, hu⟩
          · rw [Traffic.run, List.foldlM_cons, hstep]
            exact hrun
          · rw [List.filter_cons_of_pos he, Traffic.run, List.foldlM_cons, hstep']
            exact hrun'
      | false =>
          obtain ⟨t, hstep, ht⟩ := h.step_left he
          obtain ⟨u, u', hrun, hrun', hu⟩ := ih ht
          refine ⟨u, u', ?_, ?_, hu⟩
          · rw [Traffic.run, List.foldlM_cons, hstep]
            exact hrun
          · rw [List.filter_cons_of_neg (by simp [he])]
            exact hrun'

end Agrees

/-- **Isolation.** Whatever the other channels carry and however slowly they are read, a channel
ends in the state, and delivers the frames, that it would have without them. -/
theorem channel_isolated (s : Traffic n) (events : List (TrafficEvent n)) (i : Fin n) :
    ∃ t t', s.run events = .ok t ∧ s.run (events.filter (Concerns i)) = .ok t' ∧
      t.host.dev.channel i = t'.host.dev.channel i ∧ t.received i = t'.received i := by
  obtain ⟨t, t', hrun, hrun', hagrees⟩ := (Agrees.refl s i).run events
  exact ⟨t, t', hrun, hrun', hagrees.channel_eq, hagrees.received_eq⟩

end Traffic

end GsUsb.Driver
