/-
# A python-can bus that hears itself

A `GsUsbNativeBus` in loopback mode, with everything between its `send` and its `_recv_internal`
at work: messages become packets and wait in the device, come back among other reports, and pass
the queue of the channel, the listener thread and the queue that the thread fills.  The calls of
`send` and of `recv()` may come from any threads, at any time.
-/

import GsUsb.Driver.Loopback
import GsUsb.Python.NativeBus
import GsUsb.Python.Pipeline
import GsUsb.Python.PythonCan

namespace GsUsb.Python

open GsUsb.Driver GsUsb.Math GsUsb.Math.DropOldest

universe v

variable {n : ℕ} {δ : Type v}

/-- The device and the library, the bus, and the messages whose `send` returned. -/
structure LoopedBus (n : ℕ) (δ : Type v) where
  looping : Looping n
  listening : Listening Frame δ
  messages : List Message

/-- What happens to the bus and to its device. -/
inductive LoopedEvent (n : ℕ) (δ : Type v)
  | /-- A call of `send`, with what its bulk transfer returns. -/
    send (m : Message) (timeoutMs : Option ℤ) (rc : ℤ) (transferred : ℕ)
  | /-- The oldest packet comes back. -/
    loop (t : UInt32)
  | /-- The device reports something that is no received frame, as an echo is. -/
    report (buf : Bytes) (hreport : wordAt buf 0 ≠ gsHostFrameEchoIdRx)
  | /-- In the listener thread, or around it. -/
    python (e : ListenEvent Frame δ)
  | /-- `gsusb_channel_recv` returns a frame to the listener thread. -/
    handOver

/-- The messages that are sent are valid. -/
def LoopedEvent.Valid : LoopedEvent n δ → Prop
  | .send m _ _ _ => m.Valid
  | _ => True

/-- A message as it comes back. -/
def Message.back (m : Message) : Message := { m with dlc := m.data.length }

namespace LoopedBus

/-- A bus that was just set up. -/
def init (host : Host n) (detectors : List δ) : LoopedBus n δ :=
  ⟨.init host, .init detectors, []⟩

/-- The way of the frames from the adapter to the callers of `recv()`. -/
def pipeline (s : LoopedBus n δ) : Pipeline n δ := ⟨s.looping.traffic, s.listening⟩

/-- One event for a bus on channel `i`. -/
def step [DecidableEq δ] (i : Fin n) (s : LoopedBus n δ) :
    LoopedEvent n δ → Option (LoopedBus n δ)
  | .send m timeoutMs rc transferred =>
    match GsUsbNativeBus.send (some (s.looping.traffic.host.dev.channel i)) m timeoutMs
        fun _ => (rc, transferred) with
    | (.ok (), some request) =>
      some { s with
        looping := { s.looping with
          sent := s.looping.sent ++ [(i, m.sent)]
          wire := s.looping.wire ++ [request.buf] }
        messages := s.messages ++ [m] }
    | _ => some s
  | .loop t => (s.looping.step (.loop t)).toOption.map fun l => { s with looping := l }
  | .report buf hreport =>
    (s.looping.step (.report buf hreport)).toOption.map fun l => { s with looping := l }
  | .python e =>
    (s.pipeline.step i (.python e)).map fun p => { s with listening := p.listening }
  | .handOver =>
    (s.pipeline.step i .handOver).map fun p =>
      { s with looping := { s.looping with traffic := p.traffic }, listening := p.listening }

/-- The `send` of a valid message is the `gsusb_channel_send` of its frame. -/
theorem send_eq {m : Message} (hvalid : m.Valid) (ch : Channel) (timeoutMs : Option ℤ)
    (bulk : BulkOut → ℤ × ℕ) :
    let sent := gsusbChannelSend ch m.sent (UInt32.ofInt (timeoutMs.getD 1000)).toNat bulk
    (GsUsbNativeBus.send (some ch) m timeoutMs bulk).2 = sent.2 ∧
      ((GsUsbNativeBus.send (some ch) m timeoutMs bulk).1 = .ok () ↔ sent.1 = 0) := by
  intro sent
  have hcheck : check sent.1 "send" = _ := check_of_nonpos (gsusbChannelSend_nonpos ..) "send"
  have hsend : GsUsbNativeBus.send (some ch) m timeoutMs bulk =
      (((check sent.1 "send").map fun _ => ()).mapError fun exn => ⟨exn.str⟩, sent.2) := by
    simp only [GsUsbNativeBus.send, Bus.send, toCtypes_toFrame hvalid]
    rfl
  rw [hsend, hcheck]
  refine ⟨rfl, ?_⟩
  by_cases hzero : sent.1 = 0
  · rw [if_pos hzero]
    exact iff_of_true rfl hzero
  · rw [if_neg hzero]
    exact iff_of_false (fun h => by cases h) hzero

variable {i : Fin n} {s t : LoopedBus n δ}

/-- What a `send` is to the device. -/
theorem step_send [DecidableEq δ] {m : Message} (hvalid : m.Valid) {timeoutMs : Option ℤ} {rc : ℤ}
    {transferred : ℕ} (hstep : s.step i (.send m timeoutMs rc transferred) = some t) :
    s.looping.step (.send i m.sent (UInt32.ofInt (timeoutMs.getD 1000)).toNat rc transferred) =
        .ok t.looping ∧
      t.listening = s.listening ∧ t.looping.traffic = s.looping.traffic ∧
      (t.looping.sent = s.looping.sent ∧ t.messages = s.messages ∨
        t.looping.sent = s.looping.sent ++ [(i, m.sent)] ∧ t.messages = s.messages ++ [m]) := by
  obtain ⟨hrequest, hok⟩ := send_eq hvalid (s.looping.traffic.host.dev.channel i) timeoutMs
    fun _ => (rc, transferred)
  simp only [step] at hstep
  simp only [Looping.step]
  generalize GsUsbNativeBus.send _ m timeoutMs _ = result at hrequest hok hstep
  generalize gsusbChannelSend _ m.sent _ _ = sent at hrequest hok ⊢
  obtain ⟨answer, request⟩ := result
  obtain ⟨code, request'⟩ := sent
  obtain rfl : request = request' := hrequest
  by_cases hzero : code = 0
  · obtain rfl : answer = .ok () := hok.mpr hzero
    obtain rfl : code = 0 := hzero
    cases request with
    | none =>
        cases hstep
        exact ⟨rfl, rfl, rfl, .inl ⟨rfl, rfl⟩⟩
    | some request =>
        cases hstep
        exact ⟨rfl, rfl, rfl, .inr ⟨rfl, rfl⟩⟩
  · have hrefused : answer ≠ .ok () := fun h => hzero (hok.mp h)
    have hsame : s = t := by
      split at hstep
      · rename_i heq
        exact absurd (congrArg Prod.fst heq) hrefused
      · cases hstep
        rfl
    subst hsame
    refine ⟨?_, rfl, rfl, .inl ⟨rfl, rfl⟩⟩
    split
    · rename_i heq
      exact absurd (congrArg Prod.fst heq) hzero
    · rfl

/-- A packet that comes in changes nothing but the queues. -/
theorem same_of_packet {l l' : Looping n} {wire : List Bytes} {buf : Bytes}
    (hstep : (l.traffic.step (.packet buf) >>= fun traffic =>
      pure { l with traffic := traffic, wire := wire }) = .ok l') :
    l'.sent = l.sent ∧ l'.traffic.received = l.traffic.received := by
  cases htraffic : l.traffic.step (.packet buf) with
  | error fault =>
      rw [htraffic] at hstep
      cases hstep
  | ok traffic =>
      rw [htraffic] at hstep
      cases hstep
      refine ⟨rfl, funext fun i => ?_⟩
      exact Pipeline.received_of_other (by rintro ⟨⟩) htraffic

/-- Neither does the oldest packet, if there is one. -/
theorem same_of_loop {l l' : Looping n} {time : UInt32} (hstep : l.step (.loop time) = .ok l') :
    l'.sent = l.sent ∧ l'.traffic.received = l.traffic.received := by
  simp only [Looping.step] at hstep
  split at hstep
  · cases hstep
    exact ⟨rfl, rfl⟩
  · exact same_of_packet hstep

/-- The device carries the messages, and the bus passes on what the library received. -/
structure Linked (host : Host n) (i : Fin n) (s : LoopedBus n δ) : Prop where
  carries : ∃ ops, s.looping.Carries host ops
  joined : s.pipeline.Joined i
  sent_eq : s.looping.sent = s.messages.map fun m => (i, m.sent)
  valid : ∀ m ∈ s.messages, m.Valid

variable {host : Host n}

/-- The device takes a step in which the callers receive nothing. -/
theorem Linked.device (h : s.Linked host i) (hready : Looping.Ready host) {e : LoopEvent n}
    (hsame : ∀ l, s.looping.step e = .ok l →
      l.sent = s.looping.sent ∧ l.traffic.received = s.looping.traffic.received)
    (hstep : (s.looping.step e).toOption.map (fun l => { s with looping := l }) = some t) :
    t.Linked host i := by
  obtain ⟨ops, hcarries⟩ := h.carries
  obtain ⟨l, ops', hl, hcarries'⟩ := hcarries.step hready e
  obtain ⟨hsent, hreceived⟩ := hsame l hl
  rw [hl] at hstep
  cases hstep
  have hjoined : s.listening.received = (l.traffic.received i).map Frame.fromCtypes := by
    rw [hreceived]
    exact h.joined.received_eq
  exact ⟨⟨ops', hcarries'⟩, ⟨h.joined.queued, h.joined.dropped, h.joined.filled, h.joined.notified,
    hjoined⟩, hsent.trans h.sent_eq, h.valid⟩

/-- **Step lemma.** -/
theorem Linked.step [DecidableEq δ] (h : s.Linked host i) (hready : Looping.Ready host)
    {e : LoopedEvent n δ} (hvalid : e.Valid) (hstep : s.step i e = some t) : t.Linked host i := by
  cases e with
  | send m timeoutMs rc transferred =>
      obtain ⟨hsend, hlistening, htraffic, hsent⟩ := step_send hvalid hstep
      obtain ⟨ops, hcarries⟩ := h.carries
      obtain ⟨l, ops', hl, hcarries'⟩ := hcarries.step hready
        (.send i m.sent (UInt32.ofInt (timeoutMs.getD 1000)).toNat rc transferred)
      cases hsend.symm.trans hl
      have hpipeline : t.pipeline = s.pipeline := by
        rw [pipeline, htraffic, hlistening]
        rfl
      refine ⟨⟨ops', hcarries'⟩, hpipeline ▸ h.joined, ?_, ?_⟩
      · rcases hsent with ⟨hold, hmessages⟩ | ⟨hnew, hmessages⟩
        · rw [hold, hmessages]
          exact h.sent_eq
        · rw [hnew, hmessages, h.sent_eq, List.map_append]
          rfl
      · rcases hsent with ⟨-, hmessages⟩ | ⟨-, hmessages⟩
        · rw [hmessages]
          exact h.valid
        · rw [hmessages]
          intro m' hm'
          rcases List.mem_append.mp hm' with hold | hnew
          · exact h.valid m' hold
          · obtain rfl := List.mem_singleton.mp hnew
            exact hvalid
  | loop time => exact h.device hready (fun _ hl => same_of_loop hl) hstep
  | report buf hreport =>
      exact h.device (e := .report buf hreport) hready (fun _ hl => same_of_packet hl) hstep
  | python e =>
      obtain ⟨p, hp, rfl⟩ := Option.map_eq_some_iff.mp hstep
      have hjoined := h.joined.step hp
      cases Pipeline.effect_of_step hp with
      | python htransition hsame =>
          exact ⟨h.carries, hjoined, h.sent_eq, h.valid⟩
  | handOver =>
      obtain ⟨p, hp, rfl⟩ := Option.map_eq_some_iff.mp hstep
      have hjoined := h.joined.step hp
      cases Pipeline.effect_of_step hp with
      | handOver htraffic hreceived htransition hlistened =>
          obtain ⟨ops, hcarries⟩ := h.carries
          obtain ⟨l, ops', hl, hcarries'⟩ := hcarries.step hready (.recv i)
          simp only [Looping.step] at hl
          rw [show s.looping.traffic.step (.recv i) = _ from htraffic] at hl
          cases hl
          exact ⟨⟨ops', hcarries'⟩, hjoined, h.sent_eq, h.valid⟩

/-- The messages that came back from the device. -/
def cameBack (s : LoopedBus n δ) : List Message :=
  s.messages.take (s.messages.length - s.looping.wire.length)

/-- What `_recv_internal` makes of the frames that `recv()` has returned, and will make of those on
their way there. -/
def heard (s : LoopedBus n δ) (i : Fin n) : List (Option Message × Bool) :=
  (s.pipeline.taken ++ s.pipeline.waiting i).map fun f => GsUsbNativeBus.recvInternal (some f)

/-- A bus hears the messages that came back: in order, none twice, none invented and none changed,
and all of them as long as they fit the queues. -/
structure Hears (s : LoopedBus n δ) (i : Fin n) : Prop where
  inDevice_le : s.looping.wire.length ≤ s.messages.length
  sublist : (s.heard i).Sublist (s.cameBack.map fun m => (some m.back, false))
  complete : s.cameBack.length ≤ recvQueueMaxsize →
    s.heard i = s.cameBack.map fun m => (some m.back, false)

theorem onChannel_map (i : Fin n) (frames : List GsusbFrame) :
    onChannel i (frames.map fun frame => (i, frame)) = frames := by
  induction frames with
  | nil => rfl
  | cons frame frames ih =>
      have hcons : onChannel i ((frame :: frames).map fun frame => (i, frame)) =
          frame :: onChannel i (frames.map fun frame => (i, frame)) := by simp [onChannel]
      rw [hcons, ih]

/-- What comes back for a valid message is the message. -/
theorem recvInternal_of_cameBack {m : Message} (hvalid : m.Valid) {got : GsusbFrame}
    (h : Looping.CameBack host i m.sent got) :
    GsUsbNativeBus.recvInternal (some (.fromCtypes got)) = (some m.back, false) := by
  obtain ⟨time, hlooped⟩ := h
  have hfits : m.sent.len.toNat ≤ sendMaxDlen m.sent := by
    rw [toNat_len_sent hvalid, sendMaxDlen, sendIsFd_sent]
    exact hvalid.length_le
  have hcut : cutLen m.sent = m.sent := by
    rw [cutLen, sendLen_eq hfits]
  rw [hcut] at hlooped
  exact recvInternal_fromCtypes hvalid hlooped

theorem map_recvInternal {ms : List Message} {got : List GsusbFrame}
    (hvalid : ∀ m ∈ ms, m.Valid)
    (h : List.Forall₂ (Looping.CameBack host i) (ms.map Message.sent) got) :
    (got.map Frame.fromCtypes).map (fun f => GsUsbNativeBus.recvInternal (some f)) =
      ms.map fun m => (some m.back, false) := by
  induction ms generalizing got with
  | nil =>
      cases h
      rfl
  | cons m ms ih =>
      cases h with
      | cons hfirst hrest =>
          have hm := recvInternal_of_cameBack (hvalid m List.mem_cons_self) hfirst
          have hms := ih (fun m' hm' => hvalid m' (List.mem_cons_of_mem _ hm')) hrest
          rw [List.map_cons, List.map_cons, List.map_cons, hm, hms]

/-- A bus whose device carries its messages hears them. -/
theorem Linked.hears (h : s.Linked host i) : s.Hears i := by
  obtain ⟨ops, hcarries⟩ := h.carries
  obtain ⟨looped, flying, hsent, hwire, hback⟩ := hcarries.wire_eq
  rw [h.sent_eq] at hsent
  obtain ⟨came, inside, hmessages, rfl, rfl⟩ := List.map_eq_append_iff.mp hsent
  have hlength : s.looping.wire.length = inside.length := by
    rw [hwire, List.length_map, List.length_map]
  have hcame : s.cameBack = came := by
    rw [cameBack, hlength, hmessages, List.length_append, Nat.add_sub_cancel, List.take_left]
  have hpairs : came.map (fun m => (i, m.sent)) =
      (came.map Message.sent).map fun frame => (i, frame) := by
    rw [List.map_map]
    rfl
  have hgot := hback i
  rw [hpairs, onChannel_map] at hgot
  have hvalid : ∀ m ∈ came, m.Valid := fun m hm =>
    h.valid m (hmessages ▸ List.mem_append_left _ hm)
  have hheard := map_recvInternal hvalid hgot
  have hdelivered := hcarries.tracks.delivered i
  have hdelivers := h.joined.delivers hdelivered
  refine ⟨?_, ?_, ?_⟩
  · rw [hlength, hmessages, List.length_append]
    omega
  · rw [hcame, ← hheard]
    exact hdelivers.sublist.map _
  · intro hfew
    rw [hcame] at hfew ⊢
    have hcount : (pushes (ops i)).length ≤ recvQueueMaxsize := by
      rw [← hgot.length_eq, List.length_map]
      exact hfew
    -- the listener never had more frames than its queue holds
    have hkept : s.listening.recvQueue.left .dropped = [] := by
      apply h.joined.kept
      have hfewer := hdelivered.sublist.length_le
      rw [List.length_append] at hfewer
      exact (Nat.le_of_add_right_le hfewer).trans hcount
    have hall := hdelivers.complete_iff.mpr ⟨Ledger.keepsUp_of_length_le hcount, hkept⟩
    rw [← hheard, ← hall]
    rfl

theorem linked_init {usb : Libusb} {vid pid : UInt16} {bus addr : ℤ} {dev : Dev n}
    (hopen : usb.gsusbOpen vid pid bus addr = .ok ⟨n, dev⟩) (cs : List (Call n)) (i : Fin n)
    (detectors : List δ) :
    (init ((Host.init dev).calls cs) detectors).Linked ((Host.init dev).calls cs) i where
  carries := ⟨_, Looping.carries_init hopen cs⟩
  joined := Pipeline.joined_init _ detectors i
  sent_eq := rfl
  valid := nofun

/-- **A python-can bus hears itself.**  From its constructor on, in every run in which it sends
valid messages to a device that returns the packets of the sends that succeeded as received frames,
and whose other reports are none, however the calls of `send`, the returning packets, the listener
thread and the calls of `recv()` are interleaved: what the callers get, and what is on its way to
them, are the messages that came back, in the order in which they were sent, none twice and none
changed but for the length that a remote frame asks for; and none is missing while no more have
come back than a queue holds. -/
theorem hears_of_run [DecidableEq δ] {o : NativeOptions} {a : NativeAnswers}
    {registers : Registers} {i : Fin n} {attached : Attached n}
    (hinit : GsUsbNativeBus.init o a registers = some (.ok (), some ⟨n, i, attached⟩))
    {detectors : List δ} {es : List (LoopedEvent n δ)} (hvalid : ∀ e ∈ es, e.Valid)
    {s : LoopedBus n δ} (hrun : run (step i) (init attached.host detectors) es = some s) :
    s.Hears i := by
  obtain ⟨n', dev, i', attached', heq, hopen, hsetUp⟩ := GsUsbNativeBus.exists_of_init hinit
  cases heq
  obtain ⟨k, vid, pid, hgsusb⟩ := exists_of_open hopen
  have hopened := opened_of_open hopen
  obtain ⟨hstarted, -⟩ := GsUsbNativeBus.isSetUp_of_setUp hopened hsetUp
  have hhost : attached.host = (Host.init dev).calls [.start i (GsUsbNativeBus.askedMode o)
      a.mode.rc a.thread] :=
    GsUsbNativeBus.host_of_setUp hopened hsetUp hstarted
  rw [hhost] at hrun
  have hready := Looping.ready_calls hopened
    [.start i (GsUsbNativeBus.askedMode o) a.mode.rc a.thread]
  have hlinked : s.Linked _ i :=
    run_invariant_of_mem (fun _ e _ he h hstep => h.step hready (hvalid e he) hstep)
      (linked_init hgsusb _ i detectors) hrun
  exact hlinked.hears

/-- A classic bus in loopback mode. -/
def loopbackOptions : NativeOptions :=
  ⟨some 0x1d50, some 0x606f, none, none, 0, 500000, false, none, 0, 0, false, true, false⟩

/-- A message of two bytes. -/
def dataMessage : Message := ⟨0x123, false, false, false, false, false, false, 2, [1, 2]⟩

set_option maxRecDepth 8000 in
/-- A message is sent, comes back and is taken. -/
theorem hears_of_run_loopback :
    let es : List (LoopedEvent 1 ℕ) :=
      [.send dataMessage none 0 20, .loop 7, .python .test, .handOver, .python .putNowait,
        .python .take]
    ∃ attached : Attached 1,
      GsUsbNativeBus.init loopbackOptions GsUsbNativeBus.fdAnswers .blank =
        some (.ok (), some ⟨1, 0, attached⟩) ∧
      ∃ s, run (step 0) (init attached.host []) es = some s ∧ s.pipeline.taken.length = 1 ∧
        s.Hears 0 := by
  intro es
  have hvalid : ∀ e ∈ es, e.Valid := by
    have hmessage : dataMessage.Valid :=
      ⟨by decide, rfl, by decide, by decide, by decide, by decide⟩
    simp [es, LoopedEvent.Valid, hmessage]
  obtain ⟨dev, hopen, hconst, s, hrun, htaken⟩ : ∃ dev : Dev 1,
      Bus.open 0 (fun _ => clock48Adapter) (some 0x1d50) (some 0x606f) none none 0 =
        .ok ⟨1, dev, 0⟩ ∧ (dev.channel 0).btConst = clock48 ∧
      ∃ s, run (step 0) (init ((Host.init dev).gsusbChannelStart 0
        (GsUsbNativeBus.askedMode loopbackOptions) 8 .created).2 []) es = some s ∧
          s.pipeline.taken.length = 1 := ⟨_, rfl, rfl, _, rfl, rfl⟩
  have hopened := opened_of_open hopen
  obtain ⟨attached, hsetUp⟩ : ∃ attached, (GsUsbNativeBus.setUp loopbackOptions
      GsUsbNativeBus.fdAnswers (0 : Fin 1)).run.run (.opened dev .blank) =
        some (.ok (), attached) :=
    (GsUsbNativeBus.setUp_returns_iff hopened).mpr
      ⟨⟨⟨_, GsUsbNativeBus.calculated_clock48 hconst, rfl⟩, nofun, rfl, rfl⟩, rfl⟩
  have hinit : GsUsbNativeBus.init loopbackOptions GsUsbNativeBus.fdAnswers .blank =
      some (.ok (), some ⟨1, 0, attached⟩) := by
    rw [GsUsbNativeBus.init_of_open (o := loopbackOptions) (a := GsUsbNativeBus.fdAnswers) hopen,
      hsetUp]
    rfl
  obtain ⟨hstarted, -⟩ := GsUsbNativeBus.isSetUp_of_setUp hopened hsetUp
  have hhost : attached.host = ((Host.init dev).gsusbChannelStart 0
      (GsUsbNativeBus.askedMode loopbackOptions) 8 .created).2 :=
    GsUsbNativeBus.host_of_setUp hopened hsetUp hstarted
  rw [← hhost] at hrun
  exact ⟨attached, hinit, s, hrun, htaken, hears_of_run hinit hvalid hrun⟩

end LoopedBus

end GsUsb.Python
