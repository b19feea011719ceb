/-
# Sending on channels that loop back

A device whose channels were started in loopback mode, with everything between
`gsusb_channel_send` and `gsusb_channel_recv` at work: packets wait in the device, come back one
by one with a timestamp of their own, among acknowledgements and other reports, and receivers take
frames whenever they like.  Frames that were sent come back on the channel they were sent on, in
the order in which they were sent.

The device is taken to be in order, to return each packet that a send got through to it as a
received frame, with the `echo_id` of one, and to add a timestamp to the packets of the channels
whose last START asked for one.  The acknowledgement of a packet, with its own `echo_id`, is another
matter: `handle_rx_packet` discards it, like the other reports.
-/

import GsUsb.Driver.Send
import GsUsb.Driver.Traffic
import Mathlib.Data.List.Forall2

namespace GsUsb.Driver

open GsUsb.Math.DropOldest

/-- A frame with the length that `gsusb_channel_send` cuts it to. -/
def cutLen (frame : GsusbFrame) : GsusbFrame := { frame with len := sendLen frame }

/-- The cut frame fits its kind. -/
theorem toNat_len_cutLen_le (frame : GsusbFrame) :
    (cutLen frame).len.toNat ≤ sendMaxDlen (cutLen frame) := by
  have hmax : (UInt8.ofNat (sendMaxDlen frame)).toNat = sendMaxDlen frame := by
    have hle := sendMaxDlen_le frame
    rw [UInt8.toNat_ofNat']
    exact Nat.mod_eq_of_lt (by omega)
  show (sendLen frame).toNat ≤ sendMaxDlen frame
  unfold sendLen
  split
  · exact hmax.le
  · rename_i hle
    rw [gt_iff_lt, UInt8.lt_iff_toNat_lt, hmax, not_lt] at hle
    exact hle

/-- A send is refused, or is a send of the cut frame on a started channel. -/
theorem sendPacket_cases (ch : Channel) (frame : GsusbFrame) :
    sendPacket ch frame = .error gsusbErrInvalid ∨
      ch.started = true ∧ sendPacket ch frame = .ok (sentPacket ch (cutLen frame)) := by
  unfold sendPacket
  cases hstarted : ch.started with
  | false => exact .inl rfl
  | true =>
      by_cases hfeature : (sendIsFd frame && !ch.hasFeature gsCanFeatureFd) = true
      · exact .inl (by simp [hfeature])
      · refine .inr ⟨rfl, ?_⟩
        simp only [Bool.true_eq_false, if_false, if_neg hfeature]
        rfl

/-- A send that succeeds has handed over the packet of the cut frame. -/
theorem gsusbChannelSend_cases (ch : Channel) (frame : GsusbFrame) (timeoutMs : ℕ)
    (bulk : BulkOut → ℤ × ℕ) :
    (gsusbChannelSend ch frame timeoutMs bulk).1 ≠ 0 ∨
      ch.started = true ∧ ∃ request, gsusbChannelSend ch frame timeoutMs bulk = (0, some request) ∧
        request.buf = sentPacket ch (cutLen frame) := by
  rcases sendPacket_cases ch frame with hrefused | ⟨hstarted, hpacket⟩
  · left
    rw [gsusbChannelSend, hrefused]
    show gsusbErrInvalid ≠ 0
    decide
  · rw [gsusbChannelSend, hpacket]
    dsimp only
    generalize hrequest : BulkOut.mk (sentPacket ch (cutLen frame)) _ = request
    have hbuf : request.buf = sentPacket ch (cutLen frame) := hrequest ▸ rfl
    rcases bulk request with ⟨rc, transferred⟩
    dsimp only
    by_cases htimeout : rc = libusbErrorTimeout
    · rw [if_pos htimeout]
      exact .inl (show gsusbErrTimeout ≠ 0 by decide)
    by_cases hrc : rc = 0
    · rw [if_neg htimeout, if_neg (not_not.mpr hrc)]
      by_cases hall : transferred = (sentPacket ch (cutLen frame)).length
      · rw [if_neg (not_not.mpr hall)]
        exact .inr ⟨hstarted, request, rfl, hbuf⟩
      · rw [if_pos hall]
        exact .inl (show gsusbErrIo ≠ 0 by decide)
    · rw [if_neg htimeout, if_pos hrc]
      exact .inl (mapLibusbErr_ne_zero hrc)

/-- No code of a send is positive. -/
theorem gsusbChannelSend_nonpos (ch : Channel) (frame : GsusbFrame) (timeoutMs : ℕ)
    (bulk : BulkOut → ℤ × ℕ) : (gsusbChannelSend ch frame timeoutMs bulk).1 ≤ 0 := by
  rcases sendPacket_cases ch frame with hrefused | ⟨-, hpacket⟩
  · rw [gsusbChannelSend, hrefused]
    show gsusbErrInvalid ≤ 0
    decide
  · rw [gsusbChannelSend, hpacket]
    dsimp only
    generalize BulkOut.mk (sentPacket ch (cutLen frame)) _ = request
    split_ifs
    · show gsusbErrTimeout ≤ 0
      decide
    · exact mapLibusbErr_nonpos _
    · show gsusbErrIo ≤ 0
      decide
    · exact le_rfl

/-- The frames of a list that belong to one channel. -/
def onChannel {n : ℕ} (i : Fin n) (sent : List (Fin n × GsusbFrame)) : List GsusbFrame :=
  (sent.filter fun p => p.1 = i).map Prod.snd

/-- The device adds timestamps to the packets of a channel if the last START of the channel
asked for them. -/
def addsTimestamps {n : ℕ} (host : Host n) (i : ℕ) : Bool :=
  (startsOf host.world.modes i).getLast?.any (·.hwTimestamp)

/-- An open device whose packets come back. -/
structure Looping (n : ℕ) where
  traffic : Traffic n
  /-- The frames whose send succeeded, with their channels. -/
  sent : List (Fin n × GsusbFrame)
  /-- The packets in the device, oldest first. -/
  wire : List Bytes

/-- What happens to a device that loops back. -/
inductive LoopEvent (n : ℕ)
  | /-- A send, with what its bulk transfer returns. -/
    send (i : Fin n) (frame : GsusbFrame) (timeoutMs : ℕ) (rc : ℤ) (transferred : ℕ)
  | /-- The oldest packet comes back. -/
    loop (t : UInt32)
  | /-- The device reports something else, such as that a packet was sent. -/
    report (buf : Bytes) (hreport : wordAt buf 0 ≠ gsHostFrameEchoIdRx)
  | recv (i : Fin n)

namespace Looping

variable {n : ℕ}

/-- Before the first frame is sent. -/
def init (host : Host n) : Looping n := ⟨⟨host, fun _ => []⟩, [], []⟩

def step (s : Looping n) : LoopEvent n → Except Fault (Looping n)
  | .send i frame timeoutMs rc transferred =>
    match gsusbChannelSend (s.traffic.host.dev.channel i) frame timeoutMs
        fun _ => (rc, transferred) with
    | (0, some request) =>
      .ok { s with sent := s.sent ++ [(i, frame)], wire := s.wire ++ [request.buf] }
    | _ => .ok s
  | .loop t =>
    match s.wire with
    | [] => .ok s
    | packet :: wire => do
      let hwTs := addsTimestamps s.traffic.host (byteAt packet 9).toNat
      let traffic ← s.traffic.step (.packet (loopBack hwTs t packet))
      return { s with traffic := traffic, wire := wire }
  | .report buf _ => do
    let traffic ← s.traffic.step (.packet buf)
    return { s with traffic := traffic }
  | .recv i => do
    let traffic ← s.traffic.step (.recv i)
    return { s with traffic := traffic }

/-- Any sequence of events. -/
def run (s : Looping n) (events : List (LoopEvent n)) : Except Fault (Looping n) :=
  events.foldlM step s

/-- The packet of a frame that was sent. -/
def packetOf (host : Host n) (p : Fin n × GsusbFrame) : Bytes :=
  sentPacket (host.dev.channel p.1) (cutLen p.2)

/-- A frame that was sent and a frame that was received for it. -/
def CameBack (host : Host n) (i : Fin n) (sent got : GsusbFrame) : Prop :=
  ∃ t, LoopedBack (host.dev.channel i).hwTsEnabled t (cutLen sent) got

/-- What the proof needs of the host on which a run begins. -/
structure Ready (host : Host n) : Prop where
  probed : host.dev.Probed
  timestamps : ∀ i : Fin n, (host.dev.channel i).started = true →
    addsTimestamps host i = (host.dev.channel i).hwTsEnabled

/-- Of the frames that were sent, the first ones came back and the others are in the device. -/
structure Carries (host : Host n) (ops : Fin n → List (Op GsusbFrame)) (s : Looping n) : Prop where
  tracks : s.traffic.Tracks fun i => Ledger.empty.run gsusbRxqCapacity.toNat (ops i)
  host_eq : s.traffic.host.withoutQueues = host.withoutQueues
  started : ∀ p ∈ s.sent, (host.dev.channel p.1).started = true
  wire_eq : ∃ looped flying, s.sent = looped ++ flying ∧ s.wire = flying.map (packetOf host) ∧
    ∀ i, List.Forall₂ (CameBack host i) (onChannel i looped) (pushes (ops i))

theorem onChannel_append (i : Fin n) (sent sent' : List (Fin n × GsusbFrame)) :
    onChannel i (sent ++ sent') = onChannel i sent ++ onChannel i sent' := by
  simp [onChannel]

section Steps

variable {host : Host n} {ops : Fin n → List (Op GsusbFrame)} {s : Looping n}

/-- A step of the traffic that pushes nothing. -/
theorem Carries.quiet (h : s.Carries host ops) {e : TrafficEvent n} (he : ∀ c, e ≠ .call c)
    (hquiet : ∀ i, pushes (Traffic.frameOp s.traffic.host.dev i e) = []) :
    ∃ traffic ops', s.traffic.step e = .ok traffic ∧
      Carries host ops' { s with traffic := traffic } := by
  obtain ⟨traffic, hstep, htracks⟩ := h.tracks.step e
  obtain ⟨looped, flying, hsent, hwire, hback⟩ := h.wire_eq
  refine ⟨traffic, fun i => ops i ++ Traffic.frameOp s.traffic.host.dev i e, hstep, ?_,
    (Traffic.withoutQueues_step hstep he).trans h.host_eq, h.started, looped, flying, hsent, hwire,
    ?_⟩
  · simpa only [Ledger.run_append] using htracks
  · intro i
    rw [pushes_append, hquiet, List.append_nil]
    exact hback i

/-- A send that succeeds adds its packet to the wire. -/
theorem Carries.send (h : s.Carries host ops) (i : Fin n) (frame : GsusbFrame) (timeoutMs : ℕ)
    (rc : ℤ) (transferred : ℕ) :
    ∃ t, s.step (.send i frame timeoutMs rc transferred) = .ok t ∧ t.Carries host ops := by
  have hdev := congrArg Host.dev h.host_eq
  rcases gsusbChannelSend_cases (s.traffic.host.dev.channel i) frame timeoutMs
    fun _ => (rc, transferred) with hfailed | ⟨hstarted, request, hsent, hbuf⟩
  · refine ⟨s, ?_, h⟩
    simp only [step]
    split
    · rename_i heq
      rw [heq] at hfailed
      exact absurd rfl hfailed
    · rfl
  · refine ⟨{ s with sent := s.sent ++ [(i, frame)], wire := s.wire ++ [request.buf] }, ?_,
      h.tracks, h.host_eq, ?_, ?_⟩
    · simp only [step, hsent]
    · intro p hp
      rcases List.mem_append.mp hp with hold | hnew
      · exact h.started p hold
      · obtain rfl := List.mem_singleton.mp hnew
        exact (Dev.started_eq_of_withoutQueues_eq hdev i).symm.trans hstarted
    · obtain ⟨looped, flying, hsplit, hwire, hback⟩ := h.wire_eq
      have hindex := (Dev.sameSetup_of_withoutQueues_eq hdev).index_eq i
      refine ⟨looped, flying ++ [(i, frame)], ?_, ?_, hback⟩
      · rw [hsplit, List.append_assoc]
      · rw [hwire, List.map_append, hbuf]
        simp [packetOf, sentPacket, hindex]

/-- The oldest packet comes back as the next frame of its channel. -/
theorem Carries.loop (h : s.Carries host ops) (hready : Ready host) (t : UInt32) :
    ∃ t' ops', s.step (.loop t) = .ok t' ∧ t'.Carries host ops' := by
  have hdev := congrArg Host.dev h.host_eq
  have hsetup := Dev.sameSetup_of_withoutQueues_eq hdev
  obtain ⟨looped, flying, hsent, hwire, hback⟩ := h.wire_eq
  cases flying with
  | nil =>
      refine ⟨s, ops, ?_, h⟩
      simp only [step, hwire, List.map_nil]
  | cons p flying =>
      obtain ⟨i, frame⟩ := p
      have hstarted := h.started (i, frame) (hsent ▸ List.mem_append_right _ List.mem_cons_self)
      have hpacket : packetOf host (i, frame) =
          sentPacket (s.traffic.host.dev.channel i) (cutLen frame) := by
        simp [packetOf, sentPacket, hsetup.index_eq i]
      have hbyte : (byteAt (packetOf host (i, frame)) 9).toNat = i := by
        have hi := i.isLt
        have hcount := hready.probed.count_le
        show (UInt8.ofNat (host.dev.channel i).index).toNat = i
        rw [hready.probed.index_eq, UInt8.toNat_ofNat', Nat.mod_eq_of_lt (by omega)]
      have hts : addsTimestamps s.traffic.host i = (s.traffic.host.dev.channel i).hwTsEnabled := by
        rw [Dev.hwTsEnabled_eq_of_withoutQueues_eq hdev, ← hready.timestamps i hstarted]
        exact congrArg (fun w : World => (startsOf w.modes i).getLast?.any (·.hwTimestamp))
          (congrArg Host.world h.host_eq)
      -- the packet is accepted, as the frame that was sent
      obtain ⟨buf, hbuf⟩ : ∃ buf, buf = loopBack (s.traffic.host.dev.channel i).hwTsEnabled t
        (packetOf host (i, frame)) := ⟨_, rfl⟩
      obtain ⟨got, hdecode, hcame⟩ : ∃ got,
          rxDecode s.traffic.host.dev buf = .ok (some (i.val, got)) ∧
            LoopedBack (s.traffic.host.dev.channel i).hwTsEnabled t (cutLen frame) got := by
        have hprobed : s.traffic.host.dev.Probed := hsetup.symm.probed hready.probed
        obtain ⟨haccepts, hchannel⟩ := rxAccepts_loopBack t hprobed i (toNat_len_cutLen_le frame)
        have hdecode := rxDecode_of_accepts haccepts
        have hindex := congrArg Fin.val hchannel
        simp only at hindex
        rw [hbuf, hpacket]
        rw [hchannel, hindex] at hdecode
        exact ⟨_, hdecode, loopedBack_rxFrame _ t (toNat_len_cutLen_le frame)⟩
      obtain ⟨traffic, hstep, htracks⟩ := h.tracks.step (.packet buf)
      simp only [Traffic.frameOp, hdecode, Fin.val_inj] at htracks
      refine ⟨⟨traffic, s.sent, flying.map (packetOf host)⟩,
        fun j => ops j ++ if i = j then [.push got] else [], ?_, ?_,
        (Traffic.withoutQueues_step hstep (by rintro c ⟨⟩)).trans h.host_eq, h.started,
        looped ++ [(i, frame)], flying, ?_, rfl, ?_⟩
      · simp only [Looping.step, hwire, List.map_cons, hbyte, hts, ← hbuf, hstep]
        rfl
      · simpa only [Ledger.run_append] using htracks
      · rw [hsent, List.append_assoc]
        rfl
      · intro j
        rw [pushes_append, onChannel_append]
        have hnext : List.Forall₂ (CameBack host j) (onChannel j [(i, frame)])
            (pushes (if i = j then [.push got] else [])) := by
          by_cases hij : i = j
          · subst hij
            have hframe : onChannel i [(i, frame)] = [frame] := by simp [onChannel]
            rw [hframe, if_pos rfl]
            rw [Dev.hwTsEnabled_eq_of_withoutQueues_eq hdev] at hcame
            exact .cons ⟨t, hcame⟩ .nil
          · simp [onChannel, hij, pushes]
        exact List.rel_append (hback j) hnext

/-- **Step lemma.** -/
theorem Carries.step (h : s.Carries host ops) (hready : Ready host) (e : LoopEvent n) :
    ∃ t ops', s.step e = .ok t ∧ t.Carries host ops' := by
  cases e with
  | send i frame timeoutMs rc transferred =>
      obtain ⟨t, hstep, ht⟩ := h.send i frame timeoutMs rc transferred
      exact ⟨t, ops, hstep, ht⟩
  | loop t => exact h.loop hready t
  | report buf hreport =>
      have hrefused : ¬ RxAccepts s.traffic.host.dev buf := fun haccepts =>
        hreport haccepts.received
      have hnone := rxDecode_of_not_accepts hrefused
      obtain ⟨traffic, ops', hstep, ht⟩ := h.quiet (e := .packet buf) (by rintro c ⟨⟩)
        fun i => by simp only [Traffic.frameOp, hnone, pushes]
      refine ⟨_, ops', ?_, ht⟩
      simp only [Looping.step, hstep]
      rfl
  | recv i =>
      obtain ⟨traffic, ops', hstep, ht⟩ := h.quiet (e := .recv i) (by rintro c ⟨⟩) fun j => by
        simp only [Traffic.frameOp]
        split <;> rfl
      refine ⟨_, ops', ?_, ht⟩
      simp only [Looping.step, hstep]
      rfl

/-- **Run lemma.** -/
theorem Carries.run (h : s.Carries host ops) (hready : Ready host) (events : List (LoopEvent n)) :
    ∃ t ops', s.run events = .ok t ∧ t.Carries host ops' := by
  induction events generalizing s ops with
  | nil => exact ⟨s, ops, rfl, h⟩
  | cons e events ih =>
      obtain ⟨t, ops', hstep, ht⟩ := h.step hready e
      obtain ⟨u, ops'', hrun, hu⟩ := ih ht
      refine ⟨u, ops'', ?_, hu⟩
      rw [Looping.run, List.foldlM_cons, hstep]
      exact hrun

end Steps

/-- Any starts and stops of a new device make it ready. -/
theorem ready_calls {dev : Dev n} (hopened : dev.Opened) (cs : List (Call n)) :
    Ready ((Host.init dev).calls cs) := by
  have hsteady : ((Host.init dev).calls cs).Steady := (Host.Steady.init hopened).calls cs
  have hstamped : ((Host.init dev).calls cs).Timestamped := Host.Timestamped.calls hopened cs
  refine ⟨((Host.Steady.init hopened).sameSetup_calls cs).probed hopened.toProbed, ?_⟩
  intro i hstarted
  obtain ⟨request, hlast⟩ : ∃ request,
      (startsOf ((Host.init dev).calls cs).world.modes i).getLast? = some request :=
    Option.isSome_iff_exists.mp (List.getLast?_isSome.mpr (hstamped.started i hstarted))
  rw [addsTimestamps, hlast, Option.any_some, hstamped.enabled i hstarted]
  exact hstamped.requested i request (List.mem_of_getLast? hlast)

/-- Nothing was sent yet. -/
theorem carries_init {usb : Libusb} {vid pid : UInt16} {bus addr : ℤ} {dev : Dev n}
    (hopen : usb.gsusbOpen vid pid bus addr = .ok ⟨n, dev⟩) (cs : List (Call n)) :
    Carries ((Host.init dev).calls cs) (fun _ => []) (init ((Host.init dev).calls cs)) := by
  have hnew := Traffic.tracks_init hopen
  have hqueue (i : Fin n) : (((Host.init dev).calls cs).dev.channel i).rxq = (dev.channel i).rxq :=
    (Host.init dev).rxq_calls cs i
  refine ⟨⟨?_, ?_, fun _ => rfl⟩, rfl, by simp [init], [], [], rfl, rfl, fun _ => .nil⟩
  · intro i
    show (((Host.init dev).calls cs).dev.channel i).rxq.Represents _
    rw [hqueue]
    exact hnew.represents i
  · intro i
    show (((Host.init dev).calls cs).dev.channel i).rxq.capacity = _
    rw [hqueue]
    exact hnew.capacity_eq i

/-- **Loopback.** However sends, returning packets, reports and receives are interleaved, the
received frames that came back on a channel are those of the sends on it that succeeded, in that
order, as far as they left the device; its receivers get them in this order and none twice, and get
all of them as long as they fit the queue. -/
theorem cameBack_of_run {usb : Libusb} {vid pid : UInt16} {bus addr : ℤ} {dev : Dev n}
    (hopen : usb.gsusbOpen vid pid bus addr = .ok ⟨n, dev⟩) (cs : List (Call n))
    (events : List (LoopEvent n)) :
    let host := (Host.init dev).calls cs
    ∃ t, (init host).run events = .ok t ∧ t.wire.length ≤ t.sent.length ∧ ∀ i, ∃ got,
      List.Forall₂ (CameBack host i)
          (onChannel i (t.sent.take (t.sent.length - t.wire.length))) got ∧
        (t.traffic.received i ++ (t.traffic.host.dev.channel i).rxq.content).Sublist got ∧
        (got.length ≤ gsusbRxqCapacity.toNat →
          t.traffic.received i ++ (t.traffic.host.dev.channel i).rxq.content = got) := by
  intro host
  have hready := ready_calls (Libusb.opened_of_gsusbOpen hopen) cs
  obtain ⟨t, ops, hrun, ht⟩ := (carries_init hopen cs).run hready events
  obtain ⟨looped, flying, hsent, hwire, hback⟩ := ht.wire_eq
  have hlooped : t.sent.length - t.wire.length = looped.length := by
    rw [hsent, hwire, List.length_append, List.length_map, Nat.add_sub_cancel]
  refine ⟨t, hrun, ?_, ?_⟩
  · rw [hsent, hwire, List.length_append, List.length_map]
    omega
  · intro i
    have hdelivered := ht.tracks.delivered i
    refine ⟨pushes (ops i), ?_, hdelivered.sublist, ?_⟩
    · rw [hlooped, hsent, List.take_left]
      exact hback i
    · intro hlen
      exact hdelivered.complete_iff.mpr (Ledger.keepsUp_of_length_le hlen)

/-- Two frames are sent, the first comes back and is received. -/
theorem cameBack_of_run_fdAdapter :
    ∃ dev : Dev 1, fdAdapter.gsusbOpen 0x1d50 0x606f (-1) (-1) = .ok ⟨1, dev⟩ ∧
      let host := (Host.init dev).calls [.start 0 0x2 8 .created]
      ∃ t, (init host).run [.send 0 (filledFrame 0x123 0 [1, 2]) 0 0 20,
          .send 0 (filledFrame 0x124 0 []) 0 0 20, .loop 7, .recv 0] = .ok t ∧
        t.wire.length ≤ t.sent.length ∧ ∀ i, ∃ got,
          List.Forall₂ (CameBack host i)
              (onChannel i (t.sent.take (t.sent.length - t.wire.length))) got ∧
            (t.traffic.received i ++ (t.traffic.host.dev.channel i).rxq.content).Sublist got ∧
            (got.length ≤ gsusbRxqCapacity.toNat →
              t.traffic.received i ++ (t.traffic.host.dev.channel i).rxq.content = got) := by
  obtain ⟨dev, hopen⟩ : ∃ dev : Dev 1,
      fdAdapter.gsusbOpen 0x1d50 0x606f (-1) (-1) = .ok ⟨1, dev⟩ := ⟨_, rfl⟩
  exact ⟨dev, hopen, cameBack_of_run hopen _ _⟩

end Looping

end GsUsb.Driver
