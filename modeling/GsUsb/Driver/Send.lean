/-
# Sending a frame, and reading it back

`gsusb_channel_send` up to the bulk transfer and after it, and the round trip through
the wire: what a device that loops packets back returns is decoded to the frame that
was sent, with its length rounded up to one the wire format can express.
-/

import GsUsb.Driver.RxPacket
import Mathlib.Order.Bounds.Basic

namespace GsUsb.Driver

open GsUsb.Math GsUsb.Math.DropOldest

/-- `GSUSB_CTRL_TIMEOUT_MS`. -/
def gsusbCtrlTimeoutMs : ℕ := 1000

/-- `frame->flags & GSUSB_FRAME_FD`. -/
def sendIsFd (frame : GsusbFrame) : Bool := frame.flags &&& gsusbFrameFd ≠ 0

/-- The wire flags `gsusb_channel_send` sets from the frame flags. -/
def sendFlags (isFd : Bool) (flags : UInt8) : UInt8 :=
  (if isFd then gsCanFlagFd else 0) |||
    (if flags &&& gsusbFrameBrs ≠ 0 then gsCanFlagBrs else 0) |||
    (if flags &&& gsusbFrameEsi ≠ 0 then gsCanFlagEsi else 0)

/-- `max_dlen`: the payload room of a frame to send. -/
def sendMaxDlen (frame : GsusbFrame) : ℕ := if sendIsFd frame then gsFdDlen else gsClassicDlen

/-- `len`: the length of a frame, clamped to its payload room. -/
def sendLen (frame : GsusbFrame) : UInt8 :=
  if frame.len > UInt8.ofNat (sendMaxDlen frame) then UInt8.ofNat (sendMaxDlen frame)
  else frame.len

/-- The packet `gsusb_channel_send` builds, or the error it returns before the
transfer. -/
def sendPacket (ch : Channel) (frame : GsusbFrame) : Except ℤ Bytes :=
  if ch.started = false then .error gsusbErrInvalid
  else
    let isFd := sendIsFd frame
    if isFd && !ch.hasFeature gsCanFeatureFd then .error gsusbErrInvalid
    else
      let len := sendLen frame
      let dlc := if isFd then gsusbLen2dlcFd len else gsusbLen2dlcCc len
      .ok (gsPutLe32 0 ++ gsPutLe32 frame.canId ++
        [dlc, UInt8.ofNat ch.index, sendFlags isFd frame.flags, 0] ++
        frame.data.toList.take len.toNat ++
        List.replicate (sendMaxDlen frame - len.toNat) 0)

/-- A bulk-OUT transfer: the bytes handed over and the timeout. -/
structure BulkOut where
  buf : Bytes
  timeoutMs : ℕ
  deriving DecidableEq

/-- `gsusb_channel_send`, with the transfer's `rc` and `transferred` given by `bulk`:
the return value and the transfer it makes, if any. -/
def gsusbChannelSend (ch : Channel) (frame : GsusbFrame) (timeoutMs : ℕ)
    (bulk : BulkOut → ℤ × ℕ) : ℤ × Option BulkOut :=
  match sendPacket ch frame with
  | .error rc => (rc, none)
  | .ok buf =>
    let request := ⟨buf, if timeoutMs ≠ 0 then timeoutMs else gsusbCtrlTimeoutMs⟩
    let (rc, transferred) := bulk request
    if rc = libusbErrorTimeout then (gsusbErrTimeout, some request)
    else if rc ≠ 0 then (mapLibusbErr rc, some request)
    else if transferred ≠ buf.length then (gsusbErrIo, some request)
    else (0, some request)

/-- What a device sends back for a packet it loops back: the echo id of a received
frame and, with hardware timestamps, the time at the end. -/
def loopBack (hwTsEnabled : Bool) (t : UInt32) (packet : Bytes) : Bytes :=
  gsPutLe32 gsHostFrameEchoIdRx ++ packet.drop 4 ++ if hwTsEnabled then gsPutLe32 t else []

/-- The remote flag of a frame, which only classic frames honour. -/
def sendIsRtr (frame : GsusbFrame) : Bool :=
  !sendIsFd frame && frame.canId &&& gsusbRtrFlag ≠ 0

/-- The lengths a CAN-FD frame can have. -/
def fdLens : List ℕ := fdDlc2lenTbl.toList.map UInt8.toNat

/-- What has to come back for a frame that was sent and looped back at time `t`. -/
structure LoopedBack (hwTsEnabled : Bool) (t : UInt32) (sent got : GsusbFrame) : Prop where
  canId_eq : got.canId = sent.canId
  flags_eq : got.flags = sent.flags &&& (gsusbFrameFd ||| gsusbFrameBrs ||| gsusbFrameEsi)
  timestamp_eq : got.timestampUs = if hwTsEnabled then t else 0
  len_classic : sendIsFd sent = false → got.len = if sendIsRtr sent then 0 else sent.len
  len_fd : sendIsFd sent = true →
    IsLeast {l | l ∈ fdLens ∧ sent.len.toNat ≤ l} got.len.toNat
  data_eq : ∀ (k : ℕ) (hk : k < gsusbMaxDlen), got.data[k] =
    if sendIsRtr sent = false ∧ k < sent.len.toNat then sent.data[k] else 0

/-- The flag bytes of frame and wire are renamings of each other. -/
theorem sendFlags_spec (flags : UInt8) :
    let isFd : Bool := flags &&& gsusbFrameFd ≠ 0
    let wire := sendFlags isFd flags
    decide (wire &&& gsCanFlagFd ≠ 0) = isFd ∧
      rxFlags isFd wire = flags &&& (gsusbFrameFd ||| gsusbFrameBrs ||| gsusbFrameEsi) := by
  have hall : ∀ bits : Fin 256,
      let flags : UInt8 := ⟨⟨bits⟩⟩
      let isFd : Bool := flags &&& gsusbFrameFd ≠ 0
      let wire := sendFlags isFd flags
      decide (wire &&& gsCanFlagFd ≠ 0) = isFd ∧
        rxFlags isFd wire = flags &&& (gsusbFrameFd ||| gsusbFrameBrs ||| gsusbFrameEsi) := by
    decide +kernel
  exact hall flags.toBitVec.toFin

/-- A classic length survives the way through the DLC. -/
theorem gsusbDlc2lenCc_gsusbLen2dlcCc {len : UInt8} (hlen : len.toNat ≤ 8) :
    gsusbDlc2lenCc (gsusbLen2dlcCc len) = len := by
  have hle : ¬ len > 8 := by
    rw [gt_iff_lt, UInt8.lt_iff_toNat_lt, not_lt]
    exact hlen
  rw [gsusbLen2dlcCc, if_neg hle, gsusbDlc2lenCc, if_neg hle]

/-- A CAN-FD length comes back as the smallest length of the table that is not
below it. -/
theorem isLeast_gsusbDlc2lenFd {len : UInt8} (hlen : len.toNat ≤ 64) :
    IsLeast {l | l ∈ fdLens ∧ len.toNat ≤ l}
      (gsusbDlc2lenFd (gsusbLen2dlcFd len)).toNat := by
  have hall : ∀ k : Fin 65,
      let got := (gsusbDlc2lenFd (gsusbLen2dlcFd (UInt8.ofNat k))).toNat
      (got ∈ fdLens ∧ k.val ≤ got) ∧ ∀ l ∈ fdLens, k.val ≤ l → got ≤ l := by
    decide +kernel
  obtain ⟨hgot, hleast⟩ := hall ⟨len.toNat, by omega⟩
  rw [UInt8.ofNat_toNat] at hgot hleast
  exact ⟨hgot, fun l hl => hleast l hl.1 hl.2⟩

/-- The packet of a frame whose length fits its kind. -/
def sentPacket (ch : Channel) (frame : GsusbFrame) : Bytes :=
  gsPutLe32 0 ++ gsPutLe32 frame.canId ++
    [if sendIsFd frame then gsusbLen2dlcFd frame.len else gsusbLen2dlcCc frame.len,
      UInt8.ofNat ch.index, sendFlags (sendIsFd frame) frame.flags, 0] ++
    frame.data.toList.take frame.len.toNat ++
    List.replicate (sendMaxDlen frame - frame.len.toNat) 0

theorem sendMaxDlen_le (frame : GsusbFrame) : sendMaxDlen frame ≤ 64 := by
  unfold sendMaxDlen
  split <;> decide

/-- A length that fits is not clamped. -/
theorem sendLen_eq {frame : GsusbFrame} (hlen : frame.len.toNat ≤ sendMaxDlen frame) :
    sendLen frame = frame.len := by
  have hmax := sendMaxDlen_le frame
  have hclamp : ¬ frame.len > UInt8.ofNat (sendMaxDlen frame) := by
    rw [gt_iff_lt, UInt8.lt_iff_toNat_lt, UInt8.toNat_ofNat', Nat.mod_eq_of_lt (by omega),
      not_lt]
    exact hlen
  rw [sendLen, if_neg hclamp]

/-- A started channel with the features the frame asks for hands over the frame's
packet. -/
theorem gsusbChannelSend_request {ch : Channel} {frame : GsusbFrame}
    (hstarted : ch.started = true)
    (hfeature : sendIsFd frame = true → ch.hasFeature gsCanFeatureFd = true)
    (hlen : frame.len.toNat ≤ sendMaxDlen frame) (timeoutMs : ℕ) (bulk : BulkOut → ℤ × ℕ) :
    ∃ request, (gsusbChannelSend ch frame timeoutMs bulk).2 = some request ∧
      request.buf = sentPacket ch frame := by
  have hchecks : ¬ (sendIsFd frame && !ch.hasFeature gsCanFeatureFd) = true := by
    cases hfd : sendIsFd frame with
    | true => simp [hfeature hfd]
    | false => simp
  have hpacket : sendPacket ch frame = .ok (sentPacket ch frame) := by
    simp only [sendPacket, hstarted, Bool.true_eq_false, if_false, if_neg hchecks,
      sendLen_eq hlen]
    rfl
  refine ⟨⟨sentPacket ch frame, if timeoutMs ≠ 0 then timeoutMs else gsusbCtrlTimeoutMs⟩,
    ?_, rfl⟩
  rw [gsusbChannelSend, hpacket]
  dsimp only
  split_ifs <;> rfl

section LoopBack

variable {ch : Channel} {frame : GsusbFrame} (hwTsEnabled : Bool) (t : UInt32)

/-- The payload room of the packet: the frame's bytes up to its length, then zeros. -/
def sentPayload (frame : GsusbFrame) : Bytes :=
  frame.data.toList.take frame.len.toNat ++
    List.replicate (sendMaxDlen frame - frame.len.toNat) 0

/-- The payload fills its room. -/
theorem length_sentPayload (hlen : frame.len.toNat ≤ sendMaxDlen frame) :
    (sentPayload frame).length = sendMaxDlen frame := by
  have hmax : frame.len.toNat ≤ gsusbMaxDlen := hlen.trans (sendMaxDlen_le frame)
  rw [sentPayload, List.length_append, List.length_take, Vector.length_toList,
    min_eq_left hmax, List.length_replicate]
  omega

/-- The looped-back packet is twelve header bytes, the payload and the timestamp. -/
theorem exists_loopBack_eq (ch : Channel) (frame : GsusbFrame) (hwTsEnabled : Bool)
    (t : UInt32) :
    ∃ header : Bytes, header.length = gsHostFrameHdrSize ∧
      loopBack hwTsEnabled t (sentPacket ch frame) =
        header ++ sentPayload frame ++ if hwTsEnabled then gsPutLe32 t else [] :=
  ⟨gsPutLe32 gsHostFrameEchoIdRx ++ gsPutLe32 frame.canId ++
    [if sendIsFd frame then gsusbLen2dlcFd frame.len else gsusbLen2dlcCc frame.len,
      UInt8.ofNat ch.index, sendFlags (sendIsFd frame) frame.flags, 0], rfl, rfl⟩

theorem length_loopBack (hlen : frame.len.toNat ≤ sendMaxDlen frame) :
    (loopBack hwTsEnabled t (sentPacket ch frame)).length =
      gsFrameSize (sendMaxDlen frame) hwTsEnabled := by
  obtain ⟨header, hheader, hbuf⟩ := exists_loopBack_eq ch frame hwTsEnabled t
  rw [hbuf, List.length_append, List.length_append, hheader, length_sentPayload hlen]
  cases hwTsEnabled <;> rfl

/-- The FD flag comes back. -/
theorem rxIsFd_loopBack :
    rxIsFd (loopBack hwTsEnabled t (sentPacket ch frame)) = sendIsFd frame :=
  (sendFlags_spec frame.flags).1

theorem rxMaxDlen_loopBack :
    rxMaxDlen (loopBack hwTsEnabled t (sentPacket ch frame)) = sendMaxDlen frame := by
  rw [rxMaxDlen, rxIsFd_loopBack, sendMaxDlen]

theorem wordAt_four_loopBack :
    wordAt (loopBack hwTsEnabled t (sentPacket ch frame)) 4 = frame.canId :=
  le32_le32Bytes frame.canId

theorem byteAt_nine_loopBack :
    byteAt (loopBack hwTsEnabled t (sentPacket ch frame)) 9 = UInt8.ofNat ch.index := rfl

/-- The length byte that comes back stands for this length. -/
theorem rxLen_loopBack :
    rxLen (loopBack hwTsEnabled t (sentPacket ch frame)) =
      if sendIsFd frame then gsusbDlc2lenFd (gsusbLen2dlcFd frame.len)
      else if frame.canId &&& gsusbRtrFlag ≠ 0 then 0
      else gsusbDlc2lenCc (gsusbLen2dlcCc frame.len) := by
  rw [rxLen, rxIsFd_loopBack, wordAt_four_loopBack]
  have hdlc : byteAt (loopBack hwTsEnabled t (sentPacket ch frame)) 8 =
      if sendIsFd frame then gsusbLen2dlcFd frame.len else gsusbLen2dlcCc frame.len := rfl
  cases hfd : sendIsFd frame with
  | true => simp [hdlc, hfd]
  | false => simp [hdlc, hfd]

/-- The payload bytes come back, followed by zeros. -/
theorem byteAt_loopBack (hlen : frame.len.toNat ≤ sendMaxDlen frame) {k : ℕ}
    (hk : k < sendMaxDlen frame) (hkmax : k < gsusbMaxDlen) :
    byteAt (loopBack hwTsEnabled t (sentPacket ch frame)) (gsHostFrameHdrSize + k) =
      if k < frame.len.toNat then frame.data[k] else 0 := by
  obtain ⟨header, hheader, hbuf⟩ := exists_loopBack_eq ch frame hwTsEnabled t
  have hpayload : k < (sentPayload frame).length := by rwa [length_sentPayload hlen]
  have hcell : byteAt (loopBack hwTsEnabled t (sentPacket ch frame)) (gsHostFrameHdrSize + k) =
      (sentPayload frame)[k] := by
    rw [hbuf, byteAt, List.append_assoc, ← hheader, List.getD_eq_getElem?_getD,
      List.getElem?_append_right (Nat.le_add_right _ _), Nat.add_sub_cancel_left,
      List.getElem?_append_left hpayload, List.getElem?_eq_getElem hpayload]
    rfl
  rw [hcell]
  have hmax : frame.len.toNat ≤ gsusbMaxDlen := hlen.trans (sendMaxDlen_le frame)
  by_cases hk' : k < frame.len.toNat
  · rw [if_pos hk']
    simp [sentPayload, hk', hkmax]
  · rw [if_neg hk']
    simp [sentPayload, List.getElem_append, hk', hmax]

/-- The timestamp comes back from behind the payload. -/
theorem wordAt_loopBack (hlen : frame.len.toNat ≤ sendMaxDlen frame) :
    wordAt (loopBack true t (sentPacket ch frame)) (gsHostFrameHdrSize + sendMaxDlen frame) =
      t := by
  obtain ⟨header, hheader, hbuf⟩ := exists_loopBack_eq ch frame true t
  have hword := wordAt_append (header ++ sentPayload frame) t []
  rw [List.length_append, hheader, length_sentPayload hlen, List.append_nil] at hword
  rw [hbuf]
  exact hword

/-- A classic frame comes back with its own length, a remote one with none. -/
theorem rxLen_loopBack_classic (hlen : frame.len.toNat ≤ sendMaxDlen frame)
    (hfd : sendIsFd frame = false) :
    rxLen (loopBack hwTsEnabled t (sentPacket ch frame)) =
      if sendIsRtr frame then 0 else frame.len := by
  rw [sendMaxDlen, hfd] at hlen
  rw [rxLen_loopBack, hfd, gsusbDlc2lenCc_gsusbLen2dlcCc hlen]
  simp [sendIsRtr, hfd]

/-- An FD frame comes back with the next length there is. -/
theorem rxLen_loopBack_fd (hlen : frame.len.toNat ≤ sendMaxDlen frame)
    (hfd : sendIsFd frame = true) :
    IsLeast {l | l ∈ fdLens ∧ frame.len.toNat ≤ l}
      (rxLen (loopBack hwTsEnabled t (sentPacket ch frame))).toNat := by
  rw [sendMaxDlen, hfd] at hlen
  rw [rxLen_loopBack, hfd]
  exact isLeast_gsusbDlc2lenFd hlen

/-- The frame's bytes up to its length come back, and zeros behind them. -/
theorem rxFrame_data_loopBack (hlen : frame.len.toNat ≤ sendMaxDlen frame) {k : ℕ}
    (hk : k < gsusbMaxDlen) :
    (rxFrame hwTsEnabled (loopBack hwTsEnabled t (sentPacket ch frame))).data[k] =
      if sendIsRtr frame = false ∧ k < frame.len.toNat then frame.data[k] else 0 := by
  have hroom := rxLen_le (loopBack hwTsEnabled t (sentPacket ch frame))
  rw [rxMaxDlen_loopBack] at hroom
  have hcell : (rxFrame hwTsEnabled (loopBack hwTsEnabled t (sentPacket ch frame))).data[k] =
      if k < (rxLen (loopBack hwTsEnabled t (sentPacket ch frame))).toNat
      then if k < frame.len.toNat then frame.data[k] else 0 else 0 := by
    simp only [rxFrame, Vector.getElem_ofFn]
    by_cases hk' : k < (rxLen (loopBack hwTsEnabled t (sentPacket ch frame))).toNat
    · rw [if_pos hk', if_pos hk', byteAt_loopBack hwTsEnabled t hlen (hk'.trans_le hroom) hk]
    · rw [if_neg hk', if_neg hk']
  rw [hcell]
  cases hfd : sendIsFd frame with
  | true =>
      have hle : frame.len.toNat ≤
          (rxLen (loopBack hwTsEnabled t (sentPacket ch frame))).toNat :=
        (rxLen_loopBack_fd hwTsEnabled t hlen hfd).1.2
      by_cases hk' : k < frame.len.toNat
      · simp [sendIsRtr, hfd, hk', hk'.trans_le hle]
      · simp [hk']
  | false =>
      rw [rxLen_loopBack_classic hwTsEnabled t hlen hfd]
      cases hrtr : sendIsRtr frame with
      | true => simp
      | false =>
          by_cases hk' : k < frame.len.toNat
          · simp [hk']
          · simp [hk']

/-- The looped-back packet carries the frame that was sent. -/
theorem loopedBack_rxFrame (hlen : frame.len.toNat ≤ sendMaxDlen frame) :
    LoopedBack hwTsEnabled t frame
      (rxFrame hwTsEnabled (loopBack hwTsEnabled t (sentPacket ch frame))) where
  canId_eq := wordAt_four_loopBack hwTsEnabled t
  flags_eq := by
    show rxFlags (rxIsFd _) _ = _
    rw [rxIsFd_loopBack]
    exact (sendFlags_spec frame.flags).2
  timestamp_eq := by
    show (if hwTsEnabled then wordAt _ (gsHostFrameHdrSize + rxMaxDlen _) else 0) = _
    cases hwTsEnabled with
    | true => rw [if_pos rfl, if_pos rfl, rxMaxDlen_loopBack, wordAt_loopBack t hlen]
    | false => rfl
  len_classic := rxLen_loopBack_classic hwTsEnabled t hlen
  len_fd := rxLen_loopBack_fd hwTsEnabled t hlen
  data_eq := fun _ hk => rxFrame_data_loopBack hwTsEnabled t hlen hk

/-- The looped-back packet is accepted, by the channel that sent it. -/
theorem rxAccepts_loopBack {n : ℕ} {dev : Dev n} (hprobed : dev.Probed) (i : Fin n)
    (hlen : frame.len.toNat ≤ sendMaxDlen frame) :
    ∃ h : RxAccepts dev (loopBack (dev.channel i).hwTsEnabled t
        (sentPacket (dev.channel i) frame)),
      (⟨_, h.channel_lt⟩ : Fin n) = i := by
  have hindex : (byteAt (loopBack (dev.channel i).hwTsEnabled t
      (sentPacket (dev.channel i) frame)) 9).toNat = i := by
    have hi := i.isLt
    have hcount := hprobed.count_le
    rw [byteAt_nine_loopBack, hprobed.index_eq, UInt8.toNat_ofNat', Nat.mod_eq_of_lt (by omega)]
  have hsize : (loopBack (dev.channel i).hwTsEnabled t (sentPacket (dev.channel i) frame)).length =
      gsFrameSize (sendMaxDlen frame) (dev.channel i).hwTsEnabled := length_loopBack _ t hlen
  have hlt : (byteAt (loopBack (dev.channel i).hwTsEnabled t
      (sentPacket (dev.channel i) frame)) 9).toNat < n := hindex ▸ i.isLt
  have hchannel : (⟨_, hlt⟩ : Fin n) = i := Fin.ext hindex
  refine ⟨⟨?_, hlt, le32_le32Bytes gsHostFrameEchoIdRx, ?_⟩, hchannel⟩
  · rw [hsize, gsFrameSize, Nat.add_assoc]
    exact Nat.le_add_right _ _
  · rw [hchannel, hsize, rxMaxDlen_loopBack]
    have hroom := rxLen_le (loopBack (dev.channel i).hwTsEnabled t
      (sentPacket (dev.channel i) frame))
    rw [rxMaxDlen_loopBack] at hroom
    cases hts : (dev.channel i).hwTsEnabled with
    | true => exact le_rfl
    | false =>
        rw [hts] at hroom
        exact Nat.add_le_add_left hroom _

end LoopBack

/-- **The wire round trip.** A frame that fits its kind, sent on a started channel of an
opened device and looped back by it, is decoded and enqueued once, on the same channel,
as the frame that was sent with its length rounded up to one that exists. -/
theorem gsusbChannelSend_loopBack {n : ℕ} {dev : Dev n} (hprobed : dev.Probed) (i : Fin n)
    (hstarted : (dev.channel i).started = true) (frame : GsusbFrame)
    (hfeature : sendIsFd frame = true → (dev.channel i).hasFeature gsCanFeatureFd = true)
    (hlen : frame.len.toNat ≤ if sendIsFd frame then 64 else 8) (t : UInt32)
    (timeoutMs : ℕ) (bulk : BulkOut → ℤ × ℕ) :
    ∃ request got dev',
      (gsusbChannelSend (dev.channel i) frame timeoutMs bulk).2 = some request ∧
      rxDecode dev (loopBack (dev.channel i).hwTsEnabled t request.buf) =
        .ok (some (i, got)) ∧
      handleRxPacket dev (loopBack (dev.channel i).hwTsEnabled t request.buf) = .ok dev' ∧
      dev.Enqueued dev' i got ∧
      LoopedBack (dev.channel i).hwTsEnabled t frame got := by
  obtain ⟨request, hrequest, hbuf⟩ :=
    gsusbChannelSend_request hstarted hfeature hlen timeoutMs bulk
  obtain ⟨haccepts, hchannel⟩ := rxAccepts_loopBack t hprobed i hlen
  have hdecode := rxDecode_of_accepts haccepts
  obtain ⟨dev', hhandle, henqueued⟩ := handleRxPacket_of_accepts haccepts
  have hindex := congrArg Fin.val hchannel
  rw [hchannel] at hdecode henqueued
  refine ⟨request, _, dev', hrequest, ?_, ?_, henqueued,
    loopedBack_rxFrame _ t hlen⟩
  · rw [hbuf, hdecode]
    exact congrArg (fun k => Except.ok (some (k, _))) hindex
  · rw [hbuf]
    exact hhandle

/-- A one-channel FD device whose channel runs with timestamps. -/
def startedFdDev : Dev 1 :=
  (Dev.ofChannels default #v[Channel.ofBtConst 0
    { (default : GsusbBittimingConst) with
      feature := gsCanFeatureFd ||| gsCanFeatureHwTimestamp } none] (by decide) 80).updateChannel 0
    fun ch => { ch with started := true, hwTsEnabled := true }

theorem probed_startedFdDev : startedFdDev.Probed where
  count_le := by decide
  index_eq := by decide
  frameSize_le := by decide

/-- A nine-byte FD frame comes back from the looping device. -/
theorem gsusbChannelSend_loopBack_fd :
    ∃ request got dev',
      (gsusbChannelSend (startedFdDev.channel 0)
        { (default : GsusbFrame) with len := 9, flags := gsusbFrameFd } 0
        fun b => (0, b.buf.length)).2 = some request ∧
      rxDecode startedFdDev (loopBack true 77 request.buf) = .ok (some (0, got)) ∧
      handleRxPacket startedFdDev (loopBack true 77 request.buf) = .ok dev' ∧
      startedFdDev.Enqueued dev' 0 got ∧
      LoopedBack true 77 { (default : GsusbFrame) with len := 9, flags := gsusbFrameFd } got :=
  gsusbChannelSend_loopBack probed_startedFdDev 0 rfl _ (by decide) (by decide) 77 0 _

end GsUsb.Driver
