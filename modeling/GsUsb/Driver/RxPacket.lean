/-
# Decoding one bulk-IN packet

`handle_rx_packet`: the header, the length the DLC stands for, the optional trailing
timestamp, and the push onto the queue of the channel the packet names.  The buffer
holds exactly the bytes the device sent, so every byte the decoder looks at has to be
shown to be one of them.
-/

import GsUsb.Driver.Device

namespace GsUsb.Driver

open GsUsb.Math GsUsb.Math.DropOldest

/-- `gsusb_len2dlc_cc`. -/
def gsusbLen2dlcCc (len : UInt8) : UInt8 := if len > 8 then 8 else len

/-- `gsusb_dlc2len_cc`. -/
def gsusbDlc2lenCc (dlc : UInt8) : UInt8 := if dlc > 8 then 8 else dlc

/-- `fd_dlc2len_tbl`. -/
def fdDlc2lenTbl : Vector UInt8 16 := #v[0, 1, 2, 3, 4, 5, 6, 7, 8, 12, 16, 20, 24, 32, 48, 64]

/-- The index `gsusb_dlc2len_fd` uses is inside the table. -/
theorem min_dlc_lt (dlc : UInt8) : (if dlc > 15 then 15 else dlc).toNat < 16 := by
  split
  · decide
  · rename_i h
    rw [gt_iff_lt, UInt8.lt_iff_toNat_lt] at h
    have h15 : (15 : UInt8).toNat = 15 := rfl
    omega

/-- `gsusb_dlc2len_fd`. -/
def gsusbDlc2lenFd (dlc : UInt8) : UInt8 := fdDlc2lenTbl.get ⟨_, min_dlc_lt dlc⟩

/-- `gsusb_len2dlc_fd`. -/
def gsusbLen2dlcFd (len : UInt8) : UInt8 :=
  if len ≤ 8 then len
  else if len ≤ 12 then 9
  else if len ≤ 16 then 10
  else if len ≤ 20 then 11
  else if len ≤ 24 then 12
  else if len ≤ 32 then 13
  else if len ≤ 48 then 14
  else 15

/-- A classic DLC stands for at most 8 bytes. -/
theorem gsusbDlc2lenCc_le (dlc : UInt8) : (gsusbDlc2lenCc dlc).toNat ≤ 8 := by
  unfold gsusbDlc2lenCc
  split
  · decide
  · rename_i h
    rw [gt_iff_lt, UInt8.lt_iff_toNat_lt, not_lt] at h
    exact h

/-- A CAN-FD DLC stands for at most 64 bytes. -/
theorem gsusbDlc2lenFd_le (dlc : UInt8) : (gsusbDlc2lenFd dlc).toNat ≤ 64 := by
  have htable : ∀ i : Fin 16, (fdDlc2lenTbl.get i).toNat ≤ 64 := by decide
  exact htable _

/-- `memcpy(f.data, buf + off, count)` into a zeroed payload. -/
def copyData (buf : Bytes) (off count : ℕ) : Except Fault (Vector UInt8 gsusbMaxDlen) :=
  if count > gsusbMaxDlen then .error (.writeData count)
  else if off + count > buf.length then .error (.readByte (off + count - 1))
  else .ok (Vector.ofFn fun k => if k < count then byteAt buf (off + k) else 0)

/-- The length a DLC stands for, as `handle_rx_packet` computes it. -/
def rxDataLen (isFd : Bool) (canId : UInt32) (canDlc : UInt8) (maxDlen : UInt8) : UInt8 :=
  let dataLen :=
    if isFd then gsusbDlc2lenFd canDlc
    else if canId &&& gsusbRtrFlag ≠ 0 then 0
    else gsusbDlc2lenCc canDlc
  if dataLen > maxDlen then maxDlen else dataLen

/-- The length check of `handle_rx_packet` and the timestamp it reads; `none` is its
return on a packet that is too short. -/
def rxTimestamp (hwTsEnabled : Bool) (buf : Bytes) (maxDlen dataLen : UInt8) :
    Except Fault (Option UInt32) :=
  if hwTsEnabled then
    if buf.length < gsHostFrameHdrSize + maxDlen.toNat + gsHostFrameTsSize then .ok none
    else do
      let ts ← gsGetLe32 buf (gsHostFrameHdrSize + maxDlen.toNat)
      return some ts
  else
    if buf.length < gsHostFrameHdrSize + dataLen.toNat then .ok none else .ok (some 0)

/-- The frame flags `handle_rx_packet` sets from the wire flags. -/
def rxFlags (isFd : Bool) (flags : UInt8) : UInt8 :=
  (if isFd then gsusbFrameFd else 0) |||
    (if flags &&& gsCanFlagBrs ≠ 0 then gsusbFrameBrs else 0) |||
    (if flags &&& gsCanFlagEsi ≠ 0 then gsusbFrameEsi else 0)

/-- `handle_rx_packet` up to its call of `rxq_push`: the channel and the frame it
pushes, or `none` where it returns without a push. -/
def rxDecode {n : ℕ} (dev : Dev n) (buf : Bytes) :
    Except Fault (Option (ℕ × GsusbFrame)) := do
  if buf.length < gsHostFrameHdrSize then
    return none
  let echoId ← gsGetLe32 buf 0
  let canId ← gsGetLe32 buf 4
  let canDlc ← gsGetU8 buf 8
  let channel ← gsGetU8 buf 9
  let flags ← gsGetU8 buf 10
  if channel.toNat ≥ n then
    return none
  let ch ← dev.channelAt channel.toNat
  if echoId ≠ gsHostFrameEchoIdRx then
    return none
  let isFd : Bool := flags &&& gsCanFlagFd ≠ 0
  let maxDlen := UInt8.ofNat (if isFd then gsFdDlen else gsClassicDlen)
  let dataLen := rxDataLen isFd canId canDlc maxDlen
  match ← rxTimestamp ch.hwTsEnabled buf maxDlen dataLen with
  | none => return none
  | some ts =>
    let data ← copyData buf gsHostFrameHdrSize dataLen.toNat
    return some (channel.toNat, ⟨canId, dataLen, rxFlags isFd flags, data, ts⟩)

/-- `handle_rx_packet`. -/
def handleRxPacket {n : ℕ} (dev : Dev n) (buf : Bytes) : Except Fault (Dev n) := do
  match ← rxDecode dev buf with
  | none => return dev
  | some (i, f) => dev.rxqPush i f

/-- The FD flag of a packet. -/
def rxIsFd (buf : Bytes) : Bool := byteAt buf 10 &&& gsCanFlagFd ≠ 0

/-- The payload room of a packet: 64 bytes with the FD flag, 8 without. -/
def rxMaxDlen (buf : Bytes) : ℕ := if rxIsFd buf then gsFdDlen else gsClassicDlen

/-- The payload length of a packet: from its DLC byte, and 0 for a classic remote
frame. -/
def rxLen (buf : Bytes) : UInt8 :=
  if rxIsFd buf then gsusbDlc2lenFd (byteAt buf 8)
  else if wordAt buf 4 &&& gsusbRtrFlag ≠ 0 then 0
  else gsusbDlc2lenCc (byteAt buf 8)

/-- The packets that carry a received frame for one of the channels. -/
structure RxAccepts {n : ℕ} (dev : Dev n) (buf : Bytes) : Prop where
  header : gsHostFrameHdrSize ≤ buf.length
  channel_lt : (byteAt buf 9).toNat < n
  received : wordAt buf 0 = gsHostFrameEchoIdRx
  complete : if (dev.channel ⟨_, channel_lt⟩).hwTsEnabled
    then gsHostFrameHdrSize + rxMaxDlen buf + gsHostFrameTsSize ≤ buf.length
    else gsHostFrameHdrSize + (rxLen buf).toNat ≤ buf.length

/-- The frame such a packet carries. -/
def rxFrame (hwTsEnabled : Bool) (buf : Bytes) : GsusbFrame where
  canId := wordAt buf 4
  len := rxLen buf
  flags := rxFlags (rxIsFd buf) (byteAt buf 10)
  data := Vector.ofFn fun k =>
    if k < (rxLen buf).toNat then byteAt buf (gsHostFrameHdrSize + k) else 0
  timestampUs := if hwTsEnabled then wordAt buf (gsHostFrameHdrSize + rxMaxDlen buf) else 0

/-- The length never exceeds the payload room, so the decoder's clamp is idle. -/
theorem rxLen_le (buf : Bytes) : (rxLen buf).toNat ≤ rxMaxDlen buf := by
  unfold rxLen rxMaxDlen
  by_cases hfd : rxIsFd buf = true
  · rw [if_pos hfd, if_pos hfd]
    exact gsusbDlc2lenFd_le _
  · rw [if_neg hfd, if_neg hfd]
    by_cases hrtr : wordAt buf 4 &&& gsusbRtrFlag ≠ 0
    · rw [if_pos hrtr]
      exact Nat.zero_le _
    · rw [if_neg hrtr]
      exact gsusbDlc2lenCc_le _

/-- A payload room is 64 or 8 bytes. -/
theorem rxMaxDlen_le (buf : Bytes) : rxMaxDlen buf ≤ gsusbMaxDlen := by
  unfold rxMaxDlen
  split <;> decide

theorem toNat_rxMaxDlen (buf : Bytes) : (UInt8.ofNat (rxMaxDlen buf)).toNat = rxMaxDlen buf := by
  have hle := rxMaxDlen_le buf
  rw [UInt8.toNat_ofNat']
  exact Nat.mod_eq_of_lt (by have : gsusbMaxDlen = 64 := rfl; omega)

theorem rxDataLen_eq (buf : Bytes) :
    rxDataLen (rxIsFd buf) (wordAt buf 4) (byteAt buf 8) (UInt8.ofNat (rxMaxDlen buf)) =
      rxLen buf := by
  have hclamp : ¬ rxLen buf > UInt8.ofNat (rxMaxDlen buf) := by
    rw [gt_iff_lt, UInt8.lt_iff_toNat_lt, toNat_rxMaxDlen, not_lt]
    exact rxLen_le buf
  rw [rxDataLen]
  exact if_neg hclamp

/-- The payload copy of a packet that is long enough stays inside both buffers. -/
theorem copyData_rxLen {buf : Bytes}
    (hlen : gsHostFrameHdrSize + (rxLen buf).toNat ≤ buf.length) :
    copyData buf gsHostFrameHdrSize (rxLen buf).toNat =
      .ok (rxFrame false buf).data := by
  have hle := (rxLen_le buf).trans (rxMaxDlen_le buf)
  rw [copyData, if_neg (by omega), if_neg (by omega)]
  rfl

/-- On a packet of header length, what is left after reading the header. -/
theorem rxDecode_of_header {n : ℕ} (dev : Dev n) {buf : Bytes}
    (hheader : gsHostFrameHdrSize ≤ buf.length) :
    rxDecode dev buf =
      if h : (byteAt buf 9).toNat < n then
        if wordAt buf 0 ≠ gsHostFrameEchoIdRx then .ok none
        else do
          match ← rxTimestamp (dev.channel ⟨_, h⟩).hwTsEnabled buf
              (UInt8.ofNat (rxMaxDlen buf)) (rxLen buf) with
          | none => return none
          | some ts =>
            let data ← copyData buf gsHostFrameHdrSize (rxLen buf).toNat
            return some ((byteAt buf 9).toNat,
              ⟨wordAt buf 4, rxLen buf, rxFlags (rxIsFd buf) (byteAt buf 10), data, ts⟩)
      else .ok none := by
  have hsize : 12 ≤ buf.length := hheader
  -- The header fields, each of which lies inside the buffer.
  have hechoId := gsGetLe32_of_le (show 0 + 4 ≤ buf.length by omega)
  have hcanId := gsGetLe32_of_le (show 4 + 4 ≤ buf.length by omega)
  have hcanDlc := gsGetU8_of_lt (show 8 < buf.length by omega)
  have hchannelByte := gsGetU8_of_lt (show 9 < buf.length by omega)
  have hflags := gsGetU8_of_lt (show 10 < buf.length by omega)
  rw [← rxDataLen_eq]
  by_cases hchannel : (byteAt buf 9).toNat < n
  · rw [dif_pos hchannel]
    simp only [rxDecode, if_neg (not_lt.mpr hheader), hechoId, hcanId, hcanDlc, hchannelByte,
      hflags, bind, Except.bind, pure, Except.pure,
      if_neg (not_le.mpr hchannel), Dev.channelAt, dif_pos hchannel]
    rfl
  · rw [dif_neg hchannel]
    simp only [rxDecode, if_neg (not_lt.mpr hheader), hechoId, hcanId, hcanDlc, hchannelByte,
      hflags, bind, Except.bind, pure, Except.pure,
      if_pos (not_lt.mp hchannel)]

/-- An accepted packet is decoded, inside its buffer, to the frame it carries. -/
theorem rxDecode_of_accepts {n : ℕ} {dev : Dev n} {buf : Bytes} (h : RxAccepts dev buf) :
    rxDecode dev buf = .ok (some ((byteAt buf 9).toNat,
      rxFrame (dev.channel ⟨_, h.channel_lt⟩).hwTsEnabled buf)) := by
  have hcomplete := h.complete
  have hdata : gsHostFrameHdrSize + (rxLen buf).toNat ≤ buf.length := by
    have hle := rxLen_le buf
    split at hcomplete <;> omega
  rw [rxDecode_of_header dev h.header, dif_pos h.channel_lt, if_neg (not_not.mpr h.received)]
  cases hts : (dev.channel ⟨_, h.channel_lt⟩).hwTsEnabled with
  | true =>
      rw [hts, if_pos rfl] at hcomplete
      rw [rxTimestamp, if_pos rfl, toNat_rxMaxDlen, if_neg (not_lt.mpr hcomplete),
        gsGetLe32_of_le (by simpa [gsHostFrameTsSize] using hcomplete), copyData_rxLen hdata]
      rfl
  | false =>
      rw [rxTimestamp, if_neg (by decide), if_neg (not_lt.mpr hdata), copyData_rxLen hdata]
      rfl

/-- Every other packet is dropped, without reading outside its buffer. -/
theorem rxDecode_of_not_accepts {n : ℕ} {dev : Dev n} {buf : Bytes}
    (h : ¬ RxAccepts dev buf) : rxDecode dev buf = .ok none := by
  by_cases hheader : gsHostFrameHdrSize ≤ buf.length
  · rw [rxDecode_of_header dev hheader]
    by_cases hchannel : (byteAt buf 9).toNat < n
    · rw [dif_pos hchannel]
      by_cases hecho : wordAt buf 0 = gsHostFrameEchoIdRx
      · rw [if_neg (not_not.mpr hecho)]
        have hshort := fun hcomplete => h ⟨hheader, hchannel, hecho, hcomplete⟩
        cases hts : (dev.channel ⟨_, hchannel⟩).hwTsEnabled with
        | true =>
            rw [hts, if_pos rfl] at hshort
            rw [rxTimestamp, if_pos rfl, toNat_rxMaxDlen, if_pos (not_le.mp hshort)]
            rfl
        | false =>
            rw [hts, if_neg (by decide)] at hshort
            rw [rxTimestamp, if_neg (by decide), if_pos (not_le.mp hshort)]
            rfl
      · rw [if_pos hecho]
    · rw [dif_neg hchannel]
  · rw [rxDecode, if_pos (not_le.mp hheader)]
    rfl

/-- An accepted packet enqueues its frame on the queue of the channel it names. -/
theorem handleRxPacket_of_accepts {n : ℕ} {dev : Dev n} {buf : Bytes}
    (h : RxAccepts dev buf) :
    ∃ dev', handleRxPacket dev buf = .ok dev' ∧
      dev.Enqueued dev' ⟨_, h.channel_lt⟩
        (rxFrame (dev.channel ⟨_, h.channel_lt⟩).hwTsEnabled buf) := by
  obtain ⟨dev', hpush, henqueued⟩ := dev.exists_rxqPush ⟨_, h.channel_lt⟩
    (rxFrame (dev.channel ⟨_, h.channel_lt⟩).hwTsEnabled buf)
  refine ⟨dev', ?_, henqueued⟩
  rw [handleRxPacket, rxDecode_of_accepts h]
  exact hpush

/-- A payload ends in zeros after its length. -/
theorem rxFrame_data_of_le (hwTsEnabled : Bool) (buf : Bytes) {k : ℕ} (hk : k < gsusbMaxDlen)
    (hlen : (rxLen buf).toNat ≤ k) : (rxFrame hwTsEnabled buf).data[k] = 0 := by
  simp [rxFrame, not_lt.mpr hlen]

/-- A packet that is not accepted leaves the device as it is. -/
theorem handleRxPacket_of_not_accepts {n : ℕ} {dev : Dev n} {buf : Bytes}
    (h : ¬ RxAccepts dev buf) : handleRxPacket dev buf = .ok dev := by
  rw [handleRxPacket, rxDecode_of_not_accepts h]
  rfl

/-- All `handle_rx_packet` can change is the queue of one channel. -/
theorem eq_or_eq_updateChannel_of_handleRxPacket {n : ℕ} {dev dev' : Dev n} {buf : Bytes}
    (hhandle : handleRxPacket dev buf = .ok dev') :
    dev' = dev ∨ ∃ i q, dev' = dev.updateChannel i fun ch => { ch with rxq := q } := by
  by_cases haccepts : RxAccepts dev buf
  · obtain ⟨dev'', hhandle', q, henqueued, -⟩ := handleRxPacket_of_accepts haccepts
    cases hhandle.symm.trans hhandle'
    exact .inr ⟨_, q, henqueued⟩
  · cases hhandle.symm.trans (handleRxPacket_of_not_accepts haccepts)
    exact .inl rfl

/-- **Safety and exact acceptance of the decoder.** On every byte string and every
device, `handle_rx_packet` makes no access outside the packet, the channel array or the
payload; it pushes a frame exactly on the accepted packets, to the queue of the channel
in byte 9 and to no other; and that frame is no longer than its kind allows and zero
behind its length. -/
theorem handleRxPacket_safe_and_exact {n : ℕ} (dev : Dev n) (buf : Bytes) :
    ∃ pushed dev', rxDecode dev buf = .ok pushed ∧ handleRxPacket dev buf = .ok dev' ∧
      (pushed.isSome ↔ RxAccepts dev buf) ∧
      (pushed = none → dev' = dev) ∧
      ∀ i f, pushed = some (i, f) → i = (byteAt buf 9).toNat ∧
        ∃ hi : i < n, dev.Enqueued dev' ⟨i, hi⟩ f ∧
          (∀ j, j ≠ ⟨i, hi⟩ → dev'.channel j = dev.channel j) ∧
          f.len.toNat ≤ (if rxIsFd buf then 64 else 8) ∧
          ∀ (k : ℕ) (hk : k < gsusbMaxDlen), f.len.toNat ≤ k → f.data[k] = 0 := by
  by_cases haccepts : RxAccepts dev buf
  · obtain ⟨dev', hhandle, henqueued⟩ := handleRxPacket_of_accepts haccepts
    refine ⟨_, dev', rxDecode_of_accepts haccepts, hhandle, by simpa using haccepts,
      by simp, ?_⟩
    intro i f hpushed
    cases hpushed
    refine ⟨rfl, haccepts.channel_lt, henqueued, ?_, rxLen_le buf, ?_⟩
    · intro j hj
      obtain ⟨q, rfl, -⟩ := henqueued
      exact dev.channel_updateChannel_of_ne hj.symm _
    · intro k hk hlen
      exact rxFrame_data_of_le _ buf hk hlen
  · exact ⟨none, dev, rxDecode_of_not_accepts haccepts,
      handleRxPacket_of_not_accepts haccepts, by simpa using haccepts, fun _ => rfl, by simp⟩

end GsUsb.Driver
