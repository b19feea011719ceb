/-
# The python-can adapter

`GsUsbNativeBus` translates a `can.Message` into a `Frame` and a `Frame` into a `can.Message`.
Between the two lie `_to_ctypes`, the wire, `handle_rx_packet` and `_from_ctypes`.  A message that
a device loops back comes out as it went in, except for the length that a remote frame asks for:
no stage after the first one knows of it.
-/

import GsUsb.Driver.Send
import GsUsb.Math.Word
import GsUsb.Python.Frame

namespace GsUsb.Python

open GsUsb.Math GsUsb.Driver

/-- `can.Message`, as far as the adapter uses it. -/
structure Message where
  arbitrationId : ℕ
  isExtendedId : Bool
  isRemoteFrame : Bool
  isErrorFrame : Bool
  isFd : Bool
  bitrateSwitch : Bool
  errorStateIndicator : Bool
  dlc : ℕ
  data : Bytes
  deriving DecidableEq

/-- `can.exceptions.CanOperationError`. -/
structure CanOperationError where
  message : String
  deriving DecidableEq

/-- `str(exc)`. -/
def Exn.str : Exn → String
  | .runtimeError message => message
  | .valueError message => message
  | .gsusbError _ message => message

/-- `flags` in `GsUsbNativeBus.send`. -/
def Message.frameFlags (m : Message) : UInt8 :=
  (if m.isFd then gsusbFrameFd else 0) ||| (if m.bitrateSwitch then gsusbFrameBrs else 0) |||
    if m.errorStateIndicator then gsusbFrameEsi else 0

/-- `can_id` in `GsUsbNativeBus.send`. -/
def Message.canId (m : Message) : ℕ :=
  m.arbitrationId ||| (if m.isExtendedId then gsusbEffFlag.toNat else 0) |||
    (if m.isRemoteFrame then gsusbRtrFlag.toNat else 0) |||
    if m.isErrorFrame then gsusbErrFlag.toNat else 0

/-- The `Frame` that `GsUsbNativeBus.send` makes. -/
def Message.toFrame (m : Message) : Frame where
  canId := m.canId
  data := m.data
  flags := m.frameFlags.toNat
  timestampUs := 0

namespace GsUsbNativeBus

/-- `GsUsbNativeBus.send`; the timeout is rounded to milliseconds, and `None` and zero are
`none`. -/
def send (ch : Option Channel) (m : Message) (timeoutMs : Option ℤ) (bulk : BulkOut → ℤ × ℕ) :
    Except CanOperationError Unit × Option BulkOut :=
  let (result, request) := Bus.send ch m.toFrame (timeoutMs.getD 1000) bulk
  (result.mapError fun exn => ⟨exn.str⟩, request)

/-- `GsUsbNativeBus._recv_internal` on what `Bus.recv` returned; `can.Message` takes the length of
the data for the `dlc` that is not given. -/
def recvInternal (received : Option Frame) : Option Message × Bool :=
  match received with
  | none => (none, false)
  | some frame =>
    (some
      { arbitrationId := frame.id
        isExtendedId := frame.isExtended
        isRemoteFrame := frame.isRtr
        isErrorFrame := frame.isError
        isFd := frame.isFd
        bitrateSwitch := frame.isBrs
        errorStateIndicator := frame.isEsi
        dlc := frame.data.length
        data := frame.data }, false)

end GsUsbNativeBus

/-- The messages that are no error frames and that CAN can carry. -/
structure Message.Valid (m : Message) : Prop where
  id_lt : m.arbitrationId < 2 ^ if m.isExtendedId then 29 else 11
  not_error : m.isErrorFrame = false
  classic : m.isFd = false → m.data.length ≤ 8
  fd : m.isFd = true → m.data.length ∈ fdLens
  remote : m.isRemoteFrame = true → m.isFd = false ∧ m.data = [] ∧ m.dlc ≤ 8
  dlc_eq : m.isRemoteFrame = false → m.dlc = m.data.length

/-- The message is sent on channel `i`, and the packet that the device sends back at time `t` is
decoded, enqueued on that channel and given out as an equal message. -/
def RoundTrips {n : ℕ} (dev : Dev n) (i : Fin n) (t : UInt32) (timeoutMs : Option ℤ)
    (m : Message) : Prop :=
  ∃ request got dev',
    GsUsbNativeBus.send (some (dev.channel i)) m timeoutMs (fun b => (0, b.buf.length)) =
        (.ok (), some request) ∧
      rxDecode dev (loopBack (dev.channel i).hwTsEnabled t request.buf) = .ok (some (i, got)) ∧
      handleRxPacket dev (loopBack (dev.channel i).hwTsEnabled t request.buf) = .ok dev' ∧
      dev.Enqueued dev' i got ∧
      GsUsbNativeBus.recvInternal (some (Frame.fromCtypes got)) = (some m, false)

variable {m : Message}

/-- The id of a valid message has no bit outside its mask. -/
theorem and_idMask_arbitrationId (hvalid : m.Valid) :
    UInt32.ofNat m.arbitrationId &&& idMask m.isExtendedId = UInt32.ofNat m.arbitrationId := by
  have hid := hvalid.id_lt
  have hmask : (idMask m.isExtendedId).toNat = 2 ^ (if m.isExtendedId then 29 else 11) - 1 := by
    cases m.isExtendedId <;> rfl
  have hword : 2 ^ (if m.isExtendedId then 29 else 11) ≤ 2 ^ 32 :=
    Nat.pow_le_pow_right (by decide) (by split <;> decide)
  apply UInt32.toNat_inj.mp
  rw [UInt32.toNat_and, hmask, UInt32.toNat_ofNat', Nat.mod_eq_of_lt (hid.trans_le hword),
    Nat.and_two_pow_sub_one_of_lt_two_pow hid]

/-- The id of the frame is packed from the parts of the message. -/
theorem ofInt_canId (hvalid : m.Valid) :
    UInt32.ofInt m.toFrame.canId =
      packId (UInt32.ofNat m.arbitrationId) m.isExtendedId m.isRemoteFrame false := by
  have hflag (set : Bool) (flag : UInt32) :
      UInt32.ofNat (if set then flag.toNat else 0) = if set then flag else 0 := by
    cases set with
    | true => exact UInt32.ofNat_toNat
    | false => rfl
  show UInt32.ofInt (m.canId : ℤ) = _
  rw [ofInt_natCast_word, Message.canId, UInt32.ofNat_or, UInt32.ofNat_or, UInt32.ofNat_or,
    hflag, hflag, hflag, hvalid.not_error, packId, and_idMask_arbitrationId hvalid]

/-- The three bits of the flags are the three booleans of the message. -/
theorem frameFlags_bits (m : Message) :
    (m.frameFlags &&& gsusbFrameFd ≠ 0 ↔ m.isFd = true) ∧
      (m.frameFlags &&& gsusbFrameBrs ≠ 0 ↔ m.bitrateSwitch = true) ∧
      (m.frameFlags &&& gsusbFrameEsi ≠ 0 ↔ m.errorStateIndicator = true) ∧
      m.frameFlags &&& (gsusbFrameFd ||| gsusbFrameBrs ||| gsusbFrameEsi) = m.frameFlags := by
  rw [Message.frameFlags]
  cases m.isFd <;> cases m.bitrateSwitch <;> cases m.errorStateIndicator <;> decide

theorem isFd_toFrame (m : Message) : m.toFrame.isFd = m.isFd := by
  rw [Frame.isFd_of_flags rfl, Bool.eq_iff_iff, decide_eq_true_iff]
  exact (frameFlags_bits m).1

/-- The `gsusb_frame` of a valid message. -/
def Message.sent (m : Message) : GsusbFrame :=
  filledFrame (packId (UInt32.ofNat m.arbitrationId) m.isExtendedId m.isRemoteFrame false)
    m.frameFlags m.data

/-- The data of a valid message is not too long for its kind. -/
theorem Message.Valid.length_le (hvalid : m.Valid) : m.data.length ≤ if m.isFd then 64 else 8 := by
  cases hfd : m.isFd with
  | false => exact hvalid.classic hfd
  | true =>
      have hall : ∀ l ∈ fdLens, l ≤ 64 := by decide
      exact hall _ (hvalid.fd hfd)

theorem Message.Valid.length_le_max (hvalid : m.Valid) : m.data.length ≤ gsusbMaxDlen := by
  refine hvalid.length_le.trans ?_
  split <;> decide

/-- `_to_ctypes` accepts the frame of a valid message. -/
theorem toCtypes_toFrame (hvalid : m.Valid) : m.toFrame.toCtypes = .ok m.sent := by
  have hmax : m.toFrame.maxLen = if m.isFd then 64 else 8 := by
    rw [Frame.maxLen, isFd_toFrame]
    rfl
  have hflags : UInt8.ofInt m.toFrame.flags = m.frameFlags := ofInt_toNat_byte m.frameFlags
  have htimestamp : UInt32.ofInt m.toFrame.timestampUs = 0 := rfl
  have hfits : ¬ m.toFrame.data.length > if m.isFd then 64 else 8 :=
    not_lt.mpr hvalid.length_le
  rw [Frame.toCtypes, hmax, if_neg hfits, ofInt_canId hvalid, hflags, htimestamp]
  rfl

theorem sendIsFd_sent (m : Message) : sendIsFd m.sent = m.isFd := by
  rw [Bool.eq_iff_iff, sendIsFd, decide_eq_true_iff]
  exact (frameFlags_bits m).1

theorem sendIsRtr_sent (m : Message) : sendIsRtr m.sent = (!m.isFd && m.isRemoteFrame) := by
  have hrtr : m.sent.canId &&& gsusbRtrFlag = if m.isRemoteFrame then gsusbRtrFlag else 0 :=
    packId_and_rtrFlag _ _ _ _
  rw [sendIsRtr, sendIsFd_sent, hrtr]
  cases m.isRemoteFrame <;> rfl

theorem toNat_len_sent (hvalid : m.Valid) : m.sent.len.toNat = m.data.length := by
  have hmax := hvalid.length_le_max
  show (UInt8.ofNat m.data.length).toNat = _
  rw [UInt8.toNat_ofNat', Nat.mod_eq_of_lt (hmax.trans_lt (by decide))]

/-- What comes back has the length of the data. -/
theorem toNat_len_got (hvalid : m.Valid) {hwTsEnabled : Bool} {t : UInt32} {got : GsusbFrame}
    (hgot : LoopedBack hwTsEnabled t m.sent got) : got.len.toNat = m.data.length := by
  cases hfd : m.isFd with
  | true =>
      have hleast := hgot.len_fd ((sendIsFd_sent m).trans hfd)
      rw [toNat_len_sent hvalid] at hleast
      exact le_antisymm (hleast.2 ⟨hvalid.fd hfd, le_rfl⟩) hleast.1.2
  | false =>
      rw [hgot.len_classic ((sendIsFd_sent m).trans hfd), sendIsRtr_sent, hfd]
      cases hrtr : m.isRemoteFrame with
      | true => rw [(hvalid.remote hrtr).2.1]; rfl
      | false => exact toNat_len_sent hvalid

/-- What comes back has the data. -/
theorem data_got (hvalid : m.Valid) {hwTsEnabled : Bool} {t : UInt32} {got : GsusbFrame}
    (hgot : LoopedBack hwTsEnabled t m.sent got) :
    got.data.toList.take got.len.toNat = m.data := by
  have hmax := hvalid.length_le_max
  rw [toNat_len_got hvalid hgot]
  apply List.ext_getElem
  · rw [List.length_take, Vector.length_toList, min_eq_left hmax]
  · intro k hk hk'
    have hkmax : k < gsusbMaxDlen := hk'.trans_le hmax
    have hrtr : sendIsRtr m.sent = false := by
      rw [sendIsRtr_sent, Bool.and_eq_false_imp]
      intro _
      by_contra hremote
      rw [Bool.not_eq_false] at hremote
      rw [(hvalid.remote hremote).2.1] at hk'
      exact absurd hk' (Nat.not_lt_zero k)
    have hcell := hgot.data_eq k hkmax
    rw [if_pos ⟨hrtr, (toNat_len_sent hvalid).symm ▸ hk'⟩] at hcell
    rw [List.getElem_take, Vector.getElem_toList, hcell]
    simp [Message.sent, filledFrame, List.getElem?_eq_getElem hk']

/-- **What comes out.** The message that went in, with the length of its data as its `dlc`. -/
theorem recvInternal_fromCtypes (hvalid : m.Valid) {hwTsEnabled : Bool} {t : UInt32}
    {got : GsusbFrame} (hgot : LoopedBack hwTsEnabled t m.sent got) :
    GsUsbNativeBus.recvInternal (some (Frame.fromCtypes got)) =
      (some { m with dlc := m.data.length }, false) := by
  have hdata := data_got hvalid hgot
  have hword : UInt32.ofInt (Frame.fromCtypes got).canId = packId (UInt32.ofNat m.arbitrationId)
      m.isExtendedId m.isRemoteFrame false := (ofInt_toNat_word _).trans hgot.canId_eq
  have hbyte : UInt8.ofInt (Frame.fromCtypes got).flags = m.frameFlags :=
    (ofInt_toNat_byte _).trans (hgot.flags_eq.trans (frameFlags_bits m).2.2.2)
  have hextended : (Frame.fromCtypes got).isExtended = m.isExtendedId := by
    rw [Frame.isExtended, hword, isEff, packId_and_effFlag]
    cases m.isExtendedId <;> rfl
  have hremote : (Frame.fromCtypes got).isRtr = m.isRemoteFrame := by
    rw [Frame.isRtr, hword, isRtr, packId_and_rtrFlag]
    cases m.isRemoteFrame <;> rfl
  have herror : (Frame.fromCtypes got).isError = m.isErrorFrame := by
    rw [Frame.isError, hword, isErr, packId_and_errFlag, hvalid.not_error]
    rfl
  have hid : (Frame.fromCtypes got).id = m.arbitrationId := by
    have hid32 : m.arbitrationId < 2 ^ 32 := by
      refine hvalid.id_lt.trans_le (Nat.pow_le_pow_right (by decide) ?_)
      split <;> decide
    rw [Frame.id, hextended, hword, packId_and_idMask, and_idMask_arbitrationId hvalid,
      UInt32.toNat_ofNat', Nat.mod_eq_of_lt hid32]
  have hfd : (Frame.fromCtypes got).isFd = m.isFd := by
    have hflags : got.flags = m.frameFlags := hgot.flags_eq.trans (frameFlags_bits m).2.2.2
    rw [Frame.isFd_of_flags rfl, hflags, Bool.eq_iff_iff, decide_eq_true_iff]
    exact (frameFlags_bits m).1
  have hbrs : (Frame.fromCtypes got).isBrs = m.bitrateSwitch := by
    rw [Frame.isBrs, hbyte, Bool.eq_iff_iff, decide_eq_true_iff]
    exact (frameFlags_bits m).2.1
  have hesi : (Frame.fromCtypes got).isEsi = m.errorStateIndicator := by
    rw [Frame.isEsi, hbyte, Bool.eq_iff_iff, decide_eq_true_iff]
    exact (frameFlags_bits m).2.2.1
  simp only [GsUsbNativeBus.recvInternal, hid, hextended, hremote, herror, hfd, hbrs, hesi]
  rw [show (Frame.fromCtypes got).data = m.data from hdata]

section Channel

variable {n : ℕ} {dev : Dev n} {i : Fin n}

/-- A transfer that goes through is reported as a success. -/
theorem gsusbChannelSend_of_transferred {ch : Channel} {frame : GsusbFrame} {timeoutMs : ℕ}
    {request : BulkOut}
    (hsent : (gsusbChannelSend ch frame timeoutMs fun b => (0, b.buf.length)).2 = some request) :
    gsusbChannelSend ch frame timeoutMs (fun b => (0, b.buf.length)) = (0, some request) := by
  rw [gsusbChannelSend] at hsent ⊢
  cases hpacket : sendPacket ch frame with
  | error rc => simp [hpacket] at hsent
  | ok buf =>
      simp only [hpacket] at hsent ⊢
      have hok : (0 : ℤ) ≠ libusbErrorTimeout := by decide
      simpa [hok] using hsent

/-- Sending a valid message on a channel that has the features for it. -/
theorem exists_roundTrip (hprobed : dev.Probed) (hstarted : (dev.channel i).started = true)
    (hvalid : m.Valid)
    (hfeature : m.isFd = true → (dev.channel i).hasFeature gsCanFeatureFd = true)
    (t : UInt32) (timeoutMs : Option ℤ) :
    ∃ request got dev',
      GsUsbNativeBus.send (some (dev.channel i)) m timeoutMs (fun b => (0, b.buf.length)) =
          (.ok (), some request) ∧
        rxDecode dev (loopBack (dev.channel i).hwTsEnabled t request.buf) =
          .ok (some (i, got)) ∧
        handleRxPacket dev (loopBack (dev.channel i).hwTsEnabled t request.buf) = .ok dev' ∧
        dev.Enqueued dev' i got ∧
        GsUsbNativeBus.recvInternal (some (Frame.fromCtypes got)) =
          (some { m with dlc := m.data.length }, false) := by
  have hlen : m.sent.len.toNat ≤ if sendIsFd m.sent then 64 else 8 := by
    rw [toNat_len_sent hvalid, sendIsFd_sent]
    exact hvalid.length_le
  obtain ⟨request, got, dev', hrequest, hdecode, hhandle, henqueued, hgot⟩ :=
    gsusbChannelSend_loopBack hprobed i hstarted m.sent
      (fun hfd => hfeature ((sendIsFd_sent m).symm.trans hfd)) hlen t
      (UInt32.ofInt (timeoutMs.getD 1000)).toNat fun b => (0, b.buf.length)
  refine ⟨request, got, dev', ?_, hdecode, hhandle, henqueued, recvInternal_fromCtypes hvalid hgot⟩
  simp only [GsUsbNativeBus.send, Bus.send, toCtypes_toFrame hvalid,
    gsusbChannelSend_of_transferred hrequest]
  rfl

/-- An FD message is refused where the feature is missing. -/
theorem send_of_not_feature (hvalid : m.Valid) (hfd : m.isFd = true)
    (hfeature : (dev.channel i).hasFeature gsCanFeatureFd = false)
    (timeoutMs : Option ℤ) (bulk : BulkOut → ℤ × ℕ) :
    (GsUsbNativeBus.send (some (dev.channel i)) m timeoutMs bulk).2 = none := by
  have hpacket : sendPacket (dev.channel i) m.sent = .error gsusbErrInvalid := by
    simp [sendPacket, sendIsFd_sent, hfd, hfeature]
  simp only [GsUsbNativeBus.send, Bus.send, toCtypes_toFrame hvalid, gsusbChannelSend, hpacket]

/-- **Exactly when a message comes back as it was sent.** Through a device that loops packets
back, every valid message does, unless it is a remote frame that asks for a length, or an FD
message on a channel without the feature. -/
theorem roundTrips_iff (hprobed : dev.Probed) (hstarted : (dev.channel i).started = true)
    (hvalid : m.Valid) (t : UInt32) (timeoutMs : Option ℤ) :
    RoundTrips dev i t timeoutMs m ↔
      (m.isRemoteFrame = true → m.dlc = 0) ∧
        (m.isFd = true → (dev.channel i).hasFeature gsCanFeatureFd = true) := by
  constructor
  · rintro ⟨request, got, dev', hsend, hdecode, -, -, hback⟩
    have hfeature : m.isFd = true → (dev.channel i).hasFeature gsCanFeatureFd = true := by
      intro hfd
      by_contra hnot
      rw [Bool.not_eq_true] at hnot
      have hnone := send_of_not_feature hvalid hfd hnot timeoutMs fun b => (0, b.buf.length)
      rw [hsend] at hnone
      cases hnone
    refine ⟨?_, hfeature⟩
    intro hremote
    obtain ⟨request', got', -, hsend', hdecode', -, -, hback'⟩ :=
      exists_roundTrip hprobed hstarted hvalid hfeature t timeoutMs
    -- both runs send the same packet and so decode the same frame
    cases hsend.symm.trans hsend'
    cases hdecode.symm.trans hdecode'
    have hsame := hback.symm.trans hback'
    simp only [Prod.mk.injEq, Option.some.injEq, and_true] at hsame
    calc
      m.dlc = m.data.length := congrArg Message.dlc hsame
      _ = 0 := congrArg List.length (hvalid.remote hremote).2.1
  · rintro ⟨hremote, hfeature⟩
    have hdlc : m.data.length = m.dlc := by
      cases hrtr : m.isRemoteFrame with
      | true => rw [hremote hrtr, (hvalid.remote hrtr).2.1]; rfl
      | false => exact (hvalid.dlc_eq hrtr).symm
    obtain ⟨request, got, dev', hsend, hdecode, hhandle, henqueued, hback⟩ :=
      exists_roundTrip hprobed hstarted hvalid hfeature t timeoutMs
    rw [hdlc] at hback
    exact ⟨request, got, dev', hsend, hdecode, hhandle, henqueued, hback⟩

end Channel

/-- An extended FD message of twelve bytes with both of its flags. -/
def fdMessage : Message where
  arbitrationId := 0x1ABCDEF0
  isExtendedId := true
  isRemoteFrame := false
  isErrorFrame := false
  isFd := true
  bitrateSwitch := true
  errorStateIndicator := true
  dlc := 12
  data := [1, 2, 3, 4, 5, 6, 7, 8, 9, 10, 11, 12]

/-- It comes back from the looping device. -/
theorem roundTrips_iff_fd : RoundTrips startedFdDev 0 77 none fdMessage :=
  (roundTrips_iff probed_startedFdDev (by decide)
    ⟨by decide, rfl, by decide, by decide, by decide, by decide⟩ 77 none).mpr
      ⟨by decide, by decide⟩

/-- A remote frame that asks for eight bytes. -/
def remoteMessage : Message where
  arbitrationId := 0x123
  isExtendedId := false
  isRemoteFrame := true
  isErrorFrame := false
  isFd := false
  bitrateSwitch := false
  errorStateIndicator := false
  dlc := 8
  data := []

/-- It asks for none when it comes back; already the packet that is sent has a zero for its
length. -/
theorem not_roundTrips_remote :
    remoteMessage.Valid ∧
      (∃ request got,
        GsUsbNativeBus.send (some (startedFdDev.channel 0)) remoteMessage none
          (fun b => (0, b.buf.length)) = (.ok (), some request) ∧ byteAt request.buf 8 = 0 ∧
        rxDecode startedFdDev (loopBack true 77 request.buf) = .ok (some (0, got)) ∧
        GsUsbNativeBus.recvInternal (some (Frame.fromCtypes got)) =
          (some { remoteMessage with dlc := 0 }, false)) ∧
      ¬ RoundTrips startedFdDev 0 77 none remoteMessage := by
  have hvalid : remoteMessage.Valid :=
    ⟨by decide, rfl, by decide, by decide, by decide, by decide⟩
  refine ⟨hvalid, ⟨_, _, rfl, rfl, rfl, by decide⟩, ?_⟩
  rintro ⟨request, got, dev', hsend, hdecode, -, -, hback⟩
  obtain ⟨request', got', -, hsend', hdecode', -, -, hback'⟩ :=
    exists_roundTrip (i := 0) probed_startedFdDev (by decide) hvalid (by decide) 77 none
  cases hsend.symm.trans hsend'
  cases hdecode.symm.trans hdecode'
  cases hback.symm.trans hback'

end GsUsb.Python
