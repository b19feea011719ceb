/-
# The same frame from Lua and from Python

Both ways of sending end in `gsusb_channel_send`, but the limits for the data lie in three
places: `check_frame` stops at 64 bytes, `_to_ctypes` at the limit of the frame's kind, and
`gsusb_channel_send` cuts off what is over that limit.  The two ways agree, and send all they
were given, unless a classic frame has between 9 and 64 bytes.
-/

import GsUsb.Lua.Frame
import GsUsb.Math.Word
import GsUsb.Python.Frame

namespace GsUsb.Python

open GsUsb.Math GsUsb.Driver GsUsb.Lua

/-- The frame table `{id, extended, rtr, data, flags}`.  The id is the number itself, which takes a
`lua_Integer` that holds it: `luaL_checkinteger` is exact there. -/
def luaTable (id : UInt32) (extended rtr : Bool) (flags : UInt8) (data : Bytes) : FrameTable where
  id := .value id.toNat
  extended := extended
  rtr := rtr
  data := .value data
  flags := .value flags.toNat

/-- The `Frame` with the same id, flags and data. -/
def pythonFrame (id : UInt32) (extended rtr : Bool) (flags : UInt8) (data : Bytes) : Frame where
  canId := ((id &&& if extended then gsusbEffMask else gsusbSffMask) |||
    (if extended then gsusbEffFlag else 0) ||| if rtr then gsusbRtrFlag else 0).toNat
  data := data
  flags := flags.toNat
  timestampUs := 0

/-- The call from Lua returned `true`. -/
def LuaSent (result : Except Raised Outcome) : Prop := result = .ok .answered

/-- The call from Python returned. -/
def PythonSent (result : Except Exn Unit) : Prop := result = .ok ()

/-- The payload field of a packet. -/
def payloadField (packet : Bytes) : Bytes := packet.drop gsHostFrameHdrSize

/-- What is asked of the two ways: both fail with nothing sent, or both hand over the same
packet; and a packet of a call that succeeds has all the data. -/
structure Agree (lua : Except Raised Outcome × Option BulkOut)
    (python : Except Exn Unit × Option BulkOut) (data : Bytes) : Prop where
  same : (¬ LuaSent lua.1 ∧ ¬ PythonSent python.1 ∧ lua.2 = none ∧ python.2 = none) ∨
    ∃ request request', lua.2 = some request ∧ python.2 = some request' ∧
      request.buf = request'.buf
  luaWhole : LuaSent lua.1 → ∃ request, lua.2 = some request ∧ data <+: payloadField request.buf
  pythonWhole : PythonSent python.1 →
    ∃ request, python.2 = some request ∧ data <+: payloadField request.buf

variable {id : UInt32} {extended rtr : Bool} {flags : UInt8} {data : Bytes}

/-- The frame that both ways hand over. -/
def sharedFrame (id : UInt32) (extended rtr : Bool) (flags : UInt8) (data : Bytes) : GsusbFrame :=
  filledFrame (frameId id extended rtr) flags data

/-- The most data a frame with these flags can carry. -/
def room (flags : UInt8) : ℕ := if flags &&& gsusbFrameFd ≠ 0 then gsusbMaxDlen else 8

theorem room_le (flags : UInt8) : room flags ≤ gsusbMaxDlen := by
  unfold room
  split <;> decide

/-- Lua checks the data against the frame's array. -/
theorem checkFrame_luaTable :
    checkFrame (luaTable id extended rtr flags data) =
      if data.length > gsusbMaxDlen then .error (.error (tooLong data.length))
      else .ok (sharedFrame id extended rtr flags data) := by
  by_cases hlen : data.length > gsusbMaxDlen
  · simp [checkFrame, luaTable, Field.check, Field.optional, bind, Except.bind, hlen]
    rfl
  · simp [checkFrame, luaTable, Field.check, Field.optional, bind, Except.bind, hlen,
      ofInt_toNat_word, ofInt_toNat_byte]
    rfl

/-- Python checks it against the limit of the frame's kind. -/
theorem toCtypes_pythonFrame :
    (pythonFrame id extended rtr flags data).toCtypes =
      if data.length > room flags
      then .error (.valueError (pythonFrame id extended rtr flags data).tooLong)
      else .ok (sharedFrame id extended rtr flags data) := by
  have hmax : (pythonFrame id extended rtr flags data).maxLen = room flags := by
    rw [Frame.maxLen, Frame.isFd_of_flags rfl, room]
    simp
  have hframe : { filledFrame (UInt32.ofInt (pythonFrame id extended rtr flags data).canId)
      (UInt8.ofInt (pythonFrame id extended rtr flags data).flags) data with
        timestampUs := UInt32.ofInt (pythonFrame id extended rtr flags data).timestampUs } =
      sharedFrame id extended rtr flags data := by
    simp only [pythonFrame, ofInt_toNat_word, ofInt_toNat_byte]
    rfl
  rw [Frame.toCtypes, hmax]
  exact if_congr Iff.rfl rfl (congrArg Except.ok hframe)

section Channel

variable {ch : Channel}

theorem sendMaxDlen_sharedFrame :
    sendMaxDlen (sharedFrame id extended rtr flags data) = room flags := by
  simp [sendMaxDlen, sendIsFd, sharedFrame, filledFrame, room, gsFdDlen, gsClassicDlen,
    gsusbMaxDlen]

theorem toNat_len_sharedFrame (hlen : data.length ≤ gsusbMaxDlen) :
    (sharedFrame id extended rtr flags data).len.toNat = data.length := by
  have hmax : gsusbMaxDlen = 64 := rfl
  rw [sharedFrame, filledFrame, UInt8.toNat_ofNat']
  exact Nat.mod_eq_of_lt (by omega)

/-- The payload field of the packet begins with the data. -/
theorem prefix_payloadField (hlen : data.length ≤ gsusbMaxDlen) :
    data <+: payloadField (sentPacket ch (sharedFrame id extended rtr flags data)) := by
  have htake : (sharedFrame id extended rtr flags data).data.toList.take
      (sharedFrame id extended rtr flags data).len.toNat = data := by
    rw [toNat_len_sharedFrame hlen]
    apply List.ext_getElem
    · simp [hlen]
    · intro k hk hk'
      simp [sharedFrame, filledFrame, List.getElem?_eq_getElem hk']
  have hpayload : payloadField (sentPacket ch (sharedFrame id extended rtr flags data)) =
      sentPayload (sharedFrame id extended rtr flags data) := rfl
  rw [hpayload, sentPayload, htake]
  exact List.prefix_append _ _

/-- The FD flag without the feature: an error and no transfer. -/
theorem gsusbChannelSend_of_not_feature {frame : GsusbFrame} (hstarted : ch.started = true)
    (hfd : sendIsFd frame = true) (hfeature : ch.hasFeature gsCanFeatureFd = false)
    (timeoutMs : ℕ) (bulk : BulkOut → ℤ × ℕ) :
    gsusbChannelSend ch frame timeoutMs bulk = (gsusbErrInvalid, none) := by
  simp [gsusbChannelSend, sendPacket, hstarted, hfd, hfeature]

/-- Lua's call, once the table is a frame. -/
theorem chSend_of_checkFrame {t : FrameTable} {frame : GsusbFrame}
    (hframe : checkFrame t = .ok frame) (timeoutMs : Option ℤ) (bulk : BulkOut → ℤ × ℕ) :
    chSend ch t timeoutMs bulk =
      let sent := gsusbChannelSend ch frame (UInt32.ofInt (timeoutMs.getD 1000)).toNat bulk
      (if sent.1 ≠ 0 then .ok (pushGsusbError "gsusb_channel_send" sent.1) else .ok .answered,
        sent.2) := by
  simp only [chSend, hframe]
  split <;> rfl

/-- Python's call, once the `Frame` is a frame. -/
theorem send_of_toCtypes {frame : Frame} {c : GsusbFrame} (hframe : frame.toCtypes = .ok c)
    (timeoutMs : ℤ) (bulk : BulkOut → ℤ × ℕ) :
    Bus.send (some ch) frame timeoutMs bulk =
      let sent := gsusbChannelSend ch c (UInt32.ofInt timeoutMs).toNat bulk
      ((check sent.1 "send").map fun _ => (), sent.2) := by
  simp only [Bus.send, hframe]

/-- Both ways hand over one frame that fits its kind. -/
theorem agree_of_length_le (hstarted : ch.started = true) (hlen : data.length ≤ room flags)
    (luaTimeout : Option ℤ) (pythonTimeout : ℤ) (luaBulk pythonBulk : BulkOut → ℤ × ℕ) :
    Agree (chSend ch (luaTable id extended rtr flags data) luaTimeout luaBulk)
      (Bus.send (some ch) (pythonFrame id extended rtr flags data) pythonTimeout pythonBulk)
      data := by
  have hmax := hlen.trans (room_le flags)
  have hlua : checkFrame (luaTable id extended rtr flags data) =
      .ok (sharedFrame id extended rtr flags data) := by
    rw [checkFrame_luaTable, if_neg (not_lt.mpr hmax)]
  have hpython : (pythonFrame id extended rtr flags data).toCtypes =
      .ok (sharedFrame id extended rtr flags data) := by
    rw [toCtypes_pythonFrame, if_neg (not_lt.mpr hlen)]
  rw [chSend_of_checkFrame hlua, send_of_toCtypes hpython]
  by_cases hfeature : sendIsFd (sharedFrame id extended rtr flags data) = true →
      ch.hasFeature gsCanFeatureFd = true
  · have hfits : (sharedFrame id extended rtr flags data).len.toNat ≤
        sendMaxDlen (sharedFrame id extended rtr flags data) := by
      rw [toNat_len_sharedFrame hmax, sendMaxDlen_sharedFrame]
      exact hlen
    obtain ⟨request, hrequest, hbuf⟩ := gsusbChannelSend_request hstarted hfeature hfits
      (UInt32.ofInt (luaTimeout.getD 1000)).toNat luaBulk
    obtain ⟨request', hrequest', hbuf'⟩ := gsusbChannelSend_request hstarted hfeature hfits
      (UInt32.ofInt pythonTimeout).toNat pythonBulk
    refine ⟨.inr ⟨request, request', hrequest, hrequest', hbuf.trans hbuf'.symm⟩, ?_, ?_⟩
    · intro _
      exact ⟨request, hrequest, hbuf ▸ prefix_payloadField hmax⟩
    · intro _
      exact ⟨request', hrequest', hbuf' ▸ prefix_payloadField hmax⟩
  · obtain ⟨hfd, hnot⟩ := Classical.not_imp.mp hfeature
    rw [Bool.not_eq_true] at hnot
    simp only [gsusbChannelSend_of_not_feature hstarted hfd hnot]
    have hluaFails : ¬ LuaSent (if gsusbErrInvalid ≠ 0
        then .ok (pushGsusbError "gsusb_channel_send" gsusbErrInvalid) else .ok .answered) := by
      rw [if_pos (by decide)]
      intro hsent
      cases hsent
    have hpythonFails : ¬ PythonSent ((check gsusbErrInvalid "send").map fun _ => ()) := by
      rw [check, if_pos (by decide)]
      intro hsent
      cases hsent
    exact ⟨.inl ⟨hluaFails, hpythonFails, rfl, rfl⟩, fun hsent => absurd hsent hluaFails,
      fun hsent => absurd hsent hpythonFails⟩

/-- Python refuses more data than a frame of the kind can carry. -/
theorem send_of_room_lt (hroom : room flags < data.length) (timeoutMs : ℤ)
    (bulk : BulkOut → ℤ × ℕ) :
    Bus.send (some ch) (pythonFrame id extended rtr flags data) timeoutMs bulk =
      (.error (.valueError (pythonFrame id extended rtr flags data).tooLong), none) := by
  rw [Bus.send]
  dsimp only
  rw [toCtypes_pythonFrame, if_pos hroom]

/-- Both ways refuse more data than any frame can carry. -/
theorem agree_of_length_gt (hlen : gsusbMaxDlen < data.length) (luaTimeout : Option ℤ)
    (pythonTimeout : ℤ) (luaBulk pythonBulk : BulkOut → ℤ × ℕ) :
    Agree (chSend ch (luaTable id extended rtr flags data) luaTimeout luaBulk)
      (Bus.send (some ch) (pythonFrame id extended rtr flags data) pythonTimeout pythonBulk)
      data := by
  have hlua : chSend ch (luaTable id extended rtr flags data) luaTimeout luaBulk =
      (.error (.error (tooLong data.length)), none) := by
    rw [chSend, checkFrame_luaTable, if_pos hlen]
  rw [hlua, send_of_room_lt ((room_le flags).trans_lt hlen)]
  exact ⟨.inl ⟨nofun, nofun, rfl, rfl⟩, nofun, nofun⟩

/-- A classic frame is handed over whatever its length. -/
theorem exists_request_of_classic {frame : GsusbFrame} (hstarted : ch.started = true)
    (hfd : sendIsFd frame = false) (timeoutMs : ℕ) (bulk : BulkOut → ℤ × ℕ) :
    ∃ request, (gsusbChannelSend ch frame timeoutMs bulk).2 = some request := by
  obtain ⟨packet, hpacket⟩ : ∃ packet, sendPacket ch frame = .ok packet := by
    simp [sendPacket, hstarted, hfd]
  rw [gsusbChannelSend, hpacket]
  dsimp only
  split_ifs <;> exact ⟨_, rfl⟩

/-- In between Lua hands over a packet, and Python none. -/
theorem not_agree (hstarted : ch.started = true) (hroom : room flags < data.length)
    (hlen : data.length ≤ gsusbMaxDlen) (luaTimeout : Option ℤ) (pythonTimeout : ℤ)
    (luaBulk pythonBulk : BulkOut → ℤ × ℕ) :
    ¬ Agree (chSend ch (luaTable id extended rtr flags data) luaTimeout luaBulk)
      (Bus.send (some ch) (pythonFrame id extended rtr flags data) pythonTimeout pythonBulk)
      data := by
  have hlua : checkFrame (luaTable id extended rtr flags data) =
      .ok (sharedFrame id extended rtr flags data) := by
    rw [checkFrame_luaTable, if_neg (not_lt.mpr hlen)]
  have hclassic : sendIsFd (sharedFrame id extended rtr flags data) = false := by
    by_contra hfd
    rw [Bool.not_eq_false] at hfd
    have hfull : sendMaxDlen (sharedFrame id extended rtr flags data) = gsusbMaxDlen := if_pos hfd
    rw [sendMaxDlen_sharedFrame] at hfull
    omega
  obtain ⟨request, hrequest⟩ := exists_request_of_classic hstarted hclassic
    (UInt32.ofInt (luaTimeout.getD 1000)).toNat luaBulk
  rw [chSend_of_checkFrame hlua, send_of_room_lt hroom]
  intro hagree
  rcases hagree.same with ⟨-, -, hnone, -⟩ | ⟨_, request', -, hsome, -⟩
  · cases hnone.symm.trans hrequest
  · cases hsome

/-- **Exactly when Lua and Python agree and send everything.** On a started channel: when the
frame is an FD frame, has at most eight bytes, or more than any frame can carry. -/
theorem agree_iff (hstarted : ch.started = true) :
    (∀ luaTimeout pythonTimeout luaBulk pythonBulk,
      Agree (chSend ch (luaTable id extended rtr flags data) luaTimeout luaBulk)
        (Bus.send (some ch) (pythonFrame id extended rtr flags data) pythonTimeout pythonBulk)
        data) ↔
      flags &&& gsusbFrameFd ≠ 0 ∨ data.length ≤ 8 ∨ gsusbMaxDlen < data.length := by
  constructor
  · intro hagree
    by_contra hnot
    simp only [not_or, not_not, not_le, not_lt] at hnot
    obtain ⟨hfd, hlong, hmax⟩ := hnot
    have hroom : room flags < data.length := by
      rw [room, if_neg (not_not.mpr hfd)]
      exact hlong
    exact not_agree hstarted hroom hmax none 1000 (fun _ => (0, 0)) (fun _ => (0, 0))
      (hagree none 1000 _ _)
  · intro hfits luaTimeout pythonTimeout luaBulk pythonBulk
    by_cases hmax : gsusbMaxDlen < data.length
    · exact agree_of_length_gt hmax luaTimeout pythonTimeout luaBulk pythonBulk
    · apply agree_of_length_le hstarted
      rcases hfits with hfd | hshort | hlong
      · rw [room, if_pos hfd]
        exact not_lt.mp hmax
      · refine hshort.trans ?_
        unfold room
        split <;> decide
      · exact absurd hlong hmax

end Channel

/-- An FD frame of nine bytes: both ways send the same packet. -/
theorem agree_iff_fd :
    Agree
      (chSend (startedFdDev.channel 0) (luaTable 0x123 false false gsusbFrameFd
        [1, 2, 3, 4, 5, 6, 7, 8, 9]) none fun b => (0, b.buf.length))
      (Bus.send (some (startedFdDev.channel 0)) (pythonFrame 0x123 false false gsusbFrameFd
        [1, 2, 3, 4, 5, 6, 7, 8, 9]) 1000 fun b => (0, b.buf.length))
      [1, 2, 3, 4, 5, 6, 7, 8, 9] :=
  (agree_iff rfl).mpr (.inl (by decide)) none 1000 _ _

/-- A classic frame of nine bytes: Lua sends the first eight and reports success, and Python
raises an error. -/
theorem not_agree_classic :
    ∃ request,
      chSend (startedFdDev.channel 0) (luaTable 0x123 false false 0 [1, 2, 3, 4, 5, 6, 7, 8, 9])
        none (fun b => (0, b.buf.length)) = (.ok .answered, some request) ∧
      payloadField request.buf = [1, 2, 3, 4, 5, 6, 7, 8] ∧
      Bus.send (some (startedFdDev.channel 0))
        (pythonFrame 0x123 false false 0 [1, 2, 3, 4, 5, 6, 7, 8, 9]) 1000
        (fun b => (0, b.buf.length)) =
          (.error (.valueError ("frame data length 9 exceeds max 8 bytes for this frame type " ++
            "(set flags=gsusb.FRAME_FD for CAN-FD)")), none) ∧
      ¬ Agree
        (chSend (startedFdDev.channel 0) (luaTable 0x123 false false 0
          [1, 2, 3, 4, 5, 6, 7, 8, 9]) none fun b => (0, b.buf.length))
        (Bus.send (some (startedFdDev.channel 0)) (pythonFrame 0x123 false false 0
          [1, 2, 3, 4, 5, 6, 7, 8, 9]) 1000 fun b => (0, b.buf.length))
        [1, 2, 3, 4, 5, 6, 7, 8, 9] :=
  ⟨_, rfl, by decide, by decide, not_agree rfl (by decide) (by decide) _ _ _ _⟩

end GsUsb.Python
