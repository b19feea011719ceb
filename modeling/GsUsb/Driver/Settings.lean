/-
# The settings of the channels

The control requests that set and get something: bit timings, the mode, identify, termination and
the bus state.  On the wire they are transfers with a request code, the channel's index in `wValue`
and little-endian words, which the device keeps in registers.  Seen from above they are one record
of settings for each channel.

The device is taken to keep the data of the last OUT transfer that it took, for each request and
`wValue`, and to answer GET_TERMINATION from the register that SET_TERMINATION writes.  A transfer
that the host saw fail may have been taken all the same.
-/

import GsUsb.Driver.BrpSweep
import GsUsb.Driver.Open

namespace GsUsb.Driver

open GsUsb.Math

-- `enum gs_usb_breq`
def gsUsbBreqIdentify : UInt8 := 7
def gsUsbBreqSetTermination : UInt8 := 12
def gsUsbBreqGetTermination : UInt8 := 13
def gsUsbBreqGetState : UInt8 := 14

def gsCanIdentifyOff : UInt32 := 0
def gsCanIdentifyOn : UInt32 := 1
def gsCanTerminationStateOff : UInt32 := 0
def gsCanTerminationStateOn : UInt32 := 1

def gsDeviceBittimingSize : ℕ := 20
def gsIdentifyModeSize : ℕ := 4
def gsTerminationStateSize : ℕ := 4
def gsDeviceStateSize : ℕ := 12

/-- An OUT request: the same three fields whatever it sets. -/
abbrev OutRequest := BittimingRequest

/-- `gsusb_channel_set_bittiming_raw`. -/
def gsusbChannelSetBittimingRaw (ch : Channel) (regs : BittimingRegs) (rc : ℤ) :
    ℤ × Option OutRequest :=
  sendBittiming gsUsbBreqBittiming ch regs rc

/-- `gsusb_channel_set_data_bittiming_raw`. -/
def gsusbChannelSetDataBittimingRaw (ch : Channel) (regs : BittimingRegs) (rc : ℤ) :
    ℤ × Option OutRequest :=
  sendBittiming gsUsbBreqDataBittiming ch regs rc

/-- What the two calls with a switch share: one word, sent to the channel. -/
def sendSwitch (breq : UInt8) (word : UInt32) (ch : Channel) (rc : ℤ) : ℤ × Option OutRequest :=
  let buf := gsPutLe32 word
  (ctrlResult rc buf.length, some ⟨breq, UInt16.ofNat ch.index, buf⟩)

/-- `gsusb_channel_set_identify`. -/
def gsusbChannelSetIdentify (ch : Channel) (on : ℤ) (rc : ℤ) : ℤ × Option OutRequest :=
  sendSwitch gsUsbBreqIdentify (if on ≠ 0 then gsCanIdentifyOn else gsCanIdentifyOff) ch rc

/-- `gsusb_channel_set_termination`. -/
def gsusbChannelSetTermination (ch : Channel) (enable120ohm : ℤ) (rc : ℤ) :
    ℤ × Option OutRequest :=
  sendSwitch gsUsbBreqSetTermination
    (if enable120ohm ≠ 0 then gsCanTerminationStateOn else gsCanTerminationStateOff) ch rc

/-- An IN transfer of a request, a `wValue` and a length: what `libusb_control_transfer` returns,
and the bytes it leaves in the buffer. -/
abbrev ControlIn := UInt8 → UInt16 → ℕ → ℤ × Bytes

/-- `gsusb_channel_get_termination`: the error, or what it writes to `*enabled_120ohm`. -/
def gsusbChannelGetTermination (ch : Channel) (controlIn : ControlIn) :
    Except Fault (Except ℤ Bool) :=
  let (rc, buf) := controlIn gsUsbBreqGetTermination (UInt16.ofNat ch.index) gsTerminationStateSize
  if ctrlResult rc gsTerminationStateSize ≠ 0 then
    .ok (.error (ctrlResult rc gsTerminationStateSize))
  else do
    let word ← gsGetLe32 buf 0
    return .ok (word = gsCanTerminationStateOn)

/-- The state of a channel on the bus, with its two error counters. -/
structure BusState where
  state : UInt32
  rxerr : UInt32
  txerr : UInt32
  deriving DecidableEq

/-- `gsusb_channel_get_state`: the error, or what it writes through its three pointers. -/
def gsusbChannelGetState (ch : Channel) (controlIn : ControlIn) :
    Except Fault (Except ℤ BusState) :=
  let (rc, buf) := controlIn gsUsbBreqGetState (UInt16.ofNat ch.index) gsDeviceStateSize
  if ctrlResult rc gsDeviceStateSize ≠ 0 then .ok (.error (ctrlResult rc gsDeviceStateSize))
  else do
    let state ← gsGetLe32 buf 0
    let rxerr ← gsGetLe32 buf 4
    let txerr ← gsGetLe32 buf 8
    return .ok ⟨state, rxerr, txerr⟩

/-- A MODE request as it is sent. -/
def ModeRequest.out (request : ModeRequest) : OutRequest :=
  ⟨gsUsbBreqMode, request.wValue, gsPutLe32 request.mode ++ gsPutLe32 request.flags⟩

/-- What the device keeps for each channel. -/
inductive Register
  | bittiming
  | dataBittiming
  | identify
  | termination
  | state
  | mode
  deriving DecidableEq

namespace Register

/-- The bytes of a register. -/
def size : Register → ℕ
  | bittiming => gsDeviceBittimingSize
  | dataBittiming => gsDeviceBittimingSize
  | identify => gsIdentifyModeSize
  | termination => gsTerminationStateSize
  | state => gsDeviceStateSize
  | mode => gsDeviceModeSize

/-- The register that an OUT request writes. -/
def writtenBy (breq : UInt8) : Option Register :=
  if breq = gsUsbBreqBittiming then some bittiming
  else if breq = gsUsbBreqDataBittiming then some dataBittiming
  else if breq = gsUsbBreqIdentify then some identify
  else if breq = gsUsbBreqSetTermination then some termination
  else if breq = gsUsbBreqMode then some mode
  else none

/-- The register that an IN request reads. -/
def readBy (breq : UInt8) : Option Register :=
  if breq = gsUsbBreqGetTermination then some termination
  else if breq = gsUsbBreqGetState then some state
  else none

end Register

/-- The registers, one of each kind for each `wValue`. -/
structure Registers where
  data : Register → UInt16 → Bytes
  length_data : ∀ register wValue, (data register wValue).length = register.size

namespace Registers

/-- Replace one register. -/
def set (regs : Registers) (register : Register) (wValue : UInt16) (bytes : Bytes)
    (hlength : bytes.length = register.size) : Registers where
  data register' wValue' :=
    if register' = register ∧ wValue' = wValue then bytes else regs.data register' wValue'
  length_data register' wValue' := by
    split
    · rename_i heq
      rw [heq.1, hlength]
    · exact regs.length_data register' wValue'

/-- The device takes an OUT transfer: a request it knows, with data of the right length. -/
def take (regs : Registers) (request : OutRequest) : Registers :=
  match Register.writtenBy request.breq with
  | none => regs
  | some register =>
    if hlength : request.buf.length = register.size then
      regs.set register request.wValue request.buf hlength
    else regs

/-- The device answers an IN transfer for which libusb returns `rc`. -/
def answer (regs : Registers) (rc : ℤ) : ControlIn := fun breq wValue _ =>
  (rc, match Register.readBy breq with
    | none => []
    | some register => regs.data register wValue)

end Registers

/-- How an OUT transfer goes: what `libusb_control_transfer` returns, and whether the device took
the data of one that failed. -/
structure Transfer where
  rc : ℤ
  takenAnyway : Bool

/-- The device took all the bytes of the transfer. -/
def Transfer.Taken (transfer : Transfer) (size : ℕ) : Prop :=
  transfer.rc = size ∨ transfer.takenAnyway = true

instance (transfer : Transfer) (size : ℕ) : Decidable (transfer.Taken size) :=
  inferInstanceAs (Decidable (_ ∨ _))

/-- The two words of a MODE request. -/
structure DeviceMode where
  mode : UInt32
  flags : UInt32
  deriving DecidableEq

/-- What the control requests set and get, channel by channel. -/
structure Settings where
  bittiming : BittimingRegs
  dataBittiming : BittimingRegs
  identify : Bool
  termination : Bool
  state : BusState
  mode : DeviceMode

/-- The two phases of a frame with a bit timing each. -/
inductive Phase
  | nominal
  | data
  deriving DecidableEq

/-- One of the settings, with a value for it. -/
inductive Setting
  | bittiming (regs : BittimingRegs)
  | dataBittiming (regs : BittimingRegs)
  | identify (on : Bool)
  | termination (enabled : Bool)
  | state (state : BusState)
  | mode (mode : DeviceMode)

namespace Setting

/-- Replace one setting. -/
def apply (settings : Settings) : Setting → Settings
  | bittiming regs => { settings with bittiming := regs }
  | dataBittiming regs => { settings with dataBittiming := regs }
  | identify on => { settings with identify := on }
  | termination enabled => { settings with termination := enabled }
  | state s => { settings with state := s }
  | mode m => { settings with mode := m }

/-- The register that keeps a setting. -/
def register : Setting → Register
  | bittiming _ => .bittiming
  | dataBittiming _ => .dataBittiming
  | identify _ => .identify
  | termination _ => .termination
  | state _ => .state
  | mode _ => .mode

end Setting

/-- The bit timing of a phase. -/
def Settings.timing (settings : Settings) : Phase → BittimingRegs
  | .nominal => settings.bittiming
  | .data => settings.dataBittiming

/-- The constants that the data phase of a channel is calculated from. -/
def Channel.dataConst (ch : Channel) : GsusbBittimingConst :=
  if ch.hasDataBtConst then ch.dataBtConst else ch.btConst

/-- The constants that the timing of a phase is calculated from. -/
def Channel.timingConst (ch : Channel) : Phase → GsusbBittimingConst
  | .nominal => ch.btConst
  | .data => ch.dataConst

/-- A timing that the library calculates for a phase of a channel. -/
def Channel.Calculated (ch : Channel) (phase : Phase) (bitrate : UInt32) (samplePoint : ℚ)
    (regs : BittimingRegs) : Prop :=
  gsusbCalcBittiming (ch.timingConst phase).fclkCan bitrate samplePoint (ch.timingConst phase) =
    some (.ok regs)

/-- The five words of a bit timing. -/
def bittimingOf (buf : Bytes) : BittimingRegs :=
  ⟨wordAt buf 0, wordAt buf 4, wordAt buf 8, wordAt buf 12, wordAt buf 16⟩

/-- What the registers of a channel say. -/
def Registers.settings (regs : Registers) (wValue : UInt16) : Settings where
  bittiming := bittimingOf (regs.data .bittiming wValue)
  dataBittiming := bittimingOf (regs.data .dataBittiming wValue)
  identify := wordAt (regs.data .identify wValue) 0 = gsCanIdentifyOn
  termination := wordAt (regs.data .termination wValue) 0 = gsCanTerminationStateOn
  state :=
    let buf := regs.data .state wValue
    ⟨wordAt buf 0, wordAt buf 4, wordAt buf 8⟩
  mode :=
    let buf := regs.data .mode wValue
    ⟨wordAt buf 0, wordAt buf 4⟩

/-- The bytes that stand for a setting. -/
def Setting.encode : Setting → Bytes
  | bittiming regs => gsPutLe32 regs.propSeg ++ gsPutLe32 regs.phaseSeg1 ++
      gsPutLe32 regs.phaseSeg2 ++ gsPutLe32 regs.sjw ++ gsPutLe32 regs.brp
  | dataBittiming regs => gsPutLe32 regs.propSeg ++ gsPutLe32 regs.phaseSeg1 ++
      gsPutLe32 regs.phaseSeg2 ++ gsPutLe32 regs.sjw ++ gsPutLe32 regs.brp
  | identify on => gsPutLe32 (if on then gsCanIdentifyOn else gsCanIdentifyOff)
  | termination enabled =>
      gsPutLe32 (if enabled then gsCanTerminationStateOn else gsCanTerminationStateOff)
  | state s => gsPutLe32 s.state ++ gsPutLe32 s.rxerr ++ gsPutLe32 s.txerr
  | mode m => gsPutLe32 m.mode ++ gsPutLe32 m.flags

theorem Setting.length_encode (setting : Setting) :
    setting.encode.length = setting.register.size := by
  cases setting <;> rfl

/-- Five words written one after the other are read back. -/
theorem bittimingOf_encode (regs : BittimingRegs) :
    bittimingOf (Setting.bittiming regs).encode = regs := by
  simp [bittimingOf, Setting.encode, wordAt, byteAt, gsPutLe32, le32Bytes]

/-- A word written alone is read back. -/
theorem wordAt_gsPutLe32 (word : UInt32) : wordAt (gsPutLe32 word) 0 = word := by
  simpa using wordAt_append [] word []

/-- **Round trip.** Writing the bytes of a setting to its register changes that setting, of that
channel, and nothing else. -/
theorem Registers.settings_set (regs : Registers) (setting : Setting) (wValue wValue' : UInt16) :
    (regs.set setting.register wValue setting.encode setting.length_encode).settings wValue' =
      if wValue' = wValue then setting.apply (regs.settings wValue')
      else regs.settings wValue' := by
  by_cases hvalue : wValue' = wValue
  · rw [if_pos hvalue]
    cases setting with
    | bittiming btr =>
        simp [Registers.settings, Registers.set, Setting.register, Setting.apply, hvalue,
          bittimingOf_encode]
    | dataBittiming btr =>
        have hread := bittimingOf_encode btr
        simp [Registers.settings, Registers.set, Setting.register, Setting.apply, hvalue]
        exact hread
    | identify on =>
        have hoff : gsCanIdentifyOff ≠ gsCanIdentifyOn := by decide
        simp [Registers.settings, Registers.set, Setting.register, Setting.apply, hvalue,
          Setting.encode, wordAt_gsPutLe32, hoff]
    | termination enabled =>
        have hoff : gsCanTerminationStateOff ≠ gsCanTerminationStateOn := by decide
        simp [Registers.settings, Registers.set, Setting.register, Setting.apply, hvalue,
          Setting.encode, wordAt_gsPutLe32, hoff]
    | state s =>
        simp [Registers.settings, Registers.set, Setting.register, Setting.apply, hvalue,
          Setting.encode, wordAt, byteAt, gsPutLe32, le32Bytes]
    | mode m =>
        simp [Registers.settings, Registers.set, Setting.register, Setting.apply, hvalue,
          Setting.encode, wordAt, byteAt, gsPutLe32, le32Bytes]
  · rw [if_neg hvalue]
    simp [Registers.settings, Registers.set, hvalue]

/-- An adapter with a 48 MHz clock. -/
def clock48Adapter : Libusb :=
  { fdAdapter with controlIn := fun breq _ _ len => (len,
      if breq = gsUsbBreqBtConst then
        [clock48.feature, clock48.fclkCan, clock48.tseg1Min, clock48.tseg1Max, clock48.tseg2Min,
          clock48.tseg2Max, clock48.sjwMax, clock48.brpMin, clock48.brpMax,
          clock48.brpInc].flatMap gsPutLe32
      else List.replicate len 0) }

/-- Registers that were never written. -/
def Registers.blank : Registers where
  data register _ := List.replicate register.size 0
  length_data _ _ := List.length_replicate

end GsUsb.Driver
