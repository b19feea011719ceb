/-
# Wire constants, byte access and frames

The constants and helpers of `gsusb_proto.h`, and the frame type of `gsusb.h`.
A read is checked against the bytes that are really there: reading past them is a
`Fault`, never a default value, so that a function proved to return `.ok` is proved
to stay inside its buffers.
-/

import GsUsb.Math.LittleEndian

namespace GsUsb.Driver

open GsUsb.Math

/-- `GS_CAN_MODE_RESET` / `GS_CAN_MODE_START`, the `mode` word of a MODE request. -/
def gsCanModeReset : UInt32 := 0

@[inherit_doc gsCanModeReset]
def gsCanModeStart : UInt32 := 1

-- `flags` word of a MODE request
def gsCanModeListenOnly : UInt32 := 0x1
def gsCanModeLoopBack : UInt32 := 0x2
def gsCanModeTripleSample : UInt32 := 0x4
def gsCanModeOneShot : UInt32 := 0x8
def gsCanModeHwTimestamp : UInt32 := 0x10
def gsCanModeFd : UInt32 := 0x100
def gsCanModeBerrReporting : UInt32 := 0x1000

-- `mode_flags` argument of `gsusb_channel_start`
def gsusbModeListenOnly : UInt32 := 0x1
def gsusbModeLoopback : UInt32 := 0x2
def gsusbModeTripleSample : UInt32 := 0x4
def gsusbModeOneShot : UInt32 := 0x8
def gsusbModeFd : UInt32 := 0x10
def gsusbModeBerrReporting : UInt32 := 0x20

-- feature bits reported by BT_CONST
def gsCanFeatureHwTimestamp : UInt32 := 0x10
def gsCanFeatureFd : UInt32 := 0x100
def gsCanFeatureBtConstExt : UInt32 := 0x400
def gsCanFeatureMask : UInt32 := 0x3FFF

-- per-frame flags on the wire
def gsCanFlagFd : UInt8 := 0x2
def gsCanFlagBrs : UInt8 := 0x4
def gsCanFlagEsi : UInt8 := 0x8

/-- The `echo_id` of a frame received from the bus. -/
def gsHostFrameEchoIdRx : UInt32 := 0xffffffff

def gsDeviceConfigSize : ℕ := 12
def gsDeviceModeSize : ℕ := 8
def gsDeviceBtConstSize : ℕ := 40
def gsDeviceBtConstExtSize : ℕ := 72
def gsHostFrameHdrSize : ℕ := 12
def gsHostFrameTsSize : ℕ := 4
def gsClassicDlen : ℕ := 8
def gsFdDlen : ℕ := 64

def gsusbEffFlag : UInt32 := 0x80000000
def gsusbRtrFlag : UInt32 := 0x40000000
def gsusbErrFlag : UInt32 := 0x20000000
def gsusbSffMask : UInt32 := 0x000007FF
def gsusbEffMask : UInt32 := 0x1FFFFFFF

def gsusbMaxDlen : ℕ := 64

-- `gsusb_frame::flags`
def gsusbFrameFd : UInt8 := 0x01
def gsusbFrameBrs : UInt8 := 0x02
def gsusbFrameEsi : UInt8 := 0x04

/-- `gs_frame_size`: wire size of a frame with `dataLen` payload bytes. -/
def gsFrameSize (dataLen : ℕ) (withTs : Bool) : ℕ :=
  gsHostFrameHdrSize + dataLen + if withTs then gsHostFrameTsSize else 0

/-- A byte string as it lies in a buffer. -/
abbrev Bytes := List UInt8

/-- An access outside the object it is made to. -/
inductive Fault
  | /-- A buffer is read at or past its end. -/
    readByte (index : ℕ)
  | /-- More bytes are copied into a frame's payload than it has room for. -/
    writeData (count : ℕ)
  | /-- The channel array is indexed at or past its end. -/
    channel (index : ℕ)
  | /-- A ring buffer is accessed at or past its end. -/
    slot (index : ℕ)
  deriving DecidableEq

/-- The byte at an index, for statements about bytes known to be there. -/
def byteAt (buf : Bytes) (i : ℕ) : UInt8 := buf.getD i 0

/-- The little-endian word at an index, for statements about bytes known to be
there. -/
def wordAt (buf : Bytes) (i : ℕ) : UInt32 :=
  le32 (byteAt buf i) (byteAt buf (i + 1)) (byteAt buf (i + 2)) (byteAt buf (i + 3))

/-- `gs_get_u8(buf + i)`. -/
def gsGetU8 (buf : Bytes) (i : ℕ) : Except Fault UInt8 :=
  match buf[i]? with
  | some b => .ok b
  | none => .error (.readByte i)

/-- `gs_get_le32(buf + i)`. -/
def gsGetLe32 (buf : Bytes) (i : ℕ) : Except Fault UInt32 := do
  let b0 ← gsGetU8 buf i
  let b1 ← gsGetU8 buf (i + 1)
  let b2 ← gsGetU8 buf (i + 2)
  let b3 ← gsGetU8 buf (i + 3)
  return le32 b0 b1 b2 b3

/-- `gs_put_le32`: the four bytes it writes. -/
def gsPutLe32 (v : UInt32) : Bytes := le32Bytes v

@[simp]
theorem length_gsPutLe32 (v : UInt32) : (gsPutLe32 v).length = 4 := rfl

/-- A read inside the buffer returns the byte there. -/
theorem gsGetU8_of_lt {buf : Bytes} {i : ℕ} (hi : i < buf.length) :
    gsGetU8 buf i = .ok (byteAt buf i) := by
  simp [gsGetU8, byteAt, List.getElem?_eq_getElem hi, List.getD_eq_getElem?_getD]

/-- A word read inside the buffer returns the word there. -/
theorem gsGetLe32_of_le {buf : Bytes} {i : ℕ} (hi : i + 4 ≤ buf.length) :
    gsGetLe32 buf i = .ok (wordAt buf i) := by
  simp only [gsGetLe32, gsGetU8_of_lt (show i < buf.length by omega),
    gsGetU8_of_lt (show i + 1 < buf.length by omega),
    gsGetU8_of_lt (show i + 2 < buf.length by omega),
    gsGetU8_of_lt (show i + 3 < buf.length by omega)]
  rfl

/-- Reading back a word written at some offset of a buffer. -/
theorem wordAt_append (before : Bytes) (v : UInt32) (after : Bytes) :
    wordAt (before ++ gsPutLe32 v ++ after) before.length = v := by
  simp [wordAt, byteAt, gsPutLe32, le32Bytes, List.getD_eq_getElem?_getD]

/-- `gsusb_frame`. -/
structure GsusbFrame where
  canId : UInt32
  len : UInt8
  flags : UInt8
  data : Vector UInt8 gsusbMaxDlen
  timestampUs : UInt32
  deriving DecidableEq

/-- `gsusb_bittiming_const`. -/
structure GsusbBittimingConst where
  feature : UInt32
  fclkCan : UInt32
  tseg1Min : UInt32
  tseg1Max : UInt32
  tseg2Min : UInt32
  tseg2Max : UInt32
  sjwMax : UInt32
  brpMin : UInt32
  brpMax : UInt32
  brpInc : UInt32
  deriving DecidableEq, Inhabited

/-- `gsusb_device_config`. -/
structure GsusbDeviceConfig where
  swVersion : UInt32
  hwVersion : UInt32
  channelCount : UInt8
  deriving DecidableEq, Inhabited

/-- The frame `memset` and `calloc` leave behind. -/
instance : Inhabited GsusbFrame := ⟨⟨0, 0, 0, Vector.replicate _ 0, 0⟩⟩

/-- A zeroed frame with the given id, flags and data. -/
def filledFrame (canId : UInt32) (flags : UInt8) (bytes : Bytes) : GsusbFrame where
  canId := canId
  len := UInt8.ofNat bytes.length
  flags := flags
  data := Vector.ofFn fun k => bytes.getD k 0
  timestampUs := 0

end GsUsb.Driver
