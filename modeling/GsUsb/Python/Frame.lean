/-
# Sending from Python

`Frame` with its way from and to a `gsusb_frame`: `_to_ctypes` checks the data against the limit
of the frame's kind.  Then `Bus.send`.
-/

import GsUsb.Driver.CanId
import GsUsb.Driver.Open
import GsUsb.Driver.Send

namespace GsUsb.Python

open GsUsb.Driver GsUsb.Math

/-- `Frame`; an `int` of Python has no bounds. -/
structure Frame where
  canId : ℤ
  data : Bytes
  flags : ℤ
  timestampUs : ℤ

/-- An exception that leaves a method of `Bus`. -/
inductive Exn where
  | runtimeError (message : String)
  | valueError (message : String)
  | gsusbError (code : ℤ) (message : String)
  deriving DecidableEq

/-- `self.flags & FRAME_FD`, whose only bit is bit 0. -/
def Frame.isFd (frame : Frame) : Bool := frame.flags % 2 ≠ 0

/-- `self.flags & FRAME_BRS`, a bit of the lowest byte. -/
def Frame.isBrs (frame : Frame) : Bool := UInt8.ofInt frame.flags &&& gsusbFrameBrs ≠ 0

/-- `self.flags & FRAME_ESI`. -/
def Frame.isEsi (frame : Frame) : Bool := UInt8.ofInt frame.flags &&& gsusbFrameEsi ≠ 0

/-- `self.can_id & EFF_FLAG`, a bit of the lowest four bytes. -/
def Frame.isExtended (frame : Frame) : Bool := isEff (UInt32.ofInt frame.canId)

/-- `self.can_id & RTR_FLAG`. -/
def Frame.isRtr (frame : Frame) : Bool := Driver.isRtr (UInt32.ofInt frame.canId)

/-- `self.can_id & ERR_FLAG`. -/
def Frame.isError (frame : Frame) : Bool := isErr (UInt32.ofInt frame.canId)

/-- The bare arbitration id. -/
def Frame.id (frame : Frame) : ℕ :=
  (UInt32.ofInt frame.canId &&& idMask frame.isExtended).toNat

/-- `Frame._from_ctypes`. -/
def Frame.fromCtypes (c : GsusbFrame) : Frame where
  canId := c.canId.toNat
  data := c.data.toList.take c.len.toNat
  flags := c.flags.toNat
  timestampUs := c.timestampUs.toNat

/-- The FD flag is the same bit in the byte that becomes of the flags. -/
theorem Frame.isFd_of_flags {frame : Frame} {flags : UInt8} (hflags : frame.flags = flags.toNat) :
    frame.isFd = decide (flags &&& gsusbFrameFd ≠ 0) := by
  have hbit : (flags &&& gsusbFrameFd).toNat = flags.toNat % 2 := by
    rw [UInt8.toNat_and]
    exact Nat.and_one_is_mod _
  have hzero : flags &&& gsusbFrameFd = 0 ↔ flags.toNat % 2 = 0 := by
    rw [← UInt8.toNat_inj, hbit]
    rfl
  rw [Frame.isFd, decide_eq_decide, hflags, ne_eq, ne_eq, hzero]
  omega

/-- The most data that `_to_ctypes` takes. -/
def Frame.maxLen (frame : Frame) : ℕ := if frame.isFd then gsusbMaxDlen else 8

/-- The text of the error that `_to_ctypes` raises. -/
def Frame.tooLong (frame : Frame) : String :=
  "frame data length " ++ toString frame.data.length ++ " exceeds max " ++
    toString frame.maxLen ++ " bytes for this frame type (set flags=gsusb.FRAME_FD for CAN-FD)"

/-- `Frame._to_ctypes`; assigning to a field of a ctypes structure keeps the low bits. -/
def Frame.toCtypes (frame : Frame) : Except Exn GsusbFrame :=
  if frame.data.length > frame.maxLen then .error (.valueError frame.tooLong)
  else
    .ok { filledFrame (UInt32.ofInt frame.canId) (UInt8.ofInt frame.flags) frame.data with
      timestampUs := UInt32.ofInt frame.timestampUs }

/-- `Bus._check`. -/
def check (rc : ℤ) (context : String) : Except Exn ℤ :=
  if rc < 0 then .error (.gsusbError rc (context ++ ": " ++ gsusbStrerror rc)) else .ok rc

/-- `Bus.send`, where `ch` is `None` for a bus that is not open: what the caller gets, and the
transfer that was made. -/
def Bus.send (ch : Option Channel) (frame : Frame) (timeoutMs : ℤ)
    (bulk : BulkOut → ℤ × ℕ) : Except Exn Unit × Option BulkOut :=
  match ch with
  | none =>
    (.error (.runtimeError "Bus is not open -- call open() or use it as a context manager"), none)
  | some ch =>
    match frame.toCtypes with
    | .error exn => (.error exn, none)
    | .ok c =>
      let (rc, request) := gsusbChannelSend ch c (UInt32.ofInt timeoutMs).toNat bulk
      ((check rc "send").map fun _ => (), request)

section FromCtypes

variable (f : GsusbFrame)

theorem Frame.isExtended_fromCtypes : (Frame.fromCtypes f).isExtended = isEff f.canId :=
  congrArg isEff (ofInt_toNat_word f.canId)

theorem Frame.isRtr_fromCtypes : (Frame.fromCtypes f).isRtr = Driver.isRtr f.canId :=
  congrArg Driver.isRtr (ofInt_toNat_word f.canId)

theorem Frame.isError_fromCtypes : (Frame.fromCtypes f).isError = isErr f.canId :=
  congrArg isErr (ofInt_toNat_word f.canId)

theorem Frame.id_fromCtypes :
    (Frame.fromCtypes f).id = (f.canId &&& idMask (isEff f.canId)).toNat := by
  rw [Frame.id, isExtended_fromCtypes]
  exact congrArg (fun w : UInt32 => (w &&& idMask (isEff f.canId)).toNat)
    (ofInt_toNat_word f.canId)

theorem Frame.isFd_fromCtypes :
    (Frame.fromCtypes f).isFd = decide (f.flags &&& gsusbFrameFd ≠ 0) :=
  isFd_of_flags rfl

theorem Frame.isBrs_fromCtypes :
    (Frame.fromCtypes f).isBrs = decide (f.flags &&& gsusbFrameBrs ≠ 0) :=
  congrArg (fun b : UInt8 => decide (b &&& gsusbFrameBrs ≠ 0)) (ofInt_toNat_byte f.flags)

theorem Frame.isEsi_fromCtypes :
    (Frame.fromCtypes f).isEsi = decide (f.flags &&& gsusbFrameEsi ≠ 0) :=
  congrArg (fun b : UInt8 => decide (b &&& gsusbFrameEsi ≠ 0)) (ofInt_toNat_byte f.flags)

end FromCtypes

end GsUsb.Python
