/-
# Sending from Lua

`check_frame`, which turns a frame table into a `gsusb_frame`, and `l_ch_send` from there on.
`check_frame` knows one limit for the data, that of the frame's array; the limit of a classic
frame is left to `gsusb_channel_send`, which clamps the length.
-/

import GsUsb.Driver.Send
import GsUsb.Lua.Binding

namespace GsUsb.Lua

open GsUsb.Driver

/-- A field of a table, as the `luaL_check` functions see it. -/
inductive Field (α : Type) where
  | nil
  /-- A value of a type that is not accepted. -/
  | wrong
  | value (v : α)
  deriving DecidableEq

/-- A frame table; what counts as true does so whatever its type. -/
structure FrameTable where
  id : Field ℤ
  extended : Bool
  rtr : Bool
  data : Field Bytes
  flags : Field ℤ

/-- An error raised in a function of the binding. -/
inductive Raised where
  /-- By a `luaL_check` function. -/
  | badArgument
  /-- By `luaL_error`. -/
  | error (message : String)
  deriving DecidableEq

/-- `luaL_checkinteger` and `luaL_checklstring`. -/
def Field.check {α : Type} : Field α → Except Raised α
  | .value v => .ok v
  | .nil | .wrong => .error .badArgument

/-- A check that an absent field passes with its default. -/
def Field.optional {α : Type} (default : α) : Field α → Except Raised α
  | .nil => .ok default
  | field => field.check

/-- The text of `check_frame` for `len` bytes of data, which `%d` prints as an `int`. -/
def tooLong (len : ℕ) : String :=
  "frame data too long (" ++ toString (BitVec.ofNat 32 len).toInt ++ " bytes, max " ++
    toString gsusbMaxDlen ++ ")"

/-- The `can_id` that `check_frame` assigns. -/
def frameId (id : UInt32) (extended rtr : Bool) : UInt32 :=
  (id &&& if extended then gsusbEffMask else gsusbSffMask) |||
    (if extended then gsusbEffFlag else 0) ||| if rtr then gsusbRtrFlag else 0

/-- `check_frame`. -/
def checkFrame (t : FrameTable) : Except Raised GsusbFrame := do
  let id ← t.id.check
  let canId := frameId (UInt32.ofInt id) t.extended t.rtr
  let data ← t.data.optional []
  if data.length > gsusbMaxDlen then
    throw (.error (tooLong data.length))
  let flags ← t.flags.optional 0
  return filledFrame canId (UInt8.ofInt flags) data

/-- `l_ch_send` on an open channel: what the caller gets, and the transfer that was made.  The
timeout is an optional argument. -/
def chSend (ch : Channel) (t : FrameTable) (timeoutMs : Option ℤ)
    (bulk : BulkOut → ℤ × ℕ) : Except Raised Outcome × Option BulkOut :=
  match checkFrame t with
  | .error raised => (.error raised, none)
  | .ok frame =>
    let timeoutMs := (UInt32.ofInt (timeoutMs.getD 1000)).toNat
    let (rc, request) := gsusbChannelSend ch frame timeoutMs bulk
    if rc ≠ 0 then (.ok (pushGsusbError "gsusb_channel_send" rc), request)
    else (.ok .answered, request)

end GsUsb.Lua
