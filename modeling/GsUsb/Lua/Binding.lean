/-
# The Lua binding

`lua_gsusb.c`: three kinds of userdata that wrap a context, a device and a channel
pointer, the functions in their method tables, and the collector that runs the `__gc`
functions.  What the library answers is part of an operation, and every call the binding
makes goes into a log.  A pointer is the number of the object, in the order in which the
library handed them out; `none` is `NULL`.
-/

import GsUsb.Driver.Device

namespace GsUsb.Lua

open GsUsb.Driver

/-- The functions in the method table of a channel. -/
inductive ChannelMethod where
  | setBitrate
  | start
  | stop
  | send
  | recv
  | getState
  | setIdentify
  | features
  deriving DecidableEq

/-- A library call.  `gsusb_init` and `gsusb_open` may hand out nothing; a channel is a
device and an index. -/
inductive Call where
  | init (ctx : Option ℕ)
  | exit (ctx : ℕ)
  | openDev (ctx : ℕ) (dev : Option ℕ)
  | close (dev : ℕ)
  | channelCount (dev : ℕ)
  | getDeviceConfig (dev : ℕ)
  | channelGet (dev : ℕ) (channel : UInt32)
  | channel (method : ChannelMethod) (dev index : ℕ)
  deriving DecidableEq

/-- A userdata: the pointer it wraps, and for a channel the dev userdata in its environment
table. -/
inductive Userdata where
  | ctx (ptr : Option ℕ)
  | dev (ptr : Option ℕ)
  | channel (ptr : Option (ℕ × ℕ)) (env : ℕ)
  deriving DecidableEq

/-- What a function of the binding does to its caller. -/
inductive Outcome where
  /-- `luaL_argcheck` raised an error. -/
  | argError (arg : ℕ) (message : String)
  /-- `luaL_checkudata` or another `luaL_check` function raised an argument error. -/
  | typeError
  /-- `nil` and a message. -/
  | failed (message : String)
  | userdata (u : ℕ)
  | integers (values : List ℕ)
  /-- What the library call wrote or returned. -/
  | answered
  | nothing
  deriving DecidableEq

/-- `push_gsusb_error`. -/
def pushGsusbError (what : String) (rc : ℤ) : Outcome :=
  .failed (what ++ " failed: " ++ toString rc)

/-- The state of the interpreter as far as the binding sees it: the userdata, the
references the program holds, counted, and what the library has handed out. -/
structure LuaState where
  heap : List Userdata
  roots : List ℕ
  ctxCount : ℕ
  devs : List ((n : ℕ) × Dev n)
  log : List Call

namespace LuaState

/-- The module has just been loaded. -/
def loaded : LuaState := ⟨[], [], 0, [], []⟩

/-- A library call. -/
def call (L : LuaState) (c : Call) : LuaState := { L with log := c :: L.log }

/-- Assign to a userdata. -/
def assign (L : LuaState) (u : ℕ) (ud : Userdata) : LuaState :=
  { L with heap := L.heap.set u ud }

/-- `lua_newuserdata`, the assignment to it, and its metatable; the caller gets the
reference. -/
def newuserdata (L : LuaState) (ud : Userdata) : LuaState :=
  { L with heap := L.heap ++ [ud], roots := L.heap.length :: L.roots }

end LuaState

/-! ## The functions

`self` is the first argument.  The others enter as far as they decide what happens:
whether the `luaL_check` functions accept them, and the channel index. -/

/-- `l_gsusb_init`, with the answer of `gsusb_init`. -/
def lGsusbInit (rc : ℤ) (L : LuaState) : Outcome × LuaState :=
  if rc ≠ 0 then (pushGsusbError "gsusb_init" rc, L.call (.init none))
  else
    (.userdata L.heap.length,
      { (L.call (.init (some L.ctxCount))).newuserdata (.ctx (some L.ctxCount)) with
        ctxCount := L.ctxCount + 1 })

/-- `l_ctx_exit`. -/
def lCtxExit (L : LuaState) (self : ℕ) : Outcome × LuaState :=
  match L.heap[self]? with
  | some (.ctx (some c)) => (.nothing, (L.call (.exit c)).assign self (.ctx none))
  | some (.ctx none) => (.nothing, L)
  | _ => (.typeError, L)

/-- `l_ctx_open`, with the answer of `gsusb_open`: the text it leaves in `errbuf`, or a
device. -/
def lCtxOpen (argsOk : Bool) (answer : Except String ((n : ℕ) × Dev n)) (L : LuaState)
    (self : ℕ) : Outcome × LuaState :=
  match L.heap[self]? with
  | some (.ctx none) => (.argError 1 "ctx already closed (gsusb.exit() already called)", L)
  | some (.ctx (some c)) =>
    if argsOk then
      match answer with
      | .error errbuf => (.failed errbuf, L.call (.openDev c none))
      | .ok dev =>
        (.userdata L.heap.length,
          { (L.call (.openDev c (some L.devs.length))).newuserdata
              (.dev (some L.devs.length)) with
            devs := L.devs ++ [dev] })
    else (.typeError, L)
  | _ => (.typeError, L)

/-- `l_dev_close`. -/
def lDevClose (L : LuaState) (self : ℕ) : Outcome × LuaState :=
  match L.heap[self]? with
  | some (.dev (some d)) => (.nothing, (L.call (.close d)).assign self (.dev none))
  | some (.dev none) => (.nothing, L)
  | _ => (.typeError, L)

/-- The check that the functions of a dev share: `ud->dev != NULL`. -/
def checkDev (L : LuaState) (self : ℕ) : Except Outcome ℕ :=
  match L.heap[self]? with
  | some (.dev (some d)) => .ok d
  | some (.dev none) => .error (.argError 1 "dev already closed")
  | _ => .error .typeError

/-- `l_dev_channel_count`. -/
def lDevChannelCount (L : LuaState) (self : ℕ) : Outcome × LuaState :=
  match checkDev L self with
  | .error outcome => (outcome, L)
  | .ok d =>
    (.integers (L.devs[d]?.toList.map fun dev => dev.2.gsusbChannelCount.toNat),
      L.call (.channelCount d))

/-- `l_dev_device_config`. -/
def lDevDeviceConfig (L : LuaState) (self : ℕ) : Outcome × LuaState :=
  match checkDev L self with
  | .error outcome => (outcome, L)
  | .ok d =>
    let configs := L.devs[d]?.toList.map fun dev => dev.2.gsusbGetDeviceConfig
    (.integers (configs.flatMap fun cfg =>
        [cfg.swVersion.toNat, cfg.hwVersion.toNat, cfg.channelCount.toNat]),
      L.call (.getDeviceConfig d))

/-- `l_dev_channel`.  The index is none where `luaL_checkinteger` does not accept it. -/
def lDevChannel (index : Option ℤ) (L : LuaState) (self : ℕ) : Outcome × LuaState :=
  match checkDev L self with
  | .error outcome => (outcome, L)
  | .ok d =>
    match index with
    | none => (.typeError, L)
    | some index =>
      let index := UInt32.ofInt index
      let called := L.call (.channelGet d index)
      match L.devs[d]?.bind fun dev => (dev.2.gsusbChannelGet index).map Fin.val with
      | none => (.failed "no such channel", called)
      | some ch => (.userdata L.heap.length, called.newuserdata (.channel (some (d, ch)) self))

/-- `check_channel`. -/
def checkChannel (L : LuaState) (self : ℕ) : Except Outcome (ℕ × ℕ) :=
  match L.heap[self]? with
  | some (.channel (some ch) _) => .ok ch
  | some (.channel none _) => .error (.argError 1 "channel's dev already closed")
  | _ => .error .typeError

/-- The common shape of the channel functions: `check_channel`, the other arguments, the
library call, and an error where its result `rc` is one. -/
def channelFunction (method : ChannelMethod) (what : String) (isError : ℤ → Bool)
    (argsOk : Bool) (rc : ℤ) (L : LuaState) (self : ℕ) : Outcome × LuaState :=
  match checkChannel L self with
  | .error outcome => (outcome, L)
  | .ok ch =>
    if argsOk then
      (if isError rc then pushGsusbError what rc else .answered,
        L.call (.channel method ch.1 ch.2))
    else (.typeError, L)

/-- `l_ch_set_bitrate`. -/
def lChSetBitrate : Bool → ℤ → LuaState → ℕ → Outcome × LuaState :=
  channelFunction .setBitrate "gsusb_channel_set_bitrate" (· ≠ 0)

/-- `l_ch_start`. -/
def lChStart : Bool → ℤ → LuaState → ℕ → Outcome × LuaState :=
  channelFunction .start "gsusb_channel_start" (· ≠ 0)

/-- `l_ch_stop`. -/
def lChStop : Bool → ℤ → LuaState → ℕ → Outcome × LuaState :=
  channelFunction .stop "gsusb_channel_stop" (· ≠ 0)

/-- `l_ch_send`. -/
def lChSend : Bool → ℤ → LuaState → ℕ → Outcome × LuaState :=
  channelFunction .send "gsusb_channel_send" (· ≠ 0)

/-- `l_ch_recv`; 0 is a timeout. -/
def lChRecv : Bool → ℤ → LuaState → ℕ → Outcome × LuaState :=
  channelFunction .recv "gsusb_channel_recv" (· < 0)

/-- `l_ch_get_state`. -/
def lChGetState : Bool → ℤ → LuaState → ℕ → Outcome × LuaState :=
  channelFunction .getState "gsusb_channel_get_state" (· ≠ 0)

/-- `l_ch_set_identify`. -/
def lChSetIdentify : Bool → ℤ → LuaState → ℕ → Outcome × LuaState :=
  channelFunction .setIdentify "gsusb_channel_set_identify" (· ≠ 0)

/-- `l_ch_features`; the library returns the feature bits. -/
def lChFeatures : Bool → ℤ → LuaState → ℕ → Outcome × LuaState :=
  channelFunction .features "gsusb_channel_features" fun _ => false

/-- `channel_methods`. -/
def channelMethods : ChannelMethod → Bool → ℤ → LuaState → ℕ → Outcome × LuaState
  | .setBitrate => lChSetBitrate
  | .start => lChStart
  | .stop => lChStop
  | .send => lChSend
  | .recv => lChRecv
  | .getState => lChGetState
  | .setIdentify => lChSetIdentify
  | .features => lChFeatures

/-- The `__gc` functions `luaopen_gsusb` puts into the metatables: `l_ctx_exit`,
`l_dev_close`, and none for channels. -/
def Userdata.gc : Userdata → Option (LuaState → ℕ → Outcome × LuaState)
  | .ctx _ => some lCtxExit
  | .dev _ => some lDevClose
  | .channel _ _ => none

/-- The userdata a userdata refers to. -/
def Userdata.refs : Userdata → List ℕ
  | .ctx _ => []
  | .dev _ => []
  | .channel _ env => [env]

namespace LuaState

/-- The references of the userdata at a position. -/
def refsOf (L : LuaState) (u : ℕ) : List ℕ := (L.heap[u]?.map Userdata.refs).getD []

/-- What the collector marks.  Only a channel refers to another userdata, its dev, which
refers to none, so one round is enough. -/
def marked (L : LuaState) : List ℕ := L.roots ++ L.roots.flatMap L.refsOf

/-- Run the `__gc` function of a userdata, if there is one. -/
def finalize (L : LuaState) (u : ℕ) : LuaState :=
  match L.heap[u]?.bind Userdata.gc with
  | some gc => (gc L u).2
  | none => L

end LuaState

/-- A method with its arguments and what the library answers. -/
inductive Method where
  | ctxOpen (argsOk : Bool) (answer : Except String ((n : ℕ) × Dev n))
  | ctxExit
  | devChannel (index : Option ℤ)
  | devChannelCount
  | devDeviceConfig
  | devClose
  | channel (method : ChannelMethod) (argsOk : Bool) (rc : ℤ)

/-- Call a method on a userdata. -/
def Method.invoke : Method → LuaState → ℕ → Outcome × LuaState
  | .ctxOpen argsOk answer => lCtxOpen argsOk answer
  | .ctxExit => lCtxExit
  | .devChannel index => lDevChannel index
  | .devChannelCount => lDevChannelCount
  | .devDeviceConfig => lDevDeviceConfig
  | .devClose => lDevClose
  | .channel method argsOk rc => channelMethods method argsOk rc

/-- What a Lua program and the collector do. -/
inductive Op where
  | init (rc : ℤ)
  | method (m : Method) (self : ℕ)
  | copy (u : ℕ)
  | drop (u : ℕ)
  | gc (u : ℕ)

/-- One operation.  A program calls methods on, copies and drops what it holds; the
collector finalizes what nothing reaches, one userdata at a time and in any order. -/
def step (L : LuaState) : Op → Option LuaState
  | .init rc => some (lGsusbInit rc L).2
  | .method m self => if self ∈ L.roots then some (m.invoke L self).2 else none
  | .copy u => if u ∈ L.roots then some { L with roots := u :: L.roots } else none
  | .drop u => if u ∈ L.roots then some { L with roots := L.roots.erase u } else none
  | .gc u => if u ∈ L.marked then none else some (L.finalize u)

end GsUsb.Lua
