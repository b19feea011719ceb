/-
# The lifecycle of a bus

`Bus.open`, `start`, `stop` and `close`, which the application calls in its own thread and in the
callbacks of its detectors, and `Bus._listen_loop` on every thread that a `start` made.  All of
them share the attributes of the bus.  `Thread.join(timeout=2.0)` returns with the thread ended or
with the thread alive; `stop` does not look at which.
-/

import GsUsb.Math.Run
import Mathlib.Data.Int.Notation
import Mathlib.Data.Nat.Notation
import Mathlib.Logic.Function.Basic

namespace GsUsb.Python

/-- Who takes a step: the thread of the application, or a listener thread. -/
inductive Actor
  | application
  | listener (i : ℕ)
  deriving DecidableEq

/-- What the application or a callback calls. -/
inductive Method
  | openBus
  | start
  | stop
  | close
  /-- `send`, or another method that makes one call of the library. -/
  | use
  deriving DecidableEq

/-- Where a method is.  `closing` says that `stop` was called by `close`, and an argument that a
pc carries is that of the library call it stands for. -/
inductive BusPc
  /-- In no method; one that raises an error is left as well. -/
  | out
  /-- `if self._dev is not None` of `open`. -/
  | openTest
  /-- In `gsusb_init`. -/
  | init
  /-- In `gsusb_open`, of which there is one for each candidate. -/
  | openDevice
  | channelGet (dev : ℕ)
  /-- `_require_open` of `start`. -/
  | startRequire
  /-- `if self._started` of `start`. -/
  | startTest
  | channelStart (ch : Option ℕ)
  /-- `self._started = True` -/
  | mark
  /-- `self._stop_event.clear()` -/
  | clear
  /-- `self._listener_thread = threading.Thread(...)` -/
  | create
  /-- `self._listener_thread.start()` -/
  | threadStart
  /-- `if not self._started` of `stop`. -/
  | stopTest (closing : Bool)
  /-- `self._stop_event.set()` -/
  | set (closing : Bool)
  /-- `if self._listener_thread is not None` -/
  | joinTest (closing : Bool)
  /-- In `join` of the listener thread. -/
  | join (closing : Bool) (thread : ℕ)
  /-- `self._listener_thread = None` -/
  | forget (closing : Bool)
  /-- `if self._ch is not None` -/
  | channelTest (closing : Bool)
  | channelStop (closing : Bool) (ch : ℕ)
  /-- `self._started = False` -/
  | unmark (closing : Bool)
  /-- `if self._dev is not None` of `close`. -/
  | closeTest
  | closeDevice (dev : ℕ)
  /-- `self._dev = None` -/
  | forgetDev
  /-- `self._ch = None` -/
  | forgetCh
  /-- In `gsusb_exit`. -/
  | exit
  /-- `_require_open` of another method. -/
  | useRequire
  /-- `self._ch` is loaded. -/
  | useLoad
  /-- The call is about to be entered. -/
  | useEnter (ch : Option ℕ)
  | use (ch : Option ℕ)
  deriving DecidableEq

/-- Where a listener thread is. -/
inductive Phase
  | unstarted
  /-- At the test of `_stop_event`. -/
  | test
  /-- Before `self._ch` is loaded. -/
  | load
  /-- `gsusb_channel_recv` is about to be entered. -/
  | enter (ch : Option ℕ)
  | recv (ch : Option ℕ)
  /-- With a frame, for as long as the queue and the callbacks take. -/
  | handling (pc : BusPc)
  | ended
  deriving DecidableEq

/-- A bus with its threads.  Devices are numbered in the order in which they are opened, and a
channel goes by the number of its device. -/
structure Bus where
  /-- `_ctx` is not `None`. -/
  ctx : Bool
  dev : Option ℕ
  ch : Option ℕ
  started : Bool
  stopEvent : Bool
  listenerThread : Option ℕ
  /-- The number of threads that were made. -/
  created : ℕ
  thread : ℕ → Phase
  app : BusPc
  /-- The number of devices that were opened. -/
  opened : ℕ
  /-- The devices that were closed. -/
  freed : List ℕ
  /-- A call of `stop` has returned, and `start` was not called since. -/
  stopReturned : Bool

/-- A step. -/
inductive BusEvent
  | call (a : Actor) (m : Method)
  /-- The method goes on; what it waits for has returned, and with success. -/
  | go (a : Actor)
  /-- The method goes on after an error. -/
  | fail (a : Actor)
  | test (i : ℕ)
  | load (i : ℕ)
  | enter (i : ℕ)
  /-- `gsusb_channel_recv` returns. -/
  | received (i : ℕ) (rc : ℤ)
  /-- The frame is handled. -/
  | handled (i : ℕ)
  /-- A callback raises what is no `Exception`. -/
  | died (i : ℕ)

/-- The first pc of a method. -/
def Method.entry : Method → BusPc
  | .openBus => .openTest
  | .start => .startRequire
  | .stop => .stopTest false
  | .close => .stopTest true
  | .use => .useRequire

/-- What follows `stop`. -/
def BusPc.afterStop (closing : Bool) : BusPc := if closing then .closeTest else .out

/-- The thread was started and has not ended: it is in `_listen_loop`. -/
def Phase.live : Phase → Bool
  | .unstarted | .ended => false
  | _ => true

namespace Bus

/-- A bus that was just made. -/
def new : Bus := ⟨false, none, none, false, false, none, 0, fun _ => .unstarted, .out, 0, [], false⟩

/-- A thread moves. -/
def setThread (s : Bus) (i : ℕ) (phase : Phase) : Bus :=
  { s with thread := Function.update s.thread i phase }

theorem setThread_self (s : Bus) (i : ℕ) (phase : Phase) :
    (s.setThread i phase).thread i = phase := by
  simp [setThread]

theorem setThread_of_ne (s : Bus) {i j : ℕ} (hji : j ≠ i) (phase : Phase) :
    (s.setThread i phase).thread j = s.thread j := by
  simp [setThread, hji]

/-- The pc of who can be in a method. -/
def pc? (s : Bus) : Actor → Option BusPc
  | .application => some s.app
  | .listener i =>
    match s.thread i with
    | .handling pc => some pc
    | _ => none

/-- A method moves. -/
def setPc (s : Bus) (pc : BusPc) : Actor → Bus
  | .application => { s with app := pc }
  | .listener i => s.setThread i (.handling pc)

/-- What comes next in a method, and what has become of the bus. -/
def go (s : Bus) (a : Actor) : BusPc → BusPc × Bus
  | .out => (.out, s)
  | .openTest => (if s.dev = none then .init else .out, s)
  | .init => (.openDevice, { s with ctx := true })
  | .openDevice => (.channelGet s.opened, { s with dev := some s.opened, opened := s.opened + 1 })
  | .channelGet dev => (.out, { s with ch := some dev })
  | .startRequire => (if s.dev = none then .out else .startTest, s)
  | .startTest => (if s.started then .out else .channelStart s.ch, s)
  | .channelStart _ => (.mark, s)
  | .mark => (.clear, { s with started := true })
  | .clear => (.create, { s with stopEvent := false })
  | .create =>
    (.threadStart, { s with listenerThread := some s.created, created := s.created + 1 })
  | .threadStart =>
    match s.listenerThread with
    | none => (.out, s)
    | some i => (.out, if s.thread i = .unstarted then s.setThread i .test else s)
  | .stopTest closing =>
    if s.started then (.set closing, s) else (.afterStop closing, { s with stopReturned := true })
  | .set closing => (.joinTest closing, { s with stopEvent := true })
  | .joinTest closing =>
    match s.listenerThread with
    | none => (.channelTest closing, s)
    | some i => (.join closing i, s)
  -- A thread that joins itself, or one that was never started, gets a `RuntimeError`.
  | .join closing i =>
    (if a = .listener i ∨ s.thread i = .unstarted then .out else .forget closing, s)
  | .forget closing => (.channelTest closing, { s with listenerThread := none })
  | .channelTest closing =>
    match s.ch with
    | none => (.unmark closing, s)
    | some ch => (.channelStop closing ch, s)
  | .channelStop closing _ => (.unmark closing, s)
  | .unmark closing => (.afterStop closing, { s with started := false, stopReturned := true })
  | .closeTest =>
    match s.dev with
    | none => (.exit, s)
    | some dev => (.closeDevice dev, s)
  | .closeDevice dev => (.forgetDev, { s with freed := dev :: s.freed })
  | .forgetDev => (.forgetCh, { s with dev := none })
  | .forgetCh => (.exit, { s with ch := none })
  | .exit => (.out, { s with ctx := false })
  | .useRequire => (if s.dev = none then .out else .useLoad, s)
  | .useLoad => (.useEnter s.ch, s)
  | .useEnter ch => (.use ch, s)
  | .use _ => (.out, s)

/-- The errors that `open` and `start` can run into; a device without the channel is closed. -/
def fail (s : Bus) : BusPc → Option (BusPc × Bus)
  | .init => some (.out, s)
  | .openDevice => some (.out, { s with ctx := false })
  | .channelGet _ => some (.stopTest true, s)
  | .channelStart _ => some (.out, s)
  | .threadStart => some (.out, s)
  | _ => none

/-- A step of the machine. -/
def step (s : Bus) : BusEvent → Option Bus
  | .call a m =>
    if s.pc? a = some .out then
      let stopReturned := if m = .start then false else s.stopReturned
      some ({ s with stopReturned := stopReturned }.setPc m.entry a)
    else none
  | .go a => (s.pc? a).map fun pc => (s.go a pc).2.setPc (s.go a pc).1 a
  | .fail a => ((s.pc? a).bind s.fail).map fun next => next.2.setPc next.1 a
  | .test i =>
    if s.thread i = .test then some (s.setThread i (if s.stopEvent then .ended else .load))
    else none
  | .load i => if s.thread i = .load then some (s.setThread i (.enter s.ch)) else none
  | .enter i =>
    match s.thread i with
    | .enter ch => some (s.setThread i (.recv ch))
    | _ => none
  | .received i rc =>
    match s.thread i with
    | .recv _ =>
      some (s.setThread i (if rc = 0 then .test else if rc < 0 then .ended else .handling .out))
    | _ => none
  | .handled i => if s.thread i = .handling .out then some (s.setThread i .test) else none
  | .died i => if s.thread i = .handling .out then some (s.setThread i .ended) else none

end Bus

/-- The device of the library call that a method is in or about to enter. -/
def BusPc.device : BusPc → Option ℕ
  | .channelGet dev => some dev
  | .channelStart ch => ch
  | .channelStop _ ch => some ch
  | .closeDevice dev => some dev
  | .useEnter ch => ch
  | .use ch => ch
  | _ => none

/-- The device of the library call that a listener thread is in or about to enter. -/
def Phase.device : Phase → Option ℕ
  | .enter ch => ch
  | .recv ch => ch
  | .handling pc => pc.device
  | _ => none

/-- The thread is in `gsusb_channel_recv`. -/
def Phase.receives : Phase → Bool
  | .recv _ => true
  | _ => false

namespace Bus

/-- One thread reads the channel.  There is at most one listener in `_listen_loop`, and so in
`gsusb_channel_recv`; none calls it after a `stop` and before the next `start`; and none is in a
library call on a device that was closed, or enters one. -/
structure SoleConsumer (s : Bus) : Prop where
  alone : ∀ i j, (s.thread i).live = true → (s.thread j).live = true → i = j
  consumer : ∀ i j, (s.thread i).receives = true → (s.thread j).receives = true → i = j
  stopped : s.stopReturned = true → ∀ i, (s.thread i).receives = false
  closed : ∀ i dev, (s.thread i).device = some dev → dev ∉ s.freed

/-- The step is the return of a `join` whose time is up: the thread that it waited for is alive. -/
def timesOut (s : Bus) : BusEvent → Bool
  | .go a =>
    match s.pc? a with
    | some (.join _ i) => a ≠ .listener i && (s.thread i).live
    | _ => false
  | _ => false

end Bus

end GsUsb.Python
