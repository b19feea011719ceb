/-
# Several threads on one device

Any number of threads call `gsusb_channel_start` and `gsusb_channel_stop` on channels of
one device, and the reader threads run beside them.  A step is one critical section under
`start_lock`, one control transfer, the call of or the return from `pthread_join`, or one
step of a reader.  Control transfers and `pthread_create` succeed, and a reader only
leaves its loop when it sees `stop_flag`.
-/

import GsUsb.Driver.Lifecycle
import GsUsb.Driver.RxPacket
import GsUsb.Math.Run
import Mathlib.Logic.Function.Basic

namespace GsUsb.Driver

/-- A call a thread makes. -/
inductive Request (n : ℕ)
  | start (i : Fin n) (modeFlags : UInt32)
  | stop (i : Fin n)
  deriving DecidableEq

/-- Where a call stands. -/
inductive Pc
  | /-- Before its first critical section. -/
    called
  | /-- A stop that released the lock and has not sent its RESET. -/
    reset (stopReader : Bool)
  | /-- A stop that has to join the reader. -/
    join
  | /-- A stop inside `pthread_join(handle)`. -/
    joining (handle : Option ℕ)
  | /-- A stop that joined the reader, before `reader_running = 0`. -/
    clear
  | /-- The call has returned. -/
    returned (rc : ℤ)
  deriving DecidableEq

/-- Where a reader thread stands. -/
inductive ReaderPhase
  | /-- About to look at `stop_flag`. -/
    check
  | /-- In the bulk-IN transfer or handling its packet. -/
    transfer
  | /-- Returned from `reader_thread_fn`. -/
    exited
  deriving DecidableEq

/-- The device, its reader threads by handle, and the calls. -/
structure Machine (n m : ℕ) where
  host : Host n
  readers : List ReaderPhase
  pc : Fin m → Pc

/-- Which thread takes a step; a reader's transfer delivers a packet or nothing. -/
inductive Event (m : ℕ)
  | call (k : Fin m)
  | reader (handle : ℕ) (packet : Option Bytes)

namespace Machine

variable {n m : ℕ}

/-- An opened device, all calls about to begin. -/
def init (dev : Dev n) : Machine n m := ⟨.init dev, [], fun _ => .called⟩

/-- Call `k` moves on. -/
def goto (M : Machine n m) (k : Fin m) (pc : Pc) (host : Host n) : Machine n m :=
  ⟨host, M.readers, Function.update M.pc k pc⟩

/-- A step of call `k`. -/
def stepCall (requests : Fin m → Request n) (M : Machine n m) (k : Fin m) :
    Option (Machine n m) :=
  match requests k, M.pc k with
  | .start i modeFlags, .called =>
    let (rc, host) := M.host.gsusbChannelStart i modeFlags gsDeviceModeSize .created
    some { M.goto k (.returned rc) host with
      readers := M.readers ++
        List.replicate (host.world.created - M.host.world.created) .check }
  | .stop i, .called =>
    match M.host.stopSection i with
    | (none, host) => some (M.goto k (.returned 0) host)
    | (some stopReader, host) => some (M.goto k (.reset stopReader) host)
  | .stop i, .reset stopReader =>
    some (M.goto k (if stopReader then .join else .returned 0)
      (M.host.stopReset i gsDeviceModeSize))
  | .stop _, .join => some (M.goto k (.joining M.host.dev.readerThread) M.host.stopJoin)
  | .stop _, .joining (some handle) =>
    if M.readers[handle]? = some .exited then some (M.goto k .clear M.host) else none
  | .stop _, .clear => some (M.goto k (.returned 0) M.host.stopClear)
  | _, _ => none

/-- A step of a reader thread: one turn of the loop in `reader_thread_fn` is a look at
`stop_flag` and a transfer. -/
def stepReader (M : Machine n m) (handle : ℕ) (packet : Option Bytes) :
    Option (Machine n m) :=
  match M.readers[handle]? with
  | some .check =>
    some { M with
      readers := M.readers.set handle (if M.host.dev.stopFlag then .exited else .transfer) }
  | some .transfer =>
    match packet with
    | none => some { M with readers := M.readers.set handle .check }
    | some buf =>
      match handleRxPacket M.host.dev buf with
      | .ok dev => some ⟨⟨dev, M.host.world⟩, M.readers.set handle .check, M.pc⟩
      | .error _ => none
  | _ => none

/-- A step of the machine. -/
def step (requests : Fin m → Request n) (M : Machine n m) : Event m → Option (Machine n m)
  | .call k => M.stepCall requests k
  | .reader handle packet => M.stepReader handle packet

/-- Every call has returned. -/
def Returned (M : Machine n m) : Prop := ∀ k, ∃ rc, M.pc k = .returned rc

/-- The steps there are, by what they change. -/
inductive Transition (requests : Fin m → Request n) (M : Machine n m) :
    Event m → Machine n m → Prop
  | startRefused (k : Fin m) (i : Fin n) (modeFlags : UInt32)
      (hrequest : requests k = .start i modeFlags) (hpc : M.pc k = .called)
      (hcheck : Host.startCheck M.host.dev i modeFlags ≠ 0) (rc : ℤ) :
      Transition requests M (.call k) (M.goto k (.returned rc) M.host)
  | startRunning (k : Fin m) (i : Fin n) (modeFlags : UInt32)
      (hrequest : requests k = .start i modeFlags) (hpc : M.pc k = .called)
      (hcheck : Host.startCheck M.host.dev i modeFlags = 0)
      (hrunning : M.host.dev.readerRunning = true) (rc : ℤ) :
      Transition requests M (.call k) (M.goto k (.returned rc)
        ⟨M.host.dev.markStarted i,
          M.host.world.sendMode (startRequest (M.host.dev.channel i) modeFlags)
            gsDeviceModeSize⟩)
  | startCreated (k : Fin m) (i : Fin n) (modeFlags : UInt32)
      (hrequest : requests k = .start i modeFlags) (hpc : M.pc k = .called)
      (hcheck : Host.startCheck M.host.dev i modeFlags = 0)
      (hrunning : M.host.dev.readerRunning = false) (rc : ℤ) :
      Transition requests M (.call k)
        ⟨⟨{ M.host.dev.markStarted i with
            stopFlag := false
            readerThread := some M.host.world.created
            readerRunning := true },
          { M.host.world.sendMode (startRequest (M.host.dev.channel i) modeFlags)
              gsDeviceModeSize with created := M.host.world.created + 1 }⟩,
          M.readers ++ [.check], Function.update M.pc k (.returned rc)⟩
  | stopIdle (k : Fin m) (i : Fin n) (hrequest : requests k = .stop i)
      (hpc : M.pc k = .called) (hstopped : (M.host.dev.channel i).started = false) :
      Transition requests M (.call k) (M.goto k (.returned 0) M.host)
  | stopLast (k : Fin m) (i : Fin n) (hrequest : requests k = .stop i)
      (hpc : M.pc k = .called) (hstarted : (M.host.dev.channel i).started = true)
      (hzero : (M.host.dev.markStopped i).activeChannels = 0) :
      Transition requests M (.call k) (M.goto k (.reset true)
        ⟨{ M.host.dev.markStopped i with stopFlag := true }, M.host.world⟩)
  | stopOther (k : Fin m) (i : Fin n) (hrequest : requests k = .stop i)
      (hpc : M.pc k = .called) (hstarted : (M.host.dev.channel i).started = true)
      (hpos : (M.host.dev.markStopped i).activeChannels ≠ 0) :
      Transition requests M (.call k) (M.goto k (.reset false)
        ⟨M.host.dev.markStopped i, M.host.world⟩)
  | reset (k : Fin m) (i : Fin n) (hrequest : requests k = .stop i) (stopReader : Bool)
      (hpc : M.pc k = .reset stopReader) :
      Transition requests M (.call k) (M.goto k (if stopReader then .join else .returned 0)
        (M.host.stopReset i gsDeviceModeSize))
  | join (k : Fin m) (i : Fin n) (hrequest : requests k = .stop i) (hpc : M.pc k = .join) :
      Transition requests M (.call k)
        (M.goto k (.joining M.host.dev.readerThread) M.host.stopJoin)
  | joined (k : Fin m) (i : Fin n) (hrequest : requests k = .stop i) (handle : ℕ)
      (hpc : M.pc k = .joining (some handle)) (hexited : M.readers[handle]? = some .exited) :
      Transition requests M (.call k) (M.goto k .clear M.host)
  | clear (k : Fin m) (i : Fin n) (hrequest : requests k = .stop i) (hpc : M.pc k = .clear) :
      Transition requests M (.call k) (M.goto k (.returned 0) M.host.stopClear)
  | readerCheck (handle : ℕ) (packet : Option Bytes)
      (hphase : M.readers[handle]? = some .check) :
      Transition requests M (.reader handle packet)
        { M with
          readers := M.readers.set handle (if M.host.dev.stopFlag then .exited else .transfer) }
  | readerTransfer (handle : ℕ) (packet : Option Bytes)
      (hphase : M.readers[handle]? = some .transfer) (dev : Dev n)
      (hdev : dev = M.host.dev ∨
        ∃ i q, dev = M.host.dev.updateChannel i fun ch => { ch with rxq := q }) :
      Transition requests M (.reader handle packet)
        ⟨⟨dev, M.host.world⟩, M.readers.set handle .check, M.pc⟩

namespace Transition

variable {requests : Fin m → Request n} {M M' : Machine n m}

/-- The steps of a start that was just called. -/
theorem of_start {k : Fin m} {i : Fin n} {modeFlags : UInt32}
    (hrequest : requests k = .start i modeFlags) (hpc : M.pc k = .called)
    (hstep : M.stepCall requests k = some M') : Transition requests M (.call k) M' := by
  simp only [stepCall, hrequest, hpc, Option.some.injEq] at hstep
  subst hstep
  generalize hresult : (M.host.gsusbChannelStart i modeFlags gsDeviceModeSize .created).1 = rc
  by_cases hcheck : Host.startCheck M.host.dev i modeFlags = 0
  · rcases Host.gsusbChannelStart_cases hcheck gsDeviceModeSize .created with
      ⟨hfailed, -⟩ | ⟨-, hrunning, heq⟩ | ⟨-, -, handle, hfailed, -⟩ | ⟨-, hrunning, -, heq⟩
    · exact absurd (ctrlResult_eq_zero_iff.mpr rfl) hfailed
    · rw [heq]
      convert Transition.startRunning k i modeFlags hrequest hpc hcheck hrunning rc using 1
      simp [goto, World.sendMode]
    · cases hfailed
    · rw [heq]
      convert Transition.startCreated k i modeFlags hrequest hpc hcheck hrunning rc using 1
      simp [goto, World.sendMode]
  · rw [Host.gsusbChannelStart_of_check hcheck]
    convert Transition.startRefused k i modeFlags hrequest hpc hcheck rc using 1
    simp [goto]

/-- The steps of a stop that was just called. -/
theorem of_stop (hcounts : M.host.dev.CountsStarted) {k : Fin m} {i : Fin n}
    (hrequest : requests k = .stop i) (hpc : M.pc k = .called)
    (hstep : M.stepCall requests k = some M') : Transition requests M (.call k) M' := by
  simp only [stepCall, hrequest, hpc] at hstep
  cases hstarted : (M.host.dev.channel i).started with
  | false =>
      rw [Host.stopSection_of_stopped hstarted] at hstep
      cases hstep
      exact .stopIdle k i hrequest hpc hstarted
  | true =>
      rw [Host.stopSection_of_started hcounts hstarted] at hstep
      by_cases hzero : (M.host.dev.markStopped i).activeChannels = 0
      · rw [if_pos hzero] at hstep
        cases hstep
        exact .stopLast k i hrequest hpc hstarted hzero
      · rw [if_neg hzero] at hstep
        cases hstep
        exact .stopOther k i hrequest hpc hstarted hzero

/-- The steps of a call. -/
theorem of_stepCall (hcounts : M.host.dev.CountsStarted) {k : Fin m}
    (hstep : M.stepCall requests k = some M') : Transition requests M (.call k) M' := by
  cases hrequest : requests k with
  | start i modeFlags =>
      cases hpc : M.pc k with
      | called => exact of_start hrequest hpc hstep
      | reset | join | joining | clear | returned =>
          simp [stepCall, hrequest, hpc] at hstep
  | stop i =>
      cases hpc : M.pc k with
      | called => exact of_stop hcounts hrequest hpc hstep
      | reset stopReader =>
          simp only [stepCall, hrequest, hpc, Option.some.injEq] at hstep
          subst hstep
          exact .reset k i hrequest stopReader hpc
      | join =>
          simp only [stepCall, hrequest, hpc, Option.some.injEq] at hstep
          subst hstep
          exact .join k i hrequest hpc
      | joining handle =>
          cases handle with
          | none => simp [stepCall, hrequest, hpc] at hstep
          | some handle =>
              simp only [stepCall, hrequest, hpc, Option.ite_none_right_eq_some,
                Option.some.injEq] at hstep
              obtain ⟨hexited, rfl⟩ := hstep
              exact .joined k i hrequest handle hpc hexited
      | clear =>
          simp only [stepCall, hrequest, hpc, Option.some.injEq] at hstep
          subst hstep
          exact .clear k i hrequest hpc
      | returned rc => simp [stepCall, hrequest, hpc] at hstep

/-- The steps of a reader thread. -/
theorem of_stepReader {handle : ℕ} {packet : Option Bytes}
    (hstep : M.stepReader handle packet = some M') :
    Transition requests M (.reader handle packet) M' := by
  rcases hphase : M.readers[handle]? with _ | phase
  · simp [stepReader, hphase] at hstep
  cases phase with
  | check =>
      simp only [stepReader, hphase, Option.some.injEq] at hstep
      subst hstep
      exact .readerCheck handle packet hphase
  | transfer =>
      cases packet with
      | none =>
          simp only [stepReader, hphase, Option.some.injEq] at hstep
          subst hstep
          exact .readerTransfer handle none hphase M.host.dev (.inl rfl)
      | some buf =>
          rcases hhandle : handleRxPacket M.host.dev buf with fault | dev
          · simp [stepReader, hphase, hhandle] at hstep
          · simp only [stepReader, hphase, hhandle, Option.some.injEq] at hstep
            subst hstep
            exact .readerTransfer handle (some buf) hphase dev
              (eq_or_eq_updateChannel_of_handleRxPacket hhandle)
  | exited => simp [stepReader, hphase] at hstep

/-- **Every step of the machine is one of the transitions.** -/
theorem of_step (hcounts : M.host.dev.CountsStarted) {e : Event m}
    (hstep : M.step requests e = some M') : Transition requests M e M' := by
  cases e with
  | call k => exact of_stepCall hcounts hstep
  | reader handle packet => exact of_stepReader hstep

/-- No step changes what opening found out. -/
theorem sameSetup {e : Event m} (h : Transition requests M e M') :
    M.host.dev.SameSetup M'.host.dev := by
  cases h with
  | startRefused | stopIdle | reset | join | joined | clear | readerCheck =>
      exact ⟨rfl, fun _ => rfl⟩
  | startRunning k i =>
      exact M.host.dev.sameSetup_markStarted i
  | startCreated k i =>
      have h := M.host.dev.sameSetup_markStarted i
      exact ⟨h.hfSizeRx_eq, h.found_eq⟩
  | stopLast k i =>
      have h := M.host.dev.sameSetup_markStopped i
      exact ⟨h.hfSizeRx_eq, h.found_eq⟩
  | stopOther k i =>
      exact M.host.dev.sameSetup_markStopped i
  | readerTransfer handle packet hphase dev hdev =>
      rcases hdev with rfl | ⟨i, q, rfl⟩
      · exact .refl _
      · exact Dev.SameSetup.updateChannel _ i (f := fun ch => { ch with rxq := q }) fun _ => rfl

/-- Every step keeps the counter right. -/
theorem countsStarted {e : Event m} (h : Transition requests M e M')
    (hcounts : M.host.dev.CountsStarted) : M'.host.dev.CountsStarted := by
  cases h with
  | startRefused | stopIdle | reset | join | joined | clear | readerCheck => exact hcounts
  | startRunning k i modeFlags hrequest hpc hcheck =>
      exact hcounts.markStarted (Host.started_of_startCheck hcheck)
  | startCreated k i modeFlags hrequest hpc hcheck =>
      exact hcounts.markStarted (Host.started_of_startCheck hcheck)
  | stopLast k i hrequest hpc hstarted => exact hcounts.markStopped hstarted
  | stopOther k i hrequest hpc hstarted => exact hcounts.markStopped hstarted
  | readerTransfer handle packet hphase dev hdev =>
      rcases hdev with rfl | ⟨i, q, rfl⟩
      · exact hcounts
      · exact hcounts.updateRxq i q

end Transition

end Machine

end GsUsb.Driver
