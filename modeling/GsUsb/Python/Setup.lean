/-
# Setting a channel up from Python

`Bus.configure` and `Bus.start` send what a channel needs before there is any traffic.  Both look at
what each call of the library returns, and an exception leaves what was sent before.  The last thing
that `Bus.start` does is to start the listener thread, which can raise as well.
-/

import GsUsb.Driver.Control
import GsUsb.Python.Bus
import GsUsb.Python.Frame

namespace GsUsb.Python

open GsUsb.Driver GsUsb.Math

/-- A device while a `Bus` sets it up: what the library knows and what the requests have left on the
wire, with the attributes of the bus that `start` assigns. -/
structure Attached (n : ℕ) extends Control n where
  started : Bool
  stopEvent : Bool
  /-- Where the thread of `_listener_thread` is. -/
  listenerThread : Option Phase

/-- A part of the set-up: what it raises or returns and what it leaves, or `none` where a call of
the library does not return. -/
abbrev Setup (n : ℕ) (α : Type) := ExceptT Exn (StateT (Attached n) Option) α

/-- A call of the library that sends a bit timing, and `_check` of what it returns. -/
def checkTiming {n : ℕ} (send : Channel → ℤ → Option (ℤ × Option OutRequest)) (i : Fin n)
    (transfer : Transfer) (context : String) : Setup n Unit := fun s =>
  (send (s.host.dev.channel i) transfer.rc).map fun result =>
    ((check result.1 context).map fun _ => (),
      { s with toControl := s.toControl.send transfer result })

/-- `Bus.configure` of an open bus, with the transfers of the two timings. -/
def Bus.configure {n : ℕ} (i : Fin n) (bitrate : ℤ) (samplePoint : ℚ) (fd : Bool)
    (dataBitrate : Option ℤ) (dataSamplePoint : ℚ) (nominal data : Transfer) : Setup n Unit := do
  checkTiming (gsusbChannelSetBitrate · (UInt32.ofInt bitrate) samplePoint) i nominal
    "set_bitrate"
  if fd then
    match dataBitrate with
    | none => throw (.valueError "fd=True requires data_bitrate")
    | some dataBitrate =>
      checkTiming (gsusbChannelSetDataBitrate · (UInt32.ofInt dataBitrate) dataSamplePoint) i data
        "set_data_bitrate"

/-- The `mode` of `Bus.start`. -/
def startMode (listenOnly loopback fd oneShot tripleSample berrReporting : Bool) : UInt32 :=
  (if listenOnly then gsusbModeListenOnly else 0) |||
    (if loopback then gsusbModeLoopback else 0) |||
    (if fd then gsusbModeFd else 0) |||
    (if oneShot then gsusbModeOneShot else 0) |||
    (if tripleSample then gsusbModeTripleSample else 0) |||
    (if berrReporting then gsusbModeBerrReporting else 0)

/-- `self._listener_thread.start()`: what it raises or returns, and where the thread is then. -/
def threadStart : PthreadCreate → Except Exn Unit × Phase
  | .created => (.ok (), .test)
  | .failed _ => (.error (.runtimeError "can't start new thread"), .unstarted)

/-- `Bus.start` of an open bus, with the outcomes of the MODE transfer, of `pthread_create` in the
library and of starting the listener thread. -/
def Bus.start {n : ℕ} (i : Fin n)
    (listenOnly loopback fd oneShot tripleSample berrReporting : Bool) (transfer : Transfer)
    (thread listener : PthreadCreate) : Setup n Unit := fun s =>
  if s.started then some (.ok (), s)
  else
    let mode := startMode listenOnly loopback fd oneShot tripleSample berrReporting
    let (rc, host) := s.host.gsusbChannelStart i mode transfer.rc thread
    let s := { s with toControl := s.toControl.sendMode transfer (rc, host) }
    match check rc "start" with
    | .error exn => some (.error exn, s)
    | .ok _ =>
      let (result, phase) := threadStart listener
      some (result, { s with started := true, stopEvent := false, listenerThread := some phase })

/-- A device that was opened just now, and its bus. -/
def Attached.opened {n : ℕ} (dev : Dev n) (registers : Registers) : Attached n :=
  ⟨.opened dev ⟨registers, []⟩, false, false, none⟩

/-- No code of the library is positive, so that `_check` raises for every failure. -/
theorem check_of_nonpos {rc : ℤ} (hrc : rc ≤ 0) (context : String) :
    check rc context = if rc = 0 then .ok rc
      else .error (.gsusbError rc (context ++ ": " ++ gsusbStrerror rc)) := by
  rw [check]
  rcases hrc.lt_or_eq with hneg | hzero
  · rw [if_pos hneg, if_neg hneg.ne]
  · rw [if_neg hzero.not_lt, if_pos hzero]

theorem ctrlResult_nonpos (rc : ℤ) (len : ℕ) : ctrlResult rc len ≤ 0 := by
  rw [ctrlResult]
  split_ifs
  · exact mapLibusbErr_nonpos rc
  · decide
  · exact le_rfl

theorem calcBittiming_error_neg {clockHz bitrate : UInt32} {samplePoint : ℚ}
    {btc : GsusbBittimingConst} {err : ℤ}
    (h : gsusbCalcBittiming clockHz bitrate samplePoint btc = some (.error err)) : err < 0 := by
  rw [gsusbCalcBittiming] at h
  split_ifs at h
  · cases h
    decide
  · cases h
    decide
  · obtain ⟨best, -, hbest⟩ := Option.map_eq_some_iff.mp h
    cases best with
    | none =>
        cases hbest
        decide
    | some c => cases hbest

/-- The setting that a timing is. -/
def timingSetting : Driver.Phase → BittimingRegs → Setting
  | .nominal => .bittiming
  | .data => .dataBittiming

/-- The request that sends a timing. -/
def timingRequest : Driver.Phase → UInt8
  | .nominal => gsUsbBreqBittiming
  | .data => gsUsbBreqDataBittiming

/-- The call that calculates a timing and sends it. -/
def timingCall (phase : Driver.Phase) (bitrate : ℤ) (samplePoint : ℚ) (ch : Channel) :
    ℤ → Option (ℤ × Option OutRequest) :=
  calcAndSend (timingRequest phase) (ch.timingConst phase) ch (UInt32.ofInt bitrate) samplePoint

/-- A timing that the library calculates for a channel. -/
def Calculated (ch : Channel) (phase : Driver.Phase) (bitrate : ℤ) (samplePoint : ℚ)
    (regs : BittimingRegs) : Prop :=
  ch.Calculated phase (UInt32.ofInt bitrate) samplePoint regs

namespace Attached

variable {n : ℕ} {s t : Attached n} {i : Fin n}

/-- The settings of a channel, as its registers have them. -/
def settings (s : Attached n) (j : Fin n) : Settings :=
  s.wire.registers.settings (UInt16.ofNat j)

/-- A timing has been sent. -/
def give (s : Attached n) (i : Fin n) (phase : Driver.Phase) (regs : BittimingRegs)
    (transfer : Transfer) : Attached n :=
  { s with
    toControl := s.toControl.send transfer
      (sendBittiming (timingRequest phase) (s.host.dev.channel i) regs transfer.rc) }

/-- The device has taken the timing for that phase of that channel, or it has taken nothing. -/
theorem settings_give (hprobed : s.host.dev.Probed) (phase : Driver.Phase) (regs : BittimingRegs)
    (transfer : Transfer) (j : Fin n) :
    (s.give i phase regs transfer).settings j =
      if transfer.Taken gsDeviceBittimingSize ∧ j = i then
        (timingSetting phase regs).apply (s.settings j)
      else s.settings j := by
  cases phase with
  | nominal => exact Wire.settings_send hprobed s.wire i j (.bittiming regs) _ rfl transfer _
  | data => exact Wire.settings_send hprobed s.wire i j (.dataBittiming regs) _ rfl transfer _

end Attached

section Timing

variable {n : ℕ} {s t : Attached n} {i : Fin n} {phase : Driver.Phase} {bitrate : ℤ}
  {samplePoint : ℚ} {transfer : Transfer} {context : String}

/-- What a checked call does, by what the library calculates. -/
theorem checkTiming_run : (checkTiming (timingCall phase bitrate samplePoint) i transfer
      context).run.run s =
    (gsusbCalcBittiming ((s.host.dev.channel i).timingConst phase).fclkCan (UInt32.ofInt bitrate)
        samplePoint ((s.host.dev.channel i).timingConst phase)).map fun
      | .error err => ((check err context).map fun _ => (),
          { s with toControl := s.toControl.send transfer (err, none) })
      | .ok regs => ((check (ctrlResult transfer.rc gsDeviceBittimingSize) context).map fun _ => (),
          s.give i phase regs transfer) := by
  show Option.map _ (calcAndSend ..) = _
  rw [calcAndSend, Option.map_map]
  refine Option.map_congr fun result _ => ?_
  cases result with
  | error err => rfl
  | ok regs => rfl

/-- Exactly when a checked call returns. -/
theorem checkTiming_eq_ok_iff : (checkTiming (timingCall phase bitrate samplePoint) i transfer
      context).run.run s = some (.ok (), t) ↔
    ∃ regs, Calculated (s.host.dev.channel i) phase bitrate samplePoint regs ∧
      transfer.rc = gsDeviceBittimingSize ∧ t = s.give i phase regs transfer := by
  have hmap {rc : ℤ} (hrc : rc ≤ 0) :
      (check rc context).map (fun _ => ()) = .ok () ↔ rc = 0 := by
    rw [check_of_nonpos hrc]
    split_ifs with hzero
    · exact iff_of_true rfl hzero
    · exact iff_of_false (fun h => by cases h) hzero
  rw [checkTiming_run, Option.map_eq_some_iff]
  constructor
  · rintro ⟨result, hcalc, heq⟩
    cases result with
    | error err =>
        have hneg := calcBittiming_error_neg hcalc
        exact absurd ((hmap hneg.le).mp (Prod.ext_iff.mp heq).1) hneg.ne
    | ok regs =>
        obtain ⟨hok, rfl⟩ := Prod.ext_iff.mp heq
        exact ⟨regs, hcalc,
          ctrlResult_eq_zero_iff.mp ((hmap (ctrlResult_nonpos _ _)).mp hok), rfl⟩
  · rintro ⟨regs, hcalc, hrc, rfl⟩
    refine ⟨.ok regs, hcalc, Prod.ext ?_ rfl⟩
    exact (hmap (ctrlResult_nonpos _ _)).mpr (ctrlResult_eq_zero_iff.mpr hrc)

/-- A checked call leaves a calculated timing or nothing. -/
theorem checkTiming_leaves {result : Except Exn Unit}
    (h : (checkTiming (timingCall phase bitrate samplePoint) i transfer context).run.run s =
      some (result, t)) :
    t.host = s.host ∧ t.started = s.started ∧ t.listenerThread = s.listenerThread ∧
      (t.wire.registers = s.wire.registers ∨
        ∃ regs, Calculated (s.host.dev.channel i) phase bitrate samplePoint regs ∧
          t = s.give i phase regs transfer) := by
  rw [checkTiming_run, Option.map_eq_some_iff] at h
  obtain ⟨calculated, hcalc, heq⟩ := h
  cases calculated with
  | error err =>
      obtain ⟨-, rfl⟩ := Prod.ext_iff.mp heq
      exact ⟨rfl, rfl, rfl, .inl rfl⟩
  | ok regs =>
      obtain ⟨-, rfl⟩ := Prod.ext_iff.mp heq
      exact ⟨rfl, rfl, rfl, .inr ⟨regs, hcalc, rfl⟩⟩

end Timing

namespace Setup

variable {n : ℕ} {α β : Type} {x : Setup n α} {f : α → Setup n β} {s t : Attached n}

/-- What comes next runs where there was no exception. -/
theorem bind_eq_ok_iff {b : β} : (x >>= f).run.run s = some (.ok b, t) ↔
    ∃ a u, x.run.run s = some (.ok a, u) ∧ (f a).run.run u = some (.ok b, t) := by
  show ((x.run.run s).bind fun p => _) = _ ↔ _
  constructor
  · intro h
    obtain ⟨⟨result, u⟩, hx, hf⟩ := Option.bind_eq_some_iff.mp h
    cases result with
    | error exn => cases hf
    | ok a => exact ⟨a, u, hx, hf⟩
  · rintro ⟨a, u, hx, hf⟩
    exact Option.bind_eq_some_iff.mpr ⟨_, hx, hf⟩

/-- It ends in the first part, with an exception, or in the second. -/
theorem bind_eq_some {result : Except Exn β} (h : (x >>= f).run.run s = some (result, t)) :
    (∃ exn, x.run.run s = some (.error exn, t) ∧ result = .error exn) ∨
      ∃ a u, x.run.run s = some (.ok a, u) ∧ (f a).run.run u = some (result, t) := by
  change ((x.run.run s).bind fun p => _) = _ at h
  obtain ⟨⟨first, u⟩, hx, hf⟩ := Option.bind_eq_some_iff.mp h
  cases first with
  | error exn =>
      cases hf
      exact .inl ⟨exn, hx, rfl⟩
  | ok a => exact .inr ⟨a, u, hx, hf⟩

end Setup

section Configure

variable {n : ℕ} {s t : Attached n} {i : Fin n} {bitrate : ℤ} {samplePoint : ℚ} {fd : Bool}
  {dataBitrate : Option ℤ} {dataSamplePoint : ℚ} {nominal data : Transfer}

/-- A timing that a channel can be given for a phase, by a transfer that is complete. -/
def Given (ch : Channel) (phase : Driver.Phase) (bitrate : ℤ) (samplePoint : ℚ)
    (transfer : Transfer) (regs : BittimingRegs) : Prop :=
  Calculated ch phase bitrate samplePoint regs ∧ transfer.rc = gsDeviceBittimingSize

/-- Exactly when `Bus.configure` returns. -/
theorem configure_eq_ok_iff : (Bus.configure i bitrate samplePoint fd dataBitrate dataSamplePoint
      nominal data).run.run s = some (.ok (), t) ↔
    ∃ regs, Given (s.host.dev.channel i) .nominal bitrate samplePoint nominal regs ∧
      if fd then
        ∃ b dataRegs, dataBitrate = some b ∧
          Given (s.host.dev.channel i) .data b dataSamplePoint data dataRegs ∧
          t = (s.give i .nominal regs nominal).give i .data dataRegs data
      else t = s.give i .nominal regs nominal := by
  show ((checkTiming (timingCall .nominal bitrate samplePoint) i nominal "set_bitrate") >>=
    _).run.run s = _ ↔ _
  rw [Setup.bind_eq_ok_iff]
  constructor
  · rintro ⟨⟨⟩, u, hset, hrest⟩
    obtain ⟨regs, hcalc, hrc, rfl⟩ := checkTiming_eq_ok_iff.mp hset
    refine ⟨regs, ⟨hcalc, hrc⟩, ?_⟩
    cases fd with
    | false =>
        cases hrest
        rfl
    | true =>
        cases dataBitrate with
        | none => cases hrest
        | some b =>
            have hdata : (checkTiming (timingCall .data b dataSamplePoint) i data
                "set_data_bitrate").run.run (s.give i .nominal regs nominal) = some (.ok (), t) :=
              hrest
            obtain ⟨dataRegs, hdataCalc, hdataRc, rfl⟩ := checkTiming_eq_ok_iff.mp hdata
            exact ⟨b, dataRegs, rfl, ⟨hdataCalc, hdataRc⟩, rfl⟩
  · rintro ⟨regs, ⟨hcalc, hrc⟩, hrest⟩
    refine ⟨(), _, checkTiming_eq_ok_iff.mpr ⟨regs, hcalc, hrc, rfl⟩, ?_⟩
    cases fd with
    | false =>
        obtain rfl := hrest
        rfl
    | true =>
        obtain ⟨b, dataRegs, rfl, ⟨hdataCalc, hdataRc⟩, rfl⟩ := hrest
        have hdata : (checkTiming (timingCall .data b dataSamplePoint) i data
            "set_data_bitrate").run.run (s.give i .nominal regs nominal) = some (.ok (), _) :=
          checkTiming_eq_ok_iff.mpr ⟨dataRegs, hdataCalc, hdataRc, rfl⟩
        exact hdata

end Configure

/-! ## The start -/

/-- The bit of the mode that the library checks against the features. -/
theorem startMode_fd (listenOnly loopback fd oneShot tripleSample berrReporting : Bool) :
    startMode listenOnly loopback fd oneShot tripleSample berrReporting &&& gsusbModeFd ≠ 0 ↔
      fd = true := by
  revert listenOnly loopback fd oneShot tripleSample berrReporting
  decide

theorem startCheck_nonpos {n : ℕ} (dev : Dev n) (i : Fin n) (mode : UInt32) :
    Host.startCheck dev i mode ≤ 0 := by
  rw [Host.startCheck]
  split_ifs <;> decide

theorem channelStart_nonpos {n : ℕ} (host : Host n) (i : Fin n) (mode : UInt32) (rc : ℤ)
    (thread : PthreadCreate) : (host.gsusbChannelStart i mode rc thread).1 ≤ 0 := by
  by_cases hcheck : Host.startCheck host.dev i mode = 0
  · rw [Host.gsusbChannelStart_fst hcheck]
    split_ifs
    · exact ctrlResult_nonpos _ _
    · exact le_rfl
    · decide
  · rw [Host.gsusbChannelStart_of_check hcheck]
    exact startCheck_nonpos _ _ _

section Start

variable {n : ℕ} {s t : Attached n} {i : Fin n}
  {listenOnly loopback fd oneShot tripleSample berrReporting : Bool} {transfer : Transfer}
  {thread listener : PthreadCreate}

/-- The attributes of a bus whose channel was started. -/
def Attached.running (s : Attached n) (phase : Phase) : Attached n :=
  { s with started := true, stopEvent := false, listenerThread := some phase }

/-- What `gsusb_channel_start` leaves of a bus. -/
def Attached.startChannel (s : Attached n) (i : Fin n) (mode : UInt32) (transfer : Transfer)
    (thread : PthreadCreate) : Attached n :=
  { s with toControl := s.toControl.start i mode transfer thread }

/-- A start that is not refused gives the channel its mode, where the device takes it. -/
theorem Attached.settings_startChannel (hprobed : s.host.dev.Probed) {mode : UInt32}
    (hcheck : Host.startCheck s.host.dev i mode = 0) (transfer : Transfer) (thread : PthreadCreate)
    (j : Fin n) :
    (s.startChannel i mode transfer thread).settings j =
      if transfer.Taken gsDeviceModeSize ∧ j = i then
        (Setting.mode ⟨gsCanModeStart,
          (startRequest (s.host.dev.channel i) mode).flags⟩).apply (s.settings j)
      else s.settings j := by
  rw [settings, startChannel, Control.start_eq hcheck]
  exact Wire.settings_send hprobed s.wire i j _ _ rfl transfer _

theorem Attached.settings_startChannel_of_check {mode : UInt32}
    (hcheck : Host.startCheck s.host.dev i mode ≠ 0) (j : Fin n) :
    (s.startChannel i mode transfer thread).settings j = s.settings j := by
  rw [settings, startChannel, Control.start_of_check hcheck]
  rfl

/-- The start of a channel leaves its timings, and the settings of the other channels. -/
theorem Attached.same_startChannel (hprobed : s.host.dev.Probed) (i : Fin n) (mode : UInt32)
    (transfer : Transfer) (thread : PthreadCreate) :
    (∀ phase, ((s.startChannel i mode transfer thread).settings i).timing phase =
        (s.settings i).timing phase) ∧
      ∀ j ≠ i, (s.startChannel i mode transfer thread).settings j = s.settings j := by
  by_cases hcheck : Host.startCheck s.host.dev i mode = 0
  · have hsettings := settings_startChannel hprobed hcheck transfer thread
    constructor
    · intro phase
      rw [hsettings]
      split
      · cases phase <;> rfl
      · rfl
    · intro j hj
      rw [hsettings, if_neg fun h => hj h.2]
  · exact ⟨fun phase => by rw [settings_startChannel_of_check hcheck],
      fun j _ => settings_startChannel_of_check hcheck j⟩

/-- `Bus.start` of a bus that is not started. -/
theorem start_run (hfresh : s.started = false) :
    let mode := startMode listenOnly loopback fd oneShot tripleSample berrReporting
    let rc := (s.host.gsusbChannelStart i mode transfer.rc thread).1
    (Bus.start i listenOnly loopback fd oneShot tripleSample berrReporting transfer thread
        listener).run.run s =
      if rc = 0 then some ((threadStart listener).1,
        (s.startChannel i mode transfer thread).running (threadStart listener).2)
      else some (.error (.gsusbError rc ("start: " ++ gsusbStrerror rc)),
        s.startChannel i mode transfer thread) := by
  intro mode rc
  have hcheck : check rc "start" = _ :=
    check_of_nonpos (channelStart_nonpos s.host i mode transfer.rc thread) "start"
  show Bus.start _ _ _ _ _ _ _ _ _ _ s = _
  rw [Bus.start, if_neg (ne_true_of_eq_false hfresh)]
  change (match check rc "start" with | .error exn => _ | .ok _ => _) = _
  rw [hcheck]
  split_ifs
  · rfl
  · rfl

/-- The attributes of a bus, as the machine of its lifecycle has them. -/
structure Attached.IsBus (s : Attached n) (b : Bus) : Prop where
  started : b.started = s.started
  stopEvent : b.stopEvent = s.stopEvent
  listenerThread : b.listenerThread.map b.thread = s.listenerThread

/-- The last step of `start` in that machine. -/
def threadEvent : PthreadCreate → BusEvent
  | .created => .go .application
  | .failed _ => .fail .application

/-- The steps of `start` in that machine. -/
def startEvents (started : Bool) (rc : ℤ) (listener : PthreadCreate) : List BusEvent :=
  [.call .application .start, .go .application, .go .application] ++
    if started then []
    else if rc ≠ 0 then [.fail .application]
    else [.go .application, .go .application, .go .application, .go .application,
      threadEvent listener]

/-- The two tests of `start`. -/
theorem run_startTests {b : Bus} (hopen : b.dev ≠ none) (hout : b.app = .out) :
    run Bus.step b [.call .application .start, .go .application, .go .application] =
      some { b with
        app := if b.started then .out else .channelStart b.ch
        stopReturned := false } := by
  obtain ⟨ctx, dev, ch, started, stopEvent, listenerThread, created, thread, app, opened, freed,
    stopReturned⟩ := b
  dsimp only at hopen hout
  subst hout
  cases dev with
  | none => exact absurd rfl hopen
  | some dev => cases started <;> rfl

/-- The steps from the start of the channel on, with a thread that was never made before. -/
theorem run_startThread {b : Bus} {ch : Option ℕ} (happ : b.app = .channelStart ch)
    (hnew : b.thread b.created = .unstarted) (listener : PthreadCreate) :
    run Bus.step b [.go .application, .go .application, .go .application, .go .application,
        threadEvent listener] =
      some { b with
        app := .out
        started := true
        stopEvent := false
        listenerThread := some b.created
        created := b.created + 1
        thread := Function.update b.thread b.created (threadStart listener).2 } := by
  obtain ⟨ctx, dev, ch', started, stopEvent, listenerThread, created, thread, app, opened, freed,
    stopReturned⟩ := b
  dsimp only at happ hnew
  subst happ
  cases listener with
  | created =>
      simp only [run, Bus.step, Bus.pc?, Bus.go, Bus.setPc, Bus.setThread, threadEvent, hnew,
        if_true, Option.map_some, Option.bind_some]
      rfl
  | failed handle =>
      have hthread : Function.update thread created .unstarted = thread := by
        rw [← hnew, Function.update_eq_self]
      simp only [run, Bus.step, Bus.pc?, Bus.go, Bus.fail, Bus.setPc, threadEvent, threadStart,
        hthread, Option.map_some, Option.bind_some]

/-- **One `start`.**  In the machine of the lifecycle the steps of `start` do to the attributes of
an open bus what `Bus.start` does, whether it returns or raises. -/
theorem Attached.IsBus.start {b : Bus} (hbus : s.IsBus b) (hopen : b.dev ≠ none)
    (hout : b.app = .out) (hnew : b.thread b.created = .unstarted) {result : Except Exn Unit}
    (h : (Bus.start i listenOnly loopback fd oneShot tripleSample berrReporting transfer thread
      listener).run.run s = some (result, t)) :
    let mode := startMode listenOnly loopback fd oneShot tripleSample berrReporting
    let rc := (s.host.gsusbChannelStart i mode transfer.rc thread).1
    ∃ b', run Bus.step b (startEvents s.started rc listener) = some b' ∧ t.IsBus b' ∧
      b'.app = .out := by
  intro mode rc
  have htests := run_startTests hopen hout
  rw [hbus.started] at htests
  cases hfresh : s.started with
  | true =>
      have hsame : some (Except.ok (), s) = some (result, t) := by
        rw [← h]
        show _ = Bus.start _ _ _ _ _ _ _ _ _ _ s
        rw [Bus.start, if_pos hfresh]
      cases hsame
      rw [hfresh] at htests
      exact ⟨_, htests, ⟨hfresh.symm, hbus.stopEvent, hbus.listenerThread⟩, rfl⟩
  | false =>
      rw [start_run hfresh] at h
      change (if rc = 0 then _ else _) = _ at h
      rw [hfresh] at htests
      by_cases hzero : rc = 0
      · rw [if_pos hzero] at h
        cases h
        have hevents : startEvents false rc listener =
            [.call .application .start, .go .application, .go .application] ++
              [.go .application, .go .application, .go .application, .go .application,
                threadEvent listener] := by
          simp [startEvents, hzero]
        let b₁ : Bus :=
          { b with app := .channelStart b.ch, started := false, stopReturned := false }
        have hrest := run_startThread (b := b₁) rfl hnew listener
        rw [hevents, run_append, htests]
        refine ⟨_, hrest, ⟨rfl, rfl, ?_⟩, rfl⟩
        simp [Attached.running, b₁]
      · rw [if_neg hzero] at h
        cases h
        have hevents : startEvents false rc listener =
            [.call .application .start, .go .application, .go .application] ++
              [.fail .application] := by
          simp [startEvents, hzero]
        rw [hevents, run_append, htests]
        exact ⟨_, rfl, ⟨hfresh.symm, hbus.stopEvent, hbus.listenerThread⟩, rfl⟩

end Start

section OpenedDevice

variable {n : ℕ} {dev : Dev n} {i : Fin n} {mode : UInt32} {rc : ℤ} {thread : PthreadCreate}

theorem startCheck_opened_iff (hopened : dev.Opened) : Host.startCheck dev i mode = 0 ↔
    (mode &&& gsusbModeFd ≠ 0 → (dev.channel i).hasFeature gsCanFeatureFd = true) := by
  rw [Host.startCheck, hopened.stopped i]
  cases (dev.channel i).hasFeature gsCanFeatureFd with
  | false =>
      by_cases hfd : mode &&& gsusbModeFd = 0
      · simp [hfd]
      · simp [hfd, gsusbErrInvalid]
  | true => simp

/-- Exactly when the start of a channel of an opened device succeeds. -/
theorem channelStart_opened_iff (hopened : dev.Opened) :
    ((Host.init dev).gsusbChannelStart i mode rc thread).1 = 0 ↔
      (mode &&& gsusbModeFd ≠ 0 → (dev.channel i).hasFeature gsCanFeatureFd = true) ∧
        rc = gsDeviceModeSize ∧ thread = .created := by
  rw [← startCheck_opened_iff hopened]
  by_cases hcheck : Host.startCheck dev i mode = 0
  · rw [and_iff_right hcheck, Host.gsusbChannelStart_fst_eq_zero_iff hcheck,
      ctrlResult_eq_zero_iff]
    have hrunning : (Host.init dev).dev.readerRunning = false := hopened.readerRunning_eq
    simp [hrunning]
  · rw [Host.gsusbChannelStart_of_check hcheck]
    exact iff_of_false hcheck fun h => hcheck h.1

/-- What a start of an opened device leaves that succeeds. -/
theorem channelStart_opened_ok (hopened : dev.Opened)
    (h : ((Host.init dev).gsusbChannelStart i mode rc thread).1 = 0) :
    let host := ((Host.init dev).gsusbChannelStart i mode rc thread).2
    host.world = ⟨1, [], [(startRequest (dev.channel i) mode, gsDeviceModeSize)]⟩ ∧
      host.dev.readerRunning = true ∧
      ∀ j, (host.dev.channel j).started = decide (i = j) := by
  intro host
  obtain ⟨hfeature, rfl, rfl⟩ := (channelStart_opened_iff hopened).mp h
  have hcheck : Host.startCheck (Host.init dev).dev i mode = 0 :=
    (startCheck_opened_iff hopened).mpr hfeature
  have hresult : ctrlResult (gsDeviceModeSize : ℤ) gsDeviceModeSize = 0 :=
    ctrlResult_eq_zero_iff.mpr rfl
  rcases Host.gsusbChannelStart_cases hcheck gsDeviceModeSize .created with
    ⟨hne, -⟩ | ⟨-, hrunning, -⟩ | ⟨-, -, handle, hfailed, -⟩ | ⟨-, -, -, heq⟩
  · exact absurd hresult hne
  · exact absurd (hopened.readerRunning_eq.symm.trans hrunning) (by decide)
  · cases hfailed
  · have hhost : host = _ := heq
    rw [hhost]
    refine ⟨rfl, rfl, fun j => ?_⟩
    show ((dev.markStarted i).channel j).started = _
    rw [Dev.started_markStarted, hopened.stopped j, Bool.or_false]

/-- What a start of an opened device leaves that fails: no channel started, no reader, and a
request in the log unless it was refused. -/
theorem channelStart_opened_error (hopened : dev.Opened)
    (h : ((Host.init dev).gsusbChannelStart i mode rc thread).1 ≠ 0) :
    let host := ((Host.init dev).gsusbChannelStart i mode rc thread).2
    host.dev.readerRunning = false ∧ (∀ j, (host.dev.channel j).started = false) ∧
      host.world.modes = if Host.startCheck dev i mode = 0
        then [(startRequest (dev.channel i) mode, rc)] else [] := by
  intro host
  by_cases hcheck : Host.startCheck (Host.init dev).dev i mode = 0
  · have hmodes : host.world.modes = [(startRequest (dev.channel i) mode, rc)] :=
      Host.modes_gsusbChannelStart hcheck rc thread
    have hcheck' : Host.startCheck dev i mode = 0 := hcheck
    rw [hmodes, if_pos hcheck']
    refine ⟨?_, fun j => ?_, rfl⟩
    · rcases Host.gsusbChannelStart_cases hcheck rc thread with
        ⟨-, heq⟩ | ⟨-, hrunning, -⟩ | ⟨-, -, handle, -, heq⟩ | ⟨hresult, -, hcreated, -⟩
      · have hhost : host = _ := heq
        rw [hhost]
        exact hopened.readerRunning_eq
      · exact absurd (hopened.readerRunning_eq.symm.trans hrunning) (by decide)
      · have hhost : host = _ := heq
        rw [hhost]
      · refine absurd ?_ h
        exact (Host.gsusbChannelStart_fst_eq_zero_iff hcheck rc thread).mpr
          ⟨hresult, .inr hcreated⟩
    · have hstarted := Host.started_gsusbChannelStart hcheck rc thread j
      rw [decide_eq_false h] at hstarted
      refine hstarted.trans ?_
      split_ifs
      · rfl
      · exact hopened.stopped j
  · have hhost : host = Host.init dev :=
      congrArg Prod.snd (Host.gsusbChannelStart_of_check hcheck rc thread)
    have hcheck' : ¬ Host.startCheck dev i mode = 0 := hcheck
    rw [hhost, if_neg hcheck']
    exact ⟨hopened.readerRunning_eq, hopened.stopped, rfl⟩

end OpenedDevice

end GsUsb.Python
