/-
# The constructor of the python-can bus

`GsUsbNativeBus.__init__` opens a `Bus`, configures it and starts it.  An exception of one of these
calls ends it there, with a device that may be open and partly set up.
-/

import GsUsb.Python.OpenDevice
import GsUsb.Python.Setup

namespace GsUsb.Python

open GsUsb.Driver

/-- The arguments of `GsUsbNativeBus.__init__` that reach the library. -/
structure NativeOptions where
  vid : Option ℤ
  pid : Option ℤ
  usbBus : Option ℤ
  usbAddr : Option ℤ
  gsChannel : ℤ
  bitrate : ℤ
  fd : Bool
  dataBitrate : Option ℤ
  samplePoint : ℚ
  dataSamplePoint : ℚ
  listenOnly : Bool
  loopback : Bool
  oneShot : Bool

/-- The results of the calls below the library. -/
structure NativeAnswers where
  init : ℤ
  usb : ℕ → Libusb
  nominal : Transfer
  data : Transfer
  mode : Transfer
  thread : PthreadCreate
  /-- Of `_listener_thread.start()`. -/
  listener : PthreadCreate

/-- `self._bus.configure(...)` and `self._bus.start(...)`. -/
def GsUsbNativeBus.setUp (o : NativeOptions) (a : NativeAnswers) {n : ℕ} (i : Fin n) :
    Setup n Unit := do
  Bus.configure i o.bitrate o.samplePoint o.fd o.dataBitrate o.dataSamplePoint a.nominal a.data
  Bus.start i o.listenOnly o.loopback o.fd o.oneShot false false a.mode a.thread a.listener

/-- `GsUsbNativeBus.__init__`, for a device whose registers are these: what it raises, and the
device that is open then. -/
def GsUsbNativeBus.init (o : NativeOptions) (a : NativeAnswers) (registers : Registers) :
    Option (Except Exn Unit × Option ((n : ℕ) × Fin n × Attached n)) :=
  match Bus.open a.init a.usb o.vid o.pid o.usbBus o.usbAddr o.gsChannel with
  | .error err => some (.error err, none)
  | .ok ⟨n, dev, i⟩ =>
    ((setUp o a i).run.run (.opened dev registers)).map fun (result, s) =>
      (result, some ⟨n, i, s⟩)

namespace GsUsbNativeBus

variable {o : NativeOptions} {a : NativeAnswers} {registers : Registers}

/-- The flags that the device is started with. -/
def modeFlags (o : NativeOptions) (hwTimestamp : Bool) : UInt32 :=
  (if o.listenOnly then gsCanModeListenOnly else 0) |||
    (if o.loopback then gsCanModeLoopBack else 0) |||
    (if o.oneShot then gsCanModeOneShot else 0) |||
    (if o.fd then gsCanModeFd else 0) |||
    (if hwTimestamp then gsCanModeHwTimestamp else 0)

/-- The bitrate and the sample point that are asked of a phase. -/
def asks (o : NativeOptions) : Driver.Phase → Option (ℤ × ℚ)
  | .nominal => some (o.bitrate, o.samplePoint)
  | .data => if o.fd then o.dataBitrate.map (·, o.dataSamplePoint) else none

/-- What a device must be like for its channel to be started, and how the calls must go. -/
structure CanStart (o : NativeOptions) (a : NativeAnswers) {n : ℕ} (dev : Dev n) (i : Fin n) :
    Prop where
  nominal : ∃ regs, Given (dev.channel i) .nominal o.bitrate o.samplePoint a.nominal regs
  data : o.fd = true → (dev.channel i).hasFeature gsCanFeatureFd = true ∧
    ∃ b regs, o.dataBitrate = some b ∧
      Given (dev.channel i) .data b o.dataSamplePoint a.data regs
  mode : a.mode.rc = gsDeviceModeSize
  thread : a.thread = .created

/-- And for the set-up to return. -/
structure CanSetUp (o : NativeOptions) (a : NativeAnswers) {n : ℕ} (dev : Dev n) (i : Fin n) :
    Prop extends CanStart o a dev i where
  listener : a.listener = .created

/-- The mode that the channel is started in. -/
def startedMode (o : NativeOptions) {n : ℕ} (dev : Dev n) (i : Fin n) : DeviceMode :=
  ⟨gsCanModeStart, modeFlags o ((dev.channel i).hasFeature gsCanFeatureHwTimestamp)⟩

/-- The MODE requests of a start, with what the transfer returns. -/
def startLog (o : NativeOptions) {n : ℕ} (dev : Dev n) (i : Fin n) (rc : ℤ) :
    List (ModeRequest × ℤ) :=
  [(⟨UInt16.ofNat i, (startedMode o dev i).mode, (startedMode o dev i).flags⟩, rc)]

/-- What the constructor makes of a device whose registers were these, but for the listener
thread. -/
structure IsStarted (o : NativeOptions) (registers : Registers) {n : ℕ} (dev : Dev n) (i : Fin n)
    (s : Attached n) : Prop where
  timing : ∀ phase, ∀ asked ∈ asks o phase,
    Calculated (dev.channel i) phase asked.1 asked.2 ((s.settings i).timing phase)
  unasked : o.fd = false →
    (s.settings i).dataBittiming = (registers.settings (UInt16.ofNat i)).dataBittiming
  mode : (s.settings i).mode = startedMode o dev i
  others : ∀ j ≠ i, s.settings j = registers.settings (UInt16.ofNat j)
  modes : s.host.world.modes = startLog o dev i gsDeviceModeSize
  started : ∀ j, (s.host.dev.channel j).started = decide (i = j)
  reader : s.host.dev.readerRunning = true ∧ s.host.world.created = 1
  bus : s.started = true ∧ s.stopEvent = false

/-- What it makes of a device where it returns. -/
structure IsSetUp (o : NativeOptions) (registers : Registers) {n : ℕ} (dev : Dev n) (i : Fin n)
    (s : Attached n) : Prop extends IsStarted o registers dev i s where
  listener : s.listenerThread = some .test

/-- The flags of a START are those that were asked for. -/
theorem flags_startRequest (o : NativeOptions) (ch : Channel) :
    (startRequest ch (startMode o.listenOnly o.loopback o.fd o.oneShot false false)).flags =
      modeFlags o (ch.hasFeature gsCanFeatureHwTimestamp) := by
  rw [startRequest, modeFlags]
  dsimp only
  generalize o.listenOnly = listenOnly, o.loopback = loopback, o.fd = fd, o.oneShot = oneShot,
    ch.hasFeature gsCanFeatureHwTimestamp = hwTimestamp
  revert listenOnly loopback fd oneShot hwTimestamp
  decide

section SetUp

variable {n : ℕ} {dev : Dev n} {i : Fin n} {t : Attached n}

/-- The flags that Python asks the library for. -/
abbrev askedMode (o : NativeOptions) : UInt32 :=
  startMode o.listenOnly o.loopback o.fd o.oneShot false false

/-- A bus with a device that has only been sent timings. -/
structure IsFresh (dev : Dev n) (t : Attached n) : Prop where
  host_eq : t.host = Host.init dev
  started_eq : t.started = false
  listener_eq : t.listenerThread = none

theorem IsFresh.opened : IsFresh dev (.opened dev registers) := ⟨rfl, rfl, rfl⟩

theorem IsFresh.give (h : IsFresh dev t) (phase : Driver.Phase) (regs : BittimingRegs)
    (transfer : Transfer) : IsFresh dev (t.give i phase regs transfer) :=
  ⟨h.host_eq, h.started_eq, h.listener_eq⟩

/-- A timing that was sent leaves the rest of the bus as it was. -/
theorem configured {u : Attached n} (h : (Bus.configure i o.bitrate o.samplePoint o.fd o.dataBitrate
      o.dataSamplePoint a.nominal a.data).run.run (.opened dev registers) = some (.ok (), u)) :
    IsFresh dev u := by
  obtain ⟨regs, -, hrest⟩ := configure_eq_ok_iff.mp h
  cases hfd : o.fd with
  | false =>
      rw [hfd] at hrest
      obtain rfl := hrest
      exact IsFresh.opened.give _ _ _
  | true =>
      rw [hfd] at hrest
      obtain ⟨b, dataRegs, -, -, rfl⟩ := hrest
      exact (IsFresh.opened.give _ _ _).give _ _ _

/-- What becomes of the settings of a device on the way: each timing of the channel is as it was or
one that was asked for, and neither its mode nor another channel changes. -/
structure Touched (o : NativeOptions) (dev : Dev n) (i : Fin n) (s t : Attached n) : Prop where
  timing : ∀ phase, (t.settings i).timing phase = (s.settings i).timing phase ∨
    ∃ asked ∈ asks o phase,
      Calculated (dev.channel i) phase asked.1 asked.2 ((t.settings i).timing phase)
  others : ∀ j ≠ i, t.settings j = s.settings j
  mode : (t.settings i).mode = (s.settings i).mode

theorem Touched.of_registers {s t : Attached n} (h : t.wire.registers = s.wire.registers) :
    Touched o dev i s t := by
  have hsettings (j : Fin n) : t.settings j = s.settings j := by
    rw [Attached.settings, Attached.settings, h]
  exact ⟨fun phase => .inl (by rw [hsettings]), fun j _ => hsettings j, by rw [hsettings]⟩

theorem Touched.trans {s u : Attached n} (hst : Touched o dev i s t) (htu : Touched o dev i t u) :
    Touched o dev i s u where
  timing phase := by
    rcases htu.timing phase with hsame | hnew
    · rw [hsame]
      exact hst.timing phase
    · exact .inr hnew
  others j hj := (htu.others j hj).trans (hst.others j hj)
  mode := htu.mode.trans hst.mode

/-- A timing that is sent was asked for, whether or not the device takes it. -/
theorem Touched.give {s : Attached n} (hprobed : s.host.dev.Probed) {phase : Driver.Phase}
    {asked : ℤ × ℚ} (hasked : asked ∈ asks o phase) {regs : BittimingRegs}
    (hcalc : Calculated (dev.channel i) phase asked.1 asked.2 regs) (transfer : Transfer) :
    Touched o dev i s (s.give i phase regs transfer) where
  timing phase' := by
    rw [Attached.settings_give hprobed]
    by_cases htaken : transfer.Taken gsDeviceBittimingSize
    · rw [if_pos ⟨htaken, rfl⟩]
      cases phase with
      | nominal =>
          cases phase' with
          | nominal => exact .inr ⟨asked, hasked, hcalc⟩
          | data => exact .inl rfl
      | data =>
          cases phase' with
          | nominal => exact .inl rfl
          | data => exact .inr ⟨asked, hasked, hcalc⟩
    · rw [if_neg fun h => htaken h.1]
      exact .inl rfl
  others j hj := by
    rw [Attached.settings_give hprobed, if_neg fun h => hj h.2]
  mode := by
    rw [Attached.settings_give hprobed]
    split
    · cases phase <;> rfl
    · rfl

/-- A checked call of the set-up. -/
theorem Touched.of_checkTiming (hopened : dev.Opened) {s : Attached n} (hfresh : IsFresh dev s)
    {phase : Driver.Phase} {asked : ℤ × ℚ} (hasked : asked ∈ asks o phase) {transfer : Transfer}
    {context : String} {result : Except Exn Unit}
    (h : (checkTiming (timingCall phase asked.1 asked.2) i transfer context).run.run s =
      some (result, t)) :
    Touched o dev i s t ∧ IsFresh dev t := by
  obtain ⟨hhost, hstarted, hlistener, hleft⟩ := checkTiming_leaves h
  refine ⟨?_, hhost.trans hfresh.host_eq, hstarted.trans hfresh.started_eq,
    hlistener.trans hfresh.listener_eq⟩
  rcases hleft with hregisters | ⟨regs, hcalc, rfl⟩
  · exact .of_registers hregisters
  · rw [hfresh.host_eq] at hcalc
    exact .give (by rw [hfresh.host_eq]; exact hopened.toProbed) hasked hcalc transfer

/-- `Bus.configure`, whether or not it raises. -/
theorem Touched.of_configure (hopened : dev.Opened) {result : Except Exn Unit}
    (h : (Bus.configure i o.bitrate o.samplePoint o.fd o.dataBitrate o.dataSamplePoint a.nominal
      a.data).run.run (.opened dev registers) = some (result, t)) :
    Touched o dev i (.opened dev registers) t ∧ IsFresh dev t := by
  have hnominal {r : Except Exn Unit} {u : Attached n}
      (hu : (checkTiming (timingCall .nominal o.bitrate o.samplePoint) i a.nominal
        "set_bitrate").run.run (.opened dev registers) = some (r, u)) :
      Touched o dev i (.opened dev registers) u ∧ IsFresh dev u := by
    have hasked : (o.bitrate, o.samplePoint) ∈ asks o .nominal := rfl
    exact Touched.of_checkTiming hopened .opened hasked hu
  change ((checkTiming (timingCall .nominal o.bitrate o.samplePoint) i a.nominal "set_bitrate") >>=
    _).run.run _ = _ at h
  rcases Setup.bind_eq_some h with ⟨exn, hfirst, -⟩ | ⟨⟨⟩, u, hfirst, hrest⟩
  · exact hnominal hfirst
  · obtain ⟨htouched, hfresh⟩ := hnominal hfirst
    cases hfd : o.fd with
    | false =>
        rw [hfd] at hrest
        cases hrest
        exact ⟨htouched, hfresh⟩
    | true =>
        cases hb : o.dataBitrate with
        | none =>
            rw [hfd, hb] at hrest
            cases hrest
            exact ⟨htouched, hfresh⟩
        | some b =>
            rw [hfd, hb] at hrest
            have hasked : (b, o.dataSamplePoint) ∈ asks o .data := by
              rw [asks, hfd, hb]
              rfl
            have hdata : (checkTiming (timingCall .data b o.dataSamplePoint) i a.data
                "set_data_bitrate").run.run u = some (result, t) := hrest
            obtain ⟨hnext, hfresh'⟩ := Touched.of_checkTiming hopened hfresh hasked hdata
            exact ⟨htouched.trans hnext, hfresh'⟩

/-- The timings of a bus that was configured. -/
theorem timing_configured (hopened : dev.Opened) {u : Attached n}
    (h : (Bus.configure i o.bitrate o.samplePoint o.fd o.dataBitrate o.dataSamplePoint a.nominal
      a.data).run.run (.opened dev registers) = some (.ok (), u)) :
    (∀ phase, ∀ asked ∈ asks o phase,
      Calculated (dev.channel i) phase asked.1 asked.2 ((u.settings i).timing phase)) ∧
    (o.fd = false →
      (u.settings i).dataBittiming = (registers.settings (UInt16.ofNat i)).dataBittiming) ∧
    (∀ j ≠ i, u.settings j = registers.settings (UInt16.ofNat j)) ∧
    (u.settings i).mode = (registers.settings (UInt16.ofNat i)).mode := by
  have hsettings {s : Attached n} (hhost : s.host = Host.init dev) {transfer : Transfer}
      (hrc : transfer.rc = gsDeviceBittimingSize) (phase : Driver.Phase) (regs : BittimingRegs)
      (j : Fin n) : (s.give i phase regs transfer).settings j =
        if j = i then (timingSetting phase regs).apply (s.settings j) else s.settings j := by
    rw [Attached.settings_give (by rw [hhost]; exact hopened.toProbed)]
    exact if_congr (and_iff_right (.inl hrc)) rfl rfl
  obtain ⟨regs, ⟨hcalc, hrc⟩, hrest⟩ := configure_eq_ok_iff.mp h
  cases hfd : o.fd with
  | false =>
      rw [hfd] at hrest
      obtain rfl := hrest
      have hown := hsettings (s := .opened dev registers) rfl hrc .nominal regs
      refine ⟨?_, fun _ => ?_, fun j hj => (hown j).trans (if_neg hj), ?_⟩
      · rintro phase asked hasked
        cases phase with
        | nominal =>
            cases hasked
            rw [hown, if_pos rfl]
            exact hcalc
        | data =>
            rw [asks, hfd] at hasked
            cases hasked
      · rw [hown, if_pos rfl]
        rfl
      · rw [hown, if_pos rfl]
        rfl
  | true =>
      rw [hfd] at hrest
      obtain ⟨b, dataRegs, hb, ⟨hdataCalc, hdataRc⟩, rfl⟩ := hrest
      have hown := hsettings (s := .opened dev registers) rfl hrc .nominal regs
      have hboth := hsettings
        (s := Attached.give (.opened dev registers) i .nominal regs a.nominal) rfl hdataRc .data
        dataRegs
      refine ⟨?_, fun hfalse => absurd hfalse (by decide), fun j hj => ?_, ?_⟩
      · rintro phase asked hasked
        rw [hboth, if_pos rfl, hown, if_pos rfl]
        cases phase with
        | nominal =>
            cases hasked
            exact hcalc
        | data =>
            rw [asks, hfd, hb] at hasked
            cases hasked
            exact hdataCalc
      · rw [hboth, if_neg hj, hown, if_neg hj]
        rfl
      · rw [hboth, if_pos rfl, hown, if_pos rfl]
        rfl

/-- The start of the channel, for a bus that was configured. -/
abbrev started (o : NativeOptions) (a : NativeAnswers) (i : Fin n) (t : Attached n) : Attached n :=
  t.startChannel i (askedMode o) a.mode a.thread

/-- What the start of the channel returns, for a device that was opened. -/
def startRc (o : NativeOptions) (a : NativeAnswers) (dev : Dev n) (i : Fin n) : ℤ :=
  ((Host.init dev).gsusbChannelStart i (askedMode o) a.mode.rc a.thread).1

/-- A set-up ends in `configure`, with the start of the channel, or with the start of the listener
thread, and only there is the bus marked started. -/
theorem setUp_cases (hopened : dev.Opened) {result : Except Exn Unit}
    (h : (setUp o a i).run.run (.opened dev registers) = some (result, t)) :
    (t.started = false ∧ Touched o dev i (.opened dev registers) t ∧ IsFresh dev t ∧
        ∃ exn, result = .error exn) ∨
      ∃ u, (Bus.configure i o.bitrate o.samplePoint o.fd o.dataBitrate o.dataSamplePoint a.nominal
          a.data).run.run (.opened dev registers) = some (.ok (), u) ∧
        ((t.started = false ∧ startRc o a dev i ≠ 0 ∧ (∃ exn, result = .error exn) ∧
            t = started o a i u) ∨
          (t.started = true ∧ startRc o a dev i = 0 ∧ result = (threadStart a.listener).1 ∧
            t = (started o a i u).running (threadStart a.listener).2)) := by
  rw [setUp] at h
  rcases Setup.bind_eq_some h with ⟨exn, hconfigure, hresult⟩ | ⟨⟨⟩, u, hconfigure, hstart⟩
  · obtain ⟨htouched, hfresh⟩ := Touched.of_configure hopened hconfigure
    exact .inl ⟨hfresh.started_eq, htouched, hfresh, exn, hresult⟩
  · have hfresh := configured hconfigure
    rw [start_run hfresh.started_eq, hfresh.host_eq] at hstart
    change (if startRc o a dev i = 0 then _ else _) = _ at hstart
    refine .inr ⟨u, hconfigure, ?_⟩
    split_ifs at hstart with hzero
    · cases hstart
      exact .inr ⟨rfl, hzero, rfl, rfl⟩
    · cases hstart
      exact .inl ⟨hfresh.started_eq, hzero, ⟨_, rfl⟩, rfl⟩

/-- Exactly when a set-up of a new bus comes to the listener thread. -/
theorem setUp_starts_iff (hopened : dev.Opened) :
    (∃ t, (setUp o a i).run.run (.opened dev registers) = some ((threadStart a.listener).1, t) ∧
      t.started = true) ↔ CanStart o a dev i := by
  have hstart : startRc o a dev i = 0 ↔
      (o.fd = true → (dev.channel i).hasFeature gsCanFeatureFd = true) ∧
        a.mode.rc = gsDeviceModeSize ∧ a.thread = .created := by
    rw [startRc, channelStart_opened_iff hopened, startMode_fd]
  constructor
  · rintro ⟨t, h, hstarted⟩
    rcases setUp_cases hopened h with
      ⟨hnot, -⟩ | ⟨u, hconfigure, ⟨hnot, -⟩ | ⟨-, hzero, -, -⟩⟩
    · exact absurd hstarted (ne_true_of_eq_false hnot)
    · exact absurd hstarted (ne_true_of_eq_false hnot)
    obtain ⟨hfeature, hmode, hthread⟩ := hstart.mp hzero
    obtain ⟨regs, hregs, hrest⟩ := configure_eq_ok_iff.mp hconfigure
    refine ⟨⟨regs, hregs⟩, fun hfd => ⟨hfeature hfd, ?_⟩, hmode, hthread⟩
    rw [if_pos hfd] at hrest
    obtain ⟨b, dataRegs, hb, hdata, -⟩ := hrest
    exact ⟨b, dataRegs, hb, hdata⟩
  · rintro ⟨⟨regs, hregs⟩, hdata, hmode, hthread⟩
    obtain ⟨u, hconfigure⟩ : ∃ u, (Bus.configure i o.bitrate o.samplePoint o.fd o.dataBitrate
        o.dataSamplePoint a.nominal a.data).run.run (.opened dev registers) =
          some (.ok (), u) := by
      simp only [configure_eq_ok_iff]
      cases hfd : o.fd with
      | false => exact ⟨_, regs, hregs, rfl⟩
      | true =>
          obtain ⟨-, b, dataRegs, hb, hgiven⟩ := hdata hfd
          exact ⟨_, regs, hregs, b, dataRegs, hb, hgiven, rfl⟩
    have hfresh := configured hconfigure
    have hzero := hstart.mpr ⟨fun hfd => (hdata hfd).1, hmode, hthread⟩
    refine ⟨(started o a i u).running (threadStart a.listener).2, ?_, rfl⟩
    show (((Bus.configure i o.bitrate o.samplePoint o.fd o.dataBitrate o.dataSamplePoint a.nominal
      a.data).run.run (.opened dev registers)).bind _) = _
    rw [hconfigure]
    refine (start_run hfresh.started_eq).trans ?_
    rw [hfresh.host_eq]
    exact if_pos hzero

/-- What the library knows when a set-up has marked the bus started. -/
theorem host_of_setUp (hopened : dev.Opened) {result : Except Exn Unit}
    (h : (setUp o a i).run.run (.opened dev registers) = some (result, t))
    (hstarted : t.started = true) :
    t.host = ((Host.init dev).gsusbChannelStart i (askedMode o) a.mode.rc a.thread).2 := by
  rcases setUp_cases hopened h with
    ⟨hnot, -⟩ | ⟨u, hconfigure, ⟨hnot, -⟩ | ⟨-, -, -, rfl⟩⟩
  · exact absurd hstarted (ne_true_of_eq_false hnot)
  · exact absurd hstarted (ne_true_of_eq_false hnot)
  · show (u.host.gsusbChannelStart i (askedMode o) a.mode.rc a.thread).2 = _
    rw [(configured hconfigure).host_eq]

/-- Such a set-up returns exactly if there is a listener thread, and the thread is the only one that
can be missing. -/
theorem isStarted_of_setUp (hopened : dev.Opened) {result : Except Exn Unit}
    (h : (setUp o a i).run.run (.opened dev registers) = some (result, t))
    (hstarted : t.started = true) :
    IsStarted o registers dev i t ∧ result = (threadStart a.listener).1 ∧
      t.listenerThread = some (threadStart a.listener).2 := by
  rcases setUp_cases hopened h with
    ⟨hnot, -⟩ | ⟨u, hconfigure, ⟨hnot, -⟩ | ⟨-, hzero, rfl, rfl⟩⟩
  · exact absurd hstarted (ne_true_of_eq_false hnot)
  · exact absurd hstarted (ne_true_of_eq_false hnot)
  have hhost := (configured hconfigure).host_eq
  obtain ⟨htiming, hunasked, hothers, -⟩ := timing_configured hopened hconfigure
  obtain ⟨hworld, hreader, hchannels⟩ := channelStart_opened_ok hopened hzero
  obtain ⟨hfeature, hrc, -⟩ := (channelStart_opened_iff hopened).mp hzero
  have hcheck : Host.startCheck u.host.dev i (askedMode o) = 0 := by
    rw [hhost]
    exact (startCheck_opened_iff hopened).mpr hfeature
  have hsettings (j : Fin n) : ((started o a i u).running (threadStart a.listener).2).settings j =
      if j = i then _ else u.settings j :=
    (Attached.settings_startChannel (by rw [hhost]; exact hopened.toProbed) hcheck a.mode a.thread
      j).trans
      (if_congr (and_iff_right (.inl hrc)) rfl rfl)
  have hnow : ((started o a i u).running (threadStart a.listener).2).host =
      ((Host.init dev).gsusbChannelStart i (askedMode o) a.mode.rc a.thread).2 := by
    rw [← hhost]
    rfl
  have hflags := flags_startRequest o (dev.channel i)
  have hvalue : UInt16.ofNat (dev.channel i).index = UInt16.ofNat i :=
    congrArg UInt16.ofNat (hopened.index_eq i)
  refine ⟨⟨?_, fun hfd => ?_, ?_, fun j hj => ?_, ?_, ?_, ?_, rfl, rfl⟩, rfl, rfl⟩
  · rintro phase asked hasked
    rw [hsettings, if_pos rfl]
    cases phase <;> exact htiming _ asked hasked
  · rw [hsettings, if_pos rfl]
    exact hunasked hfd
  · rw [hsettings, if_pos rfl, hhost]
    exact congrArg (DeviceMode.mk gsCanModeStart) hflags
  · rw [hsettings, if_neg hj]
    exact hothers j hj
  · rw [hnow, hworld, startLog, startedMode, ← hflags, ← hvalue]
    rfl
  · rw [hnow]
    exact hchannels
  · rw [hnow, hworld]
    exact ⟨hreader, rfl⟩

/-- A device that is left open when the constructor raises before the channel is started. -/
structure IsAbandoned (o : NativeOptions) (a : NativeAnswers) (registers : Registers) (dev : Dev n)
    (i : Fin n) (t : Attached n) : Prop where
  timing : ∀ phase, (t.settings i).timing phase =
      (registers.settings (UInt16.ofNat i)).timing phase ∨
    ∃ asked ∈ asks o phase,
      Calculated (dev.channel i) phase asked.1 asked.2 ((t.settings i).timing phase)
  mode : (t.host.world.modes = [] ∧
      (t.settings i).mode = (registers.settings (UInt16.ofNat i)).mode) ∨
    (t.host.world.modes = startLog o dev i a.mode.rc ∧ (t.settings i).mode =
      if a.mode.Taken gsDeviceModeSize then startedMode o dev i
      else (registers.settings (UInt16.ofNat i)).mode)
  others : ∀ j ≠ i, t.settings j = registers.settings (UInt16.ofNat j)
  stopped : ∀ j, (t.host.dev.channel j).started = false
  reader : t.host.dev.readerRunning = false
  bus : t.started = false ∧ t.listenerThread = none

/-- What a set-up makes of the device that has not marked the bus started. -/
theorem isAbandoned_of_setUp (hopened : dev.Opened) {result : Except Exn Unit}
    (h : (setUp o a i).run.run (.opened dev registers) = some (result, t))
    (hnot : t.started = false) :
    IsAbandoned o a registers dev i t ∧ ∃ exn, result = .error exn := by
  rcases setUp_cases hopened h with
    ⟨-, htouched, hfresh, hraised⟩ | ⟨u, hconfigure, ⟨-, hne, hraised, rfl⟩ | ⟨hstarted, -⟩⟩
  · have hhost := hfresh.host_eq
    refine ⟨⟨htouched.timing, .inl ⟨by rw [hhost]; rfl, htouched.mode⟩, htouched.others, ?_, ?_,
      hnot, hfresh.listener_eq⟩, hraised⟩
    · rw [hhost]
      exact hopened.stopped
    · rw [hhost]
      exact hopened.readerRunning_eq
  · obtain ⟨htouched, hfresh⟩ := Touched.of_configure hopened hconfigure
    have hhost := hfresh.host_eq
    obtain ⟨hreader, hstopped, hmodes⟩ := channelStart_opened_error hopened hne
    have hnow : (started o a i u).host =
        ((Host.init dev).gsusbChannelStart i (askedMode o) a.mode.rc a.thread).2 := by
      rw [← hhost]
      rfl
    have hflags := flags_startRequest o (dev.channel i)
    have hvalue : UInt16.ofNat (dev.channel i).index = UInt16.ofNat i :=
      congrArg UInt16.ofNat (hopened.index_eq i)
    rw [← hnow] at hreader hstopped hmodes
    have hprobed : u.host.dev.Probed := by
      rw [hhost]
      exact hopened.toProbed
    obtain ⟨hsame, hothers⟩ := Attached.same_startChannel hprobed i (askedMode o) a.mode a.thread
    refine ⟨⟨fun phase => ?_, ?_, fun j hj => (hothers j hj).trans (htouched.others j hj), hstopped,
      hreader, hnot, hfresh.listener_eq⟩, hraised⟩
    · rw [hsame]
      exact htouched.timing phase
    by_cases hcheck : Host.startCheck dev i (askedMode o) = 0
    · have hcheck' : Host.startCheck u.host.dev i (askedMode o) = 0 := by
        rw [hhost]
        exact hcheck
      have hsettings : (started o a i u).settings i = _ :=
        Attached.settings_startChannel hprobed hcheck' a.mode a.thread i
      rw [if_pos hcheck] at hmodes
      refine .inr ⟨?_, ?_⟩
      · rw [hmodes, startLog, startedMode, ← hflags, ← hvalue]
        rfl
      · rw [hsettings, hhost, startedMode, ← hflags]
        split_ifs with htaken htaken' htaken'
        · rfl
        · exact absurd htaken.1 htaken'
        · exact absurd ⟨htaken', rfl⟩ htaken
        · exact htouched.mode
    · have hcheck' : Host.startCheck u.host.dev i (askedMode o) ≠ 0 := by
        rw [hhost]
        exact hcheck
      have hsettings : (started o a i u).settings i = u.settings i :=
        Attached.settings_startChannel_of_check hcheck' i
      rw [if_neg hcheck] at hmodes
      rw [hsettings]
      exact .inl ⟨hmodes, htouched.mode⟩
  · exact absurd hstarted (ne_true_of_eq_false hnot)

/-- What a set-up that returns makes of the device. -/
theorem isSetUp_of_setUp (hopened : dev.Opened)
    (h : (setUp o a i).run.run (.opened dev registers) = some (.ok (), t)) :
    t.started = true ∧ IsSetUp o registers dev i t := by
  cases hstarted : t.started with
  | false =>
      obtain ⟨-, exn, hexn⟩ := isAbandoned_of_setUp hopened h hstarted
      cases hexn
  | true =>
      obtain ⟨hset, hresult, hlistener⟩ := isStarted_of_setUp hopened h hstarted
      refine ⟨rfl, hset, ?_⟩
      cases hthread : a.listener with
      | created =>
          rw [hthread] at hlistener
          exact hlistener
      | failed handle =>
          rw [hthread] at hresult
          cases hresult

/-- Exactly when a new bus can be set up. -/
theorem setUp_returns_iff (hopened : dev.Opened) :
    (∃ t, (setUp o a i).run.run (.opened dev registers) = some (.ok (), t)) ↔
      CanSetUp o a dev i := by
  constructor
  · rintro ⟨t, h⟩
    obtain ⟨hstarted, -⟩ := isSetUp_of_setUp hopened h
    have hresult := (isStarted_of_setUp hopened h hstarted).2.1
    refine ⟨(setUp_starts_iff hopened).mp ⟨t, hresult ▸ h, hstarted⟩, ?_⟩
    cases hthread : a.listener with
    | created => rfl
    | failed handle =>
        rw [hthread] at hresult
        cases hresult
  · rintro ⟨hcan, hlistener⟩
    obtain ⟨t, h, -⟩ : ∃ t, (setUp o a i).run.run (.opened dev registers) =
        some ((threadStart a.listener).1, t) ∧ t.started = true :=
      (setUp_starts_iff hopened).mpr hcan
    rw [hlistener] at h
    exact ⟨t, h⟩

end SetUp

/-- What the constructor does with the device that `Bus.open` gives it. -/
theorem init_of_open {n : ℕ} {dev : Dev n} {i : Fin n}
    (hopen : Bus.open a.init a.usb o.vid o.pid o.usbBus o.usbAddr o.gsChannel = .ok ⟨n, dev, i⟩) :
    init o a registers =
      ((setUp o a i).run.run (.opened dev registers)).map fun (result, s) =>
        (result, some ⟨n, i, s⟩) := by
  rw [init, hopen]

/-- A constructor that returns has opened a bus and set it up. -/
theorem exists_of_init {opened : Option ((n : ℕ) × Fin n × Attached n)}
    (h : init o a registers = some (.ok (), opened)) :
    ∃ (n : ℕ) (dev : Dev n) (i : Fin n) (s : Attached n), opened = some ⟨n, i, s⟩ ∧
      Bus.open a.init a.usb o.vid o.pid o.usbBus o.usbAddr o.gsChannel = .ok ⟨n, dev, i⟩ ∧
        (setUp o a i).run.run (.opened dev registers) = some (.ok (), s) := by
  cases hopen : Bus.open a.init a.usb o.vid o.pid o.usbBus o.usbAddr o.gsChannel with
  | error exn =>
      rw [init, hopen] at h
      cases h
  | ok found =>
      obtain ⟨n, dev, i⟩ := found
      rw [init_of_open hopen] at h
      obtain ⟨⟨result, s⟩, hsetUp, heq⟩ := Option.map_eq_some_iff.mp h
      cases heq
      exact ⟨n, dev, i, s, rfl, rfl, hsetUp⟩

/-- An adapter on which nothing fails. -/
def fdAnswers : NativeAnswers :=
  ⟨0, fun _ => clock48Adapter, ⟨20, false⟩, ⟨20, false⟩, ⟨8, false⟩, .created, .created⟩

/-- What its channel is given for 500 kbit/s. -/
theorem calculated_clock48 {ch : Channel} (hconst : ch.btConst = clock48) :
    Calculated ch .nominal 500000 0 ⟨0, 13, 2, 2, 6⟩ := by
  show gsusbCalcBittiming ch.btConst.fclkCan 500000 0 ch.btConst = _
  rw [hconst]
  exact calc_clock48

end GsUsbNativeBus

end GsUsb.Python
