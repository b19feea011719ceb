/-
# The same set-up from C, from Lua and from Python

The tools, `Bus` of the Lua SDK and `Bus` of the Python SDK set a channel up with the same calls of
the library.  They differ in what they take for a failure and in the errors they report; the tools
look at the features of the channel before they send anything, and Python starts a thread at the
end.
-/

import GsUsb.Lua.Binding
import GsUsb.Math.Word
import GsUsb.Python.NativeBus
import GsUsb.Tools.Transmit

namespace GsUsb.Python

open GsUsb.Driver GsUsb.Lua GsUsb.Math GsUsb.Tools

/-- `assert` around a call of the binding. -/
def luaAssert : Outcome → Except String Unit
  | .failed message => .error message
  | _ => .ok ()

/-- `Bus:configure` of an open bus, down to the library. -/
def luaConfigure {n : ℕ} (i : Fin n) (bitrate : ℤ) (samplePoint : Option ℚ) (transfer : Transfer)
    (s : Control n) : Option (Except String Unit × Control n) :=
  (gsusbChannelSetBitrate (s.host.dev.channel i) (UInt32.ofInt bitrate) (samplePoint.getD 0)
    transfer.rc).map fun result =>
      (luaAssert (if result.1 ≠ 0 then pushGsusbError "gsusb_channel_set_bitrate" result.1
        else .answered), s.send transfer result)

/-- `Bus:start` of an open bus, down to the library. -/
def luaStart {n : ℕ} (i : Fin n) (listenOnly : Bool) (transfer : Transfer) (thread : PthreadCreate)
    (s : Control n) : Except String Unit × Control n :=
  let result := s.host.gsusbChannelStart i (if listenOnly then gsusbModeListenOnly else 0)
    transfer.rc thread
  (luaAssert (if result.1 ≠ 0 then pushGsusbError "gsusb_channel_start" result.1 else .answered),
    s.sendMode transfer result)

/-- `bus:configure(bitrate, sample_point)` and then `bus:start(listen_only)`, with the outcomes of
the two transfers. -/
def luaSetUp {n : ℕ} (i : Fin n) (bitrate : ℤ) (samplePoint : Option ℚ) (listenOnly : Bool)
    (nominal mode : Transfer) (thread : PthreadCreate) (s : Control n) :
    Option (Except String Unit × Control n) :=
  match luaConfigure i bitrate samplePoint nominal s with
  | none => none
  | some (.error message, s) => some (.error message, s)
  | some (.ok (), s) => some (luaStart i listenOnly mode thread s)

/-- The arguments from Python that have a counterpart in Lua. -/
def luaOptions (bitrate : ℤ) (samplePoint : ℚ) (listenOnly : Bool) : NativeOptions :=
  ⟨none, none, none, none, 0, bitrate, false, none, samplePoint, 0, listenOnly, false, false⟩

theorem setBitrate_nonpos {ch : Channel} {bitrate : UInt32} {samplePoint : ℚ} {rc rc' : ℤ}
    {request : Option OutRequest}
    (h : gsusbChannelSetBitrate ch bitrate samplePoint rc = some (rc', request)) : rc' ≤ 0 := by
  obtain ⟨result, hcalc, heq⟩ := Option.map_eq_some_iff.mp h
  cases result with
  | error err =>
      cases heq
      exact (calcBittiming_error_neg hcalc).le
  | ok regs =>
      obtain ⟨rfl, -⟩ := Prod.ext_iff.mp heq
      exact ctrlResult_nonpos _ _

/-- Lua takes every code but zero for a failure. -/
theorem toBool_luaAssert (what : String) (rc : ℤ) :
    (luaAssert (if rc ≠ 0 then pushGsusbError what rc else .answered)).toBool =
      decide (rc = 0) := by
  split_ifs with hrc
  · exact (decide_eq_false hrc).symm
  · exact (decide_eq_true (not_not.mp hrc)).symm

/-- What a set-up from Python does, without the text of its error: whether it returns, what the
library knows then and what is on the wire. -/
def effect {n : ℕ} (p : Except Exn Unit × Attached n) : Bool × Control n :=
  (p.1.toBool, p.2.toControl)

/-- The two starts of a bus that is not started.  Python has one thing more that can fail. -/
theorem effect_start {n : ℕ} (i : Fin n) (listenOnly : Bool) (transfer : Transfer)
    (thread listener : PthreadCreate) {s : Attached n} (hfresh : s.started = false) :
    ((Bus.start i listenOnly false false false false false transfer thread listener).run.run s).map
        effect =
      let p := luaStart i listenOnly transfer thread s.toControl
      some (p.1.toBool && (threadStart listener).1.toBool, p.2) := by
  have hmode : startMode listenOnly false false false false false =
      if listenOnly then gsusbModeListenOnly else 0 := by
    cases listenOnly <;> rfl
  rw [start_run hfresh, hmode, luaStart]
  generalize (if listenOnly then gsusbModeListenOnly else 0) = mode
  dsimp only
  rw [toBool_luaAssert]
  split_ifs with hzero
  · rw [decide_eq_true hzero, Bool.true_and]
    rfl
  · rw [decide_eq_false hzero, Bool.false_and]
    rfl

/-- **Lua and Python set a channel up alike.**  Whatever is known of the device, whatever is on the
wire and however the calls go: with the same bitrate, sample point and listen-only flag, a Python
bus that is not started is set up exactly if the Lua bus is and the listener thread of Python can be
started too, and the requests that were made and what the library knows then are the same. -/
theorem luaSetUp_agrees {n : ℕ} (i : Fin n) (bitrate : ℤ) (samplePoint : Option ℚ)
    (listenOnly : Bool) (a : NativeAnswers) (s : Control n) (stopEvent : Bool)
    (listenerThread : Option Phase) :
    ((GsUsbNativeBus.setUp (luaOptions bitrate (samplePoint.getD 0) listenOnly) a i).run.run
        ⟨s, false, stopEvent, listenerThread⟩).map effect =
      (luaSetUp i bitrate samplePoint listenOnly a.nominal a.mode a.thread s).map fun p =>
        (p.1.toBool && (threadStart a.listener).1.toBool, p.2) := by
  let first := (checkTiming (gsusbChannelSetBitrate · (UInt32.ofInt bitrate) (samplePoint.getD 0)) i
    a.nominal "set_bitrate").run.run ⟨s, false, stopEvent, listenerThread⟩
  change Option.map effect ((first.bind _).bind _) = _
  have hfirst : first = (gsusbChannelSetBitrate (s.host.dev.channel i) (UInt32.ofInt bitrate)
      (samplePoint.getD 0) a.nominal.rc).map fun result =>
        ((check result.1 "set_bitrate").map fun _ => (),
          ⟨s.send a.nominal result, false, stopEvent, listenerThread⟩) := rfl
  rw [luaSetUp, luaConfigure, hfirst]
  cases hset : gsusbChannelSetBitrate (s.host.dev.channel i) (UInt32.ofInt bitrate)
      (samplePoint.getD 0) a.nominal.rc with
  | none => rfl
  | some result =>
      obtain ⟨rc, request⟩ := result
      dsimp only [Option.map_some, Option.bind_some]
      rw [check_of_nonpos (setBitrate_nonpos hset)]
      by_cases hzero : rc = 0
      · rw [if_pos hzero, if_neg (not_not.mpr hzero)]
        exact effect_start i listenOnly a.mode a.thread a.listener rfl
      · rw [if_neg hzero, if_pos hzero]
        rfl

/-- The arguments from Python for the options of a tool. -/
def toolNative (o : ToolOptions) (fdMode listenOnly : Bool) : NativeOptions :=
  ⟨none, none, none, none, 0, o.bitrate.toNat, fdMode, some o.dataBitrate.toNat, 0, 0, listenOnly,
    o.loopback, false⟩

/-- The same results of the calls below the library. -/
def toolAnswers (a : NativeAnswers) : SetupAnswers :=
  ⟨a.init, a.usb, a.nominal.rc, a.data.rc, a.mode.rc, a.thread⟩

section Tools

variable {n : ℕ} {dev : Dev n} {i : Fin n} {o : ToolOptions} {a : NativeAnswers}
  {fdMode listenOnly : Bool} {tool : String} {host : Host n} {registers : Registers}

theorem toolMode_eq (fdMode loopback listenOnly : Bool) :
    toolMode fdMode loopback listenOnly =
      startMode listenOnly loopback fdMode false false false := by
  revert fdMode loopback listenOnly
  decide

/-- Exactly when a call that sends a timing returns zero. -/
theorem timingCall_eq_zero_iff {phase : Driver.Phase} {bitrate : ℤ} {samplePoint : ℚ}
    {ch : Channel} {transfer : Transfer} :
    (∃ request, timingCall phase bitrate samplePoint ch transfer.rc = some (0, request)) ↔
      ∃ regs, Given ch phase bitrate samplePoint transfer regs := by
  constructor
  · rintro ⟨request, h⟩
    obtain ⟨result, hcalc, heq⟩ := Option.map_eq_some_iff.mp h
    cases result with
    | error err =>
        cases heq
        exact absurd (calcBittiming_error_neg hcalc) (lt_irrefl 0)
    | ok regs => exact ⟨regs, hcalc, ctrlResult_eq_zero_iff.mp (Prod.ext_iff.mp heq).1⟩
  · rintro ⟨regs, hcalc, hrc⟩
    refine ⟨_, Option.map_eq_some_iff.mpr ⟨_, hcalc, Prod.ext ?_ rfl⟩⟩
    exact ctrlResult_eq_zero_iff.mpr hrc

/-- A call of the library in a main. -/
theorem lift_eq_ok_iff {α : Type} {x : Option α} {v : α} :
    (liftM x : Main α).run = some (.ok v) ↔ x = some v := by
  cases x with
  | none =>
      constructor
      · intro h
        cases h
      · intro h
        cases h
  | some w =>
      constructor
      · intro h
        cases h
        rfl
      · intro h
        cases h
        rfl

/-- The data timing of a tool. -/
theorem toolDataBitrate_eq_ok_iff {ch : Channel} :
    (toolDataBitrate tool o (toolAnswers a) ch fdMode).run = some (.ok ()) ↔
      (fdMode = true → ∃ regs, Given ch .data o.dataBitrate.toNat 0 a.data regs) := by
  have hcall : gsusbChannelSetDataBitrate ch o.dataBitrate 0 a.data.rc =
      timingCall .data o.dataBitrate.toNat 0 ch a.data.rc := by
    rw [timingCall, ofInt_toNat_word]
    rfl
  cases fdMode with
  | false => exact iff_of_true rfl fun h => absurd h (by decide)
  | true =>
      rw [forall_prop_of_true rfl, ← timingCall_eq_zero_iff, ← hcall, toolDataBitrate, if_pos rfl,
        Main.bind_eq_ok]
      constructor
      · rintro ⟨⟨rc, request⟩, hset, hexit⟩
        obtain rfl : rc = 0 := not_not.mp (exitIf_eq_ok.mp hexit)
        exact ⟨request, lift_eq_ok_iff.mp hset⟩
      · rintro ⟨request, hset⟩
        exact ⟨(0, request), lift_eq_ok_iff.mpr hset, exitIf_eq_ok.mpr (not_not.mpr rfl)⟩

/-- Exactly when a tool has set its channel up. -/
theorem toolStart_eq_ok_iff (hopened : dev.Opened) :
    (toolStart tool o (toolAnswers a) dev i fdMode
        (toolMode fdMode o.loopback listenOnly)).run = some (.ok host) ↔
      GsUsbNativeBus.CanStart (toolNative o fdMode listenOnly) a dev i ∧
        host = ((Host.init dev).gsusbChannelStart i (startMode listenOnly o.loopback fdMode false
          false false) a.mode.rc a.thread).2 := by
  have hcall : gsusbChannelSetBitrate (dev.channel i) o.bitrate 0 (toolAnswers a).bitrate =
      timingCall .nominal o.bitrate.toNat 0 (dev.channel i) a.nominal.rc := by
    rw [timingCall, ofInt_toNat_word]
    rfl
  obtain ⟨rc, started, hrun⟩ : ∃ rc started, (Host.init dev).gsusbChannelStart i
      (startMode listenOnly o.loopback fdMode false false false) (toolAnswers a).mode
        (toolAnswers a).thread = (rc, started) := ⟨_, _, rfl⟩
  have hstart : rc = 0 ↔ (fdMode = true → (dev.channel i).hasFeature gsCanFeatureFd = true) ∧
      a.mode.rc = gsDeviceModeSize ∧ a.thread = .created := by
    rw [← startMode_fd listenOnly o.loopback fdMode false false false,
      ← channelStart_opened_iff hopened]
    exact (congrArg Prod.fst hrun).symm ▸ Iff.rfl
  have hhost : ((Host.init dev).gsusbChannelStart i (startMode listenOnly o.loopback fdMode false
      false false) a.mode.rc a.thread).2 = started := congrArg Prod.snd hrun
  rw [toolStart, toolMode_eq, hcall, hrun, hhost]
  constructor
  · intro h
    obtain ⟨⟨⟩, hfeature, h⟩ := Main.bind_eq_ok.mp h
    obtain ⟨⟨rc', request⟩, hset, h⟩ := Main.bind_eq_ok.mp h
    obtain ⟨⟨⟩, hexit, h⟩ := Main.bind_eq_ok.mp h
    obtain ⟨⟨⟩, hdata, h⟩ := Main.bind_eq_ok.mp h
    obtain ⟨⟨⟩, hrc, h⟩ := Main.bind_eq_ok.mp h
    cases h
    obtain rfl : rc' = 0 := not_not.mp (exitIf_eq_ok.mp hexit)
    obtain ⟨hfd, hmode, hthread⟩ := hstart.mp (not_not.mp (exitIf_eq_ok.mp hrc))
    refine ⟨⟨timingCall_eq_zero_iff.mp ⟨request, lift_eq_ok_iff.mp hset⟩, fun h => ?_, hmode,
      hthread⟩, rfl⟩
    obtain ⟨regs, hgiven⟩ := toolDataBitrate_eq_ok_iff.mp hdata h
    exact ⟨hfd h, _, regs, rfl, hgiven⟩
  · rintro ⟨⟨hnominal, hdata, hmode, hthread⟩, rfl⟩
    obtain ⟨request, hset⟩ := timingCall_eq_zero_iff.mpr hnominal
    have hrc : rc = 0 := hstart.mpr ⟨fun h => (hdata h).1, hmode, hthread⟩
    refine Main.bind_eq_ok.mpr ⟨(), exitIf_eq_ok.mpr ?_, ?_⟩
    · rintro ⟨hfd, hfeature⟩
      rw [(hdata hfd).1] at hfeature
      cases hfeature
    refine Main.bind_eq_ok.mpr ⟨(0, request), lift_eq_ok_iff.mpr hset, ?_⟩
    refine Main.bind_eq_ok.mpr ⟨(), exitIf_eq_ok.mpr (not_not.mpr rfl), ?_⟩
    refine Main.bind_eq_ok.mpr ⟨(), toolDataBitrate_eq_ok_iff.mpr fun h => ?_, ?_⟩
    · obtain ⟨-, b, regs, hb, hgiven⟩ := hdata h
      cases hb
      exact ⟨regs, hgiven⟩
    exact Main.bind_eq_ok.mpr ⟨(), exitIf_eq_ok.mpr (not_not.mpr hrc), rfl⟩

/-- What the library knows when a set-up from Python has started the channel. -/
theorem host_of_setUp (hopened : dev.Opened) {result : Except Exn Unit} {t : Attached n}
    (h : (GsUsbNativeBus.setUp (toolNative o fdMode listenOnly) a i).run.run
      (.opened dev registers) = some (result, t)) (hstarted : t.started = true) :
    t.host = ((Host.init dev).gsusbChannelStart i
      (startMode listenOnly o.loopback fdMode false false false) a.mode.rc a.thread).2 := by
  rw [GsUsbNativeBus.host_of_setUp hopened h hstarted]
  dsimp only [GsUsbNativeBus.askedMode, toolNative]

end Tools

/-- **The tools and Python set a channel up alike.**  On an opened device, with the same options and
the same results of the calls below the library, a tool gets to its loop exactly if the set-up from
Python starts the channel, after which it returns or raises by its listener thread alone; and then
the library knows the same, though the tool looks for the FD feature first and Python leaves it to
the start. -/
theorem toolStart_agrees {usb : Libusb} {vid pid : UInt16} {bus addr : ℤ} {n : ℕ} {dev : Dev n}
    (hopen : usb.gsusbOpen vid pid bus addr = .ok ⟨n, dev⟩) (i : Fin n) (o : ToolOptions)
    (a : NativeAnswers) (fdMode listenOnly : Bool) (tool : String) (registers : Registers)
    (host : Host n) :
    (toolStart tool o (toolAnswers a) dev i fdMode
        (toolMode fdMode o.loopback listenOnly)).run = some (.ok host) ↔
      ∃ t, (GsUsbNativeBus.setUp (toolNative o fdMode listenOnly) a i).run.run
        (.opened dev registers) = some ((threadStart a.listener).1, t) ∧ t.started = true ∧
          t.host = host := by
  have hopened := Libusb.opened_of_gsusbOpen hopen
  rw [toolStart_eq_ok_iff hopened]
  constructor
  · rintro ⟨hcan, rfl⟩
    obtain ⟨t, ht, hstarted⟩ := (GsUsbNativeBus.setUp_starts_iff hopened).mpr hcan
    exact ⟨t, ht, hstarted, host_of_setUp hopened ht hstarted⟩
  · rintro ⟨t, ht, hstarted, rfl⟩
    exact ⟨(GsUsbNativeBus.setUp_starts_iff hopened).mp ⟨t, ht, hstarted⟩,
      host_of_setUp hopened ht hstarted⟩

/-- An adapter that is asked for FD. -/
theorem toolStart_agrees_fd :
    ∃ dev : Dev 1, clock48Adapter.gsusbOpen 0x1d50 0x606f (-1) (-1) = .ok ⟨1, dev⟩ ∧
      ∀ host, (toolStart "gsusb_dump" shortOptions (toolAnswers GsUsbNativeBus.fdAnswers) dev 0 true
          (toolMode true shortOptions.loopback false)).run = some (.ok host) ↔
        ∃ t, (GsUsbNativeBus.setUp (toolNative shortOptions true false) GsUsbNativeBus.fdAnswers
          0).run.run (.opened dev .blank) =
            some ((threadStart GsUsbNativeBus.fdAnswers.listener).1, t) ∧ t.started = true ∧
              t.host = host := by
  obtain ⟨dev, hopen⟩ : ∃ dev : Dev 1,
      clock48Adapter.gsusbOpen 0x1d50 0x606f (-1) (-1) = .ok ⟨1, dev⟩ := ⟨_, rfl⟩
  have hagree := toolStart_agrees hopen (0 : Fin 1) shortOptions GsUsbNativeBus.fdAnswers true false
    "gsusb_dump" .blank
  exact ⟨dev, hopen, hagree⟩

end GsUsb.Python
