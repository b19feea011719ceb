/-
# The control path of a device

Every call that sends a control request, on an opened device with its registers at the other end of
the wire: the bit timings, the start and the stop of a channel, identify, termination and the bus
state.  From above it is one record of settings for each channel, and whether the channel is
started.

A start and a stop send what they add to the log of MODE requests.  The device takes a transfer or
does not, whatever the library is told about it.
-/

import GsUsb.Driver.Settings
import GsUsb.Math.Run

namespace GsUsb.Driver

open GsUsb.Math

/-- The calls on the channels of a device, and a change of the bus state that the device makes by
itself. -/
inductive ControlEvent (n : ℕ)
  | setBittimingRaw (i : Fin n) (regs : BittimingRegs) (transfer : Transfer)
  | setDataBittimingRaw (i : Fin n) (regs : BittimingRegs) (transfer : Transfer)
  | setBitrate (i : Fin n) (bitrate : UInt32) (samplePoint : ℚ) (transfer : Transfer)
  | setDataBitrate (i : Fin n) (bitrate : UInt32) (samplePoint : ℚ) (transfer : Transfer)
  | start (i : Fin n) (modeFlags : UInt32) (transfer : Transfer) (thread : PthreadCreate)
  | stop (i : Fin n) (transfer : Transfer)
  | setIdentify (i : Fin n) (on : ℤ) (transfer : Transfer)
  | setTermination (i : Fin n) (enable120ohm : ℤ) (transfer : Transfer)
  | getTermination (i : Fin n) (rc : ℤ)
  | getState (i : Fin n) (rc : ℤ)
  | busChange (i : Fin n) (state : BusState)

/-- The channel of an event. -/
def ControlEvent.channel {n : ℕ} : ControlEvent n → Fin n
  | setBittimingRaw i _ _ => i
  | setDataBittimingRaw i _ _ => i
  | setBitrate i _ _ _ => i
  | setDataBitrate i _ _ _ => i
  | start i _ _ _ => i
  | stop i _ => i
  | setIdentify i _ _ => i
  | setTermination i _ _ => i
  | getTermination i _ => i
  | getState i _ => i
  | busChange i _ => i

/-- What a call returns. -/
inductive ControlAnswer
  | code (rc : ℤ)
  | termination (enabled : Bool)
  | state (state : BusState)
  deriving DecidableEq

/-- The answer of a call that returns an error or a value. -/
def ControlAnswer.ofExcept {α : Type} (value : α → ControlAnswer) : Except ℤ α → ControlAnswer
  | .error rc => .code rc
  | .ok x => value x

/-- The registers of the device, and the answers of the calls so far. -/
structure Wire where
  registers : Registers
  answers : List ControlAnswer

namespace Wire

/-- A call that sends an OUT request, unless it fails before. -/
def send (w : Wire) (transfer : Transfer) (result : ℤ × Option OutRequest) : Wire where
  registers :=
    match result.2 with
    | none => w.registers
    | some request =>
      if transfer.Taken request.buf.length then w.registers.take request else w.registers
  answers := w.answers ++ [.code result.1]

/-- A call that only reads. -/
def read (w : Wire) (answer : ControlAnswer) : Wire := { w with answers := w.answers ++ [answer] }

end Wire

/-- What the library knows of a device, and the wire to it. -/
structure Control (n : ℕ) where
  host : Host n
  wire : Wire

namespace Control

variable {n : ℕ}

/-- A device that was opened just now. -/
def opened (dev : Dev n) (w : Wire) : Control n := ⟨.init dev, w⟩

/-- A call that sends an OUT request and leaves the device object as it is. -/
def send (s : Control n) (transfer : Transfer) (result : ℤ × Option OutRequest) : Control n :=
  { s with wire := s.wire.send transfer result }

/-- The MODE request that a call has added to the log. -/
def modeSent (before after : World) : Option OutRequest :=
  ((after.modes.drop before.modes.length).head?).map fun sent => sent.1.out

/-- A call that has left this of the library, and sent what it has added to the log. -/
def sendMode (s : Control n) (transfer : Transfer) (result : ℤ × Host n) : Control n :=
  ⟨result.2, s.wire.send transfer (result.1, modeSent s.host.world result.2.world)⟩

/-- `gsusb_channel_start`, with the outcomes of its control transfer and of `pthread_create`. -/
def start (s : Control n) (i : Fin n) (modeFlags : UInt32) (transfer : Transfer)
    (thread : PthreadCreate) : Control n :=
  s.sendMode transfer (s.host.gsusbChannelStart i modeFlags transfer.rc thread)

/-- `gsusb_channel_stop`. -/
def stop (s : Control n) (i : Fin n) (transfer : Transfer) : Control n :=
  s.sendMode transfer (s.host.gsusbChannelStop i transfer.rc)

/-- One event; none where a call does not return or reads outside its buffer. -/
def step (s : Control n) : ControlEvent n → Option (Control n)
  | .setBittimingRaw i regs transfer =>
      some (s.send transfer
        (gsusbChannelSetBittimingRaw (s.host.dev.channel i) regs transfer.rc))
  | .setDataBittimingRaw i regs transfer =>
      some (s.send transfer
        (gsusbChannelSetDataBittimingRaw (s.host.dev.channel i) regs transfer.rc))
  | .setBitrate i bitrate samplePoint transfer =>
      (gsusbChannelSetBitrate (s.host.dev.channel i) bitrate samplePoint transfer.rc).map
        (s.send transfer)
  | .setDataBitrate i bitrate samplePoint transfer =>
      (gsusbChannelSetDataBitrate (s.host.dev.channel i) bitrate samplePoint transfer.rc).map
        (s.send transfer)
  | .start i modeFlags transfer thread => some (s.start i modeFlags transfer thread)
  | .stop i transfer => some (s.stop i transfer)
  | .setIdentify i on transfer =>
      some (s.send transfer (gsusbChannelSetIdentify (s.host.dev.channel i) on transfer.rc))
  | .setTermination i enable120ohm transfer =>
      some (s.send transfer
        (gsusbChannelSetTermination (s.host.dev.channel i) enable120ohm transfer.rc))
  | .getTermination i rc =>
      (gsusbChannelGetTermination (s.host.dev.channel i)
        (s.wire.registers.answer rc)).toOption.map fun result =>
          { s with wire := s.wire.read (.ofExcept .termination result) }
  | .getState i rc =>
      (gsusbChannelGetState (s.host.dev.channel i)
        (s.wire.registers.answer rc)).toOption.map fun result =>
          { s with wire := s.wire.read (.ofExcept .state result) }
  | .busChange i state =>
      some { s with
        wire.registers := s.wire.registers.set .state (UInt16.ofNat i)
          (gsPutLe32 state.state ++ gsPutLe32 state.rxerr ++ gsPutLe32 state.txerr) (by simp; rfl) }

end Control

/-- The settings of the channels, which of them are started, and the answers of the calls so
far. -/
@[ext]
structure Stores (n : ℕ) where
  settings : Fin n → Settings
  started : Fin n → Bool
  answers : List ControlAnswer

namespace Stores

variable {n : ℕ}

/-- Replace one setting of one channel. -/
def change (s : Stores n) (i : Fin n) (setting : Setting) : Stores n :=
  { s with settings := fun j => if j = i then setting.apply (s.settings j) else s.settings j }

/-- The device takes a change of a setting, or does not. -/
def take (s : Stores n) (i : Fin n) (setting : Setting) (transfer : Transfer) : Stores n :=
  if transfer.Taken setting.register.size then s.change i setting else s

/-- A channel is started or stopped. -/
def mark (s : Stores n) (i : Fin n) (started : Bool) : Stores n :=
  { s with started := fun j => if j = i then started else s.started j }

/-- A call returns. -/
def answer (s : Stores n) (a : ControlAnswer) : Stores n := { s with answers := s.answers ++ [a] }

/-- A call that changes a setting, where the device takes the change. -/
def send (s : Stores n) (i : Fin n) (setting : Setting) (transfer : Transfer) : Stores n :=
  (s.take i setting transfer).answer (.code (ctrlResult transfer.rc setting.register.size))

/-- A call that calculates a bit timing and changes a setting with it. -/
def calcAndSend (s : Stores n) (i : Fin n) (setting : BittimingRegs → Setting)
    (btc : GsusbBittimingConst) (bitrate : UInt32) (samplePoint : ℚ) (transfer : Transfer) :
    Option (Stores n) :=
  (gsusbCalcBittiming btc.fclkCan bitrate samplePoint btc).map fun
    | .error err => s.answer (.code err)
    | .ok regs => s.send i (setting regs) transfer

/-- Why a start is refused, if it is: the channel is started, or lacks FD. -/
def refusal (dev : Dev n) (s : Stores n) (i : Fin n) (modeFlags : UInt32) : Option ℤ :=
  if s.started i then some gsusbErrBusy
  else if modeFlags &&& gsusbModeFd ≠ 0 ∧ (dev.channel i).hasFeature gsCanFeatureFd = false then
    some gsusbErrInvalid
  else none

/-- The mode that a channel is started in. -/
def startMode (dev : Dev n) (i : Fin n) (modeFlags : UInt32) : DeviceMode :=
  ⟨gsCanModeStart, (startRequest (dev.channel i) modeFlags).flags⟩

/-- A start.  What is not refused is sent, also where no reader can be had for it then: another
channel has one, or it has to be created. -/
def start (dev : Dev n) (s : Stores n) (i : Fin n) (modeFlags : UInt32) (transfer : Transfer)
    (thread : PthreadCreate) : Stores n :=
  match s.refusal dev i modeFlags with
  | some err => s.answer (.code err)
  | none =>
    let sent := s.take i (.mode (startMode dev i modeFlags)) transfer
    if ctrlResult transfer.rc gsDeviceModeSize ≠ 0 then
      sent.answer (.code (ctrlResult transfer.rc gsDeviceModeSize))
    else if (∃ j, s.started j = true) ∨ thread = .created then (sent.mark i true).answer (.code 0)
    else sent.answer (.code gsusbErrIo)

/-- A stop: a started channel is sent a RESET, and stopped whatever becomes of it. -/
def stop (s : Stores n) (i : Fin n) (transfer : Transfer) : Stores n :=
  (if s.started i then (s.take i (.mode ⟨gsCanModeReset, 0⟩) transfer).mark i false
    else s).answer (.code 0)

/-- A call that reads a register of some size. -/
def read (s : Stores n) (rc : ℤ) (size : ℕ) (value : ControlAnswer) : Stores n :=
  s.answer (if ctrlResult rc size ≠ 0 then .code (ctrlResult rc size) else value)

/-- One event on the settings; none where a call does not return. -/
def step (dev : Dev n) (s : Stores n) : ControlEvent n → Option (Stores n)
  | .setBittimingRaw i regs transfer => some (s.send i (.bittiming regs) transfer)
  | .setDataBittimingRaw i regs transfer => some (s.send i (.dataBittiming regs) transfer)
  | .setBitrate i bitrate samplePoint transfer =>
      s.calcAndSend i .bittiming (dev.channel i).btConst bitrate samplePoint transfer
  | .setDataBitrate i bitrate samplePoint transfer =>
      s.calcAndSend i .dataBittiming (dev.channel i).dataConst bitrate samplePoint transfer
  | .start i modeFlags transfer thread => some (s.start dev i modeFlags transfer thread)
  | .stop i transfer => some (s.stop i transfer)
  | .setIdentify i on transfer => some (s.send i (.identify (on ≠ 0)) transfer)
  | .setTermination i enable120ohm transfer =>
      some (s.send i (.termination (enable120ohm ≠ 0)) transfer)
  | .getTermination i rc =>
      some (s.read rc gsTerminationStateSize (.termination (s.settings i).termination))
  | .getState i rc => some (s.read rc gsDeviceStateSize (.state (s.settings i).state))
  | .busChange i state => some (s.change i (.state state))

/-- What a change leaves of the settings. -/
theorem settings_take (s : Stores n) (i j : Fin n) (setting : Setting) (transfer : Transfer) :
    (s.take i setting transfer).settings j =
      if transfer.Taken setting.register.size ∧ j = i then setting.apply (s.settings j)
      else s.settings j := by
  by_cases htaken : transfer.Taken setting.register.size
  · rw [take, if_pos htaken]
    exact if_congr (and_iff_right htaken).symm rfl rfl
  · rw [take, if_neg htaken, if_neg fun h => htaken h.1]

@[simp]
theorem started_take (s : Stores n) (i : Fin n) (setting : Setting) (transfer : Transfer) :
    (s.take i setting transfer).started = s.started := by
  rw [take]
  split <;> rfl

@[simp]
theorem answers_take (s : Stores n) (i : Fin n) (setting : Setting) (transfer : Transfer) :
    (s.take i setting transfer).answers = s.answers := by
  rw [take]
  split <;> rfl

/-- A start that is not refused marks its channel where it returns 0. -/
theorem start_of_refusal {s : Stores n} {dev : Dev n} {i : Fin n} {modeFlags : UInt32}
    (hwhy : s.refusal dev i modeFlags = none) {transfer : Transfer} {thread : PthreadCreate}
    {code : ℤ} (hcode : code = if ctrlResult transfer.rc gsDeviceModeSize ≠ 0 then
        ctrlResult transfer.rc gsDeviceModeSize
      else if (∃ j, s.started j = true) ∨ thread = .created then 0 else gsusbErrIo) :
    s.start dev i modeFlags transfer thread =
      let sent := s.take i (.mode (startMode dev i modeFlags)) transfer
      (if code = 0 then sent.mark i true else sent).answer (.code code) := by
  rw [start, hwhy]
  dsimp only
  by_cases hrc : ctrlResult transfer.rc gsDeviceModeSize = 0
  · rw [if_neg (not_not.mpr hrc)] at hcode ⊢
    by_cases hthread : (∃ j, s.started j = true) ∨ thread = .created
    · rw [if_pos hthread] at hcode ⊢
      rw [if_pos hcode, hcode]
    · rw [if_neg hthread] at hcode ⊢
      rw [hcode, if_neg (by decide)]
  · rw [if_pos hrc] at hcode ⊢
    rw [hcode, if_neg hrc]

end Stores

/-- The registers after an OUT request that stands for a setting. -/
theorem Wire.settings_send {n : ℕ} {dev : Dev n} (hprobed : dev.Probed) (w : Wire) (i j : Fin n)
    (setting : Setting) (breq : UInt8) (hwritten : Register.writtenBy breq = some setting.register)
    (transfer : Transfer) (code : ℤ) :
    (w.send transfer (code, some ⟨breq, UInt16.ofNat (dev.channel i).index,
      setting.encode⟩)).registers.settings (UInt16.ofNat j) =
      if transfer.Taken setting.register.size ∧ j = i then
        setting.apply (w.registers.settings (UInt16.ofNat j))
      else w.registers.settings (UInt16.ofNat j) := by
  have htake : w.registers.take ⟨breq, UInt16.ofNat (dev.channel i).index, setting.encode⟩ =
      w.registers.set setting.register (UInt16.ofNat i) setting.encode setting.length_encode := by
    rw [Registers.take, hwritten, ← hprobed.index_eq i]
    exact dif_pos setting.length_encode
  have hvalue : UInt16.ofNat j = UInt16.ofNat i ↔ j = i := by
    rw [← hprobed.wValue_eq_iff, hprobed.index_eq]
  by_cases htaken : transfer.Taken setting.encode.length
  · rw [setting.length_encode] at htaken
    simp only [send, setting.length_encode, htaken, if_true, htake, true_and]
    exact (w.registers.settings_set setting _ _).trans (if_congr hvalue rfl rfl)
  · rw [setting.length_encode] at htaken
    simp only [send, setting.length_encode, htaken, if_false, false_and]

namespace Control

variable {n : ℕ} {dev : Dev n}

/-- What the registers and the library say about the channels. -/
def stores (s : Control n) : Stores n where
  settings i := s.wire.registers.settings (UInt16.ofNat i)
  started i := (s.host.dev.channel i).started
  answers := s.wire.answers

/-- The calls between two events are over, and the device is the one that was opened. -/
structure Kept (dev : Dev n) (s : Control n) : Prop where
  steady : s.host.Steady
  setup : dev.SameSetup s.host.dev

variable {s t : Control n}

/-- A call that sends a setting changes that setting of that channel, where the device takes it,
and returns what the transfer says. -/
theorem stores_send (hprobed : s.host.dev.Probed) (i : Fin n) (setting : Setting) (breq : UInt8)
    (hwritten : Register.writtenBy breq = some setting.register) (transfer : Transfer) :
    (s.send transfer (ctrlResult transfer.rc setting.encode.length,
      some ⟨breq, UInt16.ofNat (s.host.dev.channel i).index, setting.encode⟩)).stores =
      s.stores.send i setting transfer := by
  refine Stores.ext ?_ ?_ ?_
  · funext j
    exact (Wire.settings_send hprobed s.wire i j setting breq hwritten transfer _).trans
      (s.stores.settings_take i j setting transfer).symm
  · exact (s.stores.started_take i setting transfer).symm
  · rw [Stores.send, Stores.answer, Stores.answers_take, ← setting.length_encode]
    rfl

/-- A call that calculates what it sends. -/
theorem stores_calcAndSend (hprobed : s.host.dev.Probed) (i : Fin n) (breq : UInt8)
    (setting : BittimingRegs → Setting)
    (hwritten : ∀ regs, Register.writtenBy breq = some (setting regs).register)
    (hencode : ∀ regs, (setting regs).encode = (Setting.bittiming regs).encode)
    (btc : GsusbBittimingConst) (bitrate : UInt32) (samplePoint : ℚ) (transfer : Transfer) :
    (calcAndSend breq btc (s.host.dev.channel i) bitrate samplePoint transfer.rc).map
        (fun result => (s.send transfer result).stores) =
      s.stores.calcAndSend i setting btc bitrate samplePoint transfer := by
  rw [calcAndSend, Stores.calcAndSend, Option.map_map]
  refine Option.map_congr fun result _ => ?_
  cases result with
  | error err => rfl
  | ok regs =>
      have hsend := stores_send hprobed i (setting regs) breq (hwritten regs) transfer
      rw [hencode] at hsend
      exact hsend

/-- A start is refused for the same reasons. -/
theorem Kept.startCheck_eq (h : s.Kept dev) (i : Fin n) (modeFlags : UInt32) :
    Host.startCheck s.host.dev i modeFlags = (s.stores.refusal dev i modeFlags).getD 0 := by
  rw [Host.startCheck, Stores.refusal, h.setup.hasFeature_eq]
  show (if (s.host.dev.channel i).started then _ else _) =
    (if (s.host.dev.channel i).started then _ else _ : Option ℤ).getD 0
  split_ifs <;> simp_all

/-- The request that a START or a RESET adds to the log is the one that is sent. -/
theorem modeSent_of_modes {before after : World} {request : ModeRequest} {rc : ℤ}
    (h : after.modes = before.modes ++ [(request, rc)]) :
    modeSent before after = some request.out := by
  rw [modeSent, h, List.drop_left]
  rfl

theorem modeSent_of_modes_eq {before after : World} (h : after.modes = before.modes) :
    modeSent before after = none := by
  rw [modeSent, h, List.drop_length]
  rfl

/-- A start that is not refused sends the mode of its channel. -/
theorem start_eq {i : Fin n} {modeFlags : UInt32}
    (hcheck : Host.startCheck s.host.dev i modeFlags = 0) (transfer : Transfer)
    (thread : PthreadCreate) :
    let result := s.host.gsusbChannelStart i modeFlags transfer.rc thread
    s.start i modeFlags transfer thread = ⟨result.2, s.wire.send transfer (result.1,
      some ⟨gsUsbBreqMode, UInt16.ofNat (s.host.dev.channel i).index,
        (Setting.mode ⟨gsCanModeStart,
          (startRequest (s.host.dev.channel i) modeFlags).flags⟩).encode⟩)⟩ := by
  intro result
  rw [start, sendMode, modeSent_of_modes (Host.modes_gsusbChannelStart hcheck transfer.rc thread)]
  rfl

/-- A start that is refused sends nothing. -/
theorem start_of_check {i : Fin n} {modeFlags : UInt32}
    (hcheck : Host.startCheck s.host.dev i modeFlags ≠ 0) (transfer : Transfer)
    (thread : PthreadCreate) :
    s.start i modeFlags transfer thread =
      s.send transfer (Host.startCheck s.host.dev i modeFlags, none) := by
  rw [start, Host.gsusbChannelStart_of_check hcheck, sendMode, modeSent_of_modes_eq rfl]
  rfl

/-- The start of a channel, seen from above. -/
theorem stores_start (hprobed : dev.Probed) (h : s.Kept dev) (i : Fin n) (modeFlags : UInt32)
    (transfer : Transfer) (thread : PthreadCreate) :
    (s.start i modeFlags transfer thread).stores =
      s.stores.start dev i modeFlags transfer thread := by
  have hrefusal := h.startCheck_eq i modeFlags
  cases hwhy : s.stores.refusal dev i modeFlags with
  | some err =>
      rw [hwhy, Option.getD_some] at hrefusal
      have herr : err ≠ 0 := by
        rw [Stores.refusal] at hwhy
        split_ifs at hwhy <;> cases hwhy <;> decide
      rw [start_of_check (by rwa [hrefusal]), hrefusal, Stores.start, hwhy]
      rfl
  | none =>
      rw [hwhy, Option.getD_none] at hrefusal
      have hstarted := Host.started_gsusbChannelStart hrefusal transfer.rc thread
      have hreader : (s.host.dev.readerRunning = true ∨ thread = .created) ↔
          (∃ j, s.stores.started j = true) ∨ thread = .created :=
        or_congr_left h.steady.running_iff_exists
      have hcode : (s.host.gsusbChannelStart i modeFlags transfer.rc thread).1 =
          if ctrlResult transfer.rc gsDeviceModeSize ≠ 0 then
            ctrlResult transfer.rc gsDeviceModeSize
          else if (∃ j, s.stores.started j = true) ∨ thread = .created then 0 else gsusbErrIo :=
        (Host.gsusbChannelStart_fst hrefusal transfer.rc thread).trans
          (if_congr Iff.rfl rfl (if_congr hreader rfl rfl))
      have hmode : (⟨gsCanModeStart, (startRequest (s.host.dev.channel i) modeFlags).flags⟩ :
          DeviceMode) = Stores.startMode dev i modeFlags := by
        simp only [Stores.startMode, startRequest, h.setup.hasFeature_eq]
      rw [start_eq hrefusal, hmode, Stores.start_of_refusal hwhy hcode]
      refine Stores.ext (funext fun j => ?_) (funext fun j => ?_) ?_
      · have hsettings := (Wire.settings_send (h.setup.probed hprobed) s.wire i j
          (.mode (Stores.startMode dev i modeFlags)) gsUsbBreqMode rfl transfer
          (s.host.gsusbChannelStart i modeFlags transfer.rc thread).1).trans
            (s.stores.settings_take i j _ transfer).symm
        dsimp only
        split <;> exact hsettings
      · refine (hstarted j).trans ?_
        dsimp only
        by_cases hzero : (s.host.gsusbChannelStart i modeFlags transfer.rc thread).1 = 0
        · rw [if_pos hzero, decide_eq_true hzero, Stores.answer, Stores.mark, Stores.started_take]
          rfl
        · rw [if_neg hzero, decide_eq_false hzero, Stores.answer, Stores.started_take]
          split_ifs with hj
          · rw [hj]
            exact (Host.started_of_startCheck hrefusal).symm
          · rfl
      · dsimp only
        split <;> rw [Stores.answer] <;> simp only [Stores.mark, Stores.answers_take] <;> rfl

/-- A stop reports no error. -/
theorem gsusbChannelStop_fst (host : Host n) (i : Fin n) (rc : ℤ) :
    (host.gsusbChannelStop i rc).1 = 0 := by
  rw [Host.gsusbChannelStop]
  split
  · rfl
  · dsimp only
    split <;> rfl

/-- The stop of a channel, seen from above. -/
theorem stores_stop (hprobed : dev.Probed) (h : s.Kept dev) (i : Fin n) (transfer : Transfer) :
    (s.stop i transfer).stores = s.stores.stop i transfer := by
  have hmodes := Host.modes_gsusbChannelStop h.steady.counts i transfer.rc
  have hmark (j : Fin n) : ((s.host.gsusbChannelStop i transfer.rc).2.dev.channel j).started =
      if j = i then false else s.stores.started j := by
    rw [Host.channel_gsusbChannelStop h.steady.counts]
    by_cases hj : i = j
    · rw [if_pos hj, if_pos hj.symm]
      rfl
    · rw [if_neg hj, if_neg (Ne.symm hj)]
      rfl
  have hcode := gsusbChannelStop_fst s.host i transfer.rc
  rw [stop, sendMode, hcode, Stores.stop]
  cases hstarted : s.stores.started i with
  | false =>
      have hoff : (s.host.dev.channel i).started = false := hstarted
      rw [Host.gsusbChannelStop_of_stopped hoff, modeSent_of_modes_eq rfl]
      rfl
  | true =>
      have hon : (s.host.dev.channel i).started = true := hstarted
      rw [if_pos hon] at hmodes
      have hrequest : (resetRequest (s.host.dev.channel i)).out = ⟨gsUsbBreqMode,
        UInt16.ofNat (s.host.dev.channel i).index, (Setting.mode ⟨gsCanModeReset, 0⟩).encode⟩ := rfl
      rw [modeSent_of_modes hmodes, hrequest, if_pos rfl]
      refine Stores.ext (funext fun j => ?_) (funext fun j => ?_) ?_
      · exact (Wire.settings_send (h.setup.probed hprobed) s.wire i j _ _ rfl transfer 0).trans
          (s.stores.settings_take i j _ transfer).symm
      · rw [Stores.answer, Stores.mark, Stores.started_take]
        exact hmark j
      · rw [Stores.answer, Stores.mark, Stores.answers_take]
        rfl

/-- A successful read finds the register of its channel, in full length. -/
theorem answer_of_readBy (regs : Registers) (rc : ℤ) {breq : UInt8} {register : Register}
    (hread : Register.readBy breq = some register) (wValue : UInt16) (size : ℕ) :
    regs.answer rc breq wValue size = (rc, regs.data register wValue) := by
  rw [Registers.answer, hread]

theorem stores_getTermination (hprobed : s.host.dev.Probed) (i : Fin n) (rc : ℤ) :
    (s.step (.getTermination i rc)).map stores =
      some (s.stores.read rc gsTerminationStateSize
        (.termination (s.stores.settings i).termination)) := by
  have hlength := s.wire.registers.length_data .termination (UInt16.ofNat i)
  rw [step, gsusbChannelGetTermination, answer_of_readBy _ _ rfl, hprobed.index_eq]
  dsimp only
  by_cases hrc : ctrlResult rc gsTerminationStateSize = 0
  · rw [if_neg (not_not.mpr hrc), gsGetLe32_of_le hlength.ge, Stores.read,
      if_neg (not_not.mpr hrc)]
    rfl
  · rw [if_pos hrc, Stores.read, if_pos hrc]
    rfl

theorem stores_getState (hprobed : s.host.dev.Probed) (i : Fin n) (rc : ℤ) :
    (s.step (.getState i rc)).map stores =
      some (s.stores.read rc gsDeviceStateSize (.state (s.stores.settings i).state)) := by
  have hlength : (s.wire.registers.data .state (UInt16.ofNat i)).length = 12 :=
    s.wire.registers.length_data .state (UInt16.ofNat i)
  rw [step, gsusbChannelGetState, answer_of_readBy _ _ rfl, hprobed.index_eq]
  dsimp only
  by_cases hrc : ctrlResult rc gsDeviceStateSize = 0
  · rw [if_neg (not_not.mpr hrc), gsGetLe32_of_le (by omega), gsGetLe32_of_le (by omega),
      gsGetLe32_of_le (by omega), Stores.read, if_neg (not_not.mpr hrc)]
    rfl
  · rw [if_pos hrc, Stores.read, if_pos hrc]
    rfl

theorem stores_busChange (hprobed : s.host.dev.Probed) (i : Fin n) (state : BusState) :
    (s.step (.busChange i state)).map stores = some (s.stores.change i (.state state)) := by
  have hvalue (j : Fin n) : UInt16.ofNat j = UInt16.ofNat i ↔ j = i := by
    rw [← hprobed.wValue_eq_iff, hprobed.index_eq]
  refine congrArg some (Stores.ext (funext fun j => ?_) rfl rfl)
  exact (s.wire.registers.settings_set (.state state) _ _).trans (if_congr (hvalue j) rfl rfl)

/-- What a timing is calculated from is what `gsusb_open` found. -/
theorem Kept.timingConst_eq (h : s.Kept dev) (i : Fin n) (phase : Phase) :
    (s.host.dev.channel i).timingConst phase = (dev.channel i).timingConst phase := by
  have hfound := congrArg (Channel.timingConst · phase) (h.setup.found_eq i)
  exact hfound

/-- **Step lemma.** An event on the device and its registers is the event on the settings. -/
theorem stores_step (hprobed : dev.Probed) (h : s.Kept dev) (e : ControlEvent n) :
    (s.step e).map stores = s.stores.step dev e := by
  have hprobed' := h.setup.probed hprobed
  cases e with
  | setBittimingRaw i regs transfer =>
      exact congrArg some (stores_send hprobed' i (.bittiming regs) _ rfl transfer)
  | setDataBittimingRaw i regs transfer =>
      exact congrArg some (stores_send hprobed' i (.dataBittiming regs) _ rfl transfer)
  | setBitrate i bitrate samplePoint transfer =>
      have hconst : _ = (dev.channel i).btConst := h.timingConst_eq i .nominal
      rw [step, Option.map_map, Stores.step, ← hconst]
      exact stores_calcAndSend hprobed' i gsUsbBreqBittiming .bittiming (fun _ => rfl)
        (fun _ => rfl) _ bitrate samplePoint transfer
  | setDataBitrate i bitrate samplePoint transfer =>
      have hconst : _ = (dev.channel i).dataConst := h.timingConst_eq i .data
      rw [step, Option.map_map, Stores.step, ← hconst]
      exact stores_calcAndSend hprobed' i gsUsbBreqDataBittiming .dataBittiming (fun _ => rfl)
        (fun _ => rfl) _ bitrate samplePoint transfer
  | start i modeFlags transfer thread =>
      exact congrArg some (stores_start hprobed h i modeFlags transfer thread)
  | stop i transfer => exact congrArg some (stores_stop hprobed h i transfer)
  | setIdentify i on transfer =>
      have hsend := stores_send hprobed' i (.identify (on ≠ 0)) gsUsbBreqIdentify rfl transfer
      simp only [Setting.encode, decide_eq_true_eq] at hsend
      exact congrArg some hsend
  | setTermination i enable120ohm transfer =>
      have hsend := stores_send hprobed' i (.termination (enable120ohm ≠ 0))
        gsUsbBreqSetTermination rfl transfer
      simp only [Setting.encode, decide_eq_true_eq] at hsend
      exact congrArg some hsend
  | getTermination i rc => exact stores_getTermination hprobed' i rc
  | getState i rc => exact stores_getState hprobed' i rc
  | busChange i state => exact stores_busChange hprobed' i state

/-- Every event leaves a device that was opened as one. -/
theorem Kept.step (h : s.Kept dev) {e : ControlEvent n} (hstep : s.step e = some t) :
    t.Kept dev := by
  have hwire {u : Control n} (hhost : u.host = s.host) : u.Kept dev :=
    ⟨by rw [hhost]; exact h.steady, by rw [hhost]; exact h.setup⟩
  cases e with
  | start i modeFlags transfer thread =>
      cases hstep
      exact ⟨h.steady.gsusbChannelStart i modeFlags transfer.rc thread,
        h.setup.trans (s.host.sameSetup_gsusbChannelStart i modeFlags transfer.rc thread)⟩
  | stop i transfer =>
      cases hstep
      exact ⟨h.steady.gsusbChannelStop i transfer.rc,
        h.setup.trans (Host.sameSetup_gsusbChannelStop h.steady.counts i transfer.rc)⟩
  | setBittimingRaw | setDataBittimingRaw | setIdentify | setTermination | busChange =>
      cases hstep
      exact hwire rfl
  | setBitrate | setDataBitrate | getTermination | getState =>
      obtain ⟨result, -, rfl⟩ := Option.map_eq_some_iff.mp hstep
      exact hwire rfl

theorem Kept.opened (hopened : dev.Opened) (w : Wire) : (opened dev w).Kept dev :=
  ⟨.init hopened, .refl dev⟩

/-- A run on an opened device, seen from above. -/
theorem map_stores_run {usb : Libusb} {vid pid : UInt16} {bus addr : ℤ}
    (hopen : usb.gsusbOpen vid pid bus addr = .ok ⟨n, dev⟩) (w : Wire)
    (es : List (ControlEvent n)) :
    (run step (opened dev w) es).map stores = run (Stores.step dev) (opened dev w).stores es := by
  have hopened := Libusb.opened_of_gsusbOpen hopen
  exact run_map (fun _ _ _ h hstep => h.step hstep)
    (fun _ e h => stores_step hopened.toProbed h e) (.opened hopened w) es

end Control

/-- The setting that a call asks of a phase of a channel. -/
def ControlEvent.asks {n : ℕ} (phase : Phase) (i : Fin n) : ControlEvent n → Option (UInt32 × ℚ)
  | setBitrate j bitrate samplePoint _ =>
      if phase = .nominal ∧ i = j then some (bitrate, samplePoint) else none
  | setDataBitrate j bitrate samplePoint _ =>
      if phase = .data ∧ i = j then some (bitrate, samplePoint) else none
  | _ => none

namespace Stores

variable {n : ℕ} {dev : Dev n} {s t : Stores n} {e : ControlEvent n} {j : Fin n}

/-- What an event leaves as it is. -/
structure Same (s t : Stores n) (j : Fin n) : Prop where
  settings : t.settings j = s.settings j
  started : t.started j = s.started j

theorem Same.refl (s : Stores n) (j : Fin n) : s.Same s j := ⟨rfl, rfl⟩

theorem Same.trans {u : Stores n} (h : s.Same t j) (h' : t.Same u j) : s.Same u j :=
  ⟨h'.settings.trans h.settings, h'.started.trans h.started⟩

theorem Same.answer (h : s.Same t j) (a : ControlAnswer) : s.Same (t.answer a) j :=
  ⟨h.settings, h.started⟩

theorem same_take {i : Fin n} (hj : j ≠ i) (setting : Setting) (transfer : Transfer) :
    s.Same (s.take i setting transfer) j where
  settings := by rw [settings_take, if_neg fun h => hj h.2]
  started := by rw [started_take]

theorem same_mark {i : Fin n} (hj : j ≠ i) (started : Bool) : s.Same (s.mark i started) j :=
  ⟨rfl, if_neg hj⟩

theorem same_calcAndSend {i : Fin n} (hj : j ≠ i) {setting : BittimingRegs → Setting}
    {btc : GsusbBittimingConst} {bitrate : UInt32} {samplePoint : ℚ} {transfer : Transfer}
    (h : s.calcAndSend i setting btc bitrate samplePoint transfer = some t) : s.Same t j := by
  obtain ⟨result, -, rfl⟩ := Option.map_eq_some_iff.mp h
  cases result with
  | error err => exact (Same.refl s j).answer _
  | ok regs => exact (same_take hj _ transfer).answer _

/-- An event on another channel leaves the settings of a channel, and whether it is started. -/
theorem same_step (hstep : s.step dev e = some t) (hj : e.channel ≠ j) : s.Same t j := by
  have hj' := Ne.symm hj
  cases e with
  | setBitrate | setDataBitrate => exact same_calcAndSend hj' hstep
  | start i modeFlags transfer thread =>
      cases hstep
      have htake := same_take hj' (s := s) (.mode (startMode dev i modeFlags)) transfer
      rw [start]
      split
      · exact (Same.refl s j).answer _
      · dsimp only
        split_ifs
        · exact htake.answer _
        · exact (htake.trans (same_mark hj' true)).answer _
        · exact htake.answer _
  | stop i transfer =>
      cases hstep
      rw [stop]
      split_ifs
      · exact ((same_take hj' _ transfer).trans (same_mark hj' false)).answer _
      · exact (Same.refl s j).answer _
  | setBittimingRaw | setDataBittimingRaw | setIdentify | setTermination =>
      cases hstep
      exact (same_take hj' _ _).answer _
  | getTermination | getState =>
      cases hstep
      exact (Same.refl s j).answer _
  | busChange =>
      cases hstep
      exact ⟨if_neg hj', rfl⟩

/-- So do events on other channels, however many. -/
theorem same_run {es : List (ControlEvent n)} (hrun : run (step dev) s es = some t)
    (hother : ∀ e ∈ es, e.channel ≠ j) : s.Same t j :=
  run_invariant_of_mem (P := fun u => s.Same u j)
    (fun _ e _ he h hstep => h.trans (same_step hstep (hother e he))) (.refl s j) hrun

end Stores

namespace Control

variable {n : ℕ} {dev : Dev n}

/-- **Refinement.**  Whatever the calls on an opened device, starts and stops among them, in
whatever order, on whatever channels, and however the transfers go: the requests and the registers
behave like one record of settings for each channel, and return the same answers.  Calls on other
channels leave the settings of a channel, and whether it is started. -/
theorem stores_run {usb : Libusb} {vid pid : UInt16} {bus addr : ℤ}
    (hopen : usb.gsusbOpen vid pid bus addr = .ok ⟨n, dev⟩) (w : Wire)
    (es es' : List (ControlEvent n)) :
    (run step (opened dev w) es).map stores = run (Stores.step dev) (opened dev w).stores es ∧
      ∀ s t, run step (opened dev w) es = some s → run step s es' = some t →
        ∀ j, (∀ e ∈ es', e.channel ≠ j) → s.stores.Same t.stores j := by
  refine ⟨map_stores_run hopen w es, fun s t hs ht j hother => ?_⟩
  have hfirst := map_stores_run hopen w es
  have hboth := map_stores_run hopen w (es ++ es')
  rw [run_append, run_append, ← hfirst, hs] at hboth
  change (run step s es').map stores = run (Stores.step dev) s.stores es' at hboth
  rw [ht] at hboth
  exact Stores.same_run hboth.symm hother

/-- A termination is switched on and read back, and a channel is started and stopped: a START is
taken though no reader can be created, and so is a RESET though the transfer fails. -/
theorem stores_run_fdAdapter :
    ∃ dev : Dev 1, fdAdapter.gsusbOpen 0x1d50 0x606f (-1) (-1) = .ok ⟨1, dev⟩ ∧
      let es : List (ControlEvent 1) := [.setTermination 0 1 ⟨4, false⟩,
        .start 0 0 ⟨8, false⟩ (.failed none), .start 0 0 ⟨8, false⟩ .created,
        .stop 0 ⟨-7, true⟩, .getTermination 0 4]
      (run step (opened dev ⟨.blank, []⟩) es).map stores =
          run (Stores.step dev) (opened dev ⟨.blank, []⟩).stores es ∧
        ∀ s t, run step (opened dev ⟨.blank, []⟩) es = some s → run step s [] = some t →
          ∀ j, (∀ e ∈ ([] : List (ControlEvent 1)), e.channel ≠ j) → s.stores.Same t.stores j := by
  obtain ⟨dev, hopen⟩ : ∃ dev : Dev 1,
      fdAdapter.gsusbOpen 0x1d50 0x606f (-1) (-1) = .ok ⟨1, dev⟩ := ⟨_, rfl⟩
  exact ⟨dev, hopen, stores_run hopen _ _ _⟩

end Control

end GsUsb.Driver
