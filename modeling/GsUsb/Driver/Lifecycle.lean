/-
# Starting and stopping channels

`gsusb_channel_start`, `gsusb_channel_stop` and `gsusb_close` on a device and the
world around it: which reader threads were created, which handles were passed to
`pthread_join`, and which MODE requests went to the device.  `gsusb_channel_stop` is
cut where the code releases `start_lock` and where it waits, so that the sequential
call below and the interleaved machine run the same pieces; `gsusb_channel_start` is cut
after its transfer, during which a reader may end.
-/

import GsUsb.Driver.Device

namespace GsUsb.Driver

-- `enum gs_usb_breq`
def gsUsbBreqMode : UInt8 := 2

/-- A MODE request: the channel's index in `wValue`, and the two words of `modebuf`. -/
structure ModeRequest where
  wValue : UInt16
  mode : UInt32
  flags : UInt32
  deriving DecidableEq

/-- What `pthread_create` does: create the thread and write its handle, or fail and
leave any handle behind. -/
inductive PthreadCreate
  | created
  | failed (handle : Option ℕ)
  deriving DecidableEq

/-- What the code does outside the device object. -/
structure World where
  /-- Reader threads created; their handles are the numbers below. -/
  created : ℕ
  /-- Handles passed to `pthread_join`, in order. -/
  joined : List (Option ℕ)
  /-- MODE requests, in order, each with what `libusb_control_transfer` returned. -/
  modes : List (ModeRequest × ℤ)
  deriving DecidableEq

/-- Issue a MODE request that returns `rc`. -/
def World.sendMode (world : World) (request : ModeRequest) (rc : ℤ) : World :=
  { world with modes := world.modes ++ [(request, rc)] }

/-- A device and the world around it. -/
structure Host (n : ℕ) where
  dev : Dev n
  world : World

/-- An opened device that nothing was done with. -/
def Host.init {n : ℕ} (dev : Dev n) : Host n := ⟨dev, ⟨0, [], []⟩⟩

/-- The MODE START request of a channel: the `hw_flags` of `gsusb_channel_start`. -/
def startRequest (ch : Channel) (modeFlags : UInt32) : ModeRequest where
  wValue := UInt16.ofNat ch.index
  mode := gsCanModeStart
  flags :=
    (if modeFlags &&& gsusbModeListenOnly ≠ 0 then gsCanModeListenOnly else 0) |||
      (if modeFlags &&& gsusbModeLoopback ≠ 0 then gsCanModeLoopBack else 0) |||
      (if modeFlags &&& gsusbModeTripleSample ≠ 0 then gsCanModeTripleSample else 0) |||
      (if modeFlags &&& gsusbModeOneShot ≠ 0 then gsCanModeOneShot else 0) |||
      (if modeFlags &&& gsusbModeBerrReporting ≠ 0 then gsCanModeBerrReporting else 0) |||
      (if modeFlags &&& gsusbModeFd ≠ 0 then gsCanModeFd else 0) |||
      (if ch.hasFeature gsCanFeatureHwTimestamp then gsCanModeHwTimestamp else 0)

/-- The MODE RESET request of a channel. -/
def resetRequest (ch : Channel) : ModeRequest := ⟨UInt16.ofNat ch.index, gsCanModeReset, 0⟩

namespace Channel

/-- `ch->hw_ts_enabled = hw_ts; ch->started = 1`. -/
def markStarted (ch : Channel) : Channel :=
  { ch with hwTsEnabled := ch.hasFeature gsCanFeatureHwTimestamp, started := true }

/-- `ch->started = 0`. -/
def markStopped (ch : Channel) : Channel := { ch with started := false }

end Channel

namespace Dev

variable {n : ℕ}

/-- Mark a channel started and `dev->active_channels++`. -/
def markStarted (dev : Dev n) (i : Fin n) : Dev n :=
  { dev.updateChannel i Channel.markStarted with activeChannels := dev.activeChannels + 1 }

/-- Mark a channel stopped and `dev->active_channels--`. -/
def markStopped (dev : Dev n) (i : Fin n) : Dev n :=
  { dev.updateChannel i Channel.markStopped with activeChannels := dev.activeChannels - 1 }

theorem channel_markStarted (dev : Dev n) (i j : Fin n) :
    (dev.markStarted i).channel j =
      if i = j then (dev.channel j).markStarted else dev.channel j :=
  dev.channel_updateChannel i j Channel.markStarted

theorem channel_markStopped (dev : Dev n) (i j : Fin n) :
    (dev.markStopped i).channel j =
      if i = j then (dev.channel j).markStopped else dev.channel j :=
  dev.channel_updateChannel i j Channel.markStopped

theorem started_markStarted (dev : Dev n) (i j : Fin n) :
    ((dev.markStarted i).channel j).started = (decide (i = j) || (dev.channel j).started) := by
  rw [channel_markStarted]
  by_cases h : i = j
  · simp [h, Channel.markStarted]
  · simp [h]

theorem started_markStopped (dev : Dev n) (i j : Fin n) :
    ((dev.markStopped i).channel j).started = (!decide (i = j) && (dev.channel j).started) := by
  rw [channel_markStopped]
  by_cases h : i = j
  · simp [h, Channel.markStopped]
  · simp [h]

@[simp]
theorem readerRunning_markStarted (dev : Dev n) (i : Fin n) :
    (dev.markStarted i).readerRunning = dev.readerRunning := rfl

/-- Giving a channel up again leaves the counter as it was. -/
theorem activeChannels_markStopped_markStarted (dev : Dev n) (i : Fin n) :
    ((dev.markStarted i).markStopped i).activeChannels = dev.activeChannels :=
  UInt32.add_sub_cancel _ _

theorem sameSetup_markStarted (dev : Dev n) (i : Fin n) : dev.SameSetup (dev.markStarted i) :=
  let h := SameSetup.updateChannel dev i (f := Channel.markStarted) fun _ => rfl
  ⟨h.hfSizeRx_eq, h.found_eq⟩

theorem sameSetup_markStopped (dev : Dev n) (i : Fin n) : dev.SameSetup (dev.markStopped i) :=
  let h := SameSetup.updateChannel dev i (f := Channel.markStopped) fun _ => rfl
  ⟨h.hfSizeRx_eq, h.found_eq⟩

end Dev

/-- The `wValue` of a MODE request tells the channels of an opened device apart. -/
theorem Dev.Probed.wValue_eq_iff {n : ℕ} {dev : Dev n} (hprobed : dev.Probed) {i j : Fin n} :
    UInt16.ofNat (dev.channel i).index = UInt16.ofNat j ↔ i = j := by
  have hcount := hprobed.count_le
  have hi := i.isLt
  have hj := j.isLt
  rw [hprobed.index_eq, ← UInt16.toNat_inj, UInt16.toNat_ofNat', UInt16.toNat_ofNat',
    Nat.mod_eq_of_lt (by omega), Nat.mod_eq_of_lt (by omega), Fin.ext_iff]

namespace Host

variable {n : ℕ}

/-- The test `gsusb_channel_start` makes before it touches the device: the error it
returns, or 0. -/
def startCheck (dev : Dev n) (i : Fin n) (modeFlags : UInt32) : ℤ :=
  if (dev.channel i).started then gsusbErrBusy
  else if modeFlags &&& gsusbModeFd ≠ 0 && !(dev.channel i).hasFeature gsCanFeatureFd then
    gsusbErrInvalid
  else 0

/-- `gsusb_channel_start` up to its transfer: what it returns, or `none` where it goes on. -/
def startTransfer (host : Host n) (i : Fin n) (modeFlags : UInt32) (rc : ℤ) :
    Option ℤ × Host n :=
  let check := startCheck host.dev i modeFlags
  if check ≠ 0 then (some check, host)
  else
    let world := host.world.sendMode (startRequest (host.dev.channel i) modeFlags) rc
    let result := ctrlResult rc gsDeviceModeSize
    if result ≠ 0 then (some result, ⟨host.dev, world⟩) else (none, ⟨host.dev, world⟩)

/-- The rest of `gsusb_channel_start`: the channel is marked, and gets a reader if none is
noted. -/
def startReader (host : Host n) (i : Fin n) (thread : PthreadCreate) : ℤ × Host n :=
  let dev := host.dev.markStarted i
  if dev.readerRunning then (0, ⟨dev, host.world⟩)
  else
    let dev := { dev with stopFlag := false }
    match thread with
    | .failed handle =>
      (gsusbErrIo, ⟨{ dev.markStopped i with readerThread := handle }, host.world⟩)
    | .created =>
      (0, ⟨{ dev with readerThread := some host.world.created, readerRunning := true },
        { host.world with created := host.world.created + 1 }⟩)

/-- `gsusb_channel_start`, with the outcomes of its control transfer and of
`pthread_create`. -/
def gsusbChannelStart (host : Host n) (i : Fin n) (modeFlags : UInt32) (rc : ℤ)
    (thread : PthreadCreate) : ℤ × Host n :=
  match host.startTransfer i modeFlags rc with
  | (some err, host) => (err, host)
  | (none, host) => host.startReader i thread

/-- The critical section `gsusb_channel_stop` begins with: `none` where it returns at
once, else the value of `stop_reader`. -/
def stopSection (host : Host n) (i : Fin n) : Option Bool × Host n :=
  if (host.dev.channel i).started = false then (none, host)
  else
    let dev := host.dev.updateChannel i Channel.markStopped
    let dev := if dev.activeChannels > 0
      then { dev with activeChannels := dev.activeChannels - 1 } else dev
    let stopReader : Bool := dev.activeChannels = 0
    (some stopReader, ⟨if stopReader then { dev with stopFlag := true } else dev, host.world⟩)

/-- The MODE RESET of `gsusb_channel_stop`, sent without the lock. -/
def stopReset (host : Host n) (i : Fin n) (rc : ℤ) : Host n :=
  ⟨host.dev, host.world.sendMode (resetRequest (host.dev.channel i)) rc⟩

/-- Call `pthread_join(dev->reader_thread)`. -/
def stopJoin (host : Host n) : Host n :=
  ⟨host.dev, { host.world with joined := host.world.joined ++ [host.dev.readerThread] }⟩

/-- The critical section `gsusb_channel_stop` ends with: `dev->reader_running = 0`. -/
def stopClear (host : Host n) : Host n := ⟨{ host.dev with readerRunning := false }, host.world⟩

/-- `gsusb_channel_stop`. -/
def gsusbChannelStop (host : Host n) (i : Fin n) (rc : ℤ) : ℤ × Host n :=
  match host.stopSection i with
  | (none, host) => (0, host)
  | (some stopReader, host) =>
    let host := host.stopReset i rc
    if stopReader then (0, host.stopJoin.stopClear) else (0, host)

/-- The critical section `gsusb_close` begins with: the value of `was_running`, and the reader
is told to stop. -/
def closeSection (host : Host n) : Bool × Host n :=
  (host.dev.readerRunning, ⟨{ host.dev with stopFlag := true }, host.world⟩)

/-- `gsusb_close`: the device object is gone afterwards, the world stays. -/
def gsusbClose (host : Host n) (rc : Fin n → ℤ) : World :=
  let (wasRunning, host) := host.closeSection
  let host := if wasRunning then host.stopJoin else host
  (List.finRange n).foldl (fun world i =>
    if (host.dev.channel i).started
    then world.sendMode (resetRequest (host.dev.channel i)) (rc i) else world) host.world

end Host

namespace Dev

variable {n : ℕ}

/-- The number of channels with `started = 1`. -/
def startedCount (dev : Dev n) : ℕ := dev.channels.countP fun ch => ch.started

/-- `active_channels` is the number of started channels. -/
def CountsStarted (dev : Dev n) : Prop := dev.activeChannels.toNat = dev.startedCount

theorem startedCount_lt (dev : Dev n) : dev.startedCount < 2 ^ 32 :=
  Vector.countP_le_size.trans_lt dev.channelCount_lt

/-- Assigning to a channel changes the count by that channel's flag. -/
theorem startedCount_updateChannel (dev : Dev n) (i : Fin n) (f : Channel → Channel) :
    (dev.updateChannel i f).startedCount =
      dev.startedCount - (if (dev.channel i).started then 1 else 0) +
        if (f (dev.channel i)).started then 1 else 0 :=
  Vector.countP_set _

/-- Some channel is started exactly when the count is positive. -/
theorem startedCount_pos_iff (dev : Dev n) :
    0 < dev.startedCount ↔ ∃ i, (dev.channel i).started = true := by
  rw [startedCount, Vector.countP_pos_iff]
  constructor
  · rintro ⟨ch, hmem, hstarted⟩
    obtain ⟨i, hi, rfl⟩ := Vector.mem_iff_getElem.mp hmem
    exact ⟨⟨i, hi⟩, hstarted⟩
  · rintro ⟨i, hstarted⟩
    exact ⟨_, Vector.getElem_mem i.isLt, hstarted⟩

theorem startedCount_markStarted {dev : Dev n} {i : Fin n}
    (hstopped : (dev.channel i).started = false) :
    (dev.markStarted i).startedCount = dev.startedCount + 1 := by
  have hcount := dev.startedCount_updateChannel i Channel.markStarted
  rw [hstopped] at hcount
  exact hcount

theorem startedCount_markStopped {dev : Dev n} {i : Fin n}
    (hstarted : (dev.channel i).started = true) :
    (dev.markStopped i).startedCount = dev.startedCount - 1 := by
  have hcount := dev.startedCount_updateChannel i Channel.markStopped
  rw [hstarted] at hcount
  exact hcount

namespace CountsStarted

variable {dev : Dev n} {i : Fin n}

/-- Starting a stopped channel keeps the counter right; it does not overflow. -/
theorem markStarted (hcounts : dev.CountsStarted) (hstopped : (dev.channel i).started = false) :
    (dev.markStarted i).CountsStarted := by
  have hlt := (dev.markStarted i).startedCount_lt
  rw [startedCount_markStarted hstopped, ← hcounts] at hlt
  show (dev.activeChannels + 1).toNat = _
  rw [startedCount_markStarted hstopped, ← hcounts, UInt32.toNat_add]
  exact Nat.mod_eq_of_lt hlt

/-- While a channel is started the counter is positive. -/
theorem activeChannels_pos (hcounts : dev.CountsStarted)
    (hstarted : (dev.channel i).started = true) : 0 < dev.activeChannels := by
  rw [UInt32.lt_iff_toNat_lt, hcounts]
  exact dev.startedCount_pos_iff.mpr ⟨i, hstarted⟩

/-- Stopping a started channel keeps the counter right; it does not underflow. -/
theorem markStopped (hcounts : dev.CountsStarted)
    (hstarted : (dev.channel i).started = true) : (dev.markStopped i).CountsStarted := by
  have hpos := hcounts.activeChannels_pos hstarted
  rw [UInt32.lt_iff_toNat_lt] at hpos
  show (dev.activeChannels - 1).toNat = _
  rw [startedCount_markStopped hstarted, ← hcounts]
  exact UInt32.toNat_sub_of_le _ _ (UInt32.le_iff_toNat_le.mpr hpos)

/-- Queueing a frame keeps the counter right. -/
theorem updateRxq (hcounts : dev.CountsStarted) (i : Fin n) (q : RxQueue) :
    (dev.updateChannel i fun ch => { ch with rxq := q }).CountsStarted := by
  have hcount := dev.startedCount_updateChannel i fun ch => { ch with rxq := q }
  have hle : (if (dev.channel i).started then 1 else 0) ≤ dev.startedCount := by
    split
    · exact dev.startedCount_pos_iff.mpr ⟨i, ‹_›⟩
    · exact Nat.zero_le _
  rw [CountsStarted, hcount, Nat.sub_add_cancel hle]
  exact hcounts

end CountsStarted

end Dev

/-! ## What a call can do -/

namespace Host

variable {n : ℕ}

/-- A start that is refused sends nothing. -/
theorem startTransfer_of_check {host : Host n} {i : Fin n} {modeFlags : UInt32}
    (hcheck : startCheck host.dev i modeFlags ≠ 0) (rc : ℤ) :
    host.startTransfer i modeFlags rc = (some (startCheck host.dev i modeFlags), host) :=
  if_pos hcheck

/-- Past its check a start sends its request, and goes on if the transfer succeeds. -/
theorem startTransfer_eq {host : Host n} {i : Fin n} {modeFlags : UInt32}
    (hcheck : startCheck host.dev i modeFlags = 0) (rc : ℤ) :
    host.startTransfer i modeFlags rc =
      (if ctrlResult rc gsDeviceModeSize ≠ 0 then some (ctrlResult rc gsDeviceModeSize) else none,
        ⟨host.dev, host.world.sendMode (startRequest (host.dev.channel i) modeFlags) rc⟩) := by
  rw [startTransfer, if_neg (not_not.mpr hcheck)]
  by_cases hrc : ctrlResult rc gsDeviceModeSize = 0
  · rw [if_neg (not_not.mpr hrc), if_neg (not_not.mpr hrc)]
  · rw [if_pos hrc, if_pos hrc]

/-- What the rest of a start does: the channel joins the running reader, finds no thread to be
had, or gets a new reader. -/
theorem startReader_cases (host : Host n) (i : Fin n) (thread : PthreadCreate) :
    (host.dev.readerRunning = true ∧
        host.startReader i thread = (0, ⟨host.dev.markStarted i, host.world⟩)) ∨
      (host.dev.readerRunning = false ∧ ∃ handle, thread = .failed handle ∧
        host.startReader i thread = (gsusbErrIo,
          ⟨{ (host.dev.markStarted i).markStopped i with
            stopFlag := false, readerThread := handle, readerRunning := false }, host.world⟩)) ∨
      (host.dev.readerRunning = false ∧ thread = .created ∧
        host.startReader i thread = (0,
          ⟨{ host.dev.markStarted i with
            stopFlag := false, readerThread := some host.world.created, readerRunning := true },
            { host.world with created := host.world.created + 1 }⟩)) := by
  cases hrunning : host.dev.readerRunning with
  | true =>
      refine .inl ⟨rfl, ?_⟩
      rw [startReader, Dev.readerRunning_markStarted, hrunning]
      rfl
  | false =>
      cases thread with
      | failed handle =>
          refine .inr (.inl ⟨rfl, handle, rfl, ?_⟩)
          rw [startReader, Dev.readerRunning_markStarted, hrunning]
          simp [Dev.markStopped, Dev.updateChannel, Dev.channel, hrunning]
      | created =>
          refine .inr (.inr ⟨rfl, rfl, ?_⟩)
          rw [startReader, Dev.readerRunning_markStarted, hrunning]
          rfl

/-- A start that is refused changes nothing. -/
theorem gsusbChannelStart_of_check {host : Host n} {i : Fin n} {modeFlags : UInt32}
    (hcheck : startCheck host.dev i modeFlags ≠ 0) (rc : ℤ) (thread : PthreadCreate) :
    gsusbChannelStart host i modeFlags rc thread = (startCheck host.dev i modeFlags, host) := by
  rw [gsusbChannelStart, startTransfer_of_check hcheck]

/-- A start whose transfer fails stops there. -/
theorem gsusbChannelStart_of_failed {host : Host n} {i : Fin n} {modeFlags : UInt32}
    (hcheck : startCheck host.dev i modeFlags = 0) {rc : ℤ}
    (hrc : ctrlResult rc gsDeviceModeSize ≠ 0) (thread : PthreadCreate) :
    gsusbChannelStart host i modeFlags rc thread = (ctrlResult rc gsDeviceModeSize,
      ⟨host.dev, host.world.sendMode (startRequest (host.dev.channel i) modeFlags) rc⟩) := by
  rw [gsusbChannelStart, startTransfer_eq hcheck, if_pos hrc]

/-- One whose transfer succeeds goes on. -/
theorem gsusbChannelStart_of_sent {host : Host n} {i : Fin n} {modeFlags : UInt32}
    (hcheck : startCheck host.dev i modeFlags = 0) {rc : ℤ}
    (hrc : ctrlResult rc gsDeviceModeSize = 0) (thread : PthreadCreate) :
    gsusbChannelStart host i modeFlags rc thread =
      startReader
        ⟨host.dev, host.world.sendMode (startRequest (host.dev.channel i) modeFlags) rc⟩ i
        thread := by
  rw [gsusbChannelStart, startTransfer_eq hcheck, if_neg (not_not.mpr hrc)]

/-- A start that passes the check found its channel stopped. -/
theorem started_of_startCheck {dev : Dev n} {i : Fin n} {modeFlags : UInt32}
    (hcheck : startCheck dev i modeFlags = 0) : (dev.channel i).started = false := by
  rw [startCheck] at hcheck
  cases hstarted : (dev.channel i).started with
  | true =>
      rw [hstarted, if_pos rfl] at hcheck
      exact absurd hcheck (by decide)
  | false => rfl

/-- What `gsusb_channel_start` leaves behind once its check is passed: the request is
on the wire, and unless the transfer failed the channel joins the running reader, finds
no thread to be had, or gets a new reader. -/
theorem gsusbChannelStart_cases {host : Host n} {i : Fin n} {modeFlags : UInt32}
    (hcheck : startCheck host.dev i modeFlags = 0) (rc : ℤ) (thread : PthreadCreate) :
    let world := host.world.sendMode (startRequest (host.dev.channel i) modeFlags) rc
    let host' := (gsusbChannelStart host i modeFlags rc thread).2
    (ctrlResult rc gsDeviceModeSize ≠ 0 ∧ host' = ⟨host.dev, world⟩) ∨
      (ctrlResult rc gsDeviceModeSize = 0 ∧ host.dev.readerRunning = true ∧
        host' = ⟨host.dev.markStarted i, world⟩) ∨
      (ctrlResult rc gsDeviceModeSize = 0 ∧ host.dev.readerRunning = false ∧
        ∃ handle, thread = .failed handle ∧
          host' = ⟨{ (host.dev.markStarted i).markStopped i with
            stopFlag := false, readerThread := handle, readerRunning := false }, world⟩) ∨
      (ctrlResult rc gsDeviceModeSize = 0 ∧ host.dev.readerRunning = false ∧
        thread = .created ∧
          host' = ⟨{ host.dev.markStarted i with
            stopFlag := false, readerThread := some world.created, readerRunning := true },
            { world with created := world.created + 1 }⟩) := by
  intro world host'
  by_cases hrc : ctrlResult rc gsDeviceModeSize = 0
  · have hsent := congrArg Prod.snd (gsusbChannelStart_of_sent hcheck hrc thread)
    rcases startReader_cases ⟨host.dev, world⟩ i thread with
      ⟨hrunning, heq⟩ | ⟨hrunning, handle, hthread, heq⟩ | ⟨hrunning, hthread, heq⟩
    · exact .inr (.inl ⟨hrc, hrunning, hsent.trans (congrArg Prod.snd heq)⟩)
    · exact .inr (.inr (.inl
        ⟨hrc, hrunning, handle, hthread, hsent.trans (congrArg Prod.snd heq)⟩))
    · exact .inr (.inr (.inr ⟨hrc, hrunning, hthread, hsent.trans (congrArg Prod.snd heq)⟩))
  · exact .inl ⟨hrc, congrArg Prod.snd (gsusbChannelStart_of_failed hcheck hrc thread)⟩

/-- What a start returns once its check is passed. -/
theorem gsusbChannelStart_fst {host : Host n} {i : Fin n} {modeFlags : UInt32}
    (hcheck : startCheck host.dev i modeFlags = 0) (rc : ℤ) (thread : PthreadCreate) :
    (gsusbChannelStart host i modeFlags rc thread).1 =
      if ctrlResult rc gsDeviceModeSize ≠ 0 then ctrlResult rc gsDeviceModeSize
      else if host.dev.readerRunning = true ∨ thread = .created then 0 else gsusbErrIo := by
  by_cases hrc : ctrlResult rc gsDeviceModeSize = 0
  · rw [gsusbChannelStart_of_sent hcheck hrc, if_neg (not_not.mpr hrc)]
    rcases startReader_cases ⟨host.dev, _⟩ i thread with
      ⟨hrunning, heq⟩ | ⟨hrunning, handle, hthread, heq⟩ | ⟨hrunning, hthread, heq⟩
    · rw [heq, if_pos (.inl hrunning)]
    · have hrunning : host.dev.readerRunning = false := hrunning
      rw [heq, hrunning, hthread, if_neg (by simp)]
    · rw [heq, if_pos (.inr hthread)]
  · rw [gsusbChannelStart_of_failed hcheck hrc, if_pos hrc]

/-- Past its check a start succeeds exactly when the request went through and there is a
reader for it. -/
theorem gsusbChannelStart_fst_eq_zero_iff {host : Host n} {i : Fin n} {modeFlags : UInt32}
    (hcheck : startCheck host.dev i modeFlags = 0) (rc : ℤ) (thread : PthreadCreate) :
    (gsusbChannelStart host i modeFlags rc thread).1 = 0 ↔
      ctrlResult rc gsDeviceModeSize = 0 ∧
        (host.dev.readerRunning = true ∨ thread = .created) := by
  rw [gsusbChannelStart_fst hcheck]
  split_ifs with hrc hthread
  · exact iff_of_false hrc fun h => hrc h.1
  · exact iff_of_true rfl ⟨not_not.mp hrc, hthread⟩
  · exact iff_of_false (by decide) fun h => hthread h.2

/-- Past its check a start sends one START. -/
theorem modes_gsusbChannelStart {host : Host n} {i : Fin n} {modeFlags : UInt32}
    (hcheck : startCheck host.dev i modeFlags = 0) (rc : ℤ) (thread : PthreadCreate) :
    (gsusbChannelStart host i modeFlags rc thread).2.world.modes =
      host.world.modes ++ [(startRequest (host.dev.channel i) modeFlags, rc)] := by
  rcases gsusbChannelStart_cases hcheck rc thread with
    ⟨-, heq⟩ | ⟨-, -, heq⟩ | ⟨-, -, handle, -, heq⟩ | ⟨-, -, -, heq⟩
  · rw [heq]
    rfl
  · rw [heq]
    rfl
  · rw [heq]
    rfl
  · rw [heq]
    rfl

/-- Past its check a start marks its channel started exactly where it returns 0. -/
theorem started_gsusbChannelStart {host : Host n} {i : Fin n} {modeFlags : UInt32}
    (hcheck : startCheck host.dev i modeFlags = 0) (rc : ℤ) (thread : PthreadCreate) (j : Fin n) :
    ((gsusbChannelStart host i modeFlags rc thread).2.dev.channel j).started =
      if j = i then decide ((gsusbChannelStart host i modeFlags rc thread).1 = 0)
      else (host.dev.channel j).started := by
  have hstopped := started_of_startCheck hcheck
  have hzero := gsusbChannelStart_fst_eq_zero_iff hcheck rc thread
  rcases gsusbChannelStart_cases hcheck rc thread with
    ⟨hrc, heq⟩ | ⟨hrc, hrunning, heq⟩ | ⟨hrc, hrunning, handle, hfailed, heq⟩ |
      ⟨hrc, hrunning, hcreated, heq⟩
  · rw [heq, decide_eq_false fun h => hrc (hzero.mp h).1]
    split_ifs with hj
    · rw [hj, hstopped]
    · rfl
  · rw [heq, decide_eq_true (hzero.mpr ⟨hrc, .inl hrunning⟩)]
    show ((host.dev.markStarted i).channel j).started = _
    rw [Dev.started_markStarted]
    split_ifs with hj
    · simp [hj]
    · simp [Ne.symm hj]
  · have hne : ¬ (host.gsusbChannelStart i modeFlags rc thread).1 = 0 := by
      rw [hzero, hrunning, hfailed]
      simp
    rw [heq, decide_eq_false hne]
    show (((host.dev.markStarted i).markStopped i).channel j).started = _
    rw [Dev.started_markStopped, Dev.started_markStarted]
    split_ifs with hj
    · simp [hj]
    · simp [Ne.symm hj]
  · rw [heq, decide_eq_true (hzero.mpr ⟨hrc, .inr hcreated⟩)]
    show ((host.dev.markStarted i).channel j).started = _
    rw [Dev.started_markStarted]
    split_ifs with hj
    · simp [hj]
    · simp [Ne.symm hj]

/-- The first section of a stop does nothing to a stopped channel. -/
theorem stopSection_of_stopped {host : Host n} {i : Fin n}
    (hstopped : (host.dev.channel i).started = false) :
    host.stopSection i = (none, host) :=
  if_pos hstopped

/-- The first section of a stop marks a started channel stopped, and orders the reader
to stop when that was the last one. -/
theorem stopSection_of_started {host : Host n} (hcounts : host.dev.CountsStarted) {i : Fin n}
    (hstarted : (host.dev.channel i).started = true) :
    host.stopSection i =
      if (host.dev.markStopped i).activeChannels = 0
      then (some true, ⟨{ host.dev.markStopped i with stopFlag := true }, host.world⟩)
      else (some false, ⟨host.dev.markStopped i, host.world⟩) := by
  have hpos : host.dev.activeChannels > 0 := hcounts.activeChannels_pos hstarted
  have hcond : ¬ (host.dev.channel i).started = false := by simp [hstarted]
  rw [stopSection, if_neg hcond]
  have hdec : (if (host.dev.updateChannel i Channel.markStopped).activeChannels > 0
      then { host.dev.updateChannel i Channel.markStopped with
        activeChannels := (host.dev.updateChannel i Channel.markStopped).activeChannels - 1 }
      else host.dev.updateChannel i Channel.markStopped) = host.dev.markStopped i := if_pos hpos
  simp only [hdec]
  by_cases hzero : (host.dev.markStopped i).activeChannels = 0
  · simp [hzero]
  · simp [hzero]

/-- A stop of a stopped channel does nothing. -/
theorem gsusbChannelStop_of_stopped {host : Host n} {i : Fin n}
    (hstopped : (host.dev.channel i).started = false) (rc : ℤ) :
    host.gsusbChannelStop i rc = (0, host) := by
  rw [gsusbChannelStop, stopSection_of_stopped hstopped]

/-- What `gsusb_channel_stop` leaves behind on a started channel: it is stopped and
reset, and with the last channel the reader is joined. -/
theorem gsusbChannelStop_cases {host : Host n} (hcounts : host.dev.CountsStarted) {i : Fin n}
    (hstarted : (host.dev.channel i).started = true) (rc : ℤ) :
    let world := host.world.sendMode (resetRequest (host.dev.channel i)) rc
    let host' := (host.gsusbChannelStop i rc).2
    ((host.dev.markStopped i).activeChannels = 0 ∧
        host' = ⟨{ host.dev.markStopped i with stopFlag := true, readerRunning := false },
          { world with joined := world.joined ++ [host.dev.readerThread] }⟩) ∨
      ((host.dev.markStopped i).activeChannels ≠ 0 ∧
        host' = ⟨host.dev.markStopped i, world⟩) := by
  have hindex := (host.dev.sameSetup_markStopped i).index_eq i
  have hrequest : resetRequest (host.dev.channel i) =
      resetRequest ((host.dev.markStopped i).channel i) := by
    rw [resetRequest, resetRequest, hindex]
  rw [gsusbChannelStop, stopSection_of_started hcounts hstarted, hrequest]
  by_cases hzero : (host.dev.markStopped i).activeChannels = 0
  · rw [if_pos hzero]
    exact .inl ⟨hzero, rfl⟩
  · rw [if_neg hzero]
    exact .inr ⟨hzero, rfl⟩

end Host

/-! ## The sequential lifecycle -/

/-- A call of the application, with what libusb and `pthread_create` do in it. -/
inductive Call (n : ℕ)
  | start (i : Fin n) (modeFlags : UInt32) (rc : ℤ) (thread : PthreadCreate)
  | stop (i : Fin n) (rc : ℤ)

namespace Host

variable {n : ℕ}

/-- Make one call. -/
def call (host : Host n) : Call n → Host n
  | .start i modeFlags rc thread => (host.gsusbChannelStart i modeFlags rc thread).2
  | .stop i rc => (host.gsusbChannelStop i rc).2

/-- Make calls one after the other. -/
def calls (host : Host n) (cs : List (Call n)) : Host n := cs.foldl call host

end Host

/-- The handle of the reader thread that has not been joined yet, if there is one. -/
def Dev.currentReader {n : ℕ} (dev : Dev n) : List (Option ℕ) :=
  if dev.readerRunning then [dev.readerThread] else []

namespace Host

variable {n : ℕ}

/-- The state between two calls. -/
structure Steady (host : Host n) : Prop where
  counts : host.dev.CountsStarted
  running_iff : host.dev.readerRunning = true ↔ 0 < host.dev.activeChannels
  stopFlag_eq : host.dev.readerRunning = true → host.dev.stopFlag = false
  joined_eq : host.world.joined ++ host.dev.currentReader =
    (List.range host.world.created).map some

namespace Steady

variable {host : Host n}

/-- An opened device is steady. -/
theorem init {dev : Dev n} (hopened : dev.Opened) : (Host.init dev).Steady where
  counts := by
    have hnone : ¬ 0 < dev.startedCount := by
      rw [dev.startedCount_pos_iff]
      rintro ⟨i, hstarted⟩
      rw [hopened.stopped i] at hstarted
      cases hstarted
    show dev.activeChannels.toNat = _
    rw [hopened.activeChannels_eq]
    exact (Nat.eq_zero_of_not_pos hnone).symm
  running_iff := by
    show dev.readerRunning = true ↔ 0 < dev.activeChannels
    rw [hopened.readerRunning_eq, hopened.activeChannels_eq]
    decide
  stopFlag_eq _ := hopened.stopFlag_eq
  joined_eq := by
    show [] ++ dev.currentReader = []
    rw [Dev.currentReader, hopened.readerRunning_eq]
    rfl

/-- There is a reader exactly while some channel is started. -/
theorem running_iff_exists (h : host.Steady) :
    host.dev.readerRunning = true ↔ ∃ j, (host.dev.channel j).started = true := by
  rw [h.running_iff, UInt32.lt_iff_toNat_lt, h.counts]
  exact host.dev.startedCount_pos_iff

/-- Without a reader no channel is active. -/
theorem activeChannels_eq_zero (h : host.Steady) (hrunning : host.dev.readerRunning = false) :
    host.dev.activeChannels = 0 := by
  have hpos := h.running_iff.not.mp (by simp [hrunning])
  rwa [UInt32.pos_iff_ne_zero, not_not] at hpos

/-- Without a reader every thread there was has been joined. -/
theorem joined_of_not_running (h : host.Steady) (hrunning : host.dev.readerRunning = false) :
    host.world.joined = (List.range host.world.created).map some := by
  have hjoined := h.joined_eq
  rwa [Dev.currentReader, hrunning, if_neg (by decide), List.append_nil] at hjoined

/-- With a reader, joining it leaves no thread behind. -/
theorem joined_of_running (h : host.Steady) (hrunning : host.dev.readerRunning = true) :
    host.world.joined ++ [host.dev.readerThread] =
      (List.range host.world.created).map some := by
  have hjoined := h.joined_eq
  rwa [Dev.currentReader, hrunning, if_pos rfl] at hjoined

/-- The transfer of a start leaves the invariant alone. -/
theorem startTransfer (h : host.Steady) (i : Fin n) (modeFlags : UInt32) (rc : ℤ) :
    (host.startTransfer i modeFlags rc).2.Steady := by
  by_cases hcheck : startCheck host.dev i modeFlags = 0
  · rw [startTransfer_eq hcheck]
    exact ⟨h.counts, h.running_iff, h.stopFlag_eq, h.joined_eq⟩
  · rw [startTransfer_of_check hcheck]
    exact h

/-- Every exit of the rest restores it. -/
theorem startReader (h : host.Steady) {i : Fin n} (hstopped : (host.dev.channel i).started = false)
    (thread : PthreadCreate) : (host.startReader i thread).2.Steady := by
  have hcounts := h.counts.markStarted hstopped
  have hstarted : ((host.dev.markStarted i).channel i).started = true := by
    simp [Dev.started_markStarted]
  have hpos := hcounts.activeChannels_pos hstarted
  rcases startReader_cases host i thread with
    ⟨hrunning, heq⟩ | ⟨hrunning, handle, -, heq⟩ | ⟨hrunning, -, heq⟩
  · rw [heq]
    exact ⟨hcounts, iff_of_true hrunning hpos, h.stopFlag_eq, h.joined_eq⟩
  · have hzero := h.activeChannels_eq_zero hrunning
    rw [← host.dev.activeChannels_markStopped_markStarted i] at hzero
    rw [heq]
    refine ⟨hcounts.markStopped hstarted, iff_of_false Bool.false_ne_true ?_, nofun, ?_⟩
    · show ¬ 0 < ((host.dev.markStarted i).markStopped i).activeChannels
      rw [hzero]
      decide
    · exact (List.append_nil _).trans (h.joined_of_not_running hrunning)
  · rw [heq]
    refine ⟨hcounts, iff_of_true rfl hpos, fun _ => rfl, ?_⟩
    calc
      host.world.joined ++ [some host.world.created] =
          (List.range host.world.created).map some ++ [some host.world.created] := by
        rw [h.joined_of_not_running hrunning]
      _ = (List.range (host.world.created + 1)).map some := by
        rw [List.range_succ, List.map_append]
        rfl

/-- Every exit of `gsusb_channel_start` restores the invariant. -/
theorem gsusbChannelStart (h : host.Steady) (i : Fin n) (modeFlags : UInt32) (rc : ℤ)
    (thread : PthreadCreate) : (host.gsusbChannelStart i modeFlags rc thread).2.Steady := by
  by_cases hcheck : startCheck host.dev i modeFlags = 0
  · have hsent := h.startTransfer i modeFlags rc
    rw [startTransfer_eq hcheck] at hsent
    by_cases hrc : ctrlResult rc gsDeviceModeSize = 0
    · rw [gsusbChannelStart_of_sent hcheck hrc]
      exact hsent.startReader (started_of_startCheck hcheck) thread
    · rw [gsusbChannelStart_of_failed hcheck hrc]
      exact hsent
  · rw [gsusbChannelStart_of_check hcheck]
    exact h

/-- Both exits of `gsusb_channel_stop` restore the invariant. -/
theorem gsusbChannelStop (h : host.Steady) (i : Fin n) (rc : ℤ) :
    (host.gsusbChannelStop i rc).2.Steady := by
  cases hstarted : (host.dev.channel i).started with
  | false =>
      rw [gsusbChannelStop_of_stopped hstarted]
      exact h
  | true =>
      have hcounts := h.counts.markStopped hstarted
      have hrunning := h.running_iff.mpr (h.counts.activeChannels_pos hstarted)
      rcases gsusbChannelStop_cases h.counts hstarted rc with ⟨hzero, heq⟩ | ⟨hzero, heq⟩
      · rw [heq]
        refine ⟨hcounts, iff_of_false Bool.false_ne_true ?_, nofun, ?_⟩
        · show ¬ 0 < (host.dev.markStopped i).activeChannels
          rw [hzero]
          decide
        · exact (List.append_nil _).trans (h.joined_of_running hrunning)
      · rw [heq]
        exact ⟨hcounts, iff_of_true hrunning (UInt32.pos_iff_ne_zero.mpr hzero),
          h.stopFlag_eq, h.joined_eq⟩

/-- Every call restores the invariant. -/
theorem call (h : host.Steady) (c : Call n) : (host.call c).Steady := by
  cases c with
  | start i modeFlags rc thread => exact h.gsusbChannelStart i modeFlags rc thread
  | stop i rc => exact h.gsusbChannelStop i rc

/-- So does every sequence of calls. -/
theorem calls (h : host.Steady) (cs : List (Call n)) : (host.calls cs).Steady :=
  List.foldlRecOn cs Host.call h fun _ hs c _ => hs.call c

end Steady

/-- The RESET requests of `gsusb_close`, for the started channels in order. -/
theorem foldl_sendMode (world : World) (request : Fin n → ModeRequest) (rc : Fin n → ℤ)
    (started : Fin n → Bool) (l : List (Fin n)) :
    l.foldl (fun world i => if started i then world.sendMode (request i) (rc i) else world)
        world =
      { world with modes := world.modes ++
        (l.filter started).map fun i => (request i, rc i) } := by
  induction l generalizing world with
  | nil => simp
  | cons i l ih =>
      rw [List.foldl_cons, ih]
      cases hstarted : started i with
      | true => simp [hstarted, World.sendMode]
      | false => simp [hstarted]

/-- `gsusb_close` joins the current reader, which it has told to stop, and resets the started
channels. -/
theorem gsusbClose_eq (host : Host n) (rc : Fin n → ℤ) :
    host.gsusbClose rc =
      ⟨host.world.created, host.world.joined ++ host.dev.currentReader,
        host.world.modes ++ ((List.finRange n).filter fun i =>
          (host.dev.channel i).started).map fun i =>
            (resetRequest (host.dev.channel i), rc i)⟩ := by
  cases hrunning : host.dev.readerRunning with
  | true =>
      simp only [gsusbClose, closeSection, hrunning, if_true, foldl_sendMode, Dev.currentReader]
      rfl
  | false =>
      simp only [gsusbClose, closeSection, hrunning, Bool.false_eq_true, if_false, foldl_sendMode,
        Dev.currentReader, List.append_nil]
      rfl

theorem sameSetup_gsusbChannelStart (host : Host n) (i : Fin n) (modeFlags : UInt32) (rc : ℤ)
    (thread : PthreadCreate) :
    host.dev.SameSetup (host.gsusbChannelStart i modeFlags rc thread).2.dev := by
  by_cases hcheck : startCheck host.dev i modeFlags = 0
  · have hmark := host.dev.sameSetup_markStarted i
    rcases gsusbChannelStart_cases hcheck rc thread with
      ⟨-, heq⟩ | ⟨-, -, heq⟩ | ⟨-, -, handle, -, heq⟩ | ⟨-, -, -, heq⟩
    · rw [heq]
      exact .refl _
    · rw [heq]
      exact hmark
    · rw [heq]
      have hback := hmark.trans ((host.dev.markStarted i).sameSetup_markStopped i)
      exact ⟨hback.hfSizeRx_eq, hback.found_eq⟩
    · rw [heq]
      exact ⟨hmark.hfSizeRx_eq, hmark.found_eq⟩
  · rw [gsusbChannelStart_of_check hcheck]
    exact .refl _

theorem sameSetup_gsusbChannelStop {host : Host n} (hcounts : host.dev.CountsStarted)
    (i : Fin n) (rc : ℤ) : host.dev.SameSetup (host.gsusbChannelStop i rc).2.dev := by
  cases hstarted : (host.dev.channel i).started with
  | false =>
      rw [gsusbChannelStop_of_stopped hstarted]
      exact .refl _
  | true =>
      have hmark := host.dev.sameSetup_markStopped i
      rcases gsusbChannelStop_cases hcounts hstarted rc with ⟨-, heq⟩ | ⟨-, heq⟩
      · rw [heq]
        exact ⟨hmark.hfSizeRx_eq, hmark.found_eq⟩
      · rw [heq]
        exact hmark

/-- A stop touches no other channel, and this one only in `started`. -/
theorem channel_gsusbChannelStop {host : Host n} (hcounts : host.dev.CountsStarted)
    (i j : Fin n) (rc : ℤ) :
    (host.gsusbChannelStop i rc).2.dev.channel j =
      if i = j then (host.dev.channel j).markStopped else host.dev.channel j := by
  cases hstarted : (host.dev.channel i).started with
  | false =>
      rw [gsusbChannelStop_of_stopped hstarted]
      by_cases h : i = j
      · subst h
        rw [if_pos rfl, Channel.markStopped, ← hstarted]
      · rw [if_neg h]
  | true =>
      rcases gsusbChannelStop_cases hcounts hstarted rc with ⟨-, heq⟩ | ⟨-, heq⟩
      · rw [heq]
        exact host.dev.channel_markStopped i j
      · rw [heq]
        exact host.dev.channel_markStopped i j

/-- A stop sends one RESET, or nothing for a stopped channel. -/
theorem modes_gsusbChannelStop {host : Host n} (hcounts : host.dev.CountsStarted)
    (i : Fin n) (rc : ℤ) :
    (host.gsusbChannelStop i rc).2.world.modes = host.world.modes ++
      if (host.dev.channel i).started then [(resetRequest (host.dev.channel i), rc)] else [] := by
  cases hstarted : (host.dev.channel i).started with
  | false =>
      rw [gsusbChannelStop_of_stopped hstarted]
      exact (List.append_nil _).symm
  | true =>
      rcases gsusbChannelStop_cases hcounts hstarted rc with ⟨-, heq⟩ | ⟨-, heq⟩
      · rw [heq]
        rfl
      · rw [heq]
        rfl

/-- No sequence of calls changes what `gsusb_open` found out. -/
theorem Steady.sameSetup_calls {host : Host n} (h : host.Steady) (cs : List (Call n)) :
    host.dev.SameSetup (host.calls cs).dev := by
  induction cs generalizing host with
  | nil => exact .refl _
  | cons c cs ih =>
      refine Dev.SameSetup.trans ?_ (ih (h.call c))
      cases c with
      | start i modeFlags rc thread => exact sameSetup_gsusbChannelStart host i modeFlags rc thread
      | stop i rc => exact sameSetup_gsusbChannelStop h.counts i rc

/-- **The sequential lifecycle.** After any calls on an opened device, whatever failed in
them: the counter counts the started channels and is positive where it is decremented, a
reader runs exactly when it is positive and was not told to stop, and every thread but
that reader has been joined once.  Closing then tells the reader to stop and joins it too, and
resets exactly the started channels. -/
theorem calls_steady_and_gsusbClose {dev : Dev n} (hopened : dev.Opened) (cs : List (Call n)) :
    let host := (Host.init dev).calls cs
    host.Steady ∧
      (∀ i, (host.dev.channel i).started = true → 0 < host.dev.activeChannels) ∧
      host.closeSection.2.dev.stopFlag = true ∧
      ∀ rc, let world := host.gsusbClose rc
        world.joined = host.world.joined ++ host.dev.currentReader ∧
        world.joined = (List.range world.created).map some ∧
        world.modes = host.world.modes ++
          ((List.finRange n).filter fun i => (host.dev.channel i).started).map fun i =>
            (⟨UInt16.ofNat i, gsCanModeReset, 0⟩, rc i) := by
  intro host
  have hsteady : host.Steady := (Steady.init hopened).calls cs
  have hprobed : host.dev.Probed :=
    ((Steady.init hopened).sameSetup_calls cs).probed hopened.toProbed
  refine ⟨hsteady, fun i hstarted => hsteady.counts.activeChannels_pos hstarted, rfl,
    fun rc => ?_⟩
  rw [gsusbClose_eq]
  refine ⟨rfl, hsteady.joined_eq, ?_⟩
  simp only [resetRequest, hprobed.index_eq]

end Host

/-- Two classic channels, nothing started. -/
def twoChannels : Dev 2 :=
  .ofChannels default #v[.ofBtConst 0 default none, .ofBtConst 1 default none] (by decide) 20

theorem opened_twoChannels : twoChannels.Opened where
  count_le := by decide
  index_eq := by decide
  frameSize_le := by decide
  stopped := by decide
  activeChannels_eq := rfl
  readerRunning_eq := rfl
  stopFlag_eq := rfl

/-- A run on it: one channel starts, the other finds no thread, the first stops, and a
transfer fails. -/
theorem calls_steady_and_gsusbClose_twoChannels :
    let host := (Host.init twoChannels).calls
      [.start 1 0 8 (.failed none), .start 0 0 8 .created, .start 1 0 8 .created, .stop 0 8,
        .start 0 0 (-7) .created]
    host.Steady ∧
      (∀ i, (host.dev.channel i).started = true → 0 < host.dev.activeChannels) ∧
      host.closeSection.2.dev.stopFlag = true ∧
      ∀ rc, let world := host.gsusbClose rc
        world.joined = host.world.joined ++ host.dev.currentReader ∧
        world.joined = (List.range world.created).map some ∧
        world.modes = host.world.modes ++
          ((List.finRange 2).filter fun i => (host.dev.channel i).started).map fun i =>
            (⟨UInt16.ofNat i, gsCanModeReset, 0⟩, rc i) :=
  Host.calls_steady_and_gsusbClose opened_twoChannels _

end GsUsb.Driver
