/-
# Packets that arrive while their channel starts

`gsusb_channel_start` first has the device apply START and then assigns `hw_ts_enabled`, from
which `handle_rx_packet` tells the layout of a packet.  A reader that already runs for another
channel can handle packets of the new one in between.  It takes `start_lock` only to look at
`stop_flag`, so the lock that the start holds does not keep it from doing so.
-/

import GsUsb.Driver.Open
import GsUsb.Math.Run

namespace GsUsb.Driver

open GsUsb.Math

/-- Where `gsusb_channel_start` is. -/
inductive StartPc
  | called
  /-- With `start_lock`, before its checks. -/
  | checking
  /-- In the MODE transfer. -/
  | sending
  /-- The transfer has succeeded. -/
  | sent
  /-- `hw_ts_enabled` is assigned. -/
  | timestamping
  /-- `started` is assigned. -/
  | marked
  /-- `active_channels` is incremented. -/
  | counted
  | returned (rc : ℤ)
  deriving DecidableEq

namespace StartPc

/-- The call is between its `pthread_mutex_lock` and its `pthread_mutex_unlock`. -/
def holdsLock : StartPc → Bool
  | .called | .returned _ => false
  | _ => true

/-- The call has assigned `hw_ts_enabled`. -/
def assigned : StartPc → Bool
  | .timestamping | .marked | .counted => true
  | .returned rc => rc = 0
  | _ => false

end StartPc

/-- Where the reader is. -/
inductive ReceivePc
  /-- About to look at `stop_flag`. -/
  | check
  /-- In the bulk-IN transfer. -/
  | reading
  /-- In `handle_rx_packet`. -/
  | handling (buf : Bytes)
  | ended
  deriving DecidableEq

/-- A device, a start of one of its channels, and the reader. -/
structure Starting (n : ℕ) where
  host : Host n
  start : StartPc
  /-- The device has applied the START. -/
  applied : Bool
  reader : ReceivePc

/-- Who takes the next step. -/
inductive StartEvent
  /-- The start, with what its transfer or its `pthread_create` does. -/
  | start (rc : ℤ) (thread : PthreadCreate)
  /-- The device applies the START it was sent. -/
  | apply
  /-- The reader looks at `stop_flag`. -/
  | check
  /-- Its transfer delivers a packet. -/
  | deliver (buf : Bytes)
  /-- Its transfer delivers nothing. -/
  | nothing
  /-- Its transfer fails for good. -/
  | fail
  /-- It handles its packet. -/
  | handle

/-- The last word of a packet. -/
def trailingWord (buf : Bytes) : UInt32 := wordAt buf (buf.length - gsHostFrameTsSize)

namespace Starting

variable {n : ℕ}

/-- The start of a channel is called while the reader goes its rounds. -/
def init (host : Host n) : Starting n := ⟨host, .called, false, .check⟩

/-- `ch->hw_ts_enabled = hw_ts`. -/
def assignHwTs (dev : Dev n) (i : Fin n) : Dev n :=
  dev.updateChannel i fun ch => { ch with hwTsEnabled := ch.hasFeature gsCanFeatureHwTimestamp }

/-- `ch->started = 1`. -/
def assignStarted (dev : Dev n) (i : Fin n) : Dev n :=
  dev.updateChannel i fun ch => { ch with started := true }

/-- `dev->active_channels++`. -/
def countActive (dev : Dev n) : Dev n := { dev with activeChannels := dev.activeChannels + 1 }

/-- A step of `gsusb_channel_start`.  The transfer reports success only after the device has
applied the START. -/
def stepStart (i : Fin n) (modeFlags : UInt32) (s : Starting n) (rc : ℤ)
    (thread : PthreadCreate) : Option (Starting n) :=
  let ⟨dev, world⟩ := s.host
  match s.start with
  | .called => some { s with start := .checking }
  | .checking =>
    if Host.startCheck dev i modeFlags ≠ 0
    then some { s with start := .returned (Host.startCheck dev i modeFlags) }
    else some { s with start := .sending }
  | .sending =>
    let world := world.sendMode (startRequest (dev.channel i) modeFlags) rc
    let result := ctrlResult rc gsDeviceModeSize
    if result ≠ 0 then some { s with host := ⟨dev, world⟩, start := .returned result }
    else if s.applied then some { s with host := ⟨dev, world⟩, start := .sent }
    else none
  | .sent =>
    some { s with host := ⟨assignHwTs dev i, world⟩, start := .timestamping }
  | .timestamping =>
    some { s with host := ⟨assignStarted dev i, world⟩, start := .marked }
  | .marked =>
    some { s with host := ⟨countActive dev, world⟩, start := .counted }
  | .counted =>
    if dev.readerRunning then some { s with start := .returned 0 }
    else
      let dev := { dev with stopFlag := false }
      match thread with
      | .failed handle =>
        let dev := { dev.markStopped i with readerThread := handle }
        some { s with host := ⟨dev, world⟩, start := .returned gsusbErrIo }
      | .created =>
        let dev := { dev with readerThread := some world.created, readerRunning := true }
        some { s with host := ⟨dev, { world with created := world.created + 1 }⟩,
                      start := .returned 0 }
  | .returned _ => none

/-- What the device can send: packets of the channel only from the START on, and those with a
time behind the full payload room. -/
def Emits (i : Fin n) (s : Starting n) (buf : Bytes) : Prop :=
  gsHostFrameHdrSize ≤ buf.length → (byteAt buf 9).toNat = i →
    s.applied = true ∧ buf.length = gsFrameSize (rxMaxDlen buf) true

instance (i : Fin n) (s : Starting n) (buf : Bytes) : Decidable (s.Emits i buf) :=
  inferInstanceAs (Decidable (_ → _ → _ ∧ _))

/-- A step of the machine. -/
def step (i : Fin n) (modeFlags : UInt32) (s : Starting n) :
    StartEvent → Option (Starting n)
  | .start rc thread => s.stepStart i modeFlags rc thread
  | .apply => if s.start = .sending then some { s with applied := true } else none
  | .check =>
    if s.reader = .check ∧ s.start.holdsLock = false then
      some { s with reader := if s.host.dev.stopFlag then .ended else .reading }
    else none
  | .deliver buf =>
    if s.reader = .reading ∧ s.Emits i buf then some { s with reader := .handling buf } else none
  | .nothing => if s.reader = .reading then some { s with reader := .check } else none
  | .fail => if s.reader = .reading then some { s with reader := .ended } else none
  | .handle =>
    match s.reader with
    | .handling buf =>
      match handleRxPacket s.host.dev buf with
      | .ok dev => some { s with host := ⟨dev, s.host.world⟩, reader := .check }
      | .error _ => none
    | _ => none

/-- The three assignments of a start, one after the other. -/
theorem countActive_assignStarted_assignHwTs (dev : Dev n) (i : Fin n) :
    countActive (assignStarted (assignHwTs dev i) i) = dev.markStarted i := by
  simp [countActive, assignStarted, assignHwTs, Dev.markStarted, Dev.updateChannel, Dev.channel,
    Channel.markStarted, Channel.hasFeature]

/-- **The steps of the start are those of `gsusb_channel_start`.** With nothing of the reader
in between they end in the state and with the code that the whole call gives. -/
theorem exists_run_gsusbChannelStart (host : Host n) (i : Fin n) (modeFlags : UInt32) (rc : ℤ)
    (thread : PthreadCreate) :
    ∃ events t, (∀ e ∈ events, e = .start rc thread ∨ e = .apply) ∧
      run (step i modeFlags) (init host) events = some t ∧
      t.host = (host.gsusbChannelStart i modeFlags rc thread).2 ∧
      t.start = .returned (host.gsusbChannelStart i modeFlags rc thread).1 := by
  obtain ⟨dev, world⟩ := host
  let move : StartEvent := .start rc thread
  by_cases hcheck : Host.startCheck dev i modeFlags = 0
  · by_cases hrc : ctrlResult rc gsDeviceModeSize = 0
    · let world' := world.sendMode (startRequest (dev.channel i) modeFlags) rc
      have hcounted : run (step i modeFlags) (init ⟨dev, world⟩)
          [move, move, .apply, move, move, move, move] =
            some ⟨⟨dev.markStarted i, world'⟩, .counted, true, .check⟩ := by
        simp [move, run_cons, step, stepStart, init, hcheck, hrc,
          countActive_assignStarted_assignHwTs, world']
      refine ⟨[move, move, .apply, move, move, move, move] ++ [move],
        ⟨(Host.gsusbChannelStart ⟨dev, world⟩ i modeFlags rc thread).2,
          .returned (Host.gsusbChannelStart ⟨dev, world⟩ i modeFlags rc thread).1, true, .check⟩,
        by simp [move], ?_, rfl, rfl⟩
      rw [run_append, hcounted]
      cases hrunning : dev.readerRunning with
      | true =>
          simp [move, run_cons, step, stepStart, Host.gsusbChannelStart, Host.startTransfer,
            Host.startReader, hcheck, hrc, hrunning, world']
      | false =>
          cases thread <;>
            simp [move, run_cons, step, stepStart, Host.gsusbChannelStart, Host.startTransfer,
              Host.startReader, hcheck, hrc, hrunning, world']
    · refine ⟨[move, move, move], _, by simp [move], by
        simp [move, run_cons, step, stepStart, init, hcheck, hrc]
        rfl, ?_, ?_⟩
      · simp [Host.gsusbChannelStart, Host.startTransfer, hcheck, hrc]
      · simp [Host.gsusbChannelStart, Host.startTransfer, hcheck, hrc]
  · refine ⟨[move, move], _, by simp [move], by
      simp [move, run_cons, step, stepStart, init, hcheck]
      rfl, ?_, ?_⟩
    · simp [Host.gsusbChannelStart, Host.startTransfer, hcheck]
    · simp [Host.gsusbChannelStart, Host.startTransfer, hcheck]

/-! ## The window -/

/-- A reader runs for another channel, and channel `i`, whose packets carry times, was never
started. -/
structure StartsBeside (dev : Dev n) (i : Fin n) : Prop where
  running : dev.readerRunning = true
  untold : dev.stopFlag = false
  other : ∃ j, j ≠ i ∧ (dev.channel j).started = true
  feature : (dev.channel i).hasFeature gsCanFeatureHwTimestamp = true
  fresh : (dev.channel i).started = false ∧ (dev.channel i).hwTsEnabled = false

/-- `hw_ts_enabled` is set once the start has assigned it, and the reader holds packets that
the device sends. -/
structure Inv (i : Fin n) (s : Starting n) : Prop where
  running : s.host.dev.readerRunning = true
  feature : (s.host.dev.channel i).hasFeature gsCanFeatureHwTimestamp = true
  enabled : (s.host.dev.channel i).hwTsEnabled = s.start.assigned
  full : ∀ buf, s.reader = .handling buf → gsHostFrameHdrSize ≤ buf.length →
    (byteAt buf 9).toNat = i → buf.length = gsFrameSize (rxMaxDlen buf) true

variable {s t : Starting n} {i : Fin n} {modeFlags : UInt32}

theorem Inv.init {host : Host n} (h : StartsBeside host.dev i) : (init host).Inv i :=
  ⟨h.running, h.feature, h.fresh.2, nofun⟩

/-- A step of the start that leaves the flags as it finds them. -/
theorem Inv.goto (h : s.Inv i) {host : Host n} {pc : StartPc}
    (hrunning : host.dev.readerRunning = true)
    (hfeature : (host.dev.channel i).feature = (s.host.dev.channel i).feature)
    (henabled : (host.dev.channel i).hwTsEnabled = pc.assigned) :
    Inv i { s with host := host, start := pc } where
  running := hrunning
  feature := by
    rw [Channel.hasFeature, hfeature]
    exact h.feature
  enabled := henabled
  full := h.full

/-- Handling a packet assigns no flag. -/
theorem flags_of_handleRxPacket {dev dev' : Dev n} {buf : Bytes}
    (hhandle : handleRxPacket dev buf = .ok dev') :
    dev'.readerRunning = dev.readerRunning ∧
      (dev'.channel i).feature = (dev.channel i).feature ∧
      (dev'.channel i).hwTsEnabled = (dev.channel i).hwTsEnabled := by
  obtain rfl | ⟨j, q, rfl⟩ := eq_or_eq_updateChannel_of_handleRxPacket hhandle
  · exact ⟨rfl, rfl, rfl⟩
  · refine ⟨rfl, ?_⟩
    rw [Dev.channel_updateChannel]
    split
    · exact ⟨rfl, rfl⟩
    · exact ⟨rfl, rfl⟩

/-- A step of the start keeps the invariant. -/
theorem Inv.stepStart (h : s.Inv i) {rc : ℤ} {thread : PthreadCreate}
    (hstep : s.stepStart i modeFlags rc thread = some t) : t.Inv i := by
  have henabled := h.enabled
  rw [Starting.stepStart] at hstep
  cases hpc : s.start with
  | called =>
      rw [hpc] at hstep henabled
      cases hstep
      exact h.goto h.running rfl henabled
  | checking =>
      rw [hpc] at hstep henabled
      simp only at hstep
      split at hstep
      · rename_i hcheck
        cases hstep
        refine h.goto h.running rfl (henabled.trans ?_)
        simp [StartPc.assigned, hcheck]
      · cases hstep
        exact h.goto h.running rfl henabled
  | sending =>
      rw [hpc] at hstep henabled
      simp only at hstep
      split at hstep
      · rename_i hrc
        cases hstep
        refine h.goto h.running rfl (henabled.trans ?_)
        simp [StartPc.assigned, hrc]
      · split at hstep
        · cases hstep
          exact h.goto h.running rfl henabled
        · cases hstep
  | sent =>
      rw [hpc] at hstep
      cases hstep
      refine h.goto h.running ?_ ?_
      · simp [assignHwTs]
      · simpa [assignHwTs, StartPc.assigned] using h.feature
  | timestamping =>
      rw [hpc] at hstep henabled
      cases hstep
      refine h.goto h.running ?_ ?_
      · simp [assignStarted]
      · simpa [assignStarted, StartPc.assigned] using henabled
  | marked =>
      rw [hpc] at hstep henabled
      cases hstep
      exact h.goto h.running rfl henabled
  | counted =>
      rw [hpc] at hstep henabled
      simp only [h.running, if_true] at hstep
      cases hstep
      exact h.goto h.running rfl henabled
  | returned rc =>
      rw [hpc] at hstep
      cases hstep

/-- **Step lemma.** -/
theorem Inv.step (h : s.Inv i) {e : StartEvent} (hstep : s.step i modeFlags e = some t) :
    t.Inv i := by
  cases e with
  | start rc thread => exact h.stepStart hstep
  | apply =>
      simp only [Starting.step, Option.ite_none_right_eq_some] at hstep
      cases hstep.2
      exact ⟨h.running, h.feature, h.enabled, h.full⟩
  | check =>
      simp only [Starting.step, Option.ite_none_right_eq_some] at hstep
      cases hstep.2
      refine ⟨h.running, h.feature, h.enabled, ?_⟩
      intro buf hbuf
      split at hbuf <;> cases hbuf
  | deliver buf =>
      simp only [Starting.step, Option.ite_none_right_eq_some] at hstep
      obtain ⟨⟨-, hemits⟩, heq⟩ := hstep
      cases heq
      refine ⟨h.running, h.feature, h.enabled, ?_⟩
      intro buf' hbuf hheader hchannel
      cases hbuf
      exact (hemits hheader hchannel).2
  | nothing =>
      simp only [Starting.step, Option.ite_none_right_eq_some] at hstep
      cases hstep.2
      exact ⟨h.running, h.feature, h.enabled, nofun⟩
  | fail =>
      simp only [Starting.step, Option.ite_none_right_eq_some] at hstep
      cases hstep.2
      exact ⟨h.running, h.feature, h.enabled, nofun⟩
  | handle =>
      simp only [Starting.step] at hstep
      split at hstep
      · split at hstep
        · rename_i dev hhandle
          cases hstep
          obtain ⟨hrunning, hfeature, henabled⟩ := flags_of_handleRxPacket (i := i) hhandle
          refine ⟨hrunning.trans h.running, ?_, henabled.trans h.enabled, nofun⟩
          rw [Channel.hasFeature, hfeature]
          exact h.feature
        · cases hstep
      · cases hstep

/-- The packet in the reader's hands carries a received frame of channel `i`. -/
def IsFrameOf (i : Fin n) (buf : Bytes) : Prop :=
  gsHostFrameHdrSize ≤ buf.length ∧ (byteAt buf 9).toNat = i ∧ wordAt buf 0 = gsHostFrameEchoIdRx

instance (i : Fin n) (buf : Bytes) : Decidable (IsFrameOf i buf) :=
  inferInstanceAs (Decidable (_ ∧ _ ∧ _))

/-- A frame that is pushed for channel `i` has the time that its packet ends with. -/
def KeepsTimestamp (i : Fin n) (s : Starting n) (e : StartEvent) : Prop :=
  ∀ buf, e = .handle → s.reader = .handling buf → ∀ f,
    rxDecode s.host.dev buf = .ok (some (i.val, f)) → f.timestampUs = trailingWord buf

/-- No frame of channel `i` with a time other than zero is handled before the start has
assigned `hw_ts_enabled`. -/
def Prompt (i : Fin n) (s : Starting n) (e : StartEvent) : Prop :=
  ∀ buf, e = .handle → s.reader = .handling buf → IsFrameOf i buf →
    s.start.assigned = false → trailingWord buf = 0

instance decidablePrompt (i : Fin n) (s : Starting n) : ∀ e, Decidable (s.Prompt i e)
  | .handle =>
      match h : s.reader with
      | .handling buf =>
          decidable_of_iff (IsFrameOf i buf → s.start.assigned = false → trailingWord buf = 0)
            (by simp [Prompt, h])
      | .check => isTrue (by simp [Prompt, h])
      | .reading => isTrue (by simp [Prompt, h])
      | .ended => isTrue (by simp [Prompt, h])
  | .start _ _ => isTrue (by simp [Prompt])
  | .apply => isTrue (by simp [Prompt])
  | .check => isTrue (by simp [Prompt])
  | .deliver _ => isTrue (by simp [Prompt])
  | .nothing => isTrue (by simp [Prompt])
  | .fail => isTrue (by simp [Prompt])

/-- What `handle_rx_packet` pushes for a full packet of channel `i`. -/
theorem Inv.rxDecode_eq (h : s.Inv i) {buf : Bytes} (hreader : s.reader = .handling buf)
    (hframe : IsFrameOf i buf) :
    ∃ f, rxDecode s.host.dev buf = .ok (some (i.val, f)) ∧
      f.timestampUs = if s.start.assigned then trailingWord buf else 0 := by
  obtain ⟨hheader, hchannel, hreceived⟩ := hframe
  have hfull := h.full buf hreader hheader hchannel
  have hlt : (byteAt buf 9).toNat < n := hchannel.trans_lt i.isLt
  have hi : (⟨_, hlt⟩ : Fin n) = i := Fin.ext hchannel
  have hroom := rxLen_le buf
  have hsize : buf.length = gsHostFrameHdrSize + rxMaxDlen buf + gsHostFrameTsSize := hfull
  have haccepts : RxAccepts s.host.dev buf := by
    refine ⟨hheader, hlt, hreceived, ?_⟩
    split
    · exact hsize.ge
    · omega
  have hts : (s.host.dev.channel ⟨_, haccepts.channel_lt⟩).hwTsEnabled = s.start.assigned := by
    rw [← h.enabled, hi]
  refine ⟨rxFrame s.start.assigned buf, ?_, ?_⟩
  · rw [rxDecode_of_accepts haccepts, hts, hchannel]
  · have hlast : buf.length - gsHostFrameTsSize = gsHostFrameHdrSize + rxMaxDlen buf := by
      omega
    rw [trailingWord, hlast]
    rfl

/-- **Step of the reader.** -/
theorem Inv.keepsTimestamp_iff (h : s.Inv i) (e : StartEvent) :
    s.KeepsTimestamp i e ↔ s.Prompt i e := by
  constructor
  · intro hkeeps buf he hreader hframe hassigned
    obtain ⟨f, hdecode, htime⟩ := h.rxDecode_eq hreader hframe
    rw [hassigned, if_neg Bool.false_ne_true] at htime
    rw [← hkeeps buf he hreader f hdecode, htime]
  · intro hprompt buf he hreader f hdecode
    have hframe : IsFrameOf i buf := by
      by_cases haccepts : RxAccepts s.host.dev buf
      · have hsame := (rxDecode_of_accepts haccepts).symm.trans hdecode
        simp only [Except.ok.injEq, Option.some.injEq, Prod.mk.injEq] at hsame
        exact ⟨haccepts.header, hsame.1, haccepts.received⟩
      · rw [rxDecode_of_not_accepts haccepts] at hdecode
        cases hdecode
    obtain ⟨f', hdecode', htime⟩ := h.rxDecode_eq hreader hframe
    cases hdecode.symm.trans hdecode'
    rw [htime]
    cases hassigned : s.start.assigned with
    | true => rfl
    | false => exact (hprompt buf he hreader hframe hassigned).symm

/-- **Exactly when no timestamp is lost while a channel starts.** Over every interleaving of
the start with the reader: each frame pushed for the channel has the time of its packet if and
only if no frame with a time other than zero is handled before `hw_ts_enabled` is assigned. -/
theorem keepsTimestamps_iff {host : Host n} (h : StartsBeside host.dev i)
    (events : List StartEvent) :
    Meets (step i modeFlags) (KeepsTimestamp i) (init host) events ↔
      Meets (step i modeFlags) (Prompt i) (init host) events :=
  meets_congr (fun _ _ _ hinv hstep => Inv.step hinv hstep)
    (fun _ e hinv => hinv.keepsTimestamp_iff e) (.init h)

theorem two_lt_word : 2 < 2 ^ 32 := by decide

/-- A device whose second channel sends times, with a reader for the first. -/
def besideFirst : Host 2 :=
  (Host.init (.ofChannels default
    #v[.ofBtConst 0 default none,
      .ofBtConst 1 { (default : GsusbBittimingConst) with feature := gsCanFeatureHwTimestamp } none]
    two_lt_word 24)).call (.start 0 0 8 .created)

theorem startsBeside_besideFirst : StartsBeside besideFirst.dev 1 where
  running := by decide
  untold := by decide
  other := by decide
  feature := by decide
  fresh := by decide

/-- A packet of the second channel, sent at time 77. -/
def secondPacket : Bytes := fullPacket 0x123 1 1 0 0 [9, 0, 0, 0, 0, 0, 0, 0] (some 77)

set_option maxRecDepth 4000 in
/-- The packet arrives during the start and is handled right after `hw_ts_enabled` is
assigned. -/
theorem keepsTimestamps_iff_besideFirst :
    Meets (step 1 0) (KeepsTimestamp 1) (init besideFirst)
      [.check, .start 8 .created, .start 8 .created, .apply, .deliver secondPacket,
        .start 8 .created, .start 8 .created, .handle, .start 8 .created, .start 8 .created,
        .start 8 .created] :=
  (keepsTimestamps_iff startsBeside_besideFirst _).mpr (by decide)

set_option maxRecDepth 4000 in
/-- The packet is handled as soon as the device has applied the START: its frame is queued
with time 0. -/
theorem not_keepsTimestamps_besideFirst :
    ∃ s t : Starting 2,
      run (step 1 0) (init besideFirst)
          [.check, .start 8 .created, .start 8 .created, .apply, .deliver secondPacket] = some s ∧
        s.step 1 0 .handle = some t ∧
        (t.host.dev.channel 1).rxq.content.map GsusbFrame.timestampUs = [0] ∧
        trailingWord secondPacket = 77 ∧
        ¬ Meets (step 1 0) (KeepsTimestamp 1) (init besideFirst)
          [.check, .start 8 .created, .start 8 .created, .apply, .deliver secondPacket,
            .handle] := by
  obtain ⟨s, t, hrun, hstep, hqueue, hreader, f, hdecode, htime⟩ : ∃ s t : Starting 2,
      run (step 1 0) (init besideFirst)
          [.check, .start 8 .created, .start 8 .created, .apply, .deliver secondPacket] = some s ∧
        s.step 1 0 .handle = some t ∧
        (t.host.dev.channel 1).rxq.content.map GsusbFrame.timestampUs = [0] ∧
        s.reader = .handling secondPacket ∧
        ∃ f, rxDecode s.host.dev secondPacket = .ok (some (1, f)) ∧ f.timestampUs = 0 :=
    ⟨_, _, rfl, rfl, by decide, rfl, _, rfl, rfl⟩
  have hword : trailingWord secondPacket = 77 := by decide
  refine ⟨s, t, hrun, hstep, hqueue, hword, ?_⟩
  intro hmeets
  have hkeeps := Meets.ok_of_run hrun hmeets _ rfl hreader f hdecode
  rw [htime, hword] at hkeeps
  exact absurd hkeeps (by decide)

end Starting

end GsUsb.Driver
