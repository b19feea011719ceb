/-
# The calls of opening and closing

`gsusb_open` and `gsusb_close` once more, now with the calls they make: each acquires a resource,
uses one or releases one.  What `gsusb_open` returns is the same as before.
-/

import GsUsb.Driver.Open
import GsUsb.Math.Traced

namespace GsUsb.Driver

open GsUsb.Math

/-- What `gsusb_open` acquires. -/
inductive Resource where
  /-- The list of `libusb_get_device_list`. -/
  | deviceList
  | handle
  /-- The claim of the interface. -/
  | claim
  /-- The active config descriptor. -/
  | config
  | dev
  | channels
  | queueBuf (i : ℕ)
  | queueLock (i : ℕ)
  | queueCond (i : ℕ)
  | startLock
  deriving DecidableEq

/-- A call of libusb, of pthread or of the allocator, or an access to memory they gave out. -/
inductive LibCall where
  /-- The call that acquires a resource, and whether it succeeds. -/
  | acquire (r : Resource) (ok : Bool)
  | use (r : Resource)
  /-- A control transfer with this request and `wValue`. -/
  | request (breq : UInt8) (wValue : UInt16)
  /-- The call that releases a resource, whatever it returns. -/
  | release (r : Resource)
  deriving DecidableEq

/-- A part of `gsusb_open`: its calls, and the message in `errbuf` or a result. -/
abbrev Opening (α : Type) : Type := Traced LibCall String α

/-- What `pthread_mutex_init` and `pthread_cond_init` answer during one call of `gsusb_open`,
which does not look at it. -/
structure PthreadInit where
  queueLock : ℕ → Bool
  queueCond : ℕ → Bool
  startLock : Bool

/-- `rxq_destroy`. -/
def rxqDestroy (i : ℕ) : List LibCall :=
  [.release (.queueLock i), .release (.queueCond i), .release (.queueBuf i)]

/-- From `fail_free_dev` on. -/
def failFreeDev : List LibCall := [.release .claim, .release .handle, .release .dev]

/-- From `fail_free_channels` on, where `qBuf` tells whose `q_buf` is not null. -/
def failFreeChannels (channelCount : ℕ) (qBuf : ℕ → Bool) : List LibCall :=
  ((List.finRange channelCount).flatMap fun i : Fin channelCount =>
    .use .dev :: .use .channels :: if qBuf i then rxqDestroy i else []) ++
    [.use .dev, .release .channels] ++ failFreeDev

namespace Libusb

variable (usb : Libusb) (pthread : PthreadInit)

/-- `gsusb_open` up to the first request to the device. -/
def connectTraced (vid pid : UInt16) (bus addr : ℤ) : Opening Unit :=
  match usb.deviceList with
  | .error rc =>
    .fail [.acquire .deviceList false] ("libusb_get_device_list failed: " ++ usb.strerror rc)
  | .ok list => do
    Traced.make [.acquire .deviceList true, .use .deviceList]
    match list.find? (·.isMatch vid pid bus addr) with
    | none =>
      .fail [.release .deviceList]
        ("no device matching " ++ hex4 vid ++ ":" ++ hex4 pid ++ " found")
    | some device => do
      let rc := usb.openDevice device
      Traced.make [.use .deviceList, .acquire .handle (rc = 0), .release .deviceList]
      if rc ≠ 0 then .fail [] ("libusb_open failed: " ++ usb.strerror rc)
      else do
        let rc := usb.claimInterface
        Traced.make [.use .handle, .acquire .claim (rc = 0)]
        if rc ≠ 0 then
          .fail [.release .handle] ("libusb_claim_interface failed: " ++ usb.strerror rc ++
            " (device busy or insufficient permissions)")
        else do
          Traced.make [.use .handle]
          match usb.activeConfig with
          | .error rc =>
            .fail [.acquire .config false, .release .claim, .release .handle]
              ("libusb_get_active_config_descriptor failed: " ++ usb.strerror rc)
          | .ok config => do
            Traced.make [.acquire .config true, .use .config, .release .config]
            if (findEndpoints config).1 = 0 ∨ (findEndpoints config).2 = 0 then
              .fail [.release .claim, .release .handle] "required bulk IN/OUT endpoints not found"
            else do
              Traced.make [.acquire .dev usb.callocDev]
              if !usb.callocDev then .fail [.release .claim, .release .handle] "out of memory"
              else Traced.make [.use .dev]

/-- `rxq_init`. -/
def rxqInit (i : ℕ) : List LibCall :=
  .acquire (.queueBuf i) (usb.callocQueue i) ::
    if usb.callocQueue i then
      [.acquire (.queueLock i) (pthread.queueLock i),
        .acquire (.queueCond i) (pthread.queueCond i)]
    else []

/-- The end of a pass of the probing loop, from `rxq_init` on. -/
def addQueue (channelCount i : ℕ) (qBuf : ℕ → Bool) (ch : Channel) : Opening Channel := do
  Traced.make (usb.rxqInit pthread i)
  if usb.callocQueue i then return ch
  else
    .fail (failFreeChannels channelCount (Function.update qBuf i false))
      "out of memory (rx queue)"

/-- One pass of the probing loop. -/
def probeChannelTraced (channelCount i : ℕ) (qBuf : ℕ → Bool) : Opening Channel := do
  Traced.make [.use .dev, .use .channels, .request gsUsbBreqBtConst (UInt16.ofNat i)]
  match usb.ctrlIn gsUsbBreqBtConst (UInt16.ofNat i) 0 gsDeviceBtConstSize with
  | .error rc =>
    .fail (failFreeChannels channelCount qBuf)
      ("BT_CONST request failed for channel " ++ toString i ++ ": " ++ gsusbStrerror rc)
  | .ok raw =>
    let btConst := parseBtConst raw
    let ch := Channel.ofBtConst i btConst none
    if ch.hasFeature gsCanFeatureFd && ch.hasFeature gsCanFeatureBtConstExt then do
      Traced.make [.request gsUsbBreqBtConstExt (UInt16.ofNat i)]
      match usb.ctrlIn gsUsbBreqBtConstExt (UInt16.ofNat i) 0 gsDeviceBtConstExtSize with
      | .error rc =>
        .fail (failFreeChannels channelCount qBuf)
          ("BT_CONST_EXT request failed for channel " ++ toString i ++ ": " ++ gsusbStrerror rc)
      | .ok ext =>
        usb.addQueue pthread channelCount i qBuf (.ofBtConst i btConst
          (some (parseBtConstExtDataPhase ext btConst.feature btConst.fclkCan)))
    else usb.addQueue pthread channelCount i qBuf ch

/-- The probing loop, which also keeps track of the `q_buf` pointers; `calloc` left them null. -/
def probeChannelsTraced (channelCount : ℕ) :
    (count : ℕ) → Opening ((Vector Channel count × ℕ) × (ℕ → Bool))
  | 0 => return ((.ofFn Fin.elim0, 0), fun _ => false)
  | k + 1 => do
    let ((channels, size), qBuf) ← probeChannelsTraced channelCount k
    let ch ← usb.probeChannelTraced pthread channelCount k qBuf
    return ((channels.push ch, if ch.maxFrameSize > size then ch.maxFrameSize else size),
      Function.update qBuf k true)

/-- The number of channels is an `unsigned int`. -/
theorem channelCount_lt (raw : Bytes) : (byteAt raw 3 + 1).toNat < 2 ^ 32 :=
  (byteAt raw 3 + 1).toNat_lt.trans (by decide)

/-- `gsusb_open` from the first request to the device on. -/
def probeTraced : Opening ((n : ℕ) × Dev n) := do
  let rc := ctrlResult (usb.controlOut gsUsbBreqHostFormat 1 0 (gsPutLe32 0x0000beef)) 4
  Traced.make [.request gsUsbBreqHostFormat 1]
  if rc ≠ 0 then .fail failFreeDev ("HOST_FORMAT request failed: " ++ gsusbStrerror rc)
  else do
    Traced.make [.request gsUsbBreqDeviceConfig 1]
    match usb.ctrlIn gsUsbBreqDeviceConfig 1 0 gsDeviceConfigSize with
    | .error rc => .fail failFreeDev ("DEVICE_CONFIG request failed: " ++ gsusbStrerror rc)
    | .ok raw => do
      let channelCount := byteAt raw 3 + 1
      Traced.make [.use .dev, .acquire .channels usb.callocChannels]
      if !usb.callocChannels then .fail failFreeDev "out of memory"
      else do
        let ((channels, size), _) ←
          usb.probeChannelsTraced pthread channelCount.toNat channelCount.toNat
        Traced.make [.acquire .startLock pthread.startLock]
        return ⟨channelCount.toNat, .ofChannels ⟨wordAt raw 4, wordAt raw 8, channelCount⟩ channels
          (channelCount_lt raw) size⟩

/-- `gsusb_open` with its calls. -/
def gsusbOpenTraced (vid pid : UInt16) (bus addr : ℤ) : Opening ((n : ℕ) × Dev n) := do
  usb.connectTraced vid pid bus addr
  usb.probeTraced pthread

theorem result_connectTraced (vid pid : UInt16) (bus addr : ℤ) :
    (usb.connectTraced vid pid bus addr).result = usb.connect vid pid bus addr := by
  rw [connectTraced, connect]
  rcases usb.deviceList with rc | list
  · rfl
  rcases hfind : list.find? (·.isMatch vid pid bus addr) with _ | device
  · simp only [hfind]
    rfl
  by_cases hopen : usb.openDevice device = 0
  swap
  · simp only [hfind, Traced.make_bind, ne_eq, hopen, not_false_eq_true, if_true]
    rfl
  by_cases hclaim : usb.claimInterface = 0
  swap
  · simp [hfind, hopen, hclaim]
    rfl
  rcases usb.activeConfig with rc | config
  · simp [hfind, hopen, hclaim]
    rfl
  by_cases hep : (findEndpoints config).1 = 0 ∨ (findEndpoints config).2 = 0
  · simp [hfind, hopen, hclaim, hep]
    rfl
  · rcases usb.callocDev with _ | _
    · simp [hfind, hopen, hclaim, hep]
      rfl
    · simp [hfind, hopen, hclaim, hep]
      rfl

theorem result_addQueue (channelCount i : ℕ) (qBuf : ℕ → Bool) (ch : Channel) :
    (usb.addQueue pthread channelCount i qBuf ch).result =
      if usb.callocQueue i then .ok ch else .error "out of memory (rx queue)" := by
  rw [addQueue, Traced.make_bind]
  split <;> rfl

theorem result_probeChannelTraced (channelCount i : ℕ) (qBuf : ℕ → Bool) :
    (usb.probeChannelTraced pthread channelCount i qBuf).result = usb.probeChannel i := by
  rw [probeChannelTraced, probeChannel, Traced.make_bind]
  rcases usb.ctrlIn gsUsbBreqBtConst (UInt16.ofNat i) 0 gsDeviceBtConstSize with rc | raw
  · rfl
  dsimp only
  by_cases hext : (Channel.ofBtConst i (parseBtConst raw) none).hasFeature gsCanFeatureFd &&
      (Channel.ofBtConst i (parseBtConst raw) none).hasFeature gsCanFeatureBtConstExt
  · rw [if_pos hext, if_pos hext, Traced.make_bind]
    rcases usb.ctrlIn gsUsbBreqBtConstExt (UInt16.ofNat i) 0 gsDeviceBtConstExtSize with rc | ext
    · rfl
    · exact usb.result_addQueue pthread channelCount i qBuf _
  · rw [if_neg hext, if_neg hext]
    exact usb.result_addQueue pthread channelCount i qBuf _

theorem update_decide_lt (k : ℕ) :
    Function.update (fun i => decide (i < k)) k true = fun i => decide (i < k + 1) := by
  funext i
  by_cases hi : i = k
  · simp [hi]
  · have hlt : i < k ↔ i < k + 1 := by omega
    rw [Function.update_of_ne hi]
    exact decide_eq_decide.mpr hlt

/-- The loop finds out the same, and at its end every `q_buf` is set. -/
theorem result_probeChannelsTraced (channelCount count : ℕ) :
    (usb.probeChannelsTraced pthread channelCount count).result =
      (usb.probeChannels count).map fun found => (found, fun i => decide (i < count)) := by
  induction count with
  | zero =>
      simp only [probeChannelsTraced, probeChannels, Nat.not_lt_zero, decide_false]
      rfl
  | succ k ih =>
      rw [probeChannelsTraced, Traced.result_bind, ih, probeChannels]
      rcases usb.probeChannels k with e | ⟨channels, size⟩
      · rfl
      simp only [bind, Except.bind, Except.map]
      have hpass := usb.result_probeChannelTraced pthread channelCount k fun i => decide (i < k)
      rcases hch : usb.probeChannel k with e | ch
      · rw [hch] at hpass
        rw [hpass]
      · rw [hch] at hpass
        rw [hpass, update_decide_lt]
        rfl

/-- **The same results.** What `gsusb_open` returns does not depend on its trace. -/
theorem result_gsusbOpenTraced (vid pid : UInt16) (bus addr : ℤ) :
    (usb.gsusbOpenTraced pthread vid pid bus addr).result = usb.gsusbOpen vid pid bus addr := by
  rw [gsusbOpenTraced, Traced.result_bind, result_connectTraced, gsusbOpen]
  congr 1
  funext _
  rw [probeTraced, probe, Traced.make_bind]
  by_cases hrc :
      ctrlResult (usb.controlOut gsUsbBreqHostFormat 1 0 (gsPutLe32 0x0000beef)) 4 = 0
  swap
  · simp only [ne_eq, hrc, not_false_eq_true, if_true]
    rfl
  rcases usb.ctrlIn gsUsbBreqDeviceConfig 1 0 gsDeviceConfigSize with rc | raw
  · simp only [ne_eq, hrc, not_true_eq_false, if_false]
    rfl
  rcases hcalloc : usb.callocChannels with _ | _
  · simp only [ne_eq, hrc, not_true_eq_false, if_false]
    rfl
  simp only [ne_eq, hrc, not_true_eq_false, if_false, Traced.make_bind, Bool.not_true,
    Bool.false_eq_true, Traced.result_bind, result_probeChannelsTraced]
  rcases usb.probeChannels (byteAt raw 3 + 1).toNat with e | ⟨channels, size⟩
  · rfl
  · rfl

end Libusb

/-- One pass of the loop of `gsusb_close`. -/
def Dev.closeChannel {n : ℕ} (dev : Dev n) (i : Fin n) : List LibCall :=
  .use .dev :: .use .channels ::
    (if (dev.channel i).started
      then [.request gsUsbBreqMode (UInt16.ofNat (dev.channel i).index)] else []) ++ rxqDestroy i

/-- `gsusb_close`.  The reader that it joins has the device until it ends. -/
def Dev.gsusbCloseCalls {n : ℕ} (dev : Dev n) : List LibCall :=
  [.use .dev, .use .startLock] ++
    (if dev.readerRunning
      then [.use .dev, .use .handle, .use .channels, .use .startLock] else []) ++
    (List.finRange n).flatMap dev.closeChannel ++
    [.use .dev, .release .startLock, .use .dev, .release .channels, .use .dev, .release .claim,
      .use .dev, .release .handle, .release .dev]

/-- A request to the device. -/
def LibCall.isRequest : LibCall → Bool
  | .request _ _ => true
  | .acquire _ _ | .use _ | .release _ => false

/-- **The same requests.** `gsusb_close` makes the RESETs that it leaves in the log. -/
theorem requests_gsusbCloseCalls {n : ℕ} (host : Host n) (rc : Fin n → ℤ) :
    host.dev.gsusbCloseCalls.filter LibCall.isRequest =
      ((host.gsusbClose rc).modes.drop host.world.modes.length).map fun sent =>
        .request gsUsbBreqMode sent.1.wValue := by
  have hpass (i : Fin n) : (host.dev.closeChannel i).filter LibCall.isRequest =
      if (host.dev.channel i).started
      then [.request gsUsbBreqMode (UInt16.ofNat (host.dev.channel i).index)] else [] := by
    rw [Dev.closeChannel]
    split <;> rfl
  have hloop (l : List (Fin n)) :
      l.flatMap (fun i => (host.dev.closeChannel i).filter LibCall.isRequest) =
        (l.filter fun i => (host.dev.channel i).started).map fun i =>
          .request gsUsbBreqMode (UInt16.ofNat (host.dev.channel i).index) := by
    induction l with
    | nil => rfl
    | cons i l ih =>
        rw [List.flatMap_cons, ih, hpass]
        by_cases hstarted : (host.dev.channel i).started = true
        · simp [hstarted]
        · simp [hstarted]
  have hreader (b : Bool) : (if b then [LibCall.use .dev, .use .handle, .use .channels,
      .use .startLock] else []).filter LibCall.isRequest = [] := by
    cases b <;> rfl
  rw [Host.gsusbClose_eq, List.drop_left, List.map_map, Dev.gsusbCloseCalls, List.filter_append,
    List.filter_append, List.filter_append, hreader, List.filter_flatMap, hloop]
  simp only [LibCall.isRequest, List.filter_cons, List.filter_nil, Bool.false_eq_true, if_false,
    List.nil_append, List.append_nil]
  rfl

end GsUsb.Driver
