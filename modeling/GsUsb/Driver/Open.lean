/-
# Opening a device

`gsusb_open`: finding and claiming the adapter, asking it for its configuration and for
the constants of each channel, and sizing the receive buffer.  What libusb and the
allocator answer is a parameter.  At the end stands what the sizing is for: no packet of
a started channel is too long for the buffer or too short for the decoder.
-/

import GsUsb.Driver.Lifecycle
import GsUsb.Driver.RxPacket

namespace GsUsb.Driver

open GsUsb.Math

/-- An endpoint descriptor. -/
structure UsbEndpoint where
  bmAttributes : UInt8
  bEndpointAddress : UInt8

/-- The first alternate setting of an interface. -/
structure UsbInterface where
  bInterfaceNumber : UInt8
  endpoints : List UsbEndpoint

/-- A device of the bus; its descriptor may not be readable. -/
structure UsbDevice where
  descriptor : Option (UInt16 × UInt16)
  busNumber : UInt8
  deviceAddress : UInt8

/-- What libusb and `calloc` answer during one call of `gsusb_open`. -/
structure Libusb where
  strerror : ℤ → String
  deviceList : Except ℤ (List UsbDevice)
  openDevice : UsbDevice → ℤ
  claimInterface : ℤ
  activeConfig : Except ℤ (List UsbInterface)
  callocDev : Bool
  callocChannels : Bool
  callocQueue : ℕ → Bool
  /-- Request, `wValue`, `wIndex` and data of an OUT transfer. -/
  controlOut : UInt8 → UInt16 → UInt16 → Bytes → ℤ
  /-- Request, `wValue`, `wIndex` and length of an IN transfer. -/
  controlIn : UInt8 → UInt16 → UInt16 → ℕ → ℤ × Bytes

-- `enum gs_usb_breq`, the requests of `gsusb_open`
def gsUsbBreqHostFormat : UInt8 := 0
def gsUsbBreqBtConst : UInt8 := 4
def gsUsbBreqDeviceConfig : UInt8 := 5
def gsUsbBreqBtConstExt : UInt8 := 11

/-- `gsusb_strerror`. -/
def gsusbStrerror (err : ℤ) : String :=
  if err = gsusbOk then "success"
  else if err = gsusbErrIo then "I/O error"
  else if err = gsusbErrNomem then "out of memory"
  else if err = gsusbErrNotFound then "device not found"
  else if err = gsusbErrAccess then "permission denied (see udev/99-gsusb.rules, or run as root)"
  else if err = gsusbErrTimeout then "operation timed out"
  else if err = gsusbErrInvalid then "invalid argument"
  else if err = gsusbErrBusy then "device or channel busy"
  else if err = gsusbErrNoBittimingSolution then "no bit-timing solution for requested bitrate"
  else "unknown error"

/-- `%04x`. -/
def hex4 (v : UInt16) : String :=
  let digits := Nat.toDigits 16 v.toNat
  String.ofList (List.replicate (4 - digits.length) '0' ++ digits)

/-- The test `gsusb_open` makes on each device of the bus; a negative `bus` or `addr`
matches any. -/
def UsbDevice.isMatch (device : UsbDevice) (vid pid : UInt16) (bus addr : ℤ) : Bool :=
  device.descriptor = some (vid, pid) &&
    (bus < 0 || device.busNumber = UInt8.ofNat (bus % 256).toNat) &&
    (addr < 0 || device.deviceAddress = UInt8.ofNat (addr % 256).toNat)

/-- One endpoint in the search for the first bulk IN and the first bulk OUT endpoint. -/
def scanEndpoint (found : UInt8 × UInt8) (ep : UsbEndpoint) : UInt8 × UInt8 :=
  if ep.bmAttributes &&& 0x03 ≠ 0x02 then found
  else if ep.bEndpointAddress &&& 0x80 = 0x80 then
    (if found.1 = 0 then ep.bEndpointAddress else found.1, found.2)
  else (found.1, if found.2 = 0 then ep.bEndpointAddress else found.2)

/-- The endpoints of interface 0; the search ends once both are found. -/
def findEndpoints (config : List UsbInterface) : UInt8 × UInt8 :=
  config.foldl (fun found intf =>
    if found.1 ≠ 0 ∧ found.2 ≠ 0 then found
    else if intf.bInterfaceNumber ≠ 0 then found
    else intf.endpoints.foldl scanEndpoint found) (0, 0)

namespace Libusb

variable (usb : Libusb)

/-- `gsusb_open` up to the first request to the device. -/
def connect (vid pid : UInt16) (bus addr : ℤ) : Except String Unit := do
  match usb.deviceList with
  | .error rc => throw ("libusb_get_device_list failed: " ++ usb.strerror rc)
  | .ok list =>
    match list.find? (·.isMatch vid pid bus addr) with
    | none => throw ("no device matching " ++ hex4 vid ++ ":" ++ hex4 pid ++ " found")
    | some device =>
      if usb.openDevice device ≠ 0 then
        throw ("libusb_open failed: " ++ usb.strerror (usb.openDevice device))
      if usb.claimInterface ≠ 0 then
        throw ("libusb_claim_interface failed: " ++ usb.strerror usb.claimInterface ++
          " (device busy or insufficient permissions)")
      match usb.activeConfig with
      | .error rc => throw ("libusb_get_active_config_descriptor failed: " ++ usb.strerror rc)
      | .ok config =>
        if (findEndpoints config).1 = 0 ∨ (findEndpoints config).2 = 0 then
          throw "required bulk IN/OUT endpoints not found"
        if !usb.callocDev then
          throw "out of memory"

/-- `ctrl_in`: the error, or the bytes the device sent. -/
def ctrlIn (breq : UInt8) (wValue wIndex : UInt16) (len : ℕ) : Except ℤ Bytes :=
  let (rc, data) := usb.controlIn breq wValue wIndex len
  if ctrlResult rc len ≠ 0 then .error (ctrlResult rc len) else .ok data

end Libusb

/-- `parse_bt_const`. -/
def parseBtConst (p : Bytes) : GsusbBittimingConst where
  feature := wordAt p 0
  fclkCan := wordAt p 4
  tseg1Min := wordAt p 8
  tseg1Max := wordAt p 12
  tseg2Min := wordAt p 16
  tseg2Max := wordAt p 20
  sjwMax := wordAt p 24
  brpMin := wordAt p 28
  brpMax := wordAt p 32
  brpInc := wordAt p 36

/-- `parse_bt_const_ext_data_phase`. -/
def parseBtConstExtDataPhase (p : Bytes) (feature fclkCan : UInt32) : GsusbBittimingConst where
  feature := feature
  fclkCan := fclkCan
  tseg1Min := wordAt p 40
  tseg1Max := wordAt p 44
  tseg2Min := wordAt p 48
  tseg2Max := wordAt p 52
  sjwMax := wordAt p 56
  brpMin := wordAt p 60
  brpMax := wordAt p 64
  brpInc := wordAt p 68

/-- The worst packet of a channel, for which `gsusb_open` sizes the receive buffer. -/
def Channel.maxFrameSize (ch : Channel) : ℕ :=
  gsFrameSize (if ch.hasFeature gsCanFeatureFd then gsFdDlen else gsClassicDlen)
    (ch.hasFeature gsCanFeatureHwTimestamp)

namespace Libusb

variable (usb : Libusb)

/-- One pass of the probing loop of `gsusb_open`. -/
def probeChannel (i : ℕ) : Except String Channel :=
  match usb.ctrlIn gsUsbBreqBtConst (UInt16.ofNat i) 0 gsDeviceBtConstSize with
  | .error rc => throw ("BT_CONST request failed for channel " ++ toString i ++ ": " ++
      gsusbStrerror rc)
  | .ok raw =>
    let btConst := parseBtConst raw
    let ch := Channel.ofBtConst i btConst none
    if ch.hasFeature gsCanFeatureFd && ch.hasFeature gsCanFeatureBtConstExt then
      match usb.ctrlIn gsUsbBreqBtConstExt (UInt16.ofNat i) 0 gsDeviceBtConstExtSize with
      | .error rc => throw ("BT_CONST_EXT request failed for channel " ++ toString i ++ ": " ++
          gsusbStrerror rc)
      | .ok ext =>
        if usb.callocQueue i then
          .ok (.ofBtConst i btConst
            (some (parseBtConstExtDataPhase ext btConst.feature btConst.fclkCan)))
        else throw "out of memory (rx queue)"
    else if usb.callocQueue i then .ok ch
    else throw "out of memory (rx queue)"

/-- The probing loop: the first channels, and the largest packet of any of them. -/
def probeChannels : (count : ℕ) → Except String (Vector Channel count × ℕ)
  | 0 => .ok (#v[], 0)
  | k + 1 => do
    let (channels, size) ← probeChannels k
    let ch ← usb.probeChannel k
    return (channels.push ch, if ch.maxFrameSize > size then ch.maxFrameSize else size)

/-- `gsusb_open` from the first request to the device on. -/
def probe : Except String ((n : ℕ) × Dev n) := do
  let rc := ctrlResult (usb.controlOut gsUsbBreqHostFormat 1 0 (gsPutLe32 0x0000beef)) 4
  if rc ≠ 0 then
    throw ("HOST_FORMAT request failed: " ++ gsusbStrerror rc)
  match usb.ctrlIn gsUsbBreqDeviceConfig 1 0 gsDeviceConfigSize with
  | .error rc => throw ("DEVICE_CONFIG request failed: " ++ gsusbStrerror rc)
  | .ok raw =>
    -- the device reports the index of its last channel
    let channelCount := byteAt raw 3 + 1
    if !usb.callocChannels then
      throw "out of memory"
    let (channels, size) ← usb.probeChannels channelCount.toNat
    return ⟨channelCount.toNat, .ofChannels ⟨wordAt raw 4, wordAt raw 8, channelCount⟩ channels
      (channelCount.toNat_lt.trans (by decide)) size⟩

/-- `gsusb_open`: the message in `errbuf`, or the device. -/
def gsusbOpen (vid pid : UInt16) (bus addr : ℤ) : Except String ((n : ℕ) × Dev n) := do
  usb.connect vid pid bus addr
  usb.probe

/-! ## What opening establishes -/

variable {usb}

/-- A probed channel is a fresh one at its index. -/
theorem probeChannel_eq_ok {i : ℕ} {ch : Channel} (hprobe : usb.probeChannel i = .ok ch) :
    ∃ btConst dataBtConst, ch = .ofBtConst i btConst dataBtConst := by
  rw [probeChannel] at hprobe
  split at hprobe
  · cases hprobe
  · dsimp only at hprobe
    split at hprobe
    · split at hprobe
      · cases hprobe
      · split at hprobe
        · cases hprobe
          exact ⟨_, _, rfl⟩
        · cases hprobe
    · split at hprobe
      · cases hprobe
        exact ⟨_, _, rfl⟩
      · cases hprobe

/-- The probing loop numbers the channels, starts none, and its size holds the largest
packet of each. -/
theorem probeChannels_eq_ok {count : ℕ} {channels : Vector Channel count} {size : ℕ}
    (hprobe : usb.probeChannels count = .ok (channels, size)) {k : ℕ} (hk : k < count) :
    channels[k].index = k ∧ channels[k].started = false ∧ channels[k].maxFrameSize ≤ size := by
  induction count generalizing size with
  | zero => exact absurd hk (Nat.not_lt_zero k)
  | succ m ih =>
      rw [probeChannels] at hprobe
      rcases hprevious : usb.probeChannels m with _ | ⟨channels', size'⟩
      · rw [hprevious] at hprobe
        cases hprobe
      rw [hprevious] at hprobe
      rcases hlast : usb.probeChannel m with _ | ch
      · simp [hlast, bind, Except.bind] at hprobe
      simp only [hlast, bind, Except.bind, pure, Except.pure, Except.ok.injEq,
        Prod.mk.injEq] at hprobe
      obtain ⟨rfl, rfl⟩ := hprobe
      by_cases hkm : k < m
      · obtain ⟨hindex, hstopped, hsize⟩ := ih hprevious hkm
        rw [Vector.getElem_push_lt hkm]
        exact ⟨hindex, hstopped, hsize.trans (by split <;> omega)⟩
      · obtain rfl : k = m := by omega
        obtain ⟨btConst, dataBtConst, rfl⟩ := probeChannel_eq_ok hlast
        rw [Vector.getElem_push_eq]
        exact ⟨rfl, rfl, by split <;> omega⟩

/-- **What `gsusb_open` returns.** A device with at most 255 channels, numbered and
stopped, no reader, and a receive buffer for the largest packet of any channel. -/
theorem opened_of_gsusbOpen {vid pid : UInt16} {bus addr : ℤ} {n : ℕ} {dev : Dev n}
    (hopen : usb.gsusbOpen vid pid bus addr = .ok ⟨n, dev⟩) : dev.Opened := by
  rcases hconnect : usb.connect vid pid bus addr with _ | _
  · simp [gsusbOpen, hconnect, bind, Except.bind] at hopen
  simp only [gsusbOpen, hconnect, bind, Except.bind, probe] at hopen
  split at hopen
  · cases hopen
  split at hopen
  · cases hopen
  rename_i raw hraw
  split at hopen
  · cases hopen
  rcases hchannels : usb.probeChannels (byteAt raw 3 + 1).toNat with _ | ⟨channels, size⟩
  · simp [hchannels] at hopen
  simp only [hchannels, pure, Except.pure, Except.ok.injEq, Sigma.mk.injEq] at hopen
  obtain ⟨rfl, hdev⟩ := hopen
  cases hdev
  refine ⟨⟨?_, ?_, ?_⟩, ?_, rfl, rfl, rfl⟩
  · have hlt := (byteAt raw 3 + 1).toNat_lt
    omega
  · exact fun i => (probeChannels_eq_ok hchannels i.isLt).1
  · exact fun i => (probeChannels_eq_ok hchannels i.isLt).2.2
  · exact fun i => (probeChannels_eq_ok hchannels i.isLt).2.1

/-- The channels of the probing loop are set up from constants that were read. -/
theorem exists_ofBtConst_of_probeChannels {count : ℕ} {channels : Vector Channel count} {size : ℕ}
    (hprobe : usb.probeChannels count = .ok (channels, size)) {k : ℕ} (hk : k < count) :
    ∃ btConst dataBtConst, channels[k] = .ofBtConst k btConst dataBtConst := by
  induction count generalizing size with
  | zero => exact absurd hk (Nat.not_lt_zero k)
  | succ m ih =>
      rw [probeChannels] at hprobe
      rcases hprevious : usb.probeChannels m with _ | ⟨channels', size'⟩
      · rw [hprevious] at hprobe
        cases hprobe
      rw [hprevious] at hprobe
      rcases hlast : usb.probeChannel m with _ | ch
      · simp [hlast, bind, Except.bind] at hprobe
      simp only [hlast, bind, Except.bind, pure, Except.pure, Except.ok.injEq,
        Prod.mk.injEq] at hprobe
      obtain ⟨rfl, rfl⟩ := hprobe
      by_cases hkm : k < m
      · rw [Vector.getElem_push_lt hkm]
        exact ih hprevious hkm
      · obtain rfl : k = m := by omega
        rw [Vector.getElem_push_eq]
        exact probeChannel_eq_ok hlast

/-- The channels of the device that `gsusb_open` returns. -/
theorem exists_ofBtConst_of_gsusbOpen {vid pid : UInt16} {bus addr : ℤ} {n : ℕ} {dev : Dev n}
    (hopen : usb.gsusbOpen vid pid bus addr = .ok ⟨n, dev⟩) (i : Fin n) :
    ∃ btConst dataBtConst, dev.channel i = .ofBtConst i btConst dataBtConst := by
  rcases hconnect : usb.connect vid pid bus addr with _ | _
  · simp [gsusbOpen, hconnect, bind, Except.bind] at hopen
  simp only [gsusbOpen, hconnect, bind, Except.bind, probe] at hopen
  split at hopen
  · cases hopen
  split at hopen
  · cases hopen
  rename_i raw hraw
  split at hopen
  · cases hopen
  rcases hchannels : usb.probeChannels (byteAt raw 3 + 1).toNat with _ | ⟨channels, size⟩
  · simp [hchannels] at hopen
  simp only [hchannels, pure, Except.pure, Except.ok.injEq, Sigma.mk.injEq] at hopen
  obtain ⟨rfl, hdev⟩ := hopen
  cases hdev
  exact exists_ofBtConst_of_probeChannels hchannels i.isLt

end Libusb

/-- The HW_TIMESTAMP bit of a MODE request. -/
def ModeRequest.hwTimestamp (request : ModeRequest) : Bool :=
  request.flags &&& gsCanModeHwTimestamp ≠ 0

/-- A START asks for timestamps exactly when the channel has them. -/
theorem hwTimestamp_startRequest (ch : Channel) (modeFlags : UInt32) :
    (startRequest ch modeFlags).hwTimestamp = ch.hasFeature gsCanFeatureHwTimestamp := by
  have hall : ∀ listenOnly loopBack tripleSample oneShot berrReporting fd hwTs : Bool,
      decide ((((if listenOnly then gsCanModeListenOnly else 0) |||
        (if loopBack then gsCanModeLoopBack else 0) |||
        (if tripleSample then gsCanModeTripleSample else 0) |||
        (if oneShot then gsCanModeOneShot else 0) |||
        (if berrReporting then gsCanModeBerrReporting else 0) |||
        (if fd then gsCanModeFd else 0) |||
        (if hwTs then gsCanModeHwTimestamp else 0)) &&& gsCanModeHwTimestamp) ≠ 0) = hwTs := by
    decide
  have hflags := hall (modeFlags &&& gsusbModeListenOnly ≠ 0)
    (modeFlags &&& gsusbModeLoopback ≠ 0) (modeFlags &&& gsusbModeTripleSample ≠ 0)
    (modeFlags &&& gsusbModeOneShot ≠ 0) (modeFlags &&& gsusbModeBerrReporting ≠ 0)
    (modeFlags &&& gsusbModeFd ≠ 0) (ch.hasFeature gsCanFeatureHwTimestamp)
  simp only [decide_eq_true_eq] at hflags
  exact hflags

/-- The START requests for channel `i` in a log. -/
def startsOf (modes : List (ModeRequest × ℤ)) (i : ℕ) : List ModeRequest :=
  (modes.map Prod.fst).filter fun request =>
    request.wValue = UInt16.ofNat i ∧ request.mode = gsCanModeStart

namespace Host

variable {n : ℕ}

/-- Host and device agree on timestamps: a started channel uses them exactly when it has
them, and so did every START it was sent. -/
structure Timestamped (host : Host n) : Prop where
  enabled : ∀ i, (host.dev.channel i).started = true →
    (host.dev.channel i).hwTsEnabled = (host.dev.channel i).hasFeature gsCanFeatureHwTimestamp
  started : ∀ i, (host.dev.channel i).started = true → startsOf host.world.modes i ≠ []
  requested : ∀ (i : Fin n), ∀ request ∈ startsOf host.world.modes i,
    request.hwTimestamp = (host.dev.channel i).hasFeature gsCanFeatureHwTimestamp

namespace Timestamped

variable {host host' : Host n}

/-- What it takes to keep the agreement: new requests are RESETs or right STARTs, and a
channel that is newly started was sent one. -/
theorem of_step (h : host.Timestamped) (hsetup : host.dev.SameSetup host'.dev)
    {new : List (ModeRequest × ℤ)} (hmodes : host'.world.modes = host.world.modes ++ new)
    (hnew : ∀ i : Fin n, ∀ request ∈ startsOf new i,
      request.hwTimestamp = (host.dev.channel i).hasFeature gsCanFeatureHwTimestamp)
    (hstarted : ∀ i, (host'.dev.channel i).started = true →
      (host'.dev.channel i).hwTsEnabled =
          (host'.dev.channel i).hasFeature gsCanFeatureHwTimestamp ∧
        ((host.dev.channel i).started = true ∨ startsOf new i ≠ [])) :
    host'.Timestamped := by
  have happend (i : ℕ) : startsOf host'.world.modes i =
      startsOf host.world.modes i ++ startsOf new i := by
    rw [hmodes, startsOf, List.map_append, List.filter_append]
    rfl
  refine ⟨fun i hi => (hstarted i hi).1, ?_, ?_⟩
  · intro i hi hnil
    rw [happend, List.append_eq_nil_iff] at hnil
    rcases (hstarted i hi).2 with hold | hsent
    · exact h.started i hold hnil.1
    · exact hsent hnil.2
  · intro i request hrequest
    rw [hsetup.hasFeature_eq]
    rw [happend, List.mem_append] at hrequest
    rcases hrequest with hold | hsent
    · exact h.requested i request hold
    · exact hnew i request hsent

theorem startsOf_resetRequest (ch : Channel) (rc : ℤ) (i : ℕ) :
    startsOf [(resetRequest ch, rc)] i = [] := by
  simp [startsOf, resetRequest, gsCanModeReset, gsCanModeStart]

/-- A START is a START of its own channel. -/
theorem startsOf_startRequest {dev : Dev n} (hprobed : dev.Probed) (i j : Fin n)
    (modeFlags : UInt32) (rc : ℤ) :
    startsOf [(startRequest (dev.channel i) modeFlags, rc)] j =
      if i = j then [startRequest (dev.channel i) modeFlags] else [] := by
  have hwValue : (startRequest (dev.channel i) modeFlags).wValue = UInt16.ofNat j ↔ i = j :=
    hprobed.wValue_eq_iff
  by_cases h : i = j
  · simp [startsOf, h, startRequest, hprobed.index_eq]
  · simp [startsOf, mt hwValue.mp h, h]

/-- Every exit of `gsusb_channel_start` keeps the agreement. -/
theorem gsusbChannelStart (h : host.Timestamped) (hprobed : host.dev.Probed) (i : Fin n)
    (modeFlags : UInt32) (rc : ℤ) (thread : PthreadCreate) :
    (host.gsusbChannelStart i modeFlags rc thread).2.Timestamped := by
  by_cases hcheck : startCheck host.dev i modeFlags = 0
  · have hsetup := host.sameSetup_gsusbChannelStart i modeFlags rc thread
    have hnew : ∀ j : Fin n,
        ∀ request ∈ startsOf [(startRequest (host.dev.channel i) modeFlags, rc)] j,
          request.hwTimestamp = (host.dev.channel j).hasFeature gsCanFeatureHwTimestamp := by
      intro j request hrequest
      rw [startsOf_startRequest hprobed] at hrequest
      split at hrequest
      · rename_i hij
        rw [List.mem_singleton.mp hrequest, ← hij]
        exact hwTimestamp_startRequest _ modeFlags
      · cases hrequest
    have hmarked : ∀ j, ((host.dev.markStarted i).channel j).started = true →
        ((host.dev.markStarted i).channel j).hwTsEnabled =
            ((host.dev.markStarted i).channel j).hasFeature gsCanFeatureHwTimestamp ∧
          ((host.dev.channel j).started = true ∨
            startsOf [(startRequest (host.dev.channel i) modeFlags, rc)] j ≠ []) := by
      intro j hj
      rw [startsOf_startRequest hprobed]
      rw [Dev.channel_markStarted] at hj ⊢
      by_cases hij : i = j
      · rw [if_pos hij, if_pos hij]
        exact ⟨rfl, .inr (List.cons_ne_nil _ _)⟩
      · rw [if_neg hij] at hj ⊢
        exact ⟨h.enabled j hj, .inl hj⟩
    rcases gsusbChannelStart_cases hcheck rc thread with
      ⟨-, heq⟩ | ⟨-, -, heq⟩ | ⟨-, -, handle, -, heq⟩ | ⟨-, -, -, heq⟩
    · rw [heq] at hsetup ⊢
      exact h.of_step hsetup rfl hnew fun j hj => ⟨h.enabled j hj, .inl hj⟩
    · rw [heq] at hsetup ⊢
      exact h.of_step hsetup rfl hnew hmarked
    · rw [heq] at hsetup ⊢
      apply h.of_step hsetup rfl hnew
      intro j hj
      replace hj : (((host.dev.markStarted i).markStopped i).channel j).started = true := hj
      rw [Dev.started_markStopped] at hj
      have hij : i ≠ j := by
        rintro rfl
        simp at hj
      have hchannel : ((host.dev.markStarted i).markStopped i).channel j = host.dev.channel j := by
        rw [Dev.channel_markStopped, if_neg hij, Dev.channel_markStarted, if_neg hij]
      have hold : (host.dev.channel j).started = true := by
        rw [← hchannel, Dev.started_markStopped]
        exact hj
      refine ⟨?_, .inl hold⟩
      show (((host.dev.markStarted i).markStopped i).channel j).hwTsEnabled =
        (((host.dev.markStarted i).markStopped i).channel j).hasFeature gsCanFeatureHwTimestamp
      rw [hchannel]
      exact h.enabled j hold
    · rw [heq] at hsetup ⊢
      exact h.of_step hsetup rfl hnew hmarked
  · rw [gsusbChannelStart_of_check hcheck]
    exact h

/-- So does `gsusb_channel_stop`. -/
theorem gsusbChannelStop (h : host.Timestamped) (hcounts : host.dev.CountsStarted) (i : Fin n)
    (rc : ℤ) : (host.gsusbChannelStop i rc).2.Timestamped := by
  refine h.of_step (sameSetup_gsusbChannelStop hcounts i rc)
    (modes_gsusbChannelStop hcounts i rc) ?_ ?_
  · intro j request hrequest
    split at hrequest
    · rw [startsOf_resetRequest] at hrequest
      cases hrequest
    · cases hrequest
  · intro j hj
    rw [channel_gsusbChannelStop hcounts] at hj ⊢
    by_cases hij : i = j
    · rw [if_pos hij] at hj
      cases hj
    · rw [if_neg hij] at hj ⊢
      exact ⟨h.enabled j hj, .inl hj⟩

/-- Between calls on an opened device the two agree. -/
theorem calls {dev : Dev n} (hopened : dev.Opened) (cs : List (Call n)) :
    ((Host.init dev).calls cs).Timestamped := by
  have hinit : (Host.init dev).Timestamped := by
    refine ⟨?_, ?_, nofun⟩
    · intro i hi
      cases (hopened.stopped i).symm.trans hi
    · intro i hi
      cases (hopened.stopped i).symm.trans hi
  suffices hrun : ∀ (host : Host n), host.Steady → host.dev.Probed → host.Timestamped →
      (host.calls cs).Timestamped from
    hrun _ (Steady.init hopened) hopened.toProbed hinit
  induction cs with
  | nil => exact fun _ _ _ h => h
  | cons c cs ih =>
      intro host hsteady hprobed h
      cases c with
      | start i modeFlags rc thread =>
          exact ih _ (hsteady.gsusbChannelStart i modeFlags rc thread)
            ((host.sameSetup_gsusbChannelStart i modeFlags rc thread).probed hprobed)
            (h.gsusbChannelStart hprobed i modeFlags rc thread)
      | stop i rc =>
          exact ih _ (hsteady.gsusbChannelStop i rc)
            ((sameSetup_gsusbChannelStop hsteady.counts i rc).probed hprobed)
            (h.gsusbChannelStop hsteady.counts i rc)

end Timestamped

end Host

/-- A full packet of the device: header, payload, and the time if there is one. -/
def fullPacket (canId : UInt32) (canDlc channel flags reserved : UInt8) (payload : Bytes)
    (timestamp : Option UInt32) : Bytes :=
  gsPutLe32 gsHostFrameEchoIdRx ++ gsPutLe32 canId ++ [canDlc, channel, flags, reserved] ++
    payload ++ (timestamp.map gsPutLe32).getD []

section FullPacket

variable {canId : UInt32} {canDlc channel flags reserved : UInt8} {payload : Bytes}
  {timestamp : Option UInt32}

theorem length_fullPacket :
    (fullPacket canId canDlc channel flags reserved payload timestamp).length =
      gsFrameSize payload.length timestamp.isSome := by
  cases timestamp with
  | none =>
      simp [fullPacket, gsFrameSize, gsHostFrameHdrSize]
      omega
  | some t =>
      simp [fullPacket, gsFrameSize, gsHostFrameHdrSize, gsHostFrameTsSize]
      omega

/-- A full packet is accepted whenever its channel expects a time exactly if it has
one. -/
theorem rxAccepts_fullPacket {n : ℕ} {dev : Dev n} {i : Fin n} (hchannel : channel.toNat = i)
    (hpayload : payload.length = if flags &&& gsCanFlagFd ≠ 0 then gsFdDlen else gsClassicDlen)
    (htimestamp : timestamp.isSome = (dev.channel i).hwTsEnabled) :
    ∃ h : RxAccepts dev (fullPacket canId canDlc channel flags reserved payload timestamp),
      (⟨_, h.channel_lt⟩ : Fin n) = i := by
  let buf := fullPacket canId canDlc channel flags reserved payload timestamp
  have hlt : (byteAt buf 9).toNat < n := hchannel.trans_lt i.isLt
  have hi : (⟨_, hlt⟩ : Fin n) = i := Fin.ext hchannel
  have hroom : rxMaxDlen buf = payload.length := by
    rw [hpayload, rxMaxDlen]
    exact if_congr decide_eq_true_iff rfl rfl
  have hsize : buf.length = gsFrameSize payload.length timestamp.isSome := length_fullPacket
  refine ⟨⟨?_, hlt, le32_le32Bytes gsHostFrameEchoIdRx, ?_⟩, hi⟩
  · show gsHostFrameHdrSize ≤ buf.length
    rw [hsize, gsFrameSize, Nat.add_assoc]
    exact Nat.le_add_right _ _
  · rw [hi, ← htimestamp]
    show if _ then _ ≤ buf.length else _ ≤ buf.length
    rw [hsize, hroom]
    cases timestamp with
    | none => exact Nat.add_le_add_left ((rxLen_le buf).trans_eq hroom) _
    | some t => exact le_rfl

end FullPacket

/-- A channel's worst packet is at least as long as any it may send. -/
theorem gsFrameSize_le_maxFrameSize {ch : Channel} {isFd : Prop} [Decidable isFd]
    (hfd : isFd → ch.hasFeature gsCanFeatureFd = true) :
    gsFrameSize (if isFd then gsFdDlen else gsClassicDlen)
      (ch.hasFeature gsCanFeatureHwTimestamp) ≤ ch.maxFrameSize := by
  rw [Channel.maxFrameSize]
  apply Nat.add_le_add_right
  apply Nat.add_le_add_left
  by_cases h : isFd
  · rw [if_pos h, if_pos (hfd h)]
  · rw [if_neg h]
    split <;> decide

/-- **No packet is lost to sizing.** After `gsusb_open` and any calls, a full packet of a
started channel, with a time exactly when the last START asked for it, fits the receive
buffer and is enqueued once, on that channel. -/
theorem fullPacket_fits_and_enqueued {usb : Libusb} {vid pid : UInt16} {bus addr : ℤ} {n : ℕ}
    {dev : Dev n} (hopen : usb.gsusbOpen vid pid bus addr = .ok ⟨n, dev⟩) (cs : List (Call n))
    (i : Fin n) (hstarted : (((Host.init dev).calls cs).dev.channel i).started = true)
    (canId : UInt32) (canDlc flags reserved : UInt8) (payload : Bytes)
    (hfd : flags &&& gsCanFlagFd ≠ 0 →
      (((Host.init dev).calls cs).dev.channel i).hasFeature gsCanFeatureFd = true)
    (hpayload : payload.length = if flags &&& gsCanFlagFd ≠ 0 then 64 else 8)
    (timestamp : Option UInt32)
    (htimestamp : timestamp.isSome =
      ((startsOf ((Host.init dev).calls cs).world.modes i).getLast?.any (·.hwTimestamp))) :
    let host := (Host.init dev).calls cs
    let packet := fullPacket canId canDlc (UInt8.ofNat i) flags reserved payload timestamp
    packet.length ≤ host.dev.hfSizeRx ∧
      ∃ f dev', rxDecode host.dev packet = .ok (some (i, f)) ∧
        handleRxPacket host.dev packet = .ok dev' ∧ host.dev.Enqueued dev' i f := by
  intro host packet
  have hopened := Libusb.opened_of_gsusbOpen hopen
  have hprobed : host.dev.Probed :=
    ((Host.Steady.init hopened).sameSetup_calls cs).probed hopened.toProbed
  have hagree : host.Timestamped := Host.Timestamped.calls hopened cs
  -- the time in the packet is the time the channel can give
  have hlast : timestamp.isSome = (host.dev.channel i).hasFeature gsCanFeatureHwTimestamp := by
    rw [htimestamp]
    obtain ⟨request, hrequest⟩ : ∃ request,
        (startsOf host.world.modes i).getLast? = some request :=
      Option.isSome_iff_exists.mp (List.getLast?_isSome.mpr (hagree.started i hstarted))
    rw [hrequest]
    exact hagree.requested i request (List.mem_of_getLast? hrequest)
  have hchannel : (UInt8.ofNat i).toNat = i := by
    have hcount := hprobed.count_le
    rw [UInt8.toNat_ofNat']
    exact Nat.mod_eq_of_lt (by omega)
  constructor
  · calc
      packet.length = gsFrameSize payload.length timestamp.isSome := length_fullPacket
      _ ≤ (host.dev.channel i).maxFrameSize := by
        rw [hpayload, hlast]
        exact gsFrameSize_le_maxFrameSize hfd
      _ ≤ host.dev.hfSizeRx := hprobed.frameSize_le i
  · obtain ⟨haccepts, hi⟩ : ∃ h : RxAccepts host.dev packet, (⟨_, h.channel_lt⟩ : Fin n) = i :=
      rxAccepts_fullPacket hchannel hpayload (hlast.trans (hagree.enabled i hstarted).symm)
    have hdecode := rxDecode_of_accepts haccepts
    obtain ⟨dev', hhandle, henqueued⟩ := handleRxPacket_of_accepts haccepts
    have hindex := congrArg Fin.val hi
    rw [hi] at hdecode henqueued
    refine ⟨_, dev', ?_, hhandle, henqueued⟩
    rw [hdecode]
    exact congrArg (fun k => Except.ok (some (k, _))) hindex

/-- An adapter with one channel that has CAN-FD and timestamps. -/
def fdAdapter : Libusb where
  strerror _ := ""
  deviceList := .ok [⟨some (0x1d50, 0x606f), 1, 4⟩]
  openDevice _ := 0
  claimInterface := 0
  activeConfig := .ok [⟨0, [⟨2, 0x81⟩, ⟨2, 0x02⟩]⟩]
  callocDev := true
  callocChannels := true
  callocQueue _ := true
  controlOut _ _ _ data := data.length
  controlIn breq _ _ len := (len,
    (if breq = gsUsbBreqBtConst then gsPutLe32 (gsCanFeatureFd ||| gsCanFeatureHwTimestamp)
      else List.replicate 4 0) ++ List.replicate (len - 4) 0)

/-- An FD packet with a time, after a start on that adapter. -/
theorem fullPacket_fits_and_enqueued_fdAdapter :
    ∃ dev : Dev 1, fdAdapter.gsusbOpen 0x1d50 0x606f (-1) (-1) = .ok ⟨1, dev⟩ ∧
      let host := (Host.init dev).calls [.start 0 0 8 .created]
      let packet := fullPacket 0x123 15 0 gsCanFlagFd 0 (List.replicate 64 7) (some 99)
      packet.length ≤ host.dev.hfSizeRx ∧
        ∃ f dev', rxDecode host.dev packet = .ok (some (0, f)) ∧
          handleRxPacket host.dev packet = .ok dev' ∧ host.dev.Enqueued dev' 0 f := by
  obtain ⟨dev, hopen, hstarted, hfd, htimestamp⟩ : ∃ dev : Dev 1,
      fdAdapter.gsusbOpen 0x1d50 0x606f (-1) (-1) = .ok ⟨1, dev⟩ ∧
        (((Host.init dev).calls [.start 0 0 8 .created]).dev.channel 0).started = true ∧
        (((Host.init dev).calls [.start 0 0 8 .created]).dev.channel 0).hasFeature
          gsCanFeatureFd = true ∧
        (some (99 : UInt32)).isSome =
          (startsOf ((Host.init dev).calls [.start 0 0 8 .created]).world.modes 0).getLast?.any
            (·.hwTimestamp) := ⟨_, rfl, rfl, rfl, rfl⟩
  exact ⟨dev, hopen, fullPacket_fits_and_enqueued hopen _ 0 hstarted 0x123 15 _ 0 _
    (fun _ => hfd) (by decide) (some 99) htimestamp⟩

end GsUsb.Driver
