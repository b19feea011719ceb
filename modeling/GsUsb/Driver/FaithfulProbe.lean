/-
# What probing finds out

With every call succeeding, the device that `gsusb_open` returns says of each channel what the
adapter said of it.  One reply is not understood: that of an adapter with 256 channels, the count
of which does not fit the byte it is kept in.
-/

import GsUsb.Driver.OpenTrace
import Mathlib.Data.Finset.Lattice.Fold
import Mathlib.Order.Interval.Set.Defs
import Mathlib.Order.Lattice.Nat

namespace GsUsb.Driver

open GsUsb.Math

/-- `gsusb_channel_bt_const`. -/
def Channel.gsusbChannelBtConst (ch : Channel) : GsusbBittimingConst := ch.btConst

/-- `gsusb_channel_data_bt_const`. -/
def Channel.gsusbChannelDataBtConst (ch : Channel) : Option GsusbBittimingConst :=
  if ch.hasDataBtConst then some ch.dataBtConst else none

/-- The fields in order. -/
def GsusbBittimingConst.words (c : GsusbBittimingConst) : List UInt32 :=
  [c.feature, c.fclkCan, c.tseg1Min, c.tseg1Max, c.tseg2Min, c.tseg2Max, c.sjwMax, c.brpMin,
    c.brpMax, c.brpInc]

/-- Little-endian words one after the other. -/
def wordsAt (buf : Bytes) (start count : ℕ) : List UInt32 :=
  (List.range count).map fun k => wordAt buf (start + 4 * k)

/-- What an adapter replies to the requests of `gsusb_open`: to DEVICE_CONFIG, and for each
channel to BT_CONST and to BT_CONST_EXT. -/
structure Replies where
  devcfg : Bytes
  btConst : ℕ → Bytes
  btConstExt : ℕ → Bytes

namespace Replies

variable (r : Replies)

/-- The index of the last channel. -/
def icount : ℕ := (byteAt r.devcfg 3).toNat

/-- The feature word of a channel. -/
def feature (i : ℕ) : UInt32 := wordAt (r.btConst i) 0

/-- The channel has CAN-FD and constants of its own for the data phase. -/
def hasDataPhase (i : ℕ) : Prop :=
  r.feature i &&& gsCanFeatureFd ≠ 0 ∧ r.feature i &&& gsCanFeatureBtConstExt ≠ 0

instance (i : ℕ) : Decidable (r.hasDataPhase i) := inferInstanceAs (Decidable (_ ∧ _))

/-- The length of the channel's longest packet. -/
def frameSize (i : ℕ) : ℕ :=
  12 + (if r.feature i &&& gsCanFeatureFd ≠ 0 then 64 else 8) +
    (if r.feature i &&& gsCanFeatureHwTimestamp ≠ 0 then 4 else 0)

end Replies

/-- Every call of libusb and of the allocator succeeds, and these are the replies. -/
structure AllSucceed (usb : Libusb) (vid pid : UInt16) (bus addr : ℤ) (r : Replies) : Prop where
  deviceList : ∃ list, usb.deviceList = .ok list ∧
    ∃ device ∈ list, device.isMatch vid pid bus addr = true
  openDevice : ∀ device, usb.openDevice device = 0
  claimInterface : usb.claimInterface = 0
  activeConfig : ∃ config, usb.activeConfig = .ok config ∧
    (findEndpoints config).1 ≠ 0 ∧ (findEndpoints config).2 ≠ 0
  callocDev : usb.callocDev = true
  callocChannels : usb.callocChannels = true
  callocQueue : ∀ i, usb.callocQueue i = true
  hostFormat : usb.controlOut gsUsbBreqHostFormat 1 0 (gsPutLe32 0x0000beef) = 4
  deviceConfig : usb.controlIn gsUsbBreqDeviceConfig 1 0 12 = (12, r.devcfg)
  btConst : ∀ i ≤ r.icount,
    usb.controlIn gsUsbBreqBtConst (UInt16.ofNat i) 0 40 = (40, r.btConst i)
  btConstExt : ∀ i ≤ r.icount,
    usb.controlIn gsUsbBreqBtConstExt (UInt16.ofNat i) 0 72 = (72, r.btConstExt i)

/-- The device knows what the adapter replied, and was asked no more than needed. -/
structure ProbedFaithfully (r : Replies) (calls : List LibCall) {n : ℕ} (dev : Dev n) : Prop where
  count : n = r.icount + 1
  get : ∀ k : UInt32, (dev.gsusbChannelGet k).map Fin.val =
    if k.toNat ≤ r.icount then some k.toNat else none
  btConst : ∀ i, (dev.channel i).gsusbChannelBtConst.words = wordsAt (r.btConst i) 0 10
  requested_iff : ∀ i : Fin n,
    .request gsUsbBreqBtConstExt (UInt16.ofNat i) ∈ calls ↔ r.hasDataPhase i
  exposed_iff : ∀ i : Fin n, (dev.channel i).gsusbChannelDataBtConst.isSome ↔
    .request gsUsbBreqBtConstExt (UInt16.ofNat i) ∈ calls
  dataBtConst : ∀ i c, (dev.channel i).gsusbChannelDataBtConst = some c →
    c.words = [(dev.channel i).gsusbChannelBtConst.feature,
      (dev.channel i).gsusbChannelBtConst.fclkCan] ++ wordsAt (r.btConstExt i) 40 8
  hfSizeRx : IsGreatest (r.frameSize '' Set.Iic r.icount) dev.hfSizeRx

theorem words_parseBtConst (p : Bytes) : (parseBtConst p).words = wordsAt p 0 10 := rfl

theorem words_parseBtConstExtDataPhase (p : Bytes) (feature fclkCan : UInt32) :
    (parseBtConstExtDataPhase p feature fclkCan).words =
      [feature, fclkCan] ++ wordsAt p 40 8 := rfl

/-- The mask that `gsusb_open` applies keeps the feature. -/
theorem Channel.hasFeature_ofBtConst {bit : UInt32} (hbit : gsCanFeatureMask &&& bit = bit)
    (i : ℕ) (btConst : GsusbBittimingConst) (data : Option GsusbBittimingConst) :
    (Channel.ofBtConst i btConst data).hasFeature bit =
      decide (btConst.feature &&& bit ≠ 0) := by
  show decide (btConst.feature &&& gsCanFeatureMask &&& bit ≠ 0) = _
  rw [UInt32.and_assoc, hbit]

namespace Replies

variable (r : Replies)

/-- The number of channels that `gsusb_open` makes of the reply. -/
def channelCount : ℕ := (byteAt r.devcfg 3 + 1).toNat

theorem channelCount_eq : r.channelCount = (r.icount + 1) % 256 := UInt8.toNat_add _ 1

theorem channelCount_le : r.channelCount ≤ r.icount + 1 :=
  r.channelCount_eq.trans_le (Nat.mod_le _ _)

/-- The channel that the replies describe. -/
def channel (i : ℕ) : Channel :=
  .ofBtConst i (parseBtConst (r.btConst i)) (if r.hasDataPhase i
    then some (parseBtConstExtDataPhase (r.btConstExt i) (r.feature i) (wordAt (r.btConst i) 4))
    else none)

/-- The device that they describe, but for the number of its channels. -/
def device : Dev r.channelCount :=
  .ofChannels ⟨wordAt r.devcfg 4, wordAt r.devcfg 8, byteAt r.devcfg 3 + 1⟩
    (.ofFn fun i => r.channel i) (Libusb.channelCount_lt r.devcfg)
    ((Finset.range r.channelCount).sup r.frameSize)

@[simp]
theorem channel_device (i : Fin r.channelCount) : r.device.channel i = r.channel i :=
  Vector.getElem_ofFn i.isLt

theorem maxFrameSize_channel (i : ℕ) : (r.channel i).maxFrameSize = r.frameSize i := by
  rw [Channel.maxFrameSize, channel, Channel.hasFeature_ofBtConst rfl,
    Channel.hasFeature_ofBtConst rfl, frameSize, gsFrameSize]
  simp only [decide_eq_true_eq]
  rfl

/-- The channel has the data phase of its replies. -/
theorem gsusbChannelDataBtConst_channel (i : ℕ) : (r.channel i).gsusbChannelDataBtConst =
    if r.hasDataPhase i
    then some (parseBtConstExtDataPhase (r.btConstExt i) (r.feature i) (wordAt (r.btConst i) 4))
    else none := by
  rw [Channel.gsusbChannelDataBtConst, channel]
  split <;> rfl

end Replies

/-- The calls of `gsusb_open` before the first request. -/
def connectCalls : List LibCall :=
  [.acquire .deviceList true, .use .deviceList, .use .deviceList, .acquire .handle true,
    .release .deviceList, .use .handle, .acquire .claim true, .use .handle, .acquire .config true,
    .use .config, .release .config, .acquire .dev true, .use .dev]

namespace AllSucceed

variable {usb : Libusb} (pthread : PthreadInit) {vid pid : UInt16} {bus addr : ℤ} {r : Replies}

theorem connectTraced_eq (h : AllSucceed usb vid pid bus addr r) :
    usb.connectTraced vid pid bus addr = ⟨connectCalls, .ok ()⟩ := by
  obtain ⟨list, hlist, hmatch⟩ := h.deviceList
  obtain ⟨config, hconfig, hin, hout⟩ := h.activeConfig
  obtain ⟨device, hfind⟩ : ∃ device, list.find? (·.isMatch vid pid bus addr) = some device :=
    Option.isSome_iff_exists.mp (List.find?_isSome.mpr hmatch)
  simp [Libusb.connectTraced, hlist, hfind, h.openDevice, h.claimInterface, hconfig, hin, hout,
    h.callocDev]
  exact ⟨rfl, rfl⟩

theorem ctrlIn_btConst (h : AllSucceed usb vid pid bus addr r) {i : ℕ} (hi : i ≤ r.icount) :
    usb.ctrlIn gsUsbBreqBtConst (UInt16.ofNat i) 0 gsDeviceBtConstSize = .ok (r.btConst i) := by
  rw [Libusb.ctrlIn, gsDeviceBtConstSize, h.btConst i hi]
  rfl

theorem ctrlIn_btConstExt (h : AllSucceed usb vid pid bus addr r) {i : ℕ} (hi : i ≤ r.icount) :
    usb.ctrlIn gsUsbBreqBtConstExt (UInt16.ofNat i) 0 gsDeviceBtConstExtSize =
      .ok (r.btConstExt i) := by
  rw [Libusb.ctrlIn, gsDeviceBtConstExtSize, h.btConstExt i hi]
  rfl

theorem ctrlIn_deviceConfig (h : AllSucceed usb vid pid bus addr r) :
    usb.ctrlIn gsUsbBreqDeviceConfig 1 0 gsDeviceConfigSize = .ok r.devcfg := by
  rw [Libusb.ctrlIn, gsDeviceConfigSize, h.deviceConfig]
  rfl

/-- A pass of the loop finds out about its channel, and asks for the data phase if there is
one. -/
theorem probeChannelTraced_eq (h : AllSucceed usb vid pid bus addr r) (channelCount : ℕ) {i : ℕ}
    (hi : i ≤ r.icount) (qBuf : ℕ → Bool) :
    usb.probeChannelTraced pthread channelCount i qBuf =
      ⟨[.use .dev, .use .channels, .request gsUsbBreqBtConst (UInt16.ofNat i)] ++
        (if r.hasDataPhase i then [.request gsUsbBreqBtConstExt (UInt16.ofNat i)] else []) ++
        usb.rxqInit pthread i, .ok (r.channel i)⟩ := by
  have hasked : ((Channel.ofBtConst i (parseBtConst (r.btConst i)) none).hasFeature
      gsCanFeatureFd && (Channel.ofBtConst i (parseBtConst (r.btConst i)) none).hasFeature
        gsCanFeatureBtConstExt) = decide (r.hasDataPhase i) := by
    rw [Channel.hasFeature_ofBtConst rfl, Channel.hasFeature_ofBtConst rfl]
    exact (Bool.decide_and _ _).symm
  rw [Libusb.probeChannelTraced, h.ctrlIn_btConst hi]
  dsimp only
  rw [hasked, Replies.channel]
  by_cases hdata : r.hasDataPhase i
  · simp only [hdata, decide_true, if_true, Traced.make_bind, h.ctrlIn_btConstExt hi,
      Libusb.addQueue, h.callocQueue, Traced.calls_pure, Traced.result_pure, List.append_nil]
    rfl
  · simp only [hdata, decide_false, Bool.false_eq_true, if_false, Traced.make_bind,
      Libusb.addQueue, h.callocQueue, if_true, Traced.calls_pure, Traced.result_pure,
      List.append_nil]

/-- What a pass asks for. -/
theorem request_mem_pass (usb : Libusb) {v : UInt16} {i : ℕ} {asks : Prop} [Decidable asks] :
    .request gsUsbBreqBtConstExt v ∈
        [.use .dev, .use .channels, .request gsUsbBreqBtConst (UInt16.ofNat i)] ++
          (if asks then [.request gsUsbBreqBtConstExt (UInt16.ofNat i)] else []) ++
          usb.rxqInit pthread i ↔ asks ∧ v = UInt16.ofNat i := by
  have hqueue : LibCall.request gsUsbBreqBtConstExt v ∉ usb.rxqInit pthread i := by
    rw [Libusb.rxqInit]
    split <;> simp
  have hother : gsUsbBreqBtConstExt ≠ gsUsbBreqBtConst := by decide
  by_cases hasks : asks
  · simp [hasks, hqueue, hother]
  · simp [hasks, hqueue, hother]

/-- The loop finds out about all channels, and asks for the data phase of those that have one. -/
theorem probeChannelsTraced_eq (h : AllSucceed usb vid pid bus addr r) (channelCount : ℕ)
    {count : ℕ} (hcount : count ≤ r.icount + 1) :
    ∃ calls, usb.probeChannelsTraced pthread channelCount count =
        ⟨calls, .ok ((.ofFn fun i => r.channel i, (Finset.range count).sup r.frameSize),
          fun i => decide (i < count))⟩ ∧
      ∀ v, .request gsUsbBreqBtConstExt v ∈ calls ↔
        ∃ k < count, r.hasDataPhase k ∧ v = UInt16.ofNat k := by
  induction count with
  | zero =>
      refine ⟨[], ?_, by simp⟩
      simp [Libusb.probeChannelsTraced]
      rfl
  | succ k ih =>
      obtain ⟨calls, hprobed, hrequests⟩ := ih (Nat.le_of_succ_le hcount)
      have hpass := h.probeChannelTraced_eq pthread channelCount (Nat.le_of_lt_succ hcount)
        fun i => decide (i < k)
      have hchannels : (Vector.ofFn fun i : Fin k => r.channel i).push (r.channel k) =
          Vector.ofFn fun i : Fin (k + 1) => r.channel i := by
        rw [Vector.ofFn_succ]
        rfl
      have hsize : (if r.frameSize k > (Finset.range k).sup r.frameSize then r.frameSize k
          else (Finset.range k).sup r.frameSize) = (Finset.range (k + 1)).sup r.frameSize := by
        rw [Finset.range_add_one, Finset.sup_insert]
        split
        · rename_i hlt
          exact (sup_eq_left.mpr hlt.le).symm
        · rename_i hle
          exact (sup_eq_right.mpr (not_lt.mp hle)).symm
      simp only [Libusb.probeChannelsTraced, hprobed, hpass, Traced.ok_bind, Traced.calls_pure,
        Traced.result_pure, hsize, Replies.maxFrameSize_channel, hchannels,
        Libusb.update_decide_lt, List.append_nil]
      refine ⟨_, rfl, ?_⟩
      intro v
      rw [List.mem_append, hrequests, request_mem_pass pthread, Nat.exists_lt_succ_right]

/-- What `gsusb_open` returns, and what it asks for. -/
theorem gsusbOpenTraced_eq (h : AllSucceed usb vid pid bus addr r) :
    ∃ calls, usb.gsusbOpenTraced pthread vid pid bus addr =
        ⟨calls, .ok ⟨r.channelCount, r.device⟩⟩ ∧
      ∀ v, .request gsUsbBreqBtConstExt v ∈ calls ↔
        ∃ k < r.channelCount, r.hasDataPhase k ∧ v = UInt16.ofNat k := by
  have hcount : (byteAt r.devcfg 3 + 1).toNat ≤ r.icount + 1 := r.channelCount_le
  obtain ⟨calls, hprobed, hrequests⟩ :=
    h.probeChannelsTraced_eq pthread (byteAt r.devcfg 3 + 1).toNat hcount
  have hformat : ctrlResult
      (usb.controlOut gsUsbBreqHostFormat 1 0 (gsPutLe32 0x0000beef)) 4 = 0 := by
    rw [h.hostFormat]
    rfl
  simp only [Libusb.gsusbOpenTraced, h.connectTraced_eq, Traced.ok_bind, Libusb.probeTraced,
    hformat, ne_eq, not_true_eq_false, if_false, Traced.make_bind, h.ctrlIn_deviceConfig,
    h.callocChannels, Bool.not_true, Bool.false_eq_true, hprobed, Traced.calls_pure,
    Traced.result_pure, List.append_nil]
  refine ⟨_, rfl, ?_⟩
  intro v
  have hformatOther : gsUsbBreqBtConstExt ≠ gsUsbBreqHostFormat := by decide
  have hconfigOther : gsUsbBreqBtConstExt ≠ gsUsbBreqDeviceConfig := by decide
  simp only [connectCalls, List.mem_append, List.mem_cons, hrequests]
  simp [hformatOther, hconfigOther, Replies.channelCount]

end AllSucceed

section Faithful

variable {r : Replies}

theorem channelCount_of_icount_ne (hicount : r.icount ≠ 255) :
    r.channelCount = r.icount + 1 := by
  have hlt : r.icount < 256 := UInt8.toNat_lt _
  rw [r.channelCount_eq]
  exact Nat.mod_eq_of_lt (by omega)

/-- The receive buffer is for the largest packet. -/
theorem isGreatest_sup_frameSize (hicount : r.icount ≠ 255) :
    IsGreatest (r.frameSize '' Set.Iic r.icount)
      ((Finset.range r.channelCount).sup r.frameSize) := by
  rw [channelCount_of_icount_ne hicount]
  constructor
  · obtain ⟨k, hk, hsup⟩ := Finset.exists_mem_eq_sup (Finset.range (r.icount + 1))
      ⟨0, Finset.mem_range.mpr (Nat.succ_pos _)⟩ r.frameSize
    exact ⟨k, Nat.le_of_lt_succ (Finset.mem_range.mp hk), hsup.symm⟩
  · rintro _ ⟨k, hk, rfl⟩
    exact Finset.le_sup (Finset.mem_range.mpr (Nat.lt_succ_of_le hk))

/-- The device is what the replies describe if its number of channels fits. -/
theorem probedFaithfully_device (hicount : r.icount ≠ 255) {calls : List LibCall}
    (hrequests : ∀ v, .request gsUsbBreqBtConstExt v ∈ calls ↔
      ∃ k < r.channelCount, r.hasDataPhase k ∧ v = UInt16.ofNat k) :
    ProbedFaithfully r calls r.device := by
  have hcount := channelCount_of_icount_ne hicount
  have hrequested (i : Fin r.channelCount) :
      .request gsUsbBreqBtConstExt (UInt16.ofNat i) ∈ calls ↔ r.hasDataPhase i := by
    rw [hrequests]
    constructor
    · rintro ⟨k, hk, hdata, heq⟩
      have hindex : (i : ℕ) % 2 ^ 16 = k % 2 ^ 16 := congrArg UInt16.toNat heq
      have hsame : (i : ℕ) = k := by
        have hlt : r.channelCount < 256 := UInt8.toNat_lt _
        have hi := i.isLt
        omega
      rw [hsame]
      exact hdata
    · exact fun hdata => ⟨i, i.isLt, hdata, rfl⟩
  constructor
  · exact hcount
  · intro k
    rw [Dev.gsusbChannelGet]
    by_cases hk : k.toNat < r.channelCount
    · rw [dif_pos hk, if_pos (by omega)]
      rfl
    · rw [dif_neg hk, if_neg (by omega)]
      rfl
  · intro i
    rw [r.channel_device]
    exact words_parseBtConst _
  · exact hrequested
  · intro i
    rw [hrequested, r.channel_device, r.gsusbChannelDataBtConst_channel]
    split <;> simp_all
  · intro i c hdata
    rw [r.channel_device, r.gsusbChannelDataBtConst_channel] at hdata
    rw [r.channel_device]
    split at hdata
    · cases hdata
      exact words_parseBtConstExtDataPhase _ _ _
    · cases hdata
  · exact isGreatest_sup_frameSize hicount

variable {usb : Libusb} {vid pid : UInt16} {bus addr : ℤ}

/-- **Probing is faithful except with 256 channels.** With every call succeeding, `gsusb_open`
returns a device that is what the adapter said it is exactly if the last channel it names is not
channel 255. -/
theorem probedFaithfully_iff (h : AllSucceed usb vid pid bus addr r) (pthread : PthreadInit) :
    (∃ n, ∃ dev : Dev n, usb.gsusbOpen vid pid bus addr = .ok ⟨n, dev⟩ ∧
      ProbedFaithfully r (usb.gsusbOpenTraced pthread vid pid bus addr).calls dev) ↔
        r.icount ≠ 255 := by
  obtain ⟨calls, hopen, hrequests⟩ := h.gsusbOpenTraced_eq pthread
  have hresult : usb.gsusbOpen vid pid bus addr = .ok ⟨r.channelCount, r.device⟩ := by
    rw [← usb.result_gsusbOpenTraced pthread, hopen]
  rw [hresult, hopen]
  constructor
  · rintro ⟨n, dev, heq, hfaithful⟩ hicount
    have hn : r.channelCount = n := congrArg Sigma.fst (Except.ok.inj heq)
    have hcount := hfaithful.count
    rw [← hn, r.channelCount_eq, hicount] at hcount
    cases hcount
  · intro hicount
    exact ⟨_, _, rfl, probedFaithfully_device hicount hrequests⟩

/-- The replies of `fdAdapter`. -/
def fdReplies : Replies where
  devcfg := List.replicate 12 0
  btConst _ := gsPutLe32 (gsCanFeatureFd ||| gsCanFeatureHwTimestamp) ++ List.replicate 36 0
  btConstExt _ := List.replicate 72 0

theorem allSucceed_fdAdapter : AllSucceed fdAdapter 0x1d50 0x606f (-1) (-1) fdReplies where
  deviceList := ⟨_, rfl, _, List.mem_singleton_self _, rfl⟩
  openDevice _ := rfl
  claimInterface := rfl
  activeConfig := ⟨_, rfl, by decide, by decide⟩
  callocDev := rfl
  callocChannels := rfl
  callocQueue _ := rfl
  hostFormat := rfl
  deviceConfig := rfl
  btConst _ _ := rfl
  btConstExt _ _ := rfl

/-- The adapter with one channel is probed faithfully. -/
theorem probedFaithfully_iff_fdAdapter : ∃ n, ∃ dev : Dev n,
    fdAdapter.gsusbOpen 0x1d50 0x606f (-1) (-1) = .ok ⟨n, dev⟩ ∧
      ProbedFaithfully fdReplies (fdAdapter.gsusbOpenTraced ⟨fun _ => true, fun _ => true, true⟩
        0x1d50 0x606f (-1) (-1)).calls dev :=
  (probedFaithfully_iff allSucceed_fdAdapter _).mpr (by decide)

/-- An adapter with 256 channels: the device that `gsusb_open` returns has none. -/
theorem not_probedFaithfully_last :
    let usb : Libusb := { fdAdapter with controlIn := fun _ _ _ len => (len, .replicate len 255) }
    let r : Replies := ⟨.replicate 12 255, fun _ => .replicate 40 255, fun _ => .replicate 72 255⟩
    AllSucceed usb 0x1d50 0x606f (-1) (-1) r ∧ ¬ ∃ n, ∃ dev : Dev n,
      usb.gsusbOpen 0x1d50 0x606f (-1) (-1) = .ok ⟨n, dev⟩ ∧
        ProbedFaithfully r (usb.gsusbOpenTraced ⟨fun _ => true, fun _ => true, true⟩ 0x1d50 0x606f
          (-1) (-1)).calls dev := by
  intro usb r
  constructor
  · exact { allSucceed_fdAdapter with
      deviceConfig := rfl
      btConst := fun _ _ => rfl
      btConstExt := fun _ _ => rfl }
  · rintro ⟨n, dev, hopen, hfaithful⟩
    obtain ⟨_, hnone⟩ : ∃ dev : Dev 0, usb.gsusbOpen 0x1d50 0x606f (-1) (-1) = .ok ⟨0, dev⟩ :=
      ⟨_, rfl⟩
    have hn : 0 = n := congrArg Sigma.fst (Except.ok.inj (hnone.symm.trans hopen))
    have hcount := hfaithful.count
    rw [← hn] at hcount
    cases hcount

end Faithful

end GsUsb.Driver
