/-
# The device object

`struct gsusb_channel` and `struct gsusb_dev`, the error mapping and the outcome of
a control transfer.  A device with `n` channels is a value of `Dev n`, so a channel
pointer is an index below `n`.  Each channel carries a ring that satisfies its
representation invariant; a broken ring cannot be put into a device.
-/

import GsUsb.Driver.RxQueue

namespace GsUsb.Driver

open GsUsb.Math GsUsb.Math.DropOldest

-- `enum gsusb_error`
def gsusbOk : ℤ := 0
def gsusbErrIo : ℤ := -1
def gsusbErrNomem : ℤ := -2
def gsusbErrNotFound : ℤ := -3
def gsusbErrAccess : ℤ := -4
def gsusbErrTimeout : ℤ := -5
def gsusbErrInvalid : ℤ := -6
def gsusbErrBusy : ℤ := -7
def gsusbErrNoBittimingSolution : ℤ := -8

-- `enum libusb_error`, as libusb documents it; the others are mapped alike
def libusbErrorInvalidParam : ℤ := -2
def libusbErrorAccess : ℤ := -3
def libusbErrorNoDevice : ℤ := -4
def libusbErrorNotFound : ℤ := -5
def libusbErrorBusy : ℤ := -6
def libusbErrorTimeout : ℤ := -7
def libusbErrorNoMem : ℤ := -11

/-- `map_libusb_err`. -/
def mapLibusbErr (rc : ℤ) : ℤ :=
  if rc = 0 then 0
  else if rc = libusbErrorTimeout then gsusbErrTimeout
  else if rc = libusbErrorAccess then gsusbErrAccess
  else if rc = libusbErrorNoDevice ∨ rc = libusbErrorNotFound then gsusbErrNotFound
  else if rc = libusbErrorBusy then gsusbErrBusy
  else if rc = libusbErrorNoMem then gsusbErrNomem
  else if rc = libusbErrorInvalidParam then gsusbErrInvalid
  else gsusbErrIo

/-- What `ctrl_out` and `ctrl_in` return for a transfer of `len` bytes on which
`libusb_control_transfer` returns `rc`. -/
def ctrlResult (rc : ℤ) (len : ℕ) : ℤ :=
  if rc < 0 then mapLibusbErr rc else if rc ≠ len then gsusbErrIo else 0

/-- An error of libusb is never mapped to success. -/
theorem mapLibusbErr_ne_zero {rc : ℤ} (hrc : rc ≠ 0) : mapLibusbErr rc ≠ 0 := by
  unfold mapLibusbErr
  rw [if_neg hrc]
  split_ifs <;> decide

/-- The codes of the driver are not positive. -/
theorem mapLibusbErr_nonpos (rc : ℤ) : mapLibusbErr rc ≤ 0 := by
  unfold mapLibusbErr
  split_ifs <;> decide

/-- A control transfer succeeds exactly when all its bytes went through. -/
theorem ctrlResult_eq_zero_iff {rc : ℤ} {len : ℕ} : ctrlResult rc len = 0 ↔ rc = len := by
  unfold ctrlResult
  by_cases hneg : rc < 0
  · rw [if_pos hneg]
    exact iff_of_false (mapLibusbErr_ne_zero (by omega)) (by omega)
  · rw [if_neg hneg]
    by_cases hall : rc = len
    · simp [hall]
    · simp [hall, gsusbErrIo]

/-- A receive ring of the driver, with its representation invariant; `unsigned long`
has 64 bits. -/
def RxQueue : Type := { q : Rxq GsusbFrame 64 // q.Valid }

namespace RxQueue

/-- The queue `rxq_init` leaves. -/
def init : RxQueue := ⟨.ofCapacity gsusbRxqCapacity, Rxq.valid_ofCapacity (by decide) (by decide)⟩

/-- The queued frames, oldest first. -/
def content (q : RxQueue) : List GsusbFrame := q.1.content

/-- The number of frames the queue has room for. -/
def capacity (q : RxQueue) : ℕ := q.1.qCap.toNat

/-- `rxq_push` on a valid ring. -/
def push (q : RxQueue) (f : GsusbFrame) : Except Fault RxQueue :=
  match h : q.1.rxqPush f with
  | .ok q' => .ok ⟨q', by
      obtain ⟨q'', hpush, hvalid, -⟩ := q.2.rxqPush f
      cases h.symm.trans hpush
      exact hvalid⟩
  | .error fault => .error fault

/-- A push never leaves the buffer, and pushes the content. -/
theorem exists_push (q : RxQueue) (f : GsusbFrame) :
    ∃ q', q.push f = .ok q' ∧ q'.capacity = q.capacity ∧
      q'.content = pushQueue q.capacity q.content f := by
  obtain ⟨q', hpush, hvalid, hcap, hcontent⟩ := q.2.rxqPush f
  refine ⟨⟨q', hvalid⟩, ?_, congrArg UInt32.toNat hcap, hcontent⟩
  unfold push
  split
  · rename_i q'' h
    cases h.symm.trans hpush
    rfl
  · rename_i fault h
    cases h.symm.trans hpush

/-- The dequeue of `gsusb_channel_recv` on a valid ring. -/
def pop (q : RxQueue) : Except Fault (Option GsusbFrame × RxQueue) :=
  match h : q.1.recvDequeue with
  | .ok (x, q') => .ok (x, ⟨q', by
      obtain ⟨q'', hpop, hvalid, -⟩ := q.2.recvDequeue
      cases h.symm.trans hpop
      exact hvalid⟩)
  | .error fault => .error fault

/-- A push of the ring is a push of the queue. -/
theorem push_of_rxqPush {q : RxQueue} {f : GsusbFrame} {q' : Rxq GsusbFrame 64}
    (hpush : q.1.rxqPush f = .ok q') : ∃ hvalid, q.push f = .ok ⟨q', hvalid⟩ := by
  obtain ⟨q'', hpush'', hvalid, -⟩ := q.2.rxqPush f
  cases hpush.symm.trans hpush''
  refine ⟨hvalid, ?_⟩
  unfold push
  split
  · rename_i q'' h
    cases h.symm.trans hpush
    rfl
  · rename_i fault h
    cases h.symm.trans hpush

/-- A dequeue of the ring is a dequeue of the queue. -/
theorem pop_of_recvDequeue {q : RxQueue} {x : Option GsusbFrame} {q' : Rxq GsusbFrame 64}
    (hpop : q.1.recvDequeue = .ok (x, q')) : ∃ hvalid, q.pop = .ok (x, ⟨q', hvalid⟩) := by
  obtain ⟨q'', hpop'', hvalid, -⟩ := q.2.recvDequeue
  cases hpop.symm.trans hpop''
  refine ⟨hvalid, ?_⟩
  unfold pop
  split
  · rename_i y q'' h
    cases h.symm.trans hpop
    rfl
  · rename_i fault h
    cases h.symm.trans hpop

/-- A dequeue never leaves the buffer. -/
theorem exists_pop (q : RxQueue) : ∃ x q', q.pop = .ok (x, q') := by
  obtain ⟨ring, hpop, -⟩ := q.2.recvDequeue
  obtain ⟨hvalid, hpop'⟩ := pop_of_recvDequeue hpop
  exact ⟨_, _, hpop'⟩

/-- The queue holds what a ledger says it holds, and counts the frames it says were dropped. -/
def Represents (q : RxQueue) (ledger : Ledger GsusbFrame) : Prop := q.1.Represents ledger

/-- A new queue represents the empty ledger. -/
theorem represents_init : init.Represents .empty :=
  Rxq.represents_ofCapacity (by decide) (by decide)

/-- A push of a queue pushes its ledger. -/
theorem Represents.push {q : RxQueue} {ledger : Ledger GsusbFrame} (h : q.Represents ledger)
    (f : GsusbFrame) : ∃ q', q.push f = .ok q' ∧ q'.capacity = q.capacity ∧
      q'.Represents (ledger.push q.capacity f) := by
  obtain ⟨ring, hpush, hcap, hrep⟩ := Rxq.Represents.rxqPush h f
  obtain ⟨hvalid, hpush'⟩ := push_of_rxqPush hpush
  exact ⟨⟨ring, hvalid⟩, hpush', congrArg UInt32.toNat hcap, hrep⟩

/-- A dequeue of a queue takes the front of its ledger. -/
theorem Represents.pop {q : RxQueue} {ledger : Ledger GsusbFrame} (h : q.Represents ledger) :
    ∃ q', q.pop = .ok (ledger.queue.head?, q') ∧ q'.capacity = q.capacity ∧
      q'.Represents (ledger.takeFront .returned) := by
  obtain ⟨ring, hpop, hcap, hrep⟩ := Rxq.Represents.recvDequeue h
  obtain ⟨hvalid, hpop'⟩ := pop_of_recvDequeue hpop
  exact ⟨⟨ring, hvalid⟩, hpop', congrArg UInt32.toNat hcap, hrep⟩

end RxQueue

/-- `struct gsusb_channel`, without its back pointer and its lock. -/
structure Channel where
  index : ℕ
  btConst : GsusbBittimingConst
  hasDataBtConst : Bool
  dataBtConst : GsusbBittimingConst
  feature : UInt32
  started : Bool
  hwTsEnabled : Bool
  rxq : RxQueue

namespace Channel

/-- The channel `gsusb_open` sets up from the constants it read: `calloc`, the
assignments of the probing loop, and `rxq_init`. -/
def ofBtConst (index : ℕ) (btConst : GsusbBittimingConst)
    (dataBtConst : Option GsusbBittimingConst) : Channel where
  index := index
  btConst := btConst
  hasDataBtConst := dataBtConst.isSome
  dataBtConst := dataBtConst.getD default
  feature := btConst.feature &&& gsCanFeatureMask
  started := false
  hwTsEnabled := false
  rxq := .init

/-- What `gsusb_open` found out about a channel. -/
def found (ch : Channel) : Channel :=
  { ch with started := false, hwTsEnabled := false, rxq := .init }

/-- `ch->feature & bit`. -/
def hasFeature (ch : Channel) (bit : UInt32) : Bool := ch.feature &&& bit ≠ 0

end Channel

/-- `struct gsusb_dev` with `n = channel_count` channels, an `unsigned int`.  A thread
handle is the number of threads the device had created before; `none` is the zero
`calloc` left. -/
structure Dev (n : ℕ) where
  devconf : GsusbDeviceConfig
  channels : Vector Channel n
  channelCount_lt : n < 2 ^ 32
  hfSizeRx : ℕ
  activeChannels : UInt32
  readerThread : Option ℕ
  readerRunning : Bool
  stopFlag : Bool

namespace Dev

variable {n : ℕ}

/-- The device `gsusb_open` returns. -/
def ofChannels (devconf : GsusbDeviceConfig) (channels : Vector Channel n)
    (channelCount_lt : n < 2 ^ 32) (hfSizeRx : ℕ) : Dev n :=
  ⟨devconf, channels, channelCount_lt, hfSizeRx, 0, none, false, false⟩

/-- The channel a channel pointer points to. -/
def channel (dev : Dev n) (i : Fin n) : Channel := dev.channels[i]

/-- `dev->channels[i]` with an index that has not been checked. -/
def channelAt (dev : Dev n) (i : ℕ) : Except Fault Channel :=
  if h : i < n then .ok (dev.channel ⟨i, h⟩) else .error (.channel i)

/-- `gsusb_channel_count`. -/
def gsusbChannelCount (_dev : Dev n) : UInt32 := UInt32.ofNat n

/-- `gsusb_get_device_config`. -/
def gsusbGetDeviceConfig (dev : Dev n) : GsusbDeviceConfig := dev.devconf

/-- `gsusb_channel_get`. -/
def gsusbChannelGet (_dev : Dev n) (channel : UInt32) : Option (Fin n) :=
  if h : channel.toNat < n then some ⟨channel.toNat, h⟩ else none

/-- Assign to fields of one channel. -/
def updateChannel (dev : Dev n) (i : Fin n) (f : Channel → Channel) : Dev n :=
  { dev with channels := dev.channels.set i (f (dev.channel i)) }

theorem channel_updateChannel (dev : Dev n) (i j : Fin n) (f : Channel → Channel) :
    (dev.updateChannel i f).channel j = if i = j then f (dev.channel j) else dev.channel j := by
  by_cases h : i = j
  · subst h
    simp [channel, updateChannel]
  · have hne : i.val ≠ j.val := fun heq => h (Fin.ext heq)
    simp [channel, updateChannel, h, hne]

@[simp]
theorem channel_updateChannel_self (dev : Dev n) (i : Fin n) (f : Channel → Channel) :
    (dev.updateChannel i f).channel i = f (dev.channel i) := by
  rw [channel_updateChannel, if_pos rfl]

@[simp]
theorem channel_updateChannel_of_ne (dev : Dev n) {i j : Fin n} (h : i ≠ j)
    (f : Channel → Channel) : (dev.updateChannel i f).channel j = dev.channel j := by
  rw [channel_updateChannel, if_neg h]

/-- `rxq_push(&dev->channels[i], f)`. -/
def rxqPush (dev : Dev n) (i : ℕ) (f : GsusbFrame) : Except Fault (Dev n) :=
  if h : i < n then do
    let q ← (dev.channel ⟨i, h⟩).rxq.push f
    return dev.updateChannel ⟨i, h⟩ fun ch => { ch with rxq := q }
  else .error (.channel i)

/-- The end of `gsusb_channel_recv` on a channel: the frame it takes off the queue, if there
is one. -/
def recvDequeue (dev : Dev n) (i : Fin n) : Except Fault (Option GsusbFrame × Dev n) := do
  let (x, q) ← (dev.channel i).rxq.pop
  return (x, dev.updateChannel i fun ch => { ch with rxq := q })

/-- One frame pushed to one channel's queue, and nothing else changed. -/
def Enqueued (dev dev' : Dev n) (i : Fin n) (f : GsusbFrame) : Prop :=
  ∃ q, dev' = dev.updateChannel i (fun ch => { ch with rxq := q }) ∧
    q.capacity = (dev.channel i).rxq.capacity ∧
    q.content = pushQueue (dev.channel i).rxq.capacity (dev.channel i).rxq.content f

/-- A push to an existing channel succeeds. -/
theorem exists_rxqPush (dev : Dev n) (i : Fin n) (f : GsusbFrame) :
    ∃ dev', dev.rxqPush i f = .ok dev' ∧ dev.Enqueued dev' i f := by
  obtain ⟨q, hpush, hcap, hcontent⟩ := (dev.channel i).rxq.exists_push f
  refine ⟨_, ?_, q, rfl, hcap, hcontent⟩
  rw [rxqPush, dif_pos i.isLt]
  show (dev.channel i).rxq.push f >>= _ = _
  rw [hpush]
  rfl

/-- What `gsusb_open` establishes once and for all: channels know their position,
their number fits the byte it was read from, and the receive buffer holds the largest
packet of any channel. -/
structure Probed (dev : Dev n) : Prop where
  count_le : n ≤ 255
  index_eq : ∀ i, (dev.channel i).index = i
  frameSize_le : ∀ i, gsFrameSize
    (if (dev.channel i).hasFeature gsCanFeatureFd then gsFdDlen else gsClassicDlen)
    ((dev.channel i).hasFeature gsCanFeatureHwTimestamp) ≤ dev.hfSizeRx

/-- The device `gsusb_open` returns: nothing is started and no reader runs. -/
structure Opened (dev : Dev n) : Prop extends dev.Probed where
  stopped : ∀ i, (dev.channel i).started = false
  activeChannels_eq : dev.activeChannels = 0
  readerRunning_eq : dev.readerRunning = false
  stopFlag_eq : dev.stopFlag = false

/-- Two states of one device: what `gsusb_open` found out is the same in both. -/
structure SameSetup (dev dev' : Dev n) : Prop where
  hfSizeRx_eq : dev'.hfSizeRx = dev.hfSizeRx
  found_eq : ∀ i, (dev'.channel i).found = (dev.channel i).found

namespace SameSetup

variable {dev dev' dev'' : Dev n}

theorem refl (dev : Dev n) : dev.SameSetup dev := ⟨rfl, fun _ => rfl⟩

theorem symm (h : dev.SameSetup dev') : dev'.SameSetup dev :=
  ⟨h.hfSizeRx_eq.symm, fun i => (h.found_eq i).symm⟩

theorem trans (h : dev.SameSetup dev') (h' : dev'.SameSetup dev'') : dev.SameSetup dev'' :=
  ⟨h'.hfSizeRx_eq.trans h.hfSizeRx_eq, fun i => (h'.found_eq i).trans (h.found_eq i)⟩

theorem index_eq (h : dev.SameSetup dev') (i : Fin n) :
    (dev'.channel i).index = (dev.channel i).index := by
  have hfound := congrArg Channel.index (h.found_eq i)
  exact hfound

theorem feature_eq (h : dev.SameSetup dev') (i : Fin n) :
    (dev'.channel i).feature = (dev.channel i).feature := by
  have hfound := congrArg Channel.feature (h.found_eq i)
  exact hfound

/-- Assigning to the other fields of a channel. -/
theorem updateChannel (dev : Dev n) (i : Fin n) {f : Channel → Channel}
    (hfound : ∀ ch, (f ch).found = ch.found) : dev.SameSetup (dev.updateChannel i f) := by
  refine ⟨rfl, fun j => ?_⟩
  rw [channel_updateChannel]
  split
  · exact hfound _
  · rfl

theorem hasFeature_eq (h : dev.SameSetup dev') (i : Fin n) (bit : UInt32) :
    (dev'.channel i).hasFeature bit = (dev.channel i).hasFeature bit := by
  rw [Channel.hasFeature, Channel.hasFeature, h.feature_eq]

/-- A probed device stays probed. -/
theorem probed (h : dev.SameSetup dev') (hprobed : dev.Probed) : dev'.Probed where
  count_le := hprobed.count_le
  index_eq i := (h.index_eq i).trans (hprobed.index_eq i)
  frameSize_le i := by
    rw [h.hasFeature_eq, h.hasFeature_eq, h.hfSizeRx_eq]
    exact hprobed.frameSize_le i

end SameSetup

end Dev

end GsUsb.Driver
