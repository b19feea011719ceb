/-
# What opening and closing hold

On its way `gsusb_open` acquires one resource after the other, any of which it may fail to get,
and each of its exits has to give back what the ones before it left.  `gsusb_close` gives back the
rest.
-/

import GsUsb.Driver.OpenTrace
import GsUsb.Math.Ledger

namespace GsUsb.Driver

open GsUsb.Math GsUsb.Math.Lifetime

/-- What a resource is a part of, or is held by. -/
def Resource.owners : Resource → List Resource
  | .claim => [.handle]
  | .channels => [.dev]
  | .queueBuf _ | .queueLock _ | .queueCond _ => [.channels]
  | .startLock => [.dev]
  | .deviceList | .handle | .config | .dev => []

/-- The locks and conditions that pthread initialises. -/
def Resource.isPthread : Resource → Bool
  | .queueLock _ | .queueCond _ | .startLock => true
  | .deviceList | .handle | .claim | .config | .dev | .channels | .queueBuf _ => false

/-- What a call does to the resources; one that fails acquires nothing. -/
def LibCall.events : LibCall → List (Lifetime.Event Resource)
  | .acquire r ok => r.owners.map .use ++ if ok then [.acquire r r.owners] else []
  | .use r => [.use r]
  | .request _ _ => [.use .dev, .use .handle, .use .claim]
  | .release r => [.release r]

/-- What the code takes a call to do: the result of `pthread_mutex_init` and of
`pthread_cond_init` does not count. -/
def LibCall.assumed : LibCall → List (Lifetime.Event Resource)
  | .acquire r ok => (LibCall.acquire r (ok || r.isPthread)).events
  | c => c.events

@[simp]
theorem assumed_use (r : Resource) : (LibCall.use r).assumed = [.use r] := rfl

@[simp]
theorem assumed_release (r : Resource) : (LibCall.release r).assumed = [.release r] := rfl

@[simp]
theorem assumed_request (breq : UInt8) (wValue : UInt16) :
    (LibCall.request breq wValue).assumed = [.use .dev, .use .handle, .use .claim] := rfl

@[simp]
theorem assumed_acquire (r : Resource) (ok : Bool) : (LibCall.acquire r ok).assumed =
    r.owners.map .use ++ if (ok || r.isPthread) then [.acquire r r.owners] else [] := rfl

attribute [simp] Resource.owners Resource.isPthread

/-- Nothing depends on the resource. -/
@[simp]
abbrev Resource.isLeaf : Resource → Bool
  | .handle | .dev | .channels => false
  | .deviceList | .claim | .config | .queueBuf _ | .queueLock _ | .queueCond _ | .startLock => true

section Release

variable {l : Resource → Status}

@[simp]
theorem ok_release_of_isLeaf {r : Resource} (hleaf : r.isLeaf = true) :
    Ok Resource.owners l (.release r) ↔ l r = .held := by
  apply and_iff_left
  intro q hmem
  cases q <;> simp only [Resource.owners, List.mem_singleton, List.not_mem_nil] at hmem <;>
    rw [hmem] at hleaf <;> cases hleaf

@[simp]
theorem ok_release_handle :
    Ok Resource.owners l (.release .handle) ↔ l .handle = .held ∧ l .claim ≠ .held := by
  apply and_congr_right
  intro _
  constructor
  · intro h
    exact h .claim (by decide)
  · intro hclaim q hmem
    cases q with
    | claim => exact hclaim
    | _ => simp at hmem

@[simp]
theorem ok_release_dev : Ok Resource.owners l (.release .dev) ↔
    l .dev = .held ∧ l .channels ≠ .held ∧ l .startLock ≠ .held := by
  apply and_congr_right
  intro _
  constructor
  · intro h
    exact ⟨h .channels (by decide), h .startLock (by decide)⟩
  · rintro ⟨hchannels, hlock⟩ q hmem
    cases q with
    | channels => exact hchannels
    | startLock => exact hlock
    | _ => simp at hmem

@[simp]
theorem ok_release_channels : Ok Resource.owners l (.release .channels) ↔
    l .channels = .held ∧ ∀ i, l (.queueBuf i) ≠ .held ∧ l (.queueLock i) ≠ .held ∧
      l (.queueCond i) ≠ .held := by
  apply and_congr_right
  intro _
  constructor
  · intro h i
    refine ⟨h (.queueBuf i) ?_, h (.queueLock i) ?_, h (.queueCond i) ?_⟩ <;>
      exact List.mem_singleton_self _
  · intro h q hmem
    cases q with
    | queueBuf i => exact (h i).1
    | queueLock i => exact (h i).2.1
    | queueCond i => exact (h i).2.2
    | _ => simp at hmem

end Release

/-- A part of `gsusb_open` that gets what it asks for and, if it fails, gives all back. -/
abbrev Tidies {α : Type} (l : Resource → Status) (c : Opening α)
    (post : α → (Resource → Status) → Prop) : Prop :=
  Tidy Resource.owners LibCall.assumed l c post

/-- What is held between the first request and the probing loop. -/
def connected : Resource → Status
  | .deviceList | .config => .released
  | .handle | .claim | .dev => .held
  | .channels | .queueBuf _ | .queueLock _ | .queueCond _ | .startLock => .fresh

/-- What queue `i` is when the first `made` queues were set up and the first `gone` of these
destroyed. -/
def queueStatus (made gone i : ℕ) : Status :=
  if i < made then if i < gone then .released else .held else .fresh

/-- What is held then. -/
def queuesUp (startLock : Status) (made gone : ℕ) : Resource → Status
  | .deviceList | .config => .released
  | .handle | .claim | .dev | .channels => .held
  | .queueBuf i | .queueLock i | .queueCond i => queueStatus made gone i
  | .startLock => startLock

namespace Libusb

variable (usb : Libusb) (pthread : PthreadInit)

theorem tidies_connectTraced (vid pid : UInt16) (bus addr : ℤ) :
    Tidies (fun _ => .fresh) (usb.connectTraced vid pid bus addr) fun _ l => l = connected := by
  rw [connectTraced]
  split
  · apply tidy_fail
    · simp
    · simp
  apply Tidy.make_bind
  · simp
  split
  · apply tidy_fail
    · simp
    · intro r
      cases r <;> simp
  rename_i device _
  by_cases hopen : usb.openDevice device = 0
  swap
  · apply Tidy.make_bind
    · simp [hopen]
    rw [if_pos hopen]
    apply tidy_fail
    · exact accepted_nil
    · intro r
      cases r <;> simp [hopen]
  apply Tidy.make_bind
  · simp [hopen]
  rw [if_neg (not_not.mpr hopen)]
  by_cases hclaim : usb.claimInterface = 0
  swap
  · apply Tidy.make_bind
    · simp [hopen, hclaim]
    rw [if_pos hclaim]
    apply tidy_fail
    · simp [hopen, hclaim]
    · intro r
      cases r <;> simp [hopen, hclaim]
  apply Tidy.make_bind
  · simp [hopen, hclaim]
  rw [if_neg (not_not.mpr hclaim)]
  apply Tidy.make_bind
  · simp [hopen, hclaim]
  split
  · apply tidy_fail
    · simp [hopen, hclaim]
    · intro r
      cases r <;> simp [hopen, hclaim]
  apply Tidy.make_bind
  · simp [hopen, hclaim]
  split
  · apply tidy_fail
    · simp [hopen, hclaim]
    · intro r
      cases r <;> simp [hopen, hclaim]
  rcases usb.callocDev with _ | _
  · apply Tidy.make_bind
    · simp [hopen, hclaim]
    apply tidy_fail
    · simp [hopen, hclaim]
    · intro r
      cases r <;> simp [hopen, hclaim]
  · apply Tidy.make_bind
    · simp [hopen, hclaim]
    apply tidy_make
    · simp [hopen, hclaim]
    · funext r
      cases r <;> simp [hopen, hclaim, connected]

end Libusb

section QueueStatus

variable {made gone i j : ℕ}

theorem queueStatus_eq_fresh (hi : made ≤ i) : queueStatus made gone i = .fresh :=
  if_neg (Nat.not_lt.mpr hi)

@[simp]
theorem queueStatus_self : queueStatus i gone i = .fresh := queueStatus_eq_fresh le_rfl

@[simp]
theorem queueStatus_zero : queueStatus 0 gone i = .fresh := queueStatus_eq_fresh (Nat.zero_le i)

theorem queueStatus_eq_held (hi : i < made) (hgone : gone ≤ i) :
    queueStatus made gone i = .held := by
  rw [queueStatus, if_pos hi, if_neg (Nat.not_lt.mpr hgone)]

theorem queueStatus_eq_released (hi : i < made) (hgone : i < gone) :
    queueStatus made gone i = .released := by
  rw [queueStatus, if_pos hi, if_pos hgone]

theorem queueStatus_eq_held_iff : queueStatus made 0 i = .held ↔ i < made := by
  by_cases hi : i < made
  · exact iff_of_true (queueStatus_eq_held hi (Nat.zero_le i)) hi
  · rw [queueStatus_eq_fresh (Nat.not_lt.mp hi)]
    exact iff_of_false nofun hi

/-- No queue is left when as many are gone as were set up. -/
theorem queueStatus_ne_held (hmade : made ≤ gone) : queueStatus made gone i ≠ .held := by
  by_cases hi : i < made
  · rw [queueStatus_eq_released hi (hi.trans_le hmade)]
    exact nofun
  · rw [queueStatus_eq_fresh (Nat.not_lt.mp hi)]
    exact nofun

/-- To set up a queue leaves the others alone. -/
theorem queueStatus_succ_made (hne : j ≠ i) :
    queueStatus (i + 1) gone j = queueStatus i gone j := by
  have hlt : j < i + 1 ↔ j < i := by omega
  exact if_congr hlt rfl rfl

/-- And so does to destroy one. -/
theorem queueStatus_succ_gone (hne : j ≠ i) :
    queueStatus made (i + 1) j = queueStatus made i j := by
  have hlt : j < i + 1 ↔ j < i := by omega
  exact if_congr Iff.rfl (if_congr hlt rfl rfl) rfl

end QueueStatus

/-- A queue that was set up is destroyed. -/
theorem destroyed_rxqDestroy (startLock : Status) {made i : ℕ} (hi : i < made) :
    Accepted Resource.owners (queuesUp startLock made i)
        ((rxqDestroy i).flatMap LibCall.assumed) ∧
      enterAll (queuesUp startLock made i) ((rxqDestroy i).flatMap LibCall.assumed) =
        queuesUp startLock made (i + 1) := by
  have hheld := queueStatus_eq_held hi le_rfl
  have hreleased := queueStatus_eq_released hi (Nat.lt_succ_self i)
  constructor
  · simp [rxqDestroy, queuesUp, hheld]
  · funext r
    cases r with
    | queueBuf j | queueLock j | queueCond j =>
        by_cases hj : j = i
        · subst hj
          simp [rxqDestroy, queuesUp, hreleased]
        · simp [rxqDestroy, queuesUp, hj, queueStatus_succ_gone]
    | _ => simp [rxqDestroy, queuesUp]

/-- There is nothing to destroy from the first queue on that was not set up. -/
theorem queuesUp_succ_of_le (startLock : Status) {made i : ℕ} (hi : made ≤ i) :
    queuesUp startLock made (i + 1) = queuesUp startLock made i := by
  funext r
  cases r with
  | queueBuf j | queueLock j | queueCond j =>
      by_cases hj : j = i
      · subst hj
        simp only [queuesUp, queueStatus_eq_fresh hi]
      · simp only [queuesUp, queueStatus_succ_gone hj]
  | _ => rfl

/-- The device, its claim and its handle are given back when nothing depends on them. -/
theorem tidied_failFreeDev {l : Resource → Status} (hclaim : l .claim = .held)
    (hhandle : l .handle = .held) (hdev : l .dev = .held)
    (hothers : ∀ r ∉ [Resource.claim, .handle, .dev], l r ≠ .held) :
    Accepted Resource.owners l (failFreeDev.flatMap LibCall.assumed) ∧
      ∀ r, enterAll l (failFreeDev.flatMap LibCall.assumed) r ≠ .held := by
  constructor
  · have hchannels := hothers .channels (by decide)
    have hlock := hothers .startLock (by decide)
    simp [failFreeDev, hclaim, hhandle, hdev, hchannels, hlock]
  · intro r
    by_cases hmem : r ∈ [Resource.claim, .handle, .dev]
    · simp only [List.mem_cons, List.not_mem_nil, or_false] at hmem
      rcases hmem with rfl | rfl | rfl <;> simp [failFreeDev]
    · have hne := hothers r hmem
      simp only [List.mem_cons, List.not_mem_nil, or_false, not_or] at hmem
      simpa [failFreeDev, Function.update_of_ne, hmem] using hne

/-- The channels may go when every queue that was set up is gone. -/
theorem ok_release_channels_queuesUp (startLock : Status) {n made : ℕ} (hmade : made ≤ n) :
    Ok Resource.owners (queuesUp startLock made n) (.release .channels) := by
  have hgone (i : ℕ) := queueStatus_ne_held (i := i) hmade
  exact ok_release_channels.mpr ⟨rfl, fun i => ⟨hgone i, hgone i, hgone i⟩⟩

/-- What is held then. -/
theorem queuesUp_ne_held {startLock : Status} (hlock : startLock ≠ .held) {n made : ℕ}
    (hmade : made ≤ n) {r : Resource} (hr : r ∉ [Resource.claim, .handle, .dev, .channels]) :
    queuesUp startLock made n r ≠ .held := by
  cases r with
  | queueBuf i | queueLock i | queueCond i => exact queueStatus_ne_held hmade
  | startLock => exact hlock
  | deviceList | config => exact nofun
  | _ => simp at hr

/-- The cleanup after a failure in the middle of the loop, where some queues were set up. -/
theorem tidied_failFreeChannels {n made : ℕ} (hmade : made ≤ n) :
    let calls := failFreeChannels n fun i => decide (i < made)
    Accepted Resource.owners (queuesUp .fresh made 0) (calls.flatMap LibCall.assumed) ∧
      ∀ r, enterAll (queuesUp .fresh made 0) (calls.flatMap LibCall.assumed) r ≠ .held := by
  intro calls
  have hpass (i : Fin n) :
      let body := (LibCall.use .dev :: .use .channels ::
        if decide ((i : ℕ) < made) then rxqDestroy i else []).flatMap LibCall.assumed
      Accepted Resource.owners (queuesUp .fresh made i) body ∧
        enterAll (queuesUp .fresh made i) body = queuesUp .fresh made (i + 1) := by
    by_cases hi : (i : ℕ) < made
    · rw [if_pos (decide_eq_true hi)]
      obtain ⟨haccepted, hend⟩ := destroyed_rxqDestroy .fresh hi
      exact ⟨⟨rfl, rfl, haccepted⟩, hend⟩
    · rw [if_neg (by simpa using hi)]
      exact ⟨⟨rfl, rfl, trivial⟩, (queuesUp_succ_of_le .fresh (not_lt.mp hi)).symm⟩
  obtain ⟨hloop, hend⟩ := accepted_flatMap_finRange hpass
  have hchannels := ok_release_channels_queuesUp .fresh hmade
  obtain ⟨hdev, hnone⟩ := tidied_failFreeDev
    (l := enter (queuesUp .fresh made n) (.release .channels)) rfl rfl rfl <| by
      intro r hmem
      by_cases hr : r = .channels
      · simp [hr]
      · rw [enter_release, Function.update_of_ne hr]
        apply queuesUp_ne_held (show Status.fresh ≠ .held by decide) hmade
        simpa [hr] using hmem
  have hcalls : calls.flatMap LibCall.assumed =
      (List.finRange n).flatMap (fun i : Fin n => (LibCall.use .dev :: .use .channels ::
        if decide ((i : ℕ) < made) then rxqDestroy i else []).flatMap LibCall.assumed) ++
      (.use .dev :: .release .channels :: failFreeDev.flatMap LibCall.assumed) := by
    simp only [calls, failFreeChannels, List.flatMap_append, List.flatMap_assoc, List.append_assoc]
    rfl
  rw [hcalls, accepted_append, enterAll_append, hend]
  exact ⟨⟨hloop, rfl, hchannels, hdev⟩, hnone⟩

/-- One more queue is set up. -/
theorem queuesUp_zero_succ (startLock : Status) (i : ℕ) :
    queuesUp startLock (i + 1) 0 = Function.update (Function.update (Function.update
      (queuesUp startLock i 0) (.queueBuf i) .held) (.queueLock i) .held) (.queueCond i) .held := by
  funext r
  cases r with
  | queueBuf j | queueLock j | queueCond j =>
      by_cases hj : j = i
      · subst hj
        simp [queuesUp, queueStatus_eq_held (Nat.lt_succ_self j) (Nat.zero_le j)]
      · simp [queuesUp, hj, queueStatus_succ_made]
  | _ => simp [queuesUp]

namespace Libusb

variable (usb : Libusb) (pthread : PthreadInit) {n i : ℕ}

/-- A request to a device that is there leaves all as it is. -/
theorem tidies_request {α : Type} {l : Resource → Status} {breq : UInt8} {wValue : UInt16}
    {f : PUnit → Opening α} {post : α → (Resource → Status) → Prop} (hdev : l .dev = .held)
    (hhandle : l .handle = .held) (hclaim : l .claim = .held) (hf : Tidies l (f ⟨⟩) post) :
    Tidies l (Traced.make [.request breq wValue] >>= f) post := by
  apply Tidy.make_bind
  · exact ⟨hdev, hhandle, hclaim, trivial⟩
  · exact hf

theorem tidies_addQueue (hi : i < n) (ch : Channel) :
    Tidies (queuesUp .fresh i 0) (usb.addQueue pthread n i (fun j => decide (j < i)) ch)
      fun _ l => l = queuesUp .fresh (i + 1) 0 := by
  rw [addQueue, rxqInit]
  rcases usb.callocQueue i with _ | _
  · apply Tidy.make_bind
    · simp [queuesUp]
    have hset : Function.update (fun j => decide (j < i)) i false = fun j => decide (j < i) := by
      rw [Function.update_eq_self_iff]
      simp
    obtain ⟨haccepted, hnone⟩ := tidied_failFreeChannels hi.le
    rw [hset]
    exact tidy_fail haccepted hnone
  · apply Tidy.make_bind
    · simp [queuesUp]
    apply tidy_pure
    rw [queuesUp_zero_succ]
    simp

theorem tidies_probeChannelTraced (hi : i < n) :
    Tidies (queuesUp .fresh i 0) (usb.probeChannelTraced pthread n i fun j => decide (j < i))
      fun _ l => l = queuesUp .fresh (i + 1) 0 := by
  obtain ⟨haccepted, hnone⟩ := tidied_failFreeChannels hi.le
  rw [probeChannelTraced]
  apply Tidy.make_bind
  · simp [queuesUp]
  split
  · exact tidy_fail haccepted hnone
  dsimp only
  split
  · apply tidies_request rfl rfl rfl
    split
    · exact tidy_fail haccepted hnone
    · exact usb.tidies_addQueue pthread hi _
  · exact usb.tidies_addQueue pthread hi _

theorem tidies_probeChannelsTraced {count : ℕ} (hcount : count ≤ n) :
    Tidies (queuesUp .fresh 0 0) (usb.probeChannelsTraced pthread n count)
      fun found l => found.2 = (fun i => decide (i < count)) ∧ l = queuesUp .fresh count 0 := by
  induction count with
  | zero =>
      apply tidy_pure
      simp
  | succ k ih =>
      rw [probeChannelsTraced]
      apply (ih (Nat.le_of_succ_le hcount)).bind
      rintro ⟨⟨channels, size⟩, qBuf⟩ _ ⟨rfl, rfl⟩
      apply (usb.tidies_probeChannelTraced pthread hcount).bind
      rintro ch _ rfl
      apply tidy_pure
      exact ⟨update_decide_lt k, rfl⟩

theorem tidies_probeTraced :
    Tidies connected (usb.probeTraced pthread) fun found l => l = queuesUp .held found.1 0 := by
  obtain ⟨haccepted, hnone⟩ := tidied_failFreeDev (l := connected) rfl rfl rfl <| by
    intro r hmem
    cases r <;> simp [connected] at hmem ⊢
  rw [probeTraced]
  apply tidies_request rfl rfl rfl
  split
  · exact tidy_fail haccepted hnone
  apply tidies_request rfl rfl rfl
  split
  · exact tidy_fail haccepted hnone
  rcases usb.callocChannels with _ | _
  · apply Tidy.make_bind
    · simp [connected]
    · exact tidy_fail haccepted hnone
  apply Tidy.make_bind
  · simp [connected]
  have hstart : enterAll connected
      ([LibCall.use .dev, .acquire .channels true].flatMap LibCall.assumed) =
        queuesUp .fresh 0 0 := by
    funext r
    cases r <;> simp [connected, queuesUp]
  rw [hstart]
  apply (usb.tidies_probeChannelsTraced pthread le_rfl).bind
  rintro ⟨⟨channels, size⟩, qBuf⟩ _ ⟨-, rfl⟩
  apply Tidy.make_bind
  · simp [queuesUp]
  apply tidy_pure
  funext r
  cases r <;> simp [queuesUp]

/-- **Opening tidies up.** What fails gives all back, and what does not ends with the device. -/
theorem tidies_gsusbOpenTraced (vid pid : UInt16) (bus addr : ℤ) :
    Tidies (fun _ => .fresh) (usb.gsusbOpenTraced pthread vid pid bus addr)
      fun found l => l = queuesUp .held found.1 0 := by
  apply (usb.tidies_connectTraced vid pid bus addr).bind
  rintro _ _ rfl
  exact usb.tidies_probeTraced pthread

end Libusb

namespace Dev

variable {n : ℕ} (dev : Dev n)

/-- A pass of `gsusb_close` destroys the queue, whether or not the channel has to be stopped. -/
theorem destroyed_closeChannel (i : Fin n) :
    Accepted Resource.owners (queuesUp .held n i)
        ((dev.closeChannel i).flatMap LibCall.assumed) ∧
      enterAll (queuesUp .held n i) ((dev.closeChannel i).flatMap LibCall.assumed) =
        queuesUp .held n (i + 1) := by
  obtain ⟨haccepted, hend⟩ := destroyed_rxqDestroy .held i.isLt
  rw [closeChannel, List.flatMap_append, accepted_append, enterAll_append]
  split
  · exact ⟨⟨⟨rfl, rfl, rfl, rfl, rfl, trivial⟩, haccepted⟩, hend⟩
  · exact ⟨⟨⟨rfl, rfl, trivial⟩, haccepted⟩, hend⟩

/-- `gsusb_close` after its loop. -/
theorem tidied_closeEnd : let l : Resource → Status := queuesUp .held n n
    let calls : List LibCall := [.use .dev, .release .startLock, .use .dev, .release .channels,
      .use .dev, .release .claim, .use .dev, .release .handle, .release .dev]
    Accepted Resource.owners l (calls.flatMap LibCall.assumed) ∧
      ∀ r, enterAll l (calls.flatMap LibCall.assumed) r ≠ .held := by
  intro l calls
  have hlock : enter l (.release .startLock) = queuesUp .released n n := by
    funext r
    cases r <;> simp [l, queuesUp]
  have hchannels : Ok Resource.owners (enter l (.release .startLock)) (.release .channels) :=
    hlock ▸ ok_release_channels_queuesUp .released le_rfl
  constructor
  · refine ⟨rfl, ?_, rfl, hchannels, rfl, ?_, rfl, ?_, ?_, trivial⟩
    · exact (ok_release_of_isLeaf rfl).mpr rfl
    · exact (ok_release_of_isLeaf rfl).mpr rfl
    · exact ok_release_handle.mpr ⟨rfl, by rintro ⟨⟩⟩
    · exact ok_release_dev.mpr ⟨rfl, by rintro ⟨⟩, by rintro ⟨⟩⟩
  · have hgone : ∀ r ∉ [Resource.claim, .handle, .dev, .channels],
        queuesUp .released n n r ≠ .held := fun r => queuesUp_ne_held (by decide) le_rfl
    intro r
    cases r with
    | queueBuf i => exact hgone (.queueBuf i) (by simp)
    | queueLock i => exact hgone (.queueLock i) (by simp)
    | queueCond i => exact hgone (.queueCond i) (by simp)
    | _ => simp [calls, l, queuesUp]

/-- **Closing tidies up.** `gsusb_close` leaves nothing held, in whatever state the channels
are. -/
theorem tidied_gsusbCloseCalls :
    Accepted Resource.owners (queuesUp .held n 0) (dev.gsusbCloseCalls.flatMap LibCall.assumed) ∧
      ∀ r, enterAll (queuesUp .held n 0) (dev.gsusbCloseCalls.flatMap LibCall.assumed) r ≠
        .held := by
  let start : List LibCall := [.use .dev, .use .startLock] ++
    if dev.readerRunning then [.use .dev, .use .handle, .use .channels, .use .startLock] else []
  have hstart : Accepted Resource.owners (queuesUp .held n 0) (start.flatMap LibCall.assumed) ∧
      enterAll (queuesUp .held n 0) (start.flatMap LibCall.assumed) = queuesUp .held n 0 := by
    rcases hrunning : dev.readerRunning with _ | _ <;> simp [start, hrunning, queuesUp]
  obtain ⟨hloop, hend⟩ := accepted_flatMap_finRange dev.destroyed_closeChannel
  obtain ⟨hrest, hnone⟩ := tidied_closeEnd (n := n)
  have hcalls : dev.gsusbCloseCalls.flatMap LibCall.assumed = start.flatMap LibCall.assumed ++
      (List.finRange n).flatMap (fun i => (dev.closeChannel i).flatMap LibCall.assumed) ++
      [.use .dev, .release .startLock, .use .dev, .release .channels, .use .dev, .release .claim,
        .use .dev, .release .handle, .release .dev].flatMap LibCall.assumed := by
    simp only [gsusbCloseCalls, start, List.flatMap_append, List.flatMap_assoc]
  simp only [hcalls, accepted_append, enterAll_append, hstart.2, hend]
  exact ⟨⟨⟨hstart.1, hloop⟩, hrest⟩, hnone⟩

end Dev

/-- Every `pthread_mutex_init` and `pthread_cond_init` among these calls succeeds. -/
def InitsSucceed (calls : List LibCall) : Prop :=
  ∀ r, LibCall.acquire r false ∈ calls → r.isPthread = false

section Inits

variable {calls : List LibCall} {r : Resource}

/-- Then the code is right about what it holds. -/
theorem InitsSucceed.flatMap_events (h : InitsSucceed calls) :
    calls.flatMap LibCall.events = calls.flatMap LibCall.assumed := by
  apply List.flatMap_congr
  intro c hc
  cases c with
  | acquire r ok =>
      cases ok with
      | true => rfl
      | false => rw [LibCall.assumed, h r hc, Bool.or_false]
  | use | request | release => rfl

/-- A call releases the same either way. -/
theorem releases_events (c : LibCall) : releases r c.events = releases r c.assumed := by
  cases c with
  | acquire q ok => cases q <;> cases ok <;> rfl
  | use | request | release => rfl

theorem releases_flatMap_events (calls : List LibCall) :
    releases r (calls.flatMap LibCall.events) = releases r (calls.flatMap LibCall.assumed) := by
  induction calls with
  | nil => rfl
  | cons c calls ih =>
      rw [List.flatMap_cons, List.flatMap_cons, releases_append, releases_append, releases_events,
        ih]

/-- A call acquires at most what the code takes it to acquire. -/
theorem acquisitions_events_le (c : LibCall) :
    acquisitions r c.events ≤ acquisitions r c.assumed := by
  cases c with
  | acquire q ok =>
      cases ok with
      | true => exact le_rfl
      | false =>
          cases q <;> exact Nat.zero_le _
  | use | request | release => exact le_rfl

theorem acquisitions_flatMap_events_le (calls : List LibCall) :
    acquisitions r (calls.flatMap LibCall.events) ≤
      acquisitions r (calls.flatMap LibCall.assumed) := by
  induction calls with
  | nil => exact le_rfl
  | cons c calls ih =>
      rw [List.flatMap_cons, List.flatMap_cons, acquisitions_append, acquisitions_append]
      exact Nat.add_le_add (acquisitions_events_le c) ih

/-- An initialiser that fails is one acquisition less. -/
theorem acquisitions_flatMap_events_lt (hr : r.isPthread = true)
    (hfail : LibCall.acquire r false ∈ calls) : acquisitions r (calls.flatMap LibCall.events) <
      acquisitions r (calls.flatMap LibCall.assumed) := by
  obtain ⟨before, after, rfl⟩ := List.append_of_mem hfail
  have hbefore := acquisitions_flatMap_events_le (r := r) before
  have hafter := acquisitions_flatMap_events_le (r := r) after
  have hhere : acquisitions r (LibCall.acquire r false).events <
      acquisitions r (LibCall.acquire r false).assumed := by
    cases r <;> simp [acquisitions, LibCall.events] at hr ⊢
  simp only [List.flatMap_append, List.flatMap_cons, acquisitions_append]
  omega

/-- Calls that are settled if the initialisers are taken to succeed are settled exactly if they
do. -/
theorem settled_events_iff (h : Settled Resource.owners (calls.flatMap LibCall.assumed)) :
    Settled Resource.owners (calls.flatMap LibCall.events) ↔ InitsSucceed calls := by
  constructor
  · intro hsettled r hfail
    by_contra hr
    rw [Bool.not_eq_false] at hr
    have hlt := acquisitions_flatMap_events_lt hr hfail
    rw [← h.released_eq, ← hsettled.released_eq, releases_flatMap_events] at hlt
    exact lt_irrefl _ hlt
  · intro hinits
    rw [hinits.flatMap_events]
    exact h

end Inits

/-! ## The balance -/

/-- What a device with this many channels holds. -/
def Resource.ofDevice (n : ℕ) : Resource → Bool
  | .handle | .claim | .dev | .channels | .startLock => true
  | .queueBuf i | .queueLock i | .queueCond i => decide (i < n)
  | .deviceList | .config => false

/-- After opening a device with `n` channels, exactly what it consists of is held. -/
structure HoldsDevice (n : ℕ) (opened : List (Lifetime.Event Resource)) : Prop where
  accepted : Accepted Resource.owners (fun _ => .fresh) opened
  held_iff : ∀ r, statusAfter opened r = .held ↔ r.ofDevice n = true

/-- Closing it releases exactly that, each once, and nothing stays. -/
structure ReleasesDevice (n : ℕ) (opened closed : List (Lifetime.Event Resource)) : Prop where
  settled : Settled Resource.owners (opened ++ closed)
  releases_eq : ∀ r, releases r closed = if r.ofDevice n then 1 else 0

/-- `gsusb_open` and `gsusb_close` balance, where the calls do this to the resources: a failure
releases all it acquired, and the device that is returned is what is held until it is closed, in
whatever state it is then. -/
structure Balanced (events : LibCall → List (Lifetime.Event Resource)) (usb : Libusb)
    (pthread : PthreadInit) (vid pid : UInt16) (bus addr : ℤ) : Prop where
  failed : ∀ e, usb.gsusbOpen vid pid bus addr = .error e →
    Settled Resource.owners ((usb.gsusbOpenTraced pthread vid pid bus addr).calls.flatMap events)
  opened : ∀ n dev, usb.gsusbOpen vid pid bus addr = .ok ⟨n, dev⟩ →
    HoldsDevice n ((usb.gsusbOpenTraced pthread vid pid bus addr).calls.flatMap events) ∧
      ∀ dev : Dev n,
        ReleasesDevice n ((usb.gsusbOpenTraced pthread vid pid bus addr).calls.flatMap events)
          (dev.gsusbCloseCalls.flatMap events)

theorem queuesUp_held_iff (n : ℕ) (r : Resource) :
    queuesUp .held n 0 r = .held ↔ r.ofDevice n = true := by
  cases r <;> simp [queuesUp, Resource.ofDevice, queueStatus_eq_held_iff]

namespace Dev

variable {n : ℕ} (dev : Dev n)

/-- `gsusb_close` acquires nothing. -/
theorem acquire_notMem_gsusbCloseCalls (r : Resource) (ok : Bool) :
    LibCall.acquire r ok ∉ dev.gsusbCloseCalls := by
  have hpass (i : Fin n) : LibCall.acquire r ok ∉ dev.closeChannel i := by
    rw [closeChannel]
    split <;> simp [rxqDestroy]
  rw [gsusbCloseCalls]
  split <;> simp [hpass]

theorem acquisitions_gsusbCloseCalls (r : Resource) :
    acquisitions r (dev.gsusbCloseCalls.flatMap LibCall.assumed) = 0 := by
  have hnone (calls : List LibCall) (h : ∀ q ok, LibCall.acquire q ok ∉ calls) :
      acquisitions r (calls.flatMap LibCall.assumed) = 0 := by
    induction calls with
    | nil => rfl
    | cons c calls ih =>
        have hrest := ih fun q ok hmem => h q ok (List.mem_cons_of_mem c hmem)
        cases c with
        | acquire q ok => exact absurd List.mem_cons_self (h q ok)
        | use | request | release => exact hrest
  exact hnone _ dev.acquire_notMem_gsusbCloseCalls

/-- Closing cannot fail to acquire anything. -/
theorem initsSucceed_append_gsusbCloseCalls {calls : List LibCall} :
    InitsSucceed (calls ++ dev.gsusbCloseCalls) ↔ InitsSucceed calls := by
  constructor
  · exact fun h r hmem => h r (List.mem_append_left _ hmem)
  · intro h r hmem
    apply h r
    exact (List.mem_append.mp hmem).resolve_right (dev.acquire_notMem_gsusbCloseCalls r false)

theorem initsSucceed_gsusbCloseCalls : InitsSucceed dev.gsusbCloseCalls :=
  fun r hmem => absurd hmem (dev.acquire_notMem_gsusbCloseCalls r false)

end Dev

section Balanced

variable (usb : Libusb) (pthread : PthreadInit) (vid pid : UInt16) (bus addr : ℤ)

/-- Whatever fails, the balance is right for the calls as the code takes them. -/
theorem balanced_assumed : Balanced LibCall.assumed usb pthread vid pid bus addr := by
  obtain ⟨haccepted, hfailed, hdone⟩ := usb.tidies_gsusbOpenTraced pthread vid pid bus addr
  rw [usb.result_gsusbOpenTraced pthread] at hfailed hdone
  constructor
  · intro e he
    exact settled_of_not_held haccepted (hfailed e he)
  · intro n dev hopen
    have hstatus := hdone _ hopen
    refine ⟨⟨haccepted, ?_⟩, ?_⟩
    · intro r
      rw [statusAfter, hstatus]
      exact queuesUp_held_iff n r
    · intro dev
      obtain ⟨hclose, hnone⟩ := dev.tidied_gsusbCloseCalls
      constructor
      · apply settled_of_not_held
        · rw [accepted_append, hstatus]
          exact ⟨haccepted, hclose⟩
        · intro r
          rw [statusAfter, enterAll_append, hstatus]
          exact hnone r
      · intro r
        rw [hclose.releases_eq (dev.acquisitions_gsusbCloseCalls r) (hnone r)]
        exact if_congr (queuesUp_held_iff n r) rfl rfl

/-- If the initialisers succeed, it is right for the calls as they are. -/
theorem balanced_events_of_initsSucceed
    (hinits : InitsSucceed (usb.gsusbOpenTraced pthread vid pid bus addr).calls) :
    Balanced LibCall.events usb pthread vid pid bus addr := by
  obtain ⟨hfailed, hopened⟩ := balanced_assumed usb pthread vid pid bus addr
  have hcalls := hinits.flatMap_events
  constructor
  · rw [hcalls]
    exact hfailed
  · intro n dev hopen
    obtain ⟨hholds, hreleases⟩ := hopened n dev hopen
    rw [hcalls]
    refine ⟨hholds, fun dev => ?_⟩
    rw [dev.initsSucceed_gsusbCloseCalls.flatMap_events]
    exact hreleases dev

/-- One that fails is released all the same, though it was never acquired. -/
theorem initsSucceed_of_balanced_events
    (h : Balanced LibCall.events usb pthread vid pid bus addr) :
    InitsSucceed (usb.gsusbOpenTraced pthread vid pid bus addr).calls := by
  obtain ⟨hfailed, hopened⟩ := balanced_assumed usb pthread vid pid bus addr
  rcases hopen : usb.gsusbOpen vid pid bus addr with e | ⟨n, dev⟩
  · exact (settled_events_iff (hfailed e hopen)).mp (h.failed e hopen)
  · have hassumed := ((hopened n dev hopen).2 dev).settled
    have hsettled := ((h.opened n dev hopen).2 dev).settled
    rw [← List.flatMap_append] at hassumed hsettled
    exact dev.initsSucceed_append_gsusbCloseCalls.mp ((settled_events_iff hassumed).mp hsettled)

/-- **Opening and closing balance.** Whatever fails, and with any number of channels, a failed
`gsusb_open` has released all it acquired, and a device is released by `gsusb_close`, if an
initialiser of pthread counts as acquiring its object whatever it returns; if it does so only when
it succeeds, then the balance is right exactly when all of them do. -/
theorem open_and_close_balanced :
    Balanced LibCall.assumed usb pthread vid pid bus addr ∧
      (Balanced LibCall.events usb pthread vid pid bus addr ↔
        InitsSucceed (usb.gsusbOpenTraced pthread vid pid bus addr).calls) :=
  ⟨balanced_assumed usb pthread vid pid bus addr,
    initsSucceed_of_balanced_events usb pthread vid pid bus addr,
    balanced_events_of_initsSucceed usb pthread vid pid bus addr⟩

end Balanced

/-- An adapter opened while `start_lock` cannot be initialised: the device comes without it, and
`gsusb_close` destroys it all the same. -/
theorem not_balanced_startLock :
    ¬ Balanced LibCall.events fdAdapter ⟨fun _ => true, fun _ => true, false⟩ 0x1d50 0x606f (-1)
      (-1) := by
  intro h
  obtain ⟨dev, hopen⟩ : ∃ dev : Dev 1, fdAdapter.gsusbOpen 0x1d50 0x606f (-1) (-1) =
      .ok ⟨1, dev⟩ := ⟨_, rfl⟩
  have hlock := ((h.opened 1 dev hopen).1.held_iff .startLock).mpr rfl
  have hfresh : statusAfter ((fdAdapter.gsusbOpenTraced ⟨fun _ => true, fun _ => true, false⟩
      0x1d50 0x606f (-1) (-1)).calls.flatMap LibCall.events) .startLock = .fresh := rfl
  cases hfresh.symm.trans hlock

end GsUsb.Driver
