/-
# MODE commands under interleaving

`gsusb_channel_start` sends START while it holds `start_lock`; `gsusb_channel_stop` sends
RESET after it released it.  A start that overtakes the RESET of an earlier stop leaves a
channel that the host believes started and the device has reset.  As long as no start
overtakes, host and device agree once all calls have returned.
-/

import GsUsb.Driver.Concurrent
import Mathlib.Data.Fin.VecNotation

namespace GsUsb.Driver

open GsUsb.Math

/-- The mode a device that applied these requests in order is in on channel `i`, if it
got any for it. -/
def deviceMode (modes : List (ModeRequest × ℤ)) (i : ℕ) : Option UInt32 :=
  ((modes.map Prod.fst).filter fun request => request.wValue = UInt16.ofNat i).getLast?.map
    ModeRequest.mode

/-- One more request sets the mode of its own channel. -/
theorem deviceMode_append (modes : List (ModeRequest × ℤ)) (request : ModeRequest) (rc : ℤ)
    (i : ℕ) : deviceMode (modes ++ [(request, rc)]) i =
      if request.wValue = UInt16.ofNat i then some request.mode else deviceMode modes i := by
  rw [deviceMode, List.map_append, List.filter_append]
  by_cases h : request.wValue = UInt16.ofNat i
  · simp [h]
  · simp [h, deviceMode]

namespace Machine

variable {n m : ℕ}

/-- Host and device agree on which channels are started. -/
def ModesAgree (M : Machine n m) : Prop :=
  ∀ i : Fin n, (M.host.dev.channel i).started = true ↔
    deviceMode M.host.world.modes i = some gsCanModeStart

/-- A stop of channel `i` that released the lock and has not sent its RESET. -/
def ResetPending (requests : Fin m → Request n) (M : Machine n m) (i : Fin n) : Prop :=
  ∃ k stopReader, requests k = .stop i ∧ M.pc k = .reset stopReader

/-- A start that passes its check while a RESET of its channel is pending. -/
def Overtaking (requests : Fin m → Request n) (M : Machine n m) : Event m → Prop
  | .call k =>
    match requests k with
    | .start i modeFlags =>
      M.pc k = .called ∧ Host.startCheck M.host.dev i modeFlags = 0 ∧
        M.ResetPending requests i
    | .stop _ => False
  | .reader _ _ => False

instance decidableResetPending (requests : Fin m → Request n) (M : Machine n m) (i : Fin n) :
    Decidable (M.ResetPending requests i) :=
  decidable_of_iff (∃ k, requests k = .stop i ∧ (M.pc k = .reset true ∨ M.pc k = .reset false))
    (by simp [ResetPending, Bool.exists_bool, or_comm])

instance decidableOvertaking (requests : Fin m → Request n) (M : Machine n m) :
    ∀ e, Decidable (M.Overtaking requests e)
  | .call k =>
    match h : requests k with
    | .start i modeFlags =>
      decidable_of_iff (M.pc k = .called ∧ Host.startCheck M.host.dev i modeFlags = 0 ∧
        M.ResetPending requests i) (by simp [Overtaking, h])
    | .stop _ => isFalse (by simp [Overtaking, h])
  | .reader _ _ => isFalse id

variable {requests : Fin m → Request n} {M M' : Machine n m}

/-- Host and device agree up to pending RESETs, of channels that are stopped. -/
structure InStep (requests : Fin m → Request n) (M : Machine n m) : Prop where
  counts : M.host.dev.CountsStarted
  probed : M.host.dev.Probed
  pending : ∀ i, M.ResetPending requests i → (M.host.dev.channel i).started = false
  started : ∀ i : Fin n, (M.host.dev.channel i).started = true →
    deviceMode M.host.world.modes i = some gsCanModeStart
  stopped : ∀ i : Fin n, (M.host.dev.channel i).started = false →
    deviceMode M.host.world.modes i ≠ some gsCanModeStart ∨ M.ResetPending requests i

/-- A pending RESET of another call, or of this one if it moved there. -/
theorem ResetPending.of_move {k : Fin m} {pc : Pc} {i : Fin n}
    (hmove : M'.pc = Function.update M.pc k pc) (h : M'.ResetPending requests i) :
    M.ResetPending requests i ∨ (requests k = .stop i ∧ ∃ stopReader, pc = .reset stopReader) := by
  obtain ⟨j, stopReader, hrequest, hpc⟩ := h
  rw [hmove] at hpc
  by_cases hjk : j = k
  · rw [hjk, Function.update_self] at hpc
    exact .inr ⟨hjk ▸ hrequest, stopReader, hpc⟩
  · rw [Function.update_of_ne hjk] at hpc
    exact .inl ⟨j, stopReader, hrequest, hpc⟩

/-- A RESET stays pending while another call moves. -/
theorem ResetPending.move {i : Fin n} (h : M.ResetPending requests i) {k : Fin m} {pc : Pc}
    (hmove : M'.pc = Function.update M.pc k pc)
    (hk : requests k ≠ .stop i ∨ ∀ stopReader, M.pc k ≠ .reset stopReader) :
    M'.ResetPending requests i := by
  obtain ⟨j, stopReader, hrequest, hpc⟩ := h
  have hjk : j ≠ k := by
    rintro rfl
    rcases hk with hother | hpc'
    · exact hother hrequest
    · exact hpc' stopReader hpc
  refine ⟨j, stopReader, hrequest, ?_⟩
  rw [hmove, Function.update_of_ne hjk]
  exact hpc

/-- What a step that neither sends a request nor starts or stops a channel keeps. -/
theorem InStep.goto (h : M.InStep requests) {k : Fin m} {pc : Pc} {host : Host n}
    (hold : ∀ stopReader, M.pc k ≠ .reset stopReader) (hnew : ∀ stopReader, pc ≠ .reset stopReader)
    (hcounts : host.dev.CountsStarted) (hprobed : host.dev.Probed)
    (hstarted : ∀ i, (host.dev.channel i).started = (M.host.dev.channel i).started)
    (hmodes : host.world.modes = M.host.world.modes) : (M.goto k pc host).InStep requests where
  counts := hcounts
  probed := hprobed
  pending i hi := by
    rcases ResetPending.of_move rfl hi with hpending | ⟨-, stopReader, hreset⟩
    · exact (hstarted i).trans (h.pending i hpending)
    · exact absurd hreset (hnew stopReader)
  started i hi := by
    show deviceMode host.world.modes i = _
    rw [hmodes]
    exact h.started i ((hstarted i).symm.trans hi)
  stopped i hi := by
    show deviceMode host.world.modes i ≠ _ ∨ _
    rw [hmodes]
    rcases h.stopped i ((hstarted i).symm.trans hi) with hmode | hpending
    · exact .inl hmode
    · exact .inr (hpending.move rfl (.inr hold))

/-- A start that passes its check while no RESET of its channel is pending. -/
theorem InStep.start (h : M.InStep requests) {k : Fin m} {i : Fin n} {modeFlags : UInt32}
    (hpc : M.pc k = .called) (hpending : ¬ M.ResetPending requests i) {rc : ℤ}
    {dev : Dev n} {world : World} {readers : List ReaderPhase} (hcounts : dev.CountsStarted)
    (hprobed : dev.Probed)
    (hstarted : ∀ j, (dev.channel j).started = ((M.host.dev.markStarted i).channel j).started)
    (hmodes : world.modes = M.host.world.modes ++
      [(startRequest (M.host.dev.channel i) modeFlags, (gsDeviceModeSize : ℤ))]) :
    InStep requests ⟨⟨dev, world⟩, readers, Function.update M.pc k (.returned rc)⟩ := by
  have hcalled : ∀ stopReader, M.pc k ≠ .reset stopReader := fun _ => by rw [hpc]; nofun
  have hmode (j : Fin n) : deviceMode world.modes j =
      if i = j then some gsCanModeStart else deviceMode M.host.world.modes j := by
    rw [hmodes, deviceMode_append]
    exact if_congr h.probed.wValue_eq_iff rfl rfl
  refine ⟨hcounts, hprobed, ?_, ?_, ?_⟩
  · intro j hj
    rcases ResetPending.of_move rfl hj with hold | ⟨-, stopReader, hreset⟩
    · have hne : i ≠ j := by
        rintro rfl
        exact hpending hold
      show (dev.channel j).started = false
      rw [hstarted, Dev.started_markStarted, h.pending j hold]
      simpa using hne
    · cases hreset
  · intro j hj
    show deviceMode world.modes j = _
    rw [hmode]
    by_cases hij : i = j
    · rw [if_pos hij]
    · rw [if_neg hij]
      replace hj : (dev.channel j).started = true := hj
      rw [hstarted, Dev.started_markStarted] at hj
      exact h.started j (by simpa [hij] using hj)
  · intro j hj
    replace hj : (dev.channel j).started = false := hj
    rw [hstarted, Dev.started_markStarted] at hj
    have hij : i ≠ j := by
      rintro rfl
      simp at hj
    show deviceMode world.modes j ≠ _ ∨ _
    rw [hmode, if_neg hij]
    rcases h.stopped j (by simpa [hij] using hj) with hold | hold
    · exact .inl hold
    · exact .inr (hold.move rfl (.inr hcalled))

/-- The first section of a stop makes its RESET pending. -/
theorem InStep.stop (h : M.InStep requests) {k : Fin m} {i : Fin n}
    (hrequest : requests k = .stop i) (hpc : M.pc k = .called) {stopReader : Bool}
    {dev : Dev n} (hcounts : dev.CountsStarted) (hprobed : dev.Probed)
    (hstarted : ∀ j, (dev.channel j).started = ((M.host.dev.markStopped i).channel j).started) :
    (M.goto k (.reset stopReader) ⟨dev, M.host.world⟩).InStep requests := by
  have hcalled : ∀ stopReader, M.pc k ≠ .reset stopReader := fun _ => by rw [hpc]; nofun
  refine ⟨hcounts, hprobed, ?_, ?_, ?_⟩
  · intro j hj
    show (dev.channel j).started = false
    rw [hstarted, Dev.started_markStopped]
    rcases ResetPending.of_move rfl hj with hold | ⟨hsame, -⟩
    · rw [h.pending j hold, Bool.and_false]
    · cases hrequest.symm.trans hsame
      simp
  · intro j hj
    replace hj : (dev.channel j).started = true := hj
    rw [hstarted, Dev.started_markStopped, Bool.and_eq_true] at hj
    exact h.started j hj.2
  · intro j hj
    by_cases hij : i = j
    · refine .inr ⟨k, stopReader, hij ▸ hrequest, ?_⟩
      show Function.update M.pc k _ k = _
      rw [Function.update_self]
    · replace hj : (dev.channel j).started = false := hj
      rw [hstarted, Dev.started_markStopped] at hj
      rcases h.stopped j (by simpa [hij] using hj) with hold | hold
      · exact .inl hold
      · exact .inr (hold.move rfl (.inr hcalled))

/-- Sending the pending RESET brings host and device together. -/
theorem InStep.reset (h : M.InStep requests) {k : Fin m} {i : Fin n}
    (hrequest : requests k = .stop i) {stopReader : Bool} (hpc : M.pc k = .reset stopReader) :
    (M.goto k (if stopReader then .join else .returned 0)
      (M.host.stopReset i gsDeviceModeSize)).InStep requests := by
  have hnot : ∀ b, (if stopReader then Pc.join else .returned 0) ≠ .reset b := by
    cases stopReader <;> nofun
  have hstopped := h.pending i ⟨k, stopReader, hrequest, hpc⟩
  have hmode (j : Fin n) : deviceMode (M.host.stopReset i gsDeviceModeSize).world.modes j =
      if i = j then some gsCanModeReset else deviceMode M.host.world.modes j := by
    show deviceMode (M.host.world.modes ++ _) j = _
    rw [deviceMode_append]
    exact if_congr h.probed.wValue_eq_iff rfl rfl
  refine ⟨h.counts, h.probed, ?_, ?_, ?_⟩
  · intro j hj
    rcases ResetPending.of_move rfl hj with hold | ⟨-, b, hreset⟩
    · exact h.pending j hold
    · exact absurd hreset (hnot b)
  · intro j hj
    replace hj : (M.host.dev.channel j).started = true := hj
    have hij : i ≠ j := by
      rintro rfl
      rw [hstopped] at hj
      cases hj
    show deviceMode (M.host.stopReset i gsDeviceModeSize).world.modes j = _
    rw [hmode, if_neg hij]
    exact h.started j hj
  · intro j hj
    show deviceMode (M.host.stopReset i gsDeviceModeSize).world.modes j ≠ _ ∨ _
    rw [hmode]
    by_cases hij : i = j
    · rw [if_pos hij]
      exact .inl (by decide)
    · rw [if_neg hij]
      rcases h.stopped j hj with hold | hold
      · exact .inl hold
      · refine .inr (hold.move rfl (.inl ?_))
        rw [hrequest]
        exact fun heq => hij (Request.stop.inj heq)

/-- Readers send no requests. -/
theorem InStep.reader (h : M.InStep requests) {dev : Dev n} {readers : List ReaderPhase}
    (hcounts : dev.CountsStarted) (hprobed : dev.Probed)
    (hstarted : ∀ i, (dev.channel i).started = (M.host.dev.channel i).started) :
    InStep requests ⟨⟨dev, M.host.world⟩, readers, M.pc⟩ where
  counts := hcounts
  probed := hprobed
  pending i hi := (hstarted i).trans (h.pending i hi)
  started i hi := h.started i ((hstarted i).symm.trans hi)
  stopped i hi := h.stopped i ((hstarted i).symm.trans hi)

/-- A start that passes its check and overtakes nothing finds no RESET pending. -/
theorem not_resetPending_of_not_overtaking {k : Fin m} {i : Fin n} {modeFlags : UInt32}
    (hok : ¬ M.Overtaking requests (.call k)) (hrequest : requests k = .start i modeFlags)
    (hpc : M.pc k = .called) (hcheck : Host.startCheck M.host.dev i modeFlags = 0) :
    ¬ M.ResetPending requests i := by
  intro hpending
  rw [Overtaking, hrequest] at hok
  exact hok ⟨hpc, hcheck, hpending⟩

/-- **Every step but an overtaking start keeps host and device in step.** -/
theorem InStep.step (h : M.InStep requests) {e : Event m} (hok : ¬ M.Overtaking requests e)
    (hstep : M.step requests e = some M') : M'.InStep requests := by
  have htransition := Transition.of_step h.counts hstep
  have hcounts := htransition.countsStarted h.counts
  have hprobed := htransition.sameSetup.probed h.probed
  cases htransition with
  | startRefused k i modeFlags hrequest hpc hcheck rc =>
      exact h.goto (fun _ => by rw [hpc]; nofun) nofun hcounts hprobed (fun _ => rfl) rfl
  | startRunning k i modeFlags hrequest hpc hcheck hrunning rc =>
      have hpending := not_resetPending_of_not_overtaking hok hrequest hpc hcheck
      exact h.start hpc hpending hcounts hprobed (fun _ => rfl) rfl
  | startCreated k i modeFlags hrequest hpc hcheck hrunning rc =>
      have hpending := not_resetPending_of_not_overtaking hok hrequest hpc hcheck
      exact h.start hpc hpending hcounts hprobed (fun _ => rfl) rfl
  | stopIdle k i hrequest hpc hstopped =>
      exact h.goto (fun _ => by rw [hpc]; nofun) nofun hcounts hprobed (fun _ => rfl) rfl
  | stopLast k i hrequest hpc hstarted hzero =>
      exact h.stop hrequest hpc hcounts hprobed fun _ => rfl
  | stopOther k i hrequest hpc hstarted hpos =>
      exact h.stop hrequest hpc hcounts hprobed fun _ => rfl
  | reset k i hrequest stopReader hpc => exact h.reset hrequest hpc
  | join k i hrequest hpc =>
      exact h.goto (fun _ => by rw [hpc]; nofun) nofun hcounts hprobed (fun _ => rfl) rfl
  | joined k i hrequest handle hpc hexited =>
      exact h.goto (fun _ => by rw [hpc]; nofun) nofun hcounts hprobed (fun _ => rfl) rfl
  | clear k i hrequest hpc =>
      exact h.goto (fun _ => by rw [hpc]; nofun) nofun hcounts hprobed (fun _ => rfl) rfl
  | readerCheck handle packet hphase => exact h.reader hcounts hprobed fun _ => rfl
  | readerTransfer handle packet hphase dev hdev =>
      apply h.reader hcounts hprobed
      intro j
      rcases hdev with rfl | ⟨i, q, rfl⟩
      · rfl
      · rw [Dev.channel_updateChannel]
        split <;> rfl

/-- An opened device and its host are in step. -/
theorem InStep.init {dev : Dev n} (hopened : dev.Opened) :
    (Machine.init dev : Machine n m).InStep requests where
  counts := (Host.Steady.init hopened).counts
  probed := hopened.toProbed
  pending i _ := hopened.stopped i
  started i hi := by
    cases (hopened.stopped i).symm.trans hi
  stopped _ _ := .inl nofun

/-- Once all calls have returned no RESET is pending, so host and device agree. -/
theorem InStep.modesAgree (h : M.InStep requests) (hreturned : M.Returned) : M.ModesAgree := by
  intro i
  refine ⟨h.started i, fun hmode => ?_⟩
  by_contra hstarted
  rcases h.stopped i (Bool.eq_false_of_not_eq_true hstarted) with hother | hpending
  · exact hother hmode
  · obtain ⟨k, stopReader, -, hpc⟩ := hpending
    obtain ⟨rc, hrc⟩ := hreturned k
    cases hpc.symm.trans hrc

/-- **Modes without overtaking.** In every run of starts and stops in which no start of a
channel passes its check while a stop of that channel has yet to send its RESET, once all
calls have returned the channels started on the host are those in mode START on the
device. -/
theorem modesAgree_of_run {dev : Dev n} (hopened : dev.Opened) {events : List (Event m)}
    (hmeets : Meets (step requests) (fun M e => ¬ M.Overtaking requests e) (init dev) events)
    (hrun : run (step requests) (init dev) events = some M) (hreturned : M.Returned) :
    M.ModesAgree :=
  (run_invariant_of_meets (fun _ _ _ h hok hstep => InStep.step h hok hstep)
    (InStep.init hopened) hmeets hrun).modesAgree hreturned

/-- Two channels start and one of them stops. -/
theorem modesAgree_of_run_twoChannels :
    ∃ M, run (step ![.start 0 0, .start 1 0, .stop 0]) (init twoChannels)
        [.call 0, .call 1, .call 2, .call 2] = some M ∧ M.ModesAgree := by
  obtain ⟨M, hrun, hreturned⟩ : ∃ M,
      run (step ![.start 0 0, .start 1 0, .stop 0]) (init twoChannels)
        [.call 0, .call 1, .call 2, .call 2] = some M ∧ M.Returned :=
    ⟨_, rfl, fun k => ⟨0, by revert k; decide⟩⟩
  exact ⟨M, hrun, modesAgree_of_run opened_twoChannels (by decide) hrun hreturned⟩

/-- A start that overtakes the RESET of a stop leaves a channel that is started on the
host and reset on the device. -/
theorem not_modesAgree_overtaking :
    ∃ M, run (step ![.start 0 0, .start 1 0, .stop 0, .start 0 0]) (init twoChannels)
        [.call 0, .call 1, .call 2, .call 3, .call 2] = some M ∧
      M.Returned ∧ ¬ M.ModesAgree := by
  refine ⟨_, rfl, fun k => ⟨0, by revert k; decide⟩, ?_⟩
  intro hagree
  exact absurd ((hagree 0).mp rfl) (by decide)

end Machine

end GsUsb.Driver
