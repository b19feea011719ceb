/-
# Starts that fail

`gsusb_channel_start` has four failing exits.  Three leave before the device was commanded
and change nothing.  The last one, a failing `pthread_create`, takes back what the host has
noted but not the START that the device has applied: the channel stays on the bus, and as
the host believes it stopped, neither a stop nor `gsusb_close` will reset it.
-/

import GsUsb.Driver.Lifecycle

namespace GsUsb.Driver

/-- The last MODE request for channel `i` that the device has applied; a request whose
transfer returned an error has no effect. -/
def appliedMode (modes : List (ModeRequest × ℤ)) (i : ℕ) : Option ModeRequest :=
  ((modes.filter fun sent => sent.1.wValue = UInt16.ofNat i ∧
    ctrlResult sent.2 gsDeviceModeSize = 0).map Prod.fst).getLast?

/-- One more request, if it is applied, sets the mode of its own channel. -/
theorem appliedMode_append (modes : List (ModeRequest × ℤ)) (request : ModeRequest) (rc : ℤ)
    (i : ℕ) : appliedMode (modes ++ [(request, rc)]) i =
      if request.wValue = UInt16.ofNat i ∧ ctrlResult rc gsDeviceModeSize = 0
      then some request else appliedMode modes i := by
  rw [appliedMode, List.filter_append, List.map_append]
  by_cases h : request.wValue = UInt16.ofNat i ∧ ctrlResult rc gsDeviceModeSize = 0
  · simp [h]
  · simp [h, appliedMode]

namespace Host

variable {n : ℕ}

/-- What a failed start of channel `i` may not change. -/
structure Unchanged (host host' : Host n) (i : Fin n) : Prop where
  started_eq : (host'.dev.channel i).started = (host.dev.channel i).started
  activeChannels_eq : host'.dev.activeChannels = host.dev.activeChannels
  readerRunning_eq : host'.dev.readerRunning = host.dev.readerRunning
  /-- The same reader is there, no thread was created and none was joined. -/
  reader_eq : host'.dev.currentReader = host.dev.currentReader ∧
    host'.world.created = host.world.created ∧ host'.world.joined = host.world.joined
  others_eq : ∀ j, j ≠ i → host'.dev.channel j = host.dev.channel j
  mode_eq : ∀ j : Fin n, appliedMode host'.world.modes j = appliedMode host.world.modes j

theorem Unchanged.refl (host : Host n) (i : Fin n) : host.Unchanged host i :=
  ⟨rfl, rfl, rfl, ⟨rfl, rfl, rfl⟩, fun _ _ => rfl, fun _ => rfl⟩

/-- If the start fails it has changed nothing. -/
def FailsCleanly (host : Host n) (i : Fin n) (modeFlags : UInt32) (rc : ℤ)
    (thread : PthreadCreate) : Prop :=
  (host.gsusbChannelStart i modeFlags rc thread).1 ≠ 0 →
    host.Unchanged (host.gsusbChannelStart i modeFlags rc thread).2 i

/-- The start sends its request and then finds no thread to be had. -/
def FindsNoThread (host : Host n) (i : Fin n) (modeFlags : UInt32) (rc : ℤ)
    (thread : PthreadCreate) : Prop :=
  startCheck host.dev i modeFlags = 0 ∧ ctrlResult rc gsDeviceModeSize = 0 ∧
    host.dev.readerRunning = false ∧ ∃ handle, thread = .failed handle

section Exits

variable {host : Host n} {i : Fin n} {modeFlags : UInt32} {rc : ℤ} {thread : PthreadCreate}

/-- What `appliedMode` sees of a START. -/
theorem appliedMode_sendMode_start (hprobed : host.dev.Probed) (j : Fin n) :
    appliedMode (host.world.sendMode (startRequest (host.dev.channel i) modeFlags) rc).modes j =
      if i = j ∧ ctrlResult rc gsDeviceModeSize = 0
      then some (startRequest (host.dev.channel i) modeFlags)
      else appliedMode host.world.modes j := by
  show appliedMode (host.world.modes ++ _) j = _
  rw [appliedMode_append]
  exact if_congr (and_congr_left' hprobed.wValue_eq_iff) rfl rfl

/-- A start whose request fails changes nothing. -/
theorem Unchanged.of_failed_request (hprobed : host.dev.Probed)
    (hrc : ctrlResult rc gsDeviceModeSize ≠ 0) :
    host.Unchanged
      ⟨host.dev, host.world.sendMode (startRequest (host.dev.channel i) modeFlags) rc⟩ i where
  started_eq := rfl
  activeChannels_eq := rfl
  readerRunning_eq := rfl
  reader_eq := ⟨rfl, rfl, rfl⟩
  others_eq _ _ := rfl
  mode_eq j := by
    rw [appliedMode_sendMode_start hprobed, if_neg fun h => hrc h.2]

/-- A start without a thread takes back all but the mode. -/
theorem unchanged_of_findsNoThread (hprobed : host.dev.Probed)
    (h : host.FindsNoThread i modeFlags rc thread) :
    host.Unchanged (host.gsusbChannelStart i modeFlags rc thread).2 i ↔
      appliedMode host.world.modes i = some (startRequest (host.dev.channel i) modeFlags) := by
  obtain ⟨hcheck, hrc, hrunning, handle, rfl⟩ := h
  obtain ⟨hne, -⟩ | ⟨-, htrue, -⟩ | ⟨-, -, handle', -, heq⟩ | ⟨-, -, hcreated, -⟩ :=
    gsusbChannelStart_cases hcheck rc (.failed handle)
  · exact absurd hrc hne
  · rw [hrunning] at htrue
    cases htrue
  · rw [heq]
    constructor
    · intro hunchanged
      have hmode := hunchanged.mode_eq i
      rw [appliedMode_sendMode_start hprobed, if_pos ⟨rfl, hrc⟩] at hmode
      exact hmode.symm
    · intro hmode
      refine ⟨?_, host.dev.activeChannels_markStopped_markStarted i, hrunning.symm, ?_, ?_, ?_⟩
      · show (((host.dev.markStarted i).markStopped i).channel i).started = _
        rw [Dev.started_markStopped, started_of_startCheck hcheck]
        simp
      · refine ⟨?_, rfl, rfl⟩
        rw [Dev.currentReader, Dev.currentReader, hrunning]
        rfl
      · intro j hj
        show ((host.dev.markStarted i).markStopped i).channel j = _
        rw [Dev.channel_markStopped, if_neg hj.symm, Dev.channel_markStarted, if_neg hj.symm]
      · intro j
        rw [appliedMode_sendMode_start hprobed]
        by_cases hij : i = j
        · rw [if_pos ⟨hij, hrc⟩, ← hij, hmode]
        · rw [if_neg fun h => hij h.1]
  · cases hcreated

/-- A start that fails before it looks for a thread changes nothing. -/
theorem failsCleanly_of_not_findsNoThread (hprobed : host.dev.Probed)
    (h : ¬ host.FindsNoThread i modeFlags rc thread) :
    host.FailsCleanly i modeFlags rc thread := by
  intro hfailed
  by_cases hcheck : startCheck host.dev i modeFlags = 0
  · rw [Ne, gsusbChannelStart_fst_eq_zero_iff hcheck] at hfailed
    rcases gsusbChannelStart_cases hcheck rc thread with
      ⟨hrc, heq⟩ | ⟨hrc, hrunning, -⟩ | ⟨hrc, hrunning, hthread⟩ | ⟨hrc, -, hcreated, -⟩
    · rw [heq]
      exact .of_failed_request hprobed hrc
    · exact absurd ⟨hrc, .inl hrunning⟩ hfailed
    · obtain ⟨handle, hhandle, -⟩ := hthread
      exact absurd ⟨hcheck, hrc, hrunning, handle, hhandle⟩ h
    · exact absurd ⟨hrc, .inr hcreated⟩ hfailed
  · rw [gsusbChannelStart_of_check hcheck]
    exact .refl host i

/-- Without a thread the start fails. -/
theorem FindsNoThread.fst_ne_zero (h : host.FindsNoThread i modeFlags rc thread) :
    (host.gsusbChannelStart i modeFlags rc thread).1 ≠ 0 := by
  obtain ⟨hcheck, -, hrunning, handle, rfl⟩ := h
  rw [Ne, gsusbChannelStart_fst_eq_zero_iff hcheck, hrunning]
  rintro ⟨-, hfalse | hcreated⟩
  · cases hfalse
  · cases hcreated

end Exits

/-- **Exactly when a failed start changes nothing.** After any calls on an opened device, a
start that fails changes nothing unless it finds no thread after its request was applied,
and in that case only if the device was in the requested mode before. -/
theorem failsCleanly_iff {dev : Dev n} (hopened : dev.Opened) (cs : List (Call n)) (i : Fin n)
    (modeFlags : UInt32) (rc : ℤ) (thread : PthreadCreate) :
    let host := (Host.init dev).calls cs
    host.FailsCleanly i modeFlags rc thread ↔
      (host.FindsNoThread i modeFlags rc thread →
        appliedMode host.world.modes i =
          some (startRequest (host.dev.channel i) modeFlags)) := by
  intro host
  have hprobed : host.dev.Probed :=
    ((Steady.init hopened).sameSetup_calls cs).probed hopened.toProbed
  by_cases h : host.FindsNoThread i modeFlags rc thread
  · constructor
    · intro hclean _
      exact (unchanged_of_findsNoThread hprobed h).mp (hclean h.fst_ne_zero)
    · intro hmode _
      exact (unchanged_of_findsNoThread hprobed h).mpr (hmode h)
  · exact iff_of_true (failsCleanly_of_not_findsNoThread hprobed h) fun h' => absurd h' h

end Host

/-- A start that fails in its transfer. -/
theorem failsCleanly_iff_transfer :
    ((Host.init twoChannels).calls [.start 0 0 8 .created]).FailsCleanly 1 0 (-7) .created :=
  (Host.failsCleanly_iff opened_twoChannels _ 1 0 (-7) .created).mpr
    fun h => absurd h.2.1 (by decide)

/-- The first start of an opened device finds no thread: the host believes the channel
stopped, the device has it started. -/
theorem not_failsCleanly_firstStart :
    let host := (Host.init twoChannels).calls []
    let host' := (host.gsusbChannelStart 0 0 8 (.failed none)).2
    ¬ host.FailsCleanly 0 0 8 (.failed none) ∧ (host'.dev.channel 0).started = false ∧
      appliedMode host'.world.modes 0 = some ⟨0, gsCanModeStart, 0⟩ := by
  refine ⟨?_, rfl, by decide⟩
  intro hclean
  have hmode := (hclean (by decide)).mode_eq 0
  exact absurd hmode (by decide)

end GsUsb.Driver
