/-
# The reader thread under interleaving

`gsusb_channel_stop` decides under `start_lock` to end the reader, but joins it and
clears `reader_running` later, without the lock.  A start in between believes that a
reader runs.  As long as no start falls into that window, every schedule of starts and
stops keeps exactly one reader for the started channels and joins every other one once.
-/

import GsUsb.Driver.Concurrent
import Mathlib.Data.Fin.VecNotation
import Mathlib.Data.List.Nodup

namespace GsUsb.Driver

open GsUsb.Math

/-- A stop between its decision to end the reader and `reader_running = 0`. -/
def Pc.InWindow : Pc → Prop
  | .reset true | .join | .joining _ | .clear => True
  | _ => False

namespace Machine

variable {n m : ℕ}

/-- No handle is joined twice, and only joined handles are overwritten. -/
structure JoinsOnce (M : Machine n m) : Prop where
  nodup : M.host.world.joined.Nodup
  joined_of_ne : ∀ handle < M.host.world.created,
    some handle ≠ M.host.dev.readerThread → some handle ∈ M.host.world.joined

/-- Exactly one reader has not exited, and it was not told to stop. -/
def OneReader (M : Machine n m) : Prop :=
  (M.readers.filter fun phase => phase ≠ .exited).length = 1 ∧ M.host.dev.stopFlag = false

/-- What is wanted in every state: joins are right, and once all calls have returned a
started channel has its reader. -/
def ReadersRight (M : Machine n m) : Prop :=
  M.JoinsOnce ∧
    (M.Returned → (∃ i, (M.host.dev.channel i).started = true) → M.OneReader)

/-- A start that passes its check while the reader was told to stop but
`reader_running` is still 1. -/
def LateStart (requests : Fin m → Request n) (M : Machine n m) : Event m → Prop
  | .call k =>
    match requests k with
    | .start i modeFlags =>
      M.pc k = .called ∧ Host.startCheck M.host.dev i modeFlags = 0 ∧
        M.host.dev.readerRunning = true ∧ M.host.dev.stopFlag = true
    | .stop _ => False
  | .reader _ _ => False

instance decidableLateStart (requests : Fin m → Request n) (M : Machine n m) :
    ∀ e, Decidable (M.LateStart requests e)
  | .call k =>
    match h : requests k with
    | .start i modeFlags =>
      decidable_of_iff (M.pc k = .called ∧ Host.startCheck M.host.dev i modeFlags = 0 ∧
        M.host.dev.readerRunning = true ∧ M.host.dev.stopFlag = true) (by simp [LateStart, h])
    | .stop _ => isFalse (by simp [LateStart, h])
  | .reader _ _ => isFalse id

/-- No reader: all there were have exited and been joined. -/
structure Idle (M : Machine n m) : Prop where
  running : M.host.dev.readerRunning = false
  active : M.host.dev.activeChannels = 0
  window : ∀ k, ¬ (M.pc k).InWindow
  joined : M.host.world.joined = (List.range M.host.world.created).map some
  readers : M.readers = List.replicate M.host.world.created .exited

/-- A reader serves the started channels; it is the `c`-th, and the ones before it are
gone. -/
structure Serving (M : Machine n m) (c : ℕ) (phase : ReaderPhase) : Prop where
  running : M.host.dev.readerRunning = true
  stopFlag : M.host.dev.stopFlag = false
  window : ∀ k, ¬ (M.pc k).InWindow
  created : M.host.world.created = c + 1
  thread : M.host.dev.readerThread = some c
  joined : M.host.world.joined = (List.range c).map some
  readers : M.readers = List.replicate c .exited ++ [phase]
  alive : phase ≠ .exited

/-- How far a stop that ends the `c`-th reader has come. -/
def StopStage (c : ℕ) (phase : ReaderPhase) (joined : List (Option ℕ)) : Pc → Prop
  | .reset true | .join => joined = (List.range c).map some
  | .joining handle => handle = some c ∧ joined = (List.range (c + 1)).map some
  | .clear => phase = .exited ∧ joined = (List.range (c + 1)).map some
  | _ => False

/-- Call `k` ends the reader, no channel is started, and no other call is at it. -/
structure Ending (M : Machine n m) (k : Fin m) (c : ℕ) (phase : ReaderPhase) : Prop where
  running : M.host.dev.readerRunning = true
  stopFlag : M.host.dev.stopFlag = true
  active : M.host.dev.activeChannels = 0
  window : ∀ j, (M.pc j).InWindow → j = k
  created : M.host.world.created = c + 1
  thread : M.host.dev.readerThread = some c
  stage : StopStage c phase M.host.world.joined (M.pc k)
  readers : M.readers = List.replicate c .exited ++ [phase]

/-- The invariant of all runs without a late start. -/
structure Orderly (M : Machine n m) : Prop where
  counts : M.host.dev.CountsStarted
  stage : M.Idle ∨ (∃ c phase, M.Serving c phase) ∨ ∃ k c phase, M.Ending k c phase

variable {M : Machine n m}

/-- No stop is in the window after a call moved outside it. -/
theorem not_inWindow_update {f : Fin m → Pc} (hwindow : ∀ j, ¬ (f j).InWindow) (k : Fin m)
    {pc : Pc} (hpc : ¬ pc.InWindow) (j : Fin m) : ¬ (Function.update f k pc j).InWindow := by
  by_cases h : j = k
  · rw [h, Function.update_self]
    exact hpc
  · rw [Function.update_of_ne h]
    exact hwindow j

theorem inWindow_of_update {f : Fin m → Pc} {k j : Fin m} {pc : Pc}
    (h : (Function.update f k pc j).InWindow) (hne : j ≠ k) : (f j).InWindow := by
  rwa [Function.update_of_ne hne] at h

theorem StopStage.inWindow {c : ℕ} {phase : ReaderPhase} {joined : List (Option ℕ)} {pc : Pc}
    (hstage : StopStage c phase joined pc) : pc.InWindow := by
  cases pc with
  | reset stopReader =>
      cases stopReader with
      | true => trivial
      | false => exact hstage
  | join | joining | clear => trivial
  | called | returned => exact hstage

/-- A call that moves outside the window and leaves readers and joins alone. -/
theorem Orderly.goto (h : M.Orderly) {k : Fin m} {pc : Pc} {host : Host n}
    (hold : ¬ (M.pc k).InWindow) (hnew : ¬ pc.InWindow) (hdev : host.dev = M.host.dev)
    (hcreated : host.world.created = M.host.world.created)
    (hjoined : host.world.joined = M.host.world.joined) : (M.goto k pc host).Orderly := by
  constructor
  · show host.dev.CountsStarted
    rw [hdev]
    exact h.counts
  rcases h.stage with hidle | ⟨c, phase, hserving⟩ | ⟨k', c, phase, hending⟩
  · left
    exact
      { running := (congrArg Dev.readerRunning hdev).trans hidle.running
        active := (congrArg Dev.activeChannels hdev).trans hidle.active
        window := not_inWindow_update hidle.window k hnew
        joined := by
          show host.world.joined = (List.range host.world.created).map some
          rw [hjoined, hcreated]
          exact hidle.joined
        readers := by
          show M.readers = List.replicate host.world.created .exited
          rw [hcreated]
          exact hidle.readers }
  · right
    left
    exact ⟨c, phase,
      { running := (congrArg Dev.readerRunning hdev).trans hserving.running
        stopFlag := (congrArg Dev.stopFlag hdev).trans hserving.stopFlag
        window := not_inWindow_update hserving.window k hnew
        created := hcreated.trans hserving.created
        thread := (congrArg Dev.readerThread hdev).trans hserving.thread
        joined := hjoined.trans hserving.joined
        readers := hserving.readers
        alive := hserving.alive }⟩
  · right
    right
    have hne : k' ≠ k := by
      rintro rfl
      exact hold hending.stage.inWindow
    refine ⟨k', c, phase,
      { running := (congrArg Dev.readerRunning hdev).trans hending.running
        stopFlag := (congrArg Dev.stopFlag hdev).trans hending.stopFlag
        active := (congrArg Dev.activeChannels hdev).trans hending.active
        window := ?_
        created := hcreated.trans hending.created
        thread := (congrArg Dev.readerThread hdev).trans hending.thread
        stage := ?_
        readers := hending.readers }⟩
    · intro j hj
      have hjk : j ≠ k := by
        rintro rfl
        replace hj : (Function.update M.pc j pc j).InWindow := hj
        rw [Function.update_self] at hj
        exact hnew hj
      exact hending.window j (inWindow_of_update hj hjk)
    · show StopStage c phase host.world.joined (Function.update M.pc k pc k')
      rw [hjoined, Function.update_of_ne hne]
      exact hending.stage

/-- A call in the window is the one that ends the reader. -/
theorem Orderly.ending_of_inWindow (h : M.Orderly) {k : Fin m} (hk : (M.pc k).InWindow) :
    ∃ c phase, M.Ending k c phase := by
  rcases h.stage with hidle | ⟨c, phase, hserving⟩ | ⟨k', c, phase, hending⟩
  · exact absurd hk (hidle.window k)
  · exact absurd hk (hserving.window k)
  · obtain rfl := hending.window k hk
    exact ⟨c, phase, hending⟩

/-- While a channel is started a reader serves it. -/
theorem Orderly.serving_of_started (h : M.Orderly) {i : Fin n}
    (hstarted : (M.host.dev.channel i).started = true) : ∃ c phase, M.Serving c phase := by
  have hpos := h.counts.activeChannels_pos hstarted
  rcases h.stage with hidle | hserving | ⟨k, c, phase, hending⟩
  · rw [hidle.active] at hpos
    exact absurd hpos (by decide)
  · exact hserving
  · rw [hending.active] at hpos
    exact absurd hpos (by decide)

/-- A new channel and a call outside the window leave the reader serving. -/
theorem Serving.goto {c : ℕ} {phase : ReaderPhase} (h : M.Serving c phase) {k : Fin m} {pc : Pc}
    {host : Host n} (hnew : ¬ pc.InWindow)
    (hrunning : host.dev.readerRunning = M.host.dev.readerRunning)
    (hstopFlag : host.dev.stopFlag = M.host.dev.stopFlag)
    (hthread : host.dev.readerThread = M.host.dev.readerThread)
    (hcreated : host.world.created = M.host.world.created)
    (hjoined : host.world.joined = M.host.world.joined) : (M.goto k pc host).Serving c phase where
  running := hrunning.trans h.running
  stopFlag := hstopFlag.trans h.stopFlag
  window := not_inWindow_update h.window k hnew
  created := hcreated.trans h.created
  thread := hthread.trans h.thread
  joined := hjoined.trans h.joined
  readers := h.readers
  alive := h.alive

/-- Without a reader, a start that creates one makes it serve. -/
theorem Idle.serving (h : M.Idle) {k : Fin m} {rc : ℤ} {dev : Dev n} {world : World}
    (hrunning : dev.readerRunning = true) (hstopFlag : dev.stopFlag = false)
    (hthread : dev.readerThread = some M.host.world.created)
    (hcreated : world.created = M.host.world.created + 1)
    (hjoined : world.joined = M.host.world.joined) :
    Serving ⟨⟨dev, world⟩, M.readers ++ [.check], Function.update M.pc k (.returned rc)⟩
      M.host.world.created .check where
  running := hrunning
  stopFlag := hstopFlag
  window := not_inWindow_update h.window k id
  created := hcreated
  thread := hthread
  joined := hjoined.trans h.joined
  readers := congrArg (· ++ [ReaderPhase.check]) h.readers
  alive := by decide

/-- The stop of the last channel begins to end the reader. -/
theorem Serving.ending {c : ℕ} {phase : ReaderPhase} (h : M.Serving c phase) {k : Fin m}
    {dev : Dev n} (hrunning : dev.readerRunning = M.host.dev.readerRunning)
    (hstopFlag : dev.stopFlag = true) (hactive : dev.activeChannels = 0)
    (hthread : dev.readerThread = M.host.dev.readerThread) :
    (M.goto k (.reset true) ⟨dev, M.host.world⟩).Ending k c phase where
  running := hrunning.trans h.running
  stopFlag := hstopFlag
  active := hactive
  window := by
    intro j hj
    by_contra hne
    exact h.window j (inWindow_of_update hj hne)
  created := h.created
  thread := hthread.trans h.thread
  stage := by
    show StopStage c phase M.host.world.joined (Function.update M.pc k _ k)
    rw [Function.update_self]
    exact h.joined
  readers := h.readers

/-- The stop that ends the reader goes one step further. -/
theorem Ending.goto {k : Fin m} {c : ℕ} {phase : ReaderPhase} (h : M.Ending k c phase) {pc : Pc}
    {host : Host n} (hdev : host.dev = M.host.dev)
    (hcreated : host.world.created = M.host.world.created)
    (hstage : StopStage c phase host.world.joined pc) : (M.goto k pc host).Ending k c phase where
  running := (congrArg Dev.readerRunning hdev).trans h.running
  stopFlag := (congrArg Dev.stopFlag hdev).trans h.stopFlag
  active := (congrArg Dev.activeChannels hdev).trans h.active
  window := by
    intro j hj
    by_contra hne
    exact hne (h.window j (inWindow_of_update hj hne))
  created := hcreated.trans h.created
  thread := (congrArg Dev.readerThread hdev).trans h.thread
  stage := by
    show StopStage c phase host.world.joined (Function.update M.pc k pc k)
    rw [Function.update_self]
    exact hstage
  readers := h.readers

theorem range_succ_map_some (c : ℕ) :
    (List.range (c + 1)).map some = (List.range c).map some ++ [some c] := by
  rw [List.range_succ, List.map_append]
  rfl

/-- Clearing `reader_running` ends the reader for good. -/
theorem Ending.idle {k : Fin m} {c : ℕ} {phase : ReaderPhase} (h : M.Ending k c phase)
    (hpc : M.pc k = .clear) {rc : ℤ} : (M.goto k (.returned rc) M.host.stopClear).Idle := by
  have hstage := h.stage
  rw [hpc] at hstage
  obtain ⟨rfl, hjoined⟩ := hstage
  exact
    { running := rfl
      active := h.active
      window := by
        intro j hj
        have hne : j ≠ k := by
          rintro rfl
          replace hj : (Function.update M.pc j (.returned rc) j).InWindow := hj
          rwa [Function.update_self] at hj
        exact hne (h.window j (inWindow_of_update hj hne))
      joined := by
        show M.host.world.joined = (List.range M.host.world.created).map some
        rw [h.created]
        exact hjoined
      readers := by
        show M.readers = List.replicate M.host.world.created .exited
        rw [h.created, List.replicate_succ']
        exact h.readers }

/-- Only the last reader can still run. -/
theorem eq_of_getElem?_readers {c handle : ℕ} {phase old : ReaderPhase}
    (hold : (List.replicate c .exited ++ [phase])[handle]? = some old) (halive : old ≠ .exited) :
    handle = c ∧ old = phase := by
  rcases lt_trichotomy handle c with hlt | rfl | hgt
  · rw [List.getElem?_append_left (by simpa using hlt), List.getElem?_replicate,
      if_pos hlt] at hold
    exact absurd (Option.some.inj hold).symm halive
  · rw [List.getElem?_append_right (by simp)] at hold
    simpa [eq_comm] using hold
  · have hle : (List.replicate c ReaderPhase.exited ++ [phase]).length ≤ handle := by
      rw [List.length_append, List.length_replicate]
      exact hgt
    rw [List.getElem?_eq_none hle] at hold
    cases hold

theorem set_readers (c : ℕ) (phase phase' : ReaderPhase) :
    (List.replicate c ReaderPhase.exited ++ [phase]).set c phase' =
      List.replicate c .exited ++ [phase'] := by
  rw [List.set_append_right _ _ (by simp)]
  simp

/-- Ending a reader that still runs does not depend on where it runs. -/
theorem StopStage.of_alive {c : ℕ} {phase phase' : ReaderPhase} {joined : List (Option ℕ)}
    {pc : Pc} (hstage : StopStage c phase joined pc) (halive : phase ≠ .exited) :
    StopStage c phase' joined pc := by
  cases pc with
  | reset stopReader =>
      cases stopReader with
      | true => exact hstage
      | false => exact hstage
  | clear => exact absurd hstage.1 halive
  | join | joining | called | returned => exact hstage

/-- A step of a reader that still runs; it exits only if told to. -/
theorem Orderly.reader (h : M.Orderly) {handle : ℕ} {old new : ReaderPhase}
    (hold : M.readers[handle]? = some old) (halive : old ≠ .exited)
    (hnew : M.host.dev.stopFlag = false → new ≠ .exited) {dev : Dev n}
    (hcounts : dev.CountsStarted) (hactive : dev.activeChannels = M.host.dev.activeChannels)
    (hrunning : dev.readerRunning = M.host.dev.readerRunning)
    (hstopFlag : dev.stopFlag = M.host.dev.stopFlag)
    (hthread : dev.readerThread = M.host.dev.readerThread) :
    Orderly ⟨⟨dev, M.host.world⟩, M.readers.set handle new, M.pc⟩ := by
  refine ⟨hcounts, ?_⟩
  rcases h.stage with hidle | ⟨c, phase, hserving⟩ | ⟨k, c, phase, hending⟩
  · rw [hidle.readers] at hold
    exact absurd (List.eq_of_mem_replicate (List.mem_of_getElem? hold)) halive
  · right
    left
    rw [hserving.readers] at hold
    obtain ⟨rfl, rfl⟩ := eq_of_getElem?_readers hold halive
    exact ⟨_, new,
      { running := hrunning.trans hserving.running
        stopFlag := hstopFlag.trans hserving.stopFlag
        window := hserving.window
        created := hserving.created
        thread := hthread.trans hserving.thread
        joined := hserving.joined
        readers := by rw [hserving.readers, set_readers]
        alive := hnew hserving.stopFlag }⟩
  · right
    right
    rw [hending.readers] at hold
    obtain ⟨rfl, rfl⟩ := eq_of_getElem?_readers hold halive
    exact ⟨k, _, new,
      { running := hrunning.trans hending.running
        stopFlag := hstopFlag.trans hending.stopFlag
        active := hactive.trans hending.active
        window := hending.window
        created := hending.created
        thread := hthread.trans hending.thread
        stage := hending.stage.of_alive halive
        readers := by rw [hending.readers, set_readers] }⟩

/-! ## The invariant over runs -/

variable {requests : Fin m → Request n} {M' : Machine n m}

/-- **Every step but a late start keeps the order.** -/
theorem Orderly.step (h : M.Orderly) {e : Event m} (hok : ¬ M.LateStart requests e)
    (hstep : M.step requests e = some M') : M'.Orderly := by
  have htransition := Transition.of_step h.counts hstep
  have hcounts := htransition.countsStarted h.counts
  cases htransition with
  | startRefused k i modeFlags hrequest hpc hcheck rc =>
      exact h.goto (by rw [hpc]; exact id) id rfl rfl rfl
  | startRunning k i modeFlags hrequest hpc hcheck hrunning rc =>
      rcases h.stage with hidle | ⟨c, phase, hserving⟩ | ⟨k', c, phase, hending⟩
      · exact absurd hrunning (by rw [hidle.running]; decide)
      · exact ⟨hcounts, .inr (.inl ⟨c, phase, hserving.goto id rfl rfl rfl rfl rfl⟩)⟩
      · refine absurd ?_ hok
        rw [LateStart, hrequest]
        exact ⟨hpc, hcheck, hrunning, hending.stopFlag⟩
  | startCreated k i modeFlags hrequest hpc hcheck hrunning rc =>
      rcases h.stage with hidle | ⟨c, phase, hserving⟩ | ⟨k', c, phase, hending⟩
      · exact ⟨hcounts, .inr (.inl ⟨_, _, hidle.serving rfl rfl rfl rfl rfl⟩)⟩
      · exact absurd hserving.running (by rw [hrunning]; decide)
      · exact absurd hending.running (by rw [hrunning]; decide)
  | stopIdle k i hrequest hpc hstopped =>
      exact h.goto (by rw [hpc]; exact id) id rfl rfl rfl
  | stopLast k i hrequest hpc hstarted hzero =>
      obtain ⟨c, phase, hserving⟩ := h.serving_of_started hstarted
      exact ⟨hcounts, .inr (.inr ⟨k, c, phase, hserving.ending rfl rfl hzero rfl⟩)⟩
  | stopOther k i hrequest hpc hstarted hpos =>
      obtain ⟨c, phase, hserving⟩ := h.serving_of_started hstarted
      exact ⟨hcounts, .inr (.inl ⟨c, phase, hserving.goto id rfl rfl rfl rfl rfl⟩)⟩
  | reset k i hrequest stopReader hpc =>
      cases stopReader with
      | true =>
          obtain ⟨c, phase, hending⟩ := h.ending_of_inWindow (by rw [hpc]; trivial)
          have hstage := hending.stage
          rw [hpc] at hstage
          exact ⟨hcounts, .inr (.inr ⟨k, c, phase, hending.goto rfl rfl hstage⟩)⟩
      | false => exact h.goto (by rw [hpc]; exact id) id rfl rfl rfl
  | join k i hrequest hpc =>
      obtain ⟨c, phase, hending⟩ := h.ending_of_inWindow (by rw [hpc]; trivial)
      have hstage := hending.stage
      rw [hpc] at hstage
      refine ⟨hcounts, .inr (.inr ⟨k, c, phase, hending.goto rfl rfl ⟨hending.thread, ?_⟩⟩)⟩
      show M.host.world.joined ++ [M.host.dev.readerThread] = _
      rw [hstage, hending.thread, range_succ_map_some]
  | joined k i hrequest handle hpc hexited =>
      obtain ⟨c, phase, hending⟩ := h.ending_of_inWindow (by rw [hpc]; trivial)
      have hstage := hending.stage
      rw [hpc] at hstage
      obtain ⟨hhandle, hjoined⟩ := hstage
      obtain rfl := Option.some.inj hhandle
      rw [hending.readers, List.getElem?_append_right (by simp)] at hexited
      have hphase : phase = .exited := by simpa using hexited
      exact ⟨hcounts, .inr (.inr ⟨k, _, phase, hending.goto rfl rfl ⟨hphase, hjoined⟩⟩)⟩
  | clear k i hrequest hpc =>
      obtain ⟨c, phase, hending⟩ := h.ending_of_inWindow (by rw [hpc]; trivial)
      exact ⟨hcounts, .inl (hending.idle hpc)⟩
  | readerCheck handle packet hphase =>
      refine h.reader hphase (by decide) ?_ hcounts rfl rfl rfl rfl
      intro hstopFlag
      rw [hstopFlag]
      decide
  | readerTransfer handle packet hphase dev hdev =>
      rcases hdev with rfl | ⟨i, q, rfl⟩ <;>
        exact h.reader hphase (by decide) (fun _ => by decide) hcounts rfl rfl rfl rfl

/-- An opened device is orderly. -/
theorem Orderly.init {dev : Dev n} (hopened : dev.Opened) :
    (Machine.init dev : Machine n m).Orderly where
  counts := (Host.Steady.init hopened).counts
  stage := .inl
    { running := hopened.readerRunning_eq
      active := hopened.activeChannels_eq
      window := fun _ => id
      joined := rfl
      readers := rfl }

/-- In an orderly state the readers are as they should be. -/
theorem Orderly.readersRight (h : M.Orderly) : M.ReadersRight := by
  have hnodup (c : ℕ) : ((List.range c).map some).Nodup :=
    List.nodup_range.map (Option.some_injective ℕ)
  -- every handle below `c + 1` other than `c` is below `c`
  have hbelow {c handle : ℕ} (hlt : handle < c + 1) (hne : some handle ≠ some c) :
      some handle ∈ (List.range c).map some := by
    have hne' : handle ≠ c := fun heq => hne (congrArg some heq)
    exact List.mem_map_of_mem (List.mem_range.mpr (by omega))
  constructor
  · rcases h.stage with hidle | ⟨c, phase, hserving⟩ | ⟨k, c, phase, hending⟩
    · refine ⟨by rw [hidle.joined]; exact hnodup _, fun handle hlt _ => ?_⟩
      rw [hidle.joined]
      exact List.mem_map_of_mem (List.mem_range.mpr hlt)
    · refine ⟨by rw [hserving.joined]; exact hnodup _, fun handle hlt hne => ?_⟩
      rw [hserving.joined]
      rw [hserving.created] at hlt
      rw [hserving.thread] at hne
      exact hbelow hlt hne
    · obtain hjoined | hjoined : M.host.world.joined = (List.range c).map some ∨
          M.host.world.joined = (List.range (c + 1)).map some := by
        have hstage := hending.stage
        cases hpc : M.pc k with
        | reset stopReader =>
            rw [hpc] at hstage
            cases stopReader with
            | true => exact .inl hstage
            | false => exact hstage.elim
        | join =>
            rw [hpc] at hstage
            exact .inl hstage
        | joining | clear =>
            rw [hpc] at hstage
            exact .inr hstage.2
        | called | returned =>
            rw [hpc] at hstage
            exact hstage.elim
      · refine ⟨by rw [hjoined]; exact hnodup _, fun handle hlt hne => ?_⟩
        rw [hjoined]
        rw [hending.created] at hlt
        rw [hending.thread] at hne
        exact hbelow hlt hne
      · refine ⟨by rw [hjoined]; exact hnodup _, fun handle hlt _ => ?_⟩
        rw [hjoined]
        rw [hending.created] at hlt
        exact List.mem_map_of_mem (List.mem_range.mpr hlt)
  · rintro - ⟨i, hstarted⟩
    obtain ⟨c, phase, hserving⟩ := h.serving_of_started hstarted
    refine ⟨?_, hserving.stopFlag⟩
    rw [hserving.readers]
    simp [List.filter_append, hserving.alive]

/-- **Readers without late starts.** In every run of starts and stops in which no start
passes its check between a stop's decision to end the reader and its `reader_running = 0`,
no reader is joined twice or forgotten, and once all calls have returned the started
channels have exactly one reader. -/
theorem readersRight_of_run {dev : Dev n} (hopened : dev.Opened) {events : List (Event m)}
    (hmeets : Meets (step requests) (fun M e => ¬ M.LateStart requests e) (init dev) events)
    (hrun : run (step requests) (init dev) events = some M) : M.ReadersRight :=
  (run_invariant_of_meets (fun _ _ _ h hok hstep => Orderly.step h hok hstep)
    (Orderly.init hopened) hmeets hrun).readersRight

/-- A channel is started and stopped, and its reader leaves. -/
theorem readersRight_of_run_twoChannels :
    ∃ M, run (step ![.start 0 0, .stop 0]) (init twoChannels)
        [.call 0, .reader 0 none, .call 1, .reader 0 none, .call 1, .reader 0 none, .call 1,
          .call 1, .call 1] = some M ∧
      M.ReadersRight := by
  obtain ⟨M, hrun⟩ : ∃ M, run (step ![.start 0 0, .stop 0]) (init twoChannels)
      [.call 0, .reader 0 none, .call 1, .reader 0 none, .call 1, .reader 0 none, .call 1,
        .call 1, .call 1] = some M := ⟨_, rfl⟩
  exact ⟨M, hrun, readersRight_of_run opened_twoChannels (by decide) hrun⟩

/-- With a late start all calls can return with a channel started and no reader left; and
a second stop then joins the reader the first one joins. -/
theorem not_readersRight_lateStart :
    (∃ M, run (step ![.start 0 0, .stop 0, .start 1 0]) (init twoChannels)
        [.call 0, .call 1, .call 2, .call 1, .call 1, .reader 0 none, .call 1, .call 1] =
          some M ∧
      ¬ M.ReadersRight) ∧
    ∃ M, run (step ![.start 0 0, .stop 0, .start 1 0, .stop 1]) (init twoChannels)
        [.call 0, .call 1, .call 2, .call 3, .call 1, .call 1, .call 3, .call 3] = some M ∧
      ¬ M.JoinsOnce := by
  constructor
  · refine ⟨_, rfl, ?_⟩
    intro hright
    have hreader := hright.2 (fun k => ⟨0, by revert k; decide⟩) ⟨1, rfl⟩
    exact absurd hreader.1 (by decide)
  · refine ⟨_, rfl, ?_⟩
    intro hjoins
    exact absurd hjoins.nodup (by decide)

end Machine

end GsUsb.Driver
