/-
# Readers that end by themselves

A reader leaves its loop without being told when it gets no buffer, when the device is gone
or when a read fails.  Nothing notes that: `reader_running` says that a thread was created
and not joined, not that it still runs.  A start finds it set while any channel is started,
and then creates no new reader.

The calls follow one another, and a reader may end between them or while a start waits for its
transfer.  One that ends in a stop might as well have ended before it.
-/

import GsUsb.Driver.Lifecycle
import GsUsb.Math.Run

namespace GsUsb.Driver

open GsUsb.Math

/-- A device with the handles of its reader threads that have not ended. -/
structure Readers (n : ℕ) where
  host : Host n
  live : List ℕ
  /-- The channel whose start has had its transfer, and has yet to see to a reader. -/
  starting : Option (Fin n)

/-- A piece of a call of the application, or a reader that ends by itself. -/
inductive ReaderEvent (n : ℕ)
  | startTransfer (i : Fin n) (modeFlags : UInt32) (rc : ℤ)
  | startReader (thread : PthreadCreate)
  | stop (i : Fin n) (rc : ℤ)
  | die (handle : ℕ)

namespace Readers

variable {n : ℕ}

/-- An opened device. -/
def init (dev : Dev n) : Readers n := ⟨.init dev, [], none⟩

/-- The library goes on.  The threads it creates are live, and those it joins have ended when
`pthread_join` returns: they were told to, or had ended before. -/
def goOn (R : Readers n) (host : Host n) (starting : Option (Fin n)) : Readers n :=
  let created := List.range' R.host.world.created (host.world.created - R.host.world.created)
  ⟨host, (R.live ++ created).filter fun handle => some handle ∉ host.world.joined, starting⟩

/-- The start of channel `i` goes on to its end. -/
def finish (R : Readers n) (i : Fin n) (thread : PthreadCreate) : Readers n :=
  R.goOn (R.host.startReader i thread).2 none

/-- A step. -/
def step (R : Readers n) : ReaderEvent n → Option (Readers n)
  | .startTransfer i modeFlags rc =>
    if R.starting = none then
      match R.host.startTransfer i modeFlags rc with
      | (some _, host) => some (R.goOn host none)
      | (none, host) => some (R.goOn host (some i))
    else none
  | .startReader thread =>
    match R.starting with
    | none => none
    | some i => some (R.finish i thread)
  | .stop i rc =>
    if R.starting = none then some (R.goOn (R.host.gsusbChannelStop i rc).2 none) else none
  | .die handle =>
    if handle ∈ R.live then some { R with live := R.live.erase handle } else none

/-- The previous reader, if there is one, has ended. -/
def Ended (R : Readers n) : Prop := ∀ handle ∈ R.live, some handle ∉ R.host.dev.currentReader

/-- If the start under way succeeds after the previous reader ended, a reader that it created
is there when it returns. -/
def GetsReader (R : Readers n) (thread : PthreadCreate) : Prop :=
  ∀ i, R.starting = some i → (R.host.startReader i thread).1 = 0 → R.Ended →
    ∃ handle ∈ (R.finish i thread).live, R.host.world.created ≤ handle

/-- The host is steady, only the current reader is live, and a channel that is being started
is stopped. -/
structure OnlyCurrent (R : Readers n) : Prop where
  steady : R.host.Steady
  current : ∀ handle ∈ R.live, some handle ∈ R.host.dev.currentReader
  stopped : ∀ i, R.starting = some i → (R.host.dev.channel i).started = false

variable {R R' : Readers n}

/-- The current reader was created. -/
theorem lt_created_of_current {host : Host n} (h : host.Steady) {handle : ℕ}
    (hcurrent : some handle ∈ host.dev.currentReader) : handle < host.world.created := by
  have hmem := List.mem_append_right host.world.joined hcurrent
  rw [h.joined_eq, List.mem_map] at hmem
  obtain ⟨k, hk, heq⟩ := hmem
  cases heq
  exact List.mem_range.mp hk

/-- Up to its transfer a start changes nothing of the device, and goes on only with a stopped
channel. -/
theorem startTransfer_spec (host : Host n) (i : Fin n) (modeFlags : UInt32) (rc : ℤ) :
    (host.startTransfer i modeFlags rc).2.dev = host.dev ∧
      (host.startTransfer i modeFlags rc).2.world.created = host.world.created ∧
      ((host.startTransfer i modeFlags rc).1 = none → (host.dev.channel i).started = false) := by
  by_cases hcheck : Host.startCheck host.dev i modeFlags = 0
  · rw [Host.startTransfer_eq hcheck]
    exact ⟨rfl, rfl, fun _ => Host.started_of_startCheck hcheck⟩
  · rw [Host.startTransfer_of_check hcheck]
    exact ⟨rfl, rfl, nofun⟩

/-- The rest of a start uncreates no thread. -/
theorem created_le_startReader (host : Host n) (i : Fin n) (thread : PthreadCreate) :
    host.world.created ≤ (host.startReader i thread).2.world.created := by
  rcases Host.startReader_cases host i thread with
    ⟨-, heq⟩ | ⟨-, handle, -, heq⟩ | ⟨-, -, heq⟩
  · rw [heq]
  · rw [heq]
  · rw [heq]
    exact Nat.le_succ _

/-- A stop creates none. -/
theorem created_gsusbChannelStop {host : Host n} (h : host.Steady) (i : Fin n) (rc : ℤ) :
    (host.gsusbChannelStop i rc).2.world.created = host.world.created := by
  cases hstarted : (host.dev.channel i).started with
  | false => rw [Host.gsusbChannelStop_of_stopped hstarted]
  | true =>
      rcases Host.gsusbChannelStop_cases h.counts hstarted rc with ⟨-, heq⟩ | ⟨-, heq⟩
      · rw [heq]
        rfl
      · rw [heq]
        rfl

/-- Going on leaves only the current reader live. -/
theorem OnlyCurrent.goOn (h : R.OnlyCurrent) {host : Host n} (hsteady : host.Steady)
    (hle : R.host.world.created ≤ host.world.created) {starting : Option (Fin n)}
    (hstopped : ∀ i, starting = some i → (host.dev.channel i).started = false) :
    (R.goOn host starting).OnlyCurrent where
  steady := hsteady
  current := by
    intro handle hlive
    obtain ⟨hmem, hjoined⟩ := List.mem_filter.mp hlive
    have hlt : handle < host.world.created := by
      rcases List.mem_append.mp hmem with hold | hnew
      · exact (lt_created_of_current h.steady (h.current handle hold)).trans_le hle
      · have hrange := (List.mem_range'_1.mp hnew).2
        omega
    have hall : some handle ∈ host.world.joined ++ host.dev.currentReader := by
      rw [hsteady.joined_eq]
      exact List.mem_map_of_mem (List.mem_range.mpr hlt)
    rcases List.mem_append.mp hall with hin | hcurrent
    · exact absurd hin (of_decide_eq_true hjoined)
    · exact hcurrent
  stopped := hstopped

/-- Every step leaves only the current reader live. -/
theorem OnlyCurrent.step (h : R.OnlyCurrent) {e : ReaderEvent n} (hstep : R.step e = some R') :
    R'.OnlyCurrent := by
  cases e with
  | startTransfer i modeFlags rc =>
      have hsteady := h.steady.startTransfer i modeFlags rc
      obtain ⟨hdev, hcreated, hstopped⟩ := startTransfer_spec R.host i modeFlags rc
      simp only [Readers.step] at hstep
      generalize R.host.startTransfer i modeFlags rc = sent at *
      obtain ⟨result, host⟩ := sent
      split at hstep
      · cases result with
        | some err =>
            cases hstep
            exact h.goOn hsteady hcreated.ge nofun
        | none =>
            cases hstep
            refine h.goOn hsteady hcreated.ge ?_
            rintro j ⟨⟩
            rw [hdev]
            exact hstopped rfl
      · cases hstep
  | startReader thread =>
      simp only [Readers.step] at hstep
      split at hstep
      · cases hstep
      · rename_i i hstarting
        cases hstep
        exact h.goOn (h.steady.startReader (h.stopped i hstarting) thread)
          (created_le_startReader _ _ _) nofun
  | stop i rc =>
      simp only [Readers.step] at hstep
      split at hstep
      · cases hstep
        exact h.goOn (h.steady.gsusbChannelStop i rc)
          (created_gsusbChannelStop h.steady i rc).ge nofun
      · cases hstep
  | die handle =>
      simp only [Readers.step] at hstep
      split at hstep
      · cases hstep
        exact ⟨h.steady, fun k hk => h.current k (List.mem_of_mem_erase hk), h.stopped⟩
      · cases hstep

theorem OnlyCurrent.init {dev : Dev n} (hopened : dev.Opened) : (Readers.init dev).OnlyCurrent :=
  ⟨Host.Steady.init hopened, nofun, nofun⟩

/-- With no reader noted, the start creates one. -/
theorem OnlyCurrent.getsReader (h : R.OnlyCurrent) {thread : PthreadCreate}
    (hnone : ∀ j, (R.host.dev.channel j).started = false) : R.GetsReader thread := by
  intro i _ hzero _
  have hrunning : R.host.dev.readerRunning = false := by
    rw [← Bool.not_eq_true, h.steady.running_iff_exists]
    rintro ⟨j, hj⟩
    rw [hnone j] at hj
    cases hj
  rcases Host.startReader_cases R.host i thread with
    ⟨htrue, -⟩ | ⟨-, handle, -, heq⟩ | ⟨-, -, heq⟩
  · rw [hrunning] at htrue
    cases htrue
  · rw [heq] at hzero
    exact absurd (show gsusbErrIo = 0 from hzero) (by decide)
  · refine ⟨R.host.world.created, ?_, le_rfl⟩
    rw [finish, Readers.goOn, heq, List.mem_filter]
    constructor
    · apply List.mem_append_right
      exact List.mem_range'_1.mpr ⟨le_rfl, by simp⟩
    · have hjoined := h.steady.joined_of_not_running hrunning
      simp [hjoined]

/-- A start that joins a reader which has ended gets none. -/
theorem OnlyCurrent.not_getsReader (h : R.OnlyCurrent) {thread : PthreadCreate} {i j : Fin n}
    (hstarting : R.starting = some i) (hended : R.Ended)
    (hstarted : (R.host.dev.channel j).started = true) : ¬ R.GetsReader thread := by
  intro hgets
  have hrunning := h.steady.running_iff_exists.mpr ⟨j, hstarted⟩
  rcases Host.startReader_cases R.host i thread with
    ⟨-, heq⟩ | ⟨hfalse, -⟩ | ⟨hfalse, -⟩
  · obtain ⟨handle, hlive, hle⟩ := hgets i hstarting (by rw [heq]) hended
    rw [finish, Readers.goOn, heq, List.mem_filter] at hlive
    rcases List.mem_append.mp hlive.1 with hold | hnew
    · exact hended handle hold (h.current handle hold)
    · have hnone := List.mem_range'_1.mp hnew
      simp only [Nat.sub_self] at hnone
      omega
  · rw [hrunning] at hfalse
    cases hfalse
  · rw [hrunning] at hfalse
    cases hfalse

/-- A start with nothing in between is the call of `gsusb_channel_start`. -/
theorem exists_run_of_start (hstarting : R.starting = none) (i : Fin n)
    (modeFlags : UInt32) (rc : ℤ) (thread : PthreadCreate) :
    ∃ events R', run step R (.startTransfer i modeFlags rc :: events) = some R' ∧
      R'.host = (R.host.gsusbChannelStart i modeFlags rc thread).2 ∧ R'.starting = none := by
  rw [Host.gsusbChannelStart]
  cases hsent : R.host.startTransfer i modeFlags rc with
  | mk result host =>
      cases result with
      | some err =>
          refine ⟨[], R.goOn host none, ?_, rfl, rfl⟩
          simp only [run_cons, step, hstarting, if_true, hsent]
          rfl
      | none =>
          refine ⟨[.startReader thread], (R.goOn host (some i)).finish i thread, ?_, rfl, rfl⟩
          simp only [run_cons, step, hstarting, if_true, hsent]
          rfl

/-- **Exactly when a successful start means a live reader.** In every state of every run of
starts, stops and deaths of readers, also of those in the transfer of a start: a start that
finds the previous reader ended gets a new one if and only if no channel is started. -/
theorem getsReader_iff {dev : Dev n} (hopened : dev.Opened) {events : List (ReaderEvent n)}
    (hrun : run step (init dev) events = some R) (thread : PthreadCreate) :
    R.GetsReader thread ↔
      ((∃ i, R.starting = some i) → R.Ended → ∀ j, (R.host.dev.channel j).started = false) := by
  have hcurrent : R.OnlyCurrent :=
    run_invariant (fun _ _ _ h hstep => OnlyCurrent.step h hstep) (OnlyCurrent.init hopened) hrun
  constructor
  · rintro hgets ⟨i, hstarting⟩ hended j
    by_contra hstarted
    exact hcurrent.not_getsReader hstarting hended (Bool.eq_true_of_not_eq_false hstarted) hgets
  · intro hnone i hstarting hzero hended
    exact hcurrent.getsReader (hnone ⟨i, hstarting⟩ hended) i hstarting hzero hended

/-- The reader dies, its channel is stopped, and the next start gets a new reader. -/
theorem getsReader_iff_stopped :
    ∃ R, run step (init twoChannels) [.startTransfer 0 0 8, .startReader .created, .die 0,
        .stop 0 8, .startTransfer 1 0 8] = some R ∧
      R.starting = some 1 ∧ R.GetsReader .created := by
  obtain ⟨R, hrun, hstarting, hnone⟩ : ∃ R, run step (init twoChannels)
      [.startTransfer 0 0 8, .startReader .created, .die 0, .stop 0 8, .startTransfer 1 0 8] =
        some R ∧ R.starting = some 1 ∧ ∀ j, (R.host.dev.channel j).started = false :=
    ⟨_, rfl, rfl, by decide⟩
  exact ⟨R, hrun, hstarting, (getsReader_iff opened_twoChannels hrun .created).mpr
    fun _ _ => hnone⟩

/-- No reader was live, and none is. -/
theorem not_getsReader_of_live {i : Fin n} {thread : PthreadCreate}
    (hstarting : R.starting = some i) (hlive : R.live = [])
    (hzero : (R.host.startReader i thread).1 = 0) (hnone : (R.finish i thread).live = []) :
    ¬ R.GetsReader thread := by
  intro hgets
  have hended : R.Ended := by
    intro handle hmem
    rw [hlive] at hmem
    cases hmem
  obtain ⟨handle, hmem, -⟩ := hgets i hstarting hzero hended
  rw [hnone] at hmem
  cases hmem

/-- The reader dies while channel 0 is started, before the start of channel 1 or in its transfer;
that start succeeds and no reader is there. -/
theorem not_getsReader_started :
    (∃ R, run step (init twoChannels) [.startTransfer 0 0 8, .startReader .created, .die 0,
        .startTransfer 1 0 8] = some R ∧ R.starting = some 1 ∧
      (R.host.startReader 1 .created).1 = 0 ∧ (R.finish 1 .created).live = [] ∧
        ¬ R.GetsReader .created) ∧
    ∃ R, run step (init twoChannels) [.startTransfer 0 0 8, .startReader .created,
        .startTransfer 1 0 8, .die 0] = some R ∧ R.starting = some 1 ∧
      (R.host.startReader 1 .created).1 = 0 ∧ (R.finish 1 .created).live = [] ∧
        ¬ R.GetsReader .created :=
  ⟨⟨_, rfl, rfl, by decide, by decide,
      not_getsReader_of_live rfl (by decide) (by decide) (by decide)⟩,
    ⟨_, rfl, rfl, by decide, by decide,
      not_getsReader_of_live rfl (by decide) (by decide) (by decide)⟩⟩

end Readers

end GsUsb.Driver
