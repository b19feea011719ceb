/-
# One thread reads the channel

`stop` sets the event that the listener tests, waits for the thread for two seconds and then goes
on, whether the thread has ended or not.  A listener that a callback keeps for longer outlives the
`stop`, and the next `start` clears the event that it was to see.

As long as every `join` does return with the thread ended, a listener is alive only between the
`start` that made it and the `join` of the next `stop`.  The proof is an outline: it attaches to
each pc what holds of the bus while a method is there, which at most of them is that no listener
is alive, so that no other thread can interfere.
-/

import GsUsb.Python.Bus

namespace GsUsb.Python

open GsUsb.Math

/-- The method is between `gsusb_close` and `self._ch = None`. -/
def BusPc.forgets : BusPc → Bool
  | .forgetDev | .forgetCh => true
  | _ => false

namespace Bus

variable {s t : Bus} {a : Actor} {pc pc' : BusPc} {i : ℕ}

/-- No listener is in `_listen_loop`. -/
def Alone (s : Bus) : Prop := ∀ i, (s.thread i).live = false

/-- The device, if there is one, was not closed. -/
def Usable (s : Bus) (dev : Option ℕ) : Prop := ∀ d, dev = some d → d ∉ s.freed

/-- The bus is open, and no `stop` returned since `start` was called. -/
def InUse (s : Bus) : Prop := s.dev ≠ none ∧ s.stopReturned = false

/-- The bus knows the thread as its listener. -/
def Listens (s : Bus) (i : ℕ) : Prop :=
  s.listenerThread = some i ∧ s.started = true ∧ s.InUse

/-- What holds of the bus while a method is here. -/
def At (s : Bus) : BusPc → Prop
  | .out | .openTest | .stopTest _ | .set _ | .joinTest _ | .useRequire | .useLoad => True
  | .init | .openDevice | .forget _ | .channelTest _ | .unmark _ | .closeTest | .forgetDev
  | .exit => s.Alone
  | .channelGet dev => s.Alone ∧ s.Usable (some dev)
  | .startRequire => s.stopReturned = false
  | .startTest => s.InUse
  | .channelStart ch => s.Alone ∧ s.InUse ∧ s.Usable ch
  | .mark => s.Alone ∧ s.InUse
  | .clear | .create | .threadStart => s.Alone ∧ s.InUse ∧ s.started = true
  | .join _ i => s.listenerThread = some i
  | .channelStop _ ch => s.Alone ∧ s.Usable (some ch)
  | .closeDevice dev => s.Alone ∧ s.Usable (some dev) ∧ dev < s.opened
  | .forgetCh => s.Alone ∧ s.dev = none
  | .useEnter ch | .use ch => s.Usable ch

/-- What holds of the bus while a listener is here. -/
def AtPhase (s : Bus) : Phase → Prop
  | .enter ch | .recv ch => s.Usable ch
  | .handling pc => s.At pc
  | _ => True

/-- What the attributes of the bus refer to, with the application at `pc`. -/
structure Kept (s : Bus) (pc : BusPc) : Prop where
  freed : ∀ d ∈ s.freed, d < s.opened
  dev : ∀ d, s.dev = some d → d < s.opened
  usable : pc.forgets = false → s.Usable s.dev ∧ s.Usable s.ch
  fresh : ∀ i, s.created ≤ i → s.thread i = .unstarted
  listener : ∀ i, s.listenerThread = some i → i < s.created

/-- **The invariant.** -/
structure Inv (s : Bus) : Prop where
  live : ∀ i, (s.thread i).live = true → s.Listens i
  app : s.At s.app
  phase : ∀ i, s.AtPhase (s.thread i)
  kept : s.Kept s.app

theorem Alone.congr (halone : s.Alone) (hthread : t.thread = s.thread) : t.Alone := by
  intro i
  rw [hthread]
  exact halone i

theorem Alone.false_of_live (halone : s.Alone) (hlive : (s.thread i).live = true) : False := by
  rw [halone i] at hlive
  cases hlive

/-- The device of a call that is under way was not closed. -/
theorem At.usable (h : s.At pc) : s.Usable pc.device := by
  cases pc with
  | channelGet dev => exact h.2
  | channelStart ch => exact h.2.2
  | channelStop closing ch => exact h.2
  | closeDevice dev => exact h.2.1
  | useEnter ch => exact h
  | use ch => exact h
  | _ => exact nofun

/-- The invariant keeps the promise. -/
theorem Inv.soleConsumer (h : s.Inv) : s.SoleConsumer := by
  have hreceives : ∀ i, (s.thread i).receives = true → (s.thread i).live = true := by
    intro i hi
    cases hphase : s.thread i with
    | recv ch => rfl
    | _ =>
        rw [hphase] at hi
        cases hi
  have halone : ∀ i j, (s.thread i).live = true → (s.thread j).live = true → i = j := by
    intro i j hi hj
    exact Option.some.inj ((h.live i hi).1.symm.trans (h.live j hj).1)
  refine ⟨halone, fun i j hi hj => halone i j (hreceives i hi) (hreceives j hj), ?_, ?_⟩
  · intro hstopped i
    by_contra hne
    have hlive := hreceives i (by simpa using hne)
    exact absurd hstopped (by simp [(h.live i hlive).2.2.2])
  · intro i dev hdev
    have hphase := h.phase i
    cases hthread : s.thread i with
    | enter ch =>
        rw [hthread] at hphase hdev
        exact hphase dev hdev
    | recv ch =>
        rw [hthread] at hphase hdev
        exact hphase dev hdev
    | handling pc =>
        rw [hthread] at hphase hdev
        exact At.usable hphase dev hdev
    | _ =>
        rw [hthread] at hdev
        cases hdev

/-- Of the threads, some may have ended since; of the attributes, only `_stop_event` and `_ctx`
may differ, and `start` may have been called. -/
structure Unnoticed (s t : Bus) : Prop where
  live : ∀ i, (t.thread i).live = true → (s.thread i).live = true
  fresh : ∀ i, s.thread i = .unstarted → t.thread i = .unstarted
  listenerThread : t.listenerThread = s.listenerThread
  started : t.started = s.started
  dev : t.dev = s.dev
  ch : t.ch = s.ch
  created : t.created = s.created
  opened : t.opened = s.opened
  freed : t.freed = s.freed
  stopReturned : t.stopReturned = true → s.stopReturned = true

theorem Alone.of_unnoticed (hst : s.Unnoticed t) (h : s.Alone) : t.Alone := by
  intro i
  by_contra hne
  exact h.false_of_live (hst.live i (by simpa using hne))

theorem Usable.of_unnoticed (hst : s.Unnoticed t) {dev : Option ℕ} (h : s.Usable dev) :
    t.Usable dev := by
  intro d hd
  rw [hst.freed]
  exact h d hd

theorem Unnoticed.stopReturned_eq_false (hst : s.Unnoticed t) (h : s.stopReturned = false) :
    t.stopReturned = false := by
  by_contra hne
  rw [hst.stopReturned (by simpa using hne)] at h
  cases h

theorem InUse.of_unnoticed (hst : s.Unnoticed t) (h : s.InUse) : t.InUse :=
  ⟨hst.dev ▸ h.1, hst.stopReturned_eq_false h.2⟩

theorem Listens.of_unnoticed (hst : s.Unnoticed t) (h : s.Listens i) : t.Listens i :=
  ⟨hst.listenerThread.trans h.1, hst.started.trans h.2.1, h.2.2.of_unnoticed hst⟩

/-- The outline does not look at what has changed. -/
theorem At.of_unnoticed (hst : s.Unnoticed t) (h : s.At pc) : t.At pc := by
  cases pc with
  | out | openTest | stopTest | set | joinTest | useRequire | useLoad => trivial
  | init | openDevice | forget | channelTest | unmark | closeTest | forgetDev | exit =>
      exact Alone.of_unnoticed hst h
  | channelGet dev => exact ⟨h.1.of_unnoticed hst, h.2.of_unnoticed hst⟩
  | startRequire => exact hst.stopReturned_eq_false h
  | startTest => exact InUse.of_unnoticed hst h
  | channelStart ch =>
      exact ⟨h.1.of_unnoticed hst, h.2.1.of_unnoticed hst, h.2.2.of_unnoticed hst⟩
  | mark => exact ⟨h.1.of_unnoticed hst, h.2.of_unnoticed hst⟩
  | clear | create | threadStart =>
      exact ⟨h.1.of_unnoticed hst, h.2.1.of_unnoticed hst, hst.started.trans h.2.2⟩
  | join closing i => exact hst.listenerThread.trans h
  | channelStop closing ch => exact ⟨h.1.of_unnoticed hst, h.2.of_unnoticed hst⟩
  | closeDevice dev =>
      exact ⟨h.1.of_unnoticed hst, h.2.1.of_unnoticed hst, hst.opened ▸ h.2.2⟩
  | forgetCh => exact ⟨h.1.of_unnoticed hst, hst.dev.trans h.2⟩
  | useEnter ch => exact Usable.of_unnoticed hst h
  | use ch => exact Usable.of_unnoticed hst h

theorem AtPhase.of_unnoticed (hst : s.Unnoticed t) {phase : Phase} (h : s.AtPhase phase) :
    t.AtPhase phase := by
  cases phase with
  | enter ch => exact Usable.of_unnoticed hst h
  | recv ch => exact Usable.of_unnoticed hst h
  | handling pc => exact At.of_unnoticed hst h
  | _ => trivial

theorem Kept.of_unnoticed (hst : s.Unnoticed t) (h : s.Kept pc) : t.Kept pc := by
  refine ⟨?_, ?_, ?_, ?_, ?_⟩
  · rw [hst.freed, hst.opened]
    exact h.freed
  · rw [hst.dev, hst.opened]
    exact h.dev
  · intro hpc
    rw [hst.dev, hst.ch]
    exact ⟨(h.usable hpc).1.of_unnoticed hst, (h.usable hpc).2.of_unnoticed hst⟩
  · intro i hi
    rw [hst.created] at hi
    exact hst.fresh i (h.fresh i hi)
  · rw [hst.listenerThread, hst.created]
    exact h.listener

/-- Elsewhere in the methods, the attributes refer to what they did. -/
theorem Kept.move (h : s.Kept pc) (hpc : pc.forgets = false) : s.Kept pc' :=
  ⟨h.freed, h.dev, fun _ => h.usable hpc, h.fresh, h.listener⟩

/-- Whether the bus is started is not what they refer to. -/
theorem Kept.mark (h : s.Kept pc) (started stopReturned : Bool) :
    { s with started := started, stopReturned := stopReturned }.Kept pc :=
  ⟨h.freed, h.dev, h.usable, h.fresh, h.listener⟩

/-- Nothing is said about `_ctx` and `_stop_event`. -/
theorem Unnoticed.attributes (s : Bus) (ctx stopEvent : Bool) :
    s.Unnoticed { s with ctx := ctx, stopEvent := stopEvent } :=
  ⟨fun _ h => h, fun _ h => h, rfl, rfl, rfl, rfl, rfl, rfl, rfl, fun h => h⟩

/-- The application moves on. -/
theorem Unnoticed.app (s : Bus) (pc : BusPc) : s.Unnoticed { s with app := pc } :=
  ⟨fun _ h => h, fun _ h => h, rfl, rfl, rfl, rfl, rfl, rfl, rfl, fun h => h⟩

/-- A live listener moves on. -/
theorem Unnoticed.setThread (hlive : (s.thread i).live = true) (phase : Phase) :
    s.Unnoticed (s.setThread i phase) := by
  refine ⟨?_, ?_, rfl, rfl, rfl, rfl, rfl, rfl, rfl, fun h => h⟩
  · intro j hj
    by_cases hji : j = i
    · rw [hji]
      exact hlive
    · rw [setThread_of_ne s hji] at hj
      exact hj
  · intro j hj
    by_cases hji : j = i
    · rw [hji] at hj
      rw [hj] at hlive
      cases hlive
    · rw [setThread_of_ne s hji]
      exact hj

/-- A method changes attributes that the outline does not look at. -/
theorem Inv.of_unnoticed (h : s.Inv) (hst : s.Unnoticed t) (hthread : t.thread = s.thread)
    (happ : t.app = s.app) : t.Inv := by
  refine ⟨?_, ?_, ?_, ?_⟩
  · intro i hi
    exact (h.live i (hst.live i hi)).of_unnoticed hst
  · rw [happ]
    exact h.app.of_unnoticed hst
  · intro i
    rw [hthread]
    exact (h.phase i).of_unnoticed hst
  · rw [happ]
    exact h.kept.of_unnoticed hst

/-- A method of the application moves on. -/
theorem Inv.setApp (h : s.Inv) (hat : s.At pc) (happ : s.app.forgets = false) :
    { s with app := pc }.Inv := by
  have hst := Unnoticed.app s pc
  exact ⟨fun i hi => (h.live i hi).of_unnoticed hst, hat.of_unnoticed hst,
    fun i => (h.phase i).of_unnoticed hst, (h.kept.move happ).of_unnoticed hst⟩

/-- A live listener moves on. -/
theorem Inv.setThread (h : s.Inv) (hlive : (s.thread i).live = true) {phase : Phase}
    (hphase : s.AtPhase phase) : (s.setThread i phase).Inv := by
  have hst := Unnoticed.setThread hlive phase
  refine ⟨fun j hj => (h.live j (hst.live j hj)).of_unnoticed hst, h.app.of_unnoticed hst, ?_,
    h.kept.of_unnoticed hst⟩
  intro j
  by_cases hji : j = i
  · rw [hji, setThread_self]
    exact hphase.of_unnoticed hst
  · rw [setThread_of_ne s hji]
    exact (h.phase j).of_unnoticed hst

/-- The same, where the thread was is known. -/
theorem Inv.moveThread (h : s.Inv) {old phase : Phase} (hthread : s.thread i = old)
    (hlive : old.live = true) (hphase : s.AtPhase phase) : (s.setThread i phase).Inv := by
  rw [← hthread] at hlive
  exact h.setThread hlive hphase

/-- Nothing needs to hold for a thread that is not in the loop. -/
theorem atPhase_of_dead {phase : Phase} (hdead : phase.live = false) : s.AtPhase phase := by
  cases phase with
  | unstarted | ended => trivial
  | _ => cases hdead

/-- With no listener alive, the application can do what keeps the outline. -/
theorem Alone.inv (halone : s.Alone) (hat : s.At pc) (hkept : s.Kept pc) :
    { s with app := pc }.Inv := by
  have hst := Unnoticed.app s pc
  refine ⟨?_, hat.of_unnoticed hst, ?_, hkept.of_unnoticed hst⟩
  · intro i hi
    exact (halone.false_of_live hi).elim
  · intro i
    exact atPhase_of_dead (halone i)

/-- A thread that is in a method is the application's, or it is alive. -/
theorem live_of_pc? (hpc : s.pc? (.listener i) = some pc) :
    s.thread i = .handling pc ∧ (s.thread i).live = true := by
  cases hthread : s.thread i with
  | handling pc' =>
      simp only [pc?, hthread] at hpc
      cases hpc
      exact ⟨rfl, rfl⟩
  | _ => simp [pc?, hthread] at hpc

/-- The outline holds for every method that is under way. -/
theorem Inv.at (h : s.Inv) (hpc : s.pc? a = some pc) : s.At pc := by
  cases a with
  | application =>
      cases hpc
      exact h.app
  | listener i =>
      have hphase := h.phase i
      rw [(live_of_pc? hpc).1] at hphase
      exact hphase

/-- With no listener alive, only the application is in a method. -/
theorem Alone.actor_eq (halone : s.Alone) (hpc : s.pc? a = some pc) :
    a = .application ∧ s.app = pc := by
  cases a with
  | application => exact ⟨rfl, Option.some.inj hpc⟩
  | listener i => exact (halone.false_of_live (live_of_pc? hpc).2).elim

/-- The attributes can be used as long as a listener is alive. -/
theorem Inv.usable_of_live (h : s.Inv) (hlive : (s.thread i).live = true) :
    s.Usable s.dev ∧ s.Usable s.ch := by
  apply h.kept.usable
  have hat := h.app
  cases happ : s.app with
  | forgetDev =>
      rw [happ] at hat
      exact (Alone.false_of_live hat hlive).elim
  | forgetCh =>
      rw [happ] at hat
      exact (hat.1.false_of_live hlive).elim
  | _ => rfl

/-- The attributes can be used in a method that does not forget them. -/
theorem Inv.usable (h : s.Inv) (hpc : s.pc? a = some pc) (hne : pc.forgets = false) :
    s.Usable s.dev ∧ s.Usable s.ch := by
  cases a with
  | application =>
      cases hpc
      exact h.kept.usable hne
  | listener i => exact h.usable_of_live (live_of_pc? hpc).2

/-- What a step of a method does: something the outline does not look at; something that only the
application can do and only with no listener alive; or a new listener. -/
inductive Move (s : Bus) (pc : BusPc) : BusPc → Bus → Prop
  | unnoticed {pc' : BusPc} {t : Bus} (hst : s.Unnoticed t) (hthread : t.thread = s.thread)
      (happ : t.app = s.app) (hat : t.At pc') (hne : pc.forgets = false) : Move s pc pc' t
  | alone {pc' : BusPc} {t : Bus} (halone : s.Alone) (hthread : t.thread = s.thread)
      (hat : t.At pc') (hkept : t.Kept pc') : Move s pc pc' t
  | listener (i : ℕ) (halone : s.Alone) (hlistens : s.Listens i) (hne : pc.forgets = false) :
      Move s pc .out (s.setThread i .test)

/-- A move within a method. -/
theorem Move.silent (hat : s.At pc') (hne : pc.forgets = false) : s.Move pc pc' s :=
  .unnoticed (.attributes s s.ctx s.stopEvent) rfl rfl hat hne

/-- A test, and where it leads. -/
theorem Move.test {c : Prop} [Decidable c] {other : BusPc} (hne : pc.forgets = false)
    (hthen : c → s.At pc') (helse : ¬ c → s.At other) :
    s.Move pc (if c then pc' else other) s := by
  by_cases hc : c
  · rw [if_pos hc]
    exact .silent (hthen hc) hne
  · rw [if_neg hc]
    exact .silent (helse hc) hne

/-- **Move.** It keeps the invariant. -/
theorem Inv.move (h : s.Inv) (hpc : s.pc? a = some pc) (hmove : s.Move pc pc' t) :
    (t.setPc pc' a).Inv := by
  cases hmove with
  | unnoticed hst hthread happ hat hne =>
      have hinv := h.of_unnoticed hst hthread happ
      cases a with
      | application =>
          cases hpc
          rw [← happ] at hne
          exact hinv.setApp hat hne
      | listener i =>
          have hlive := (live_of_pc? hpc).2
          rw [← hthread] at hlive
          exact hinv.setThread hlive hat
  | alone halone hthread hat hkept =>
      obtain ⟨rfl, -⟩ := halone.actor_eq hpc
      exact (halone.congr hthread).inv hat hkept
  | listener i halone hlistens hne =>
      obtain ⟨rfl, rfl⟩ := halone.actor_eq hpc
      refine ⟨?_, trivial, ?_, h.kept.freed, h.kept.dev, fun _ => h.kept.usable hne, ?_,
        h.kept.listener⟩
      · intro j hj
        by_cases hji : j = i
        · rw [hji]
          exact hlistens
        · rw [setPc, setThread_of_ne s hji] at hj
          exact (halone.false_of_live hj).elim
      · intro j
        by_cases hji : j = i
        · rw [hji, setPc, setThread_self]
          trivial
        · rw [setPc, setThread_of_ne s hji]
          exact atPhase_of_dead (halone j)
      · intro j hj
        have hcreated := h.kept.listener i hlistens.1
        have hji : j ≠ i := by
          have hle : s.created ≤ j := hj
          omega
        rw [setPc, setThread_of_ne s hji]
        exact h.kept.fresh j hj

/-- With none that the bus knows as its listener, none is alive. -/
theorem Inv.alone (h : s.Inv) (hnone : ∀ i, (s.thread i).live = true → ¬ s.Listens i) :
    s.Alone := by
  intro i
  by_contra hne
  have hlive : (s.thread i).live = true := by simpa using hne
  exact hnone i hlive (h.live i hlive)

/-- With no listener alive, the attributes are what the method in progress says. -/
theorem Inv.kept_of_alone (h : s.Inv) (halone : s.Alone) (hpc : s.pc? a = some pc) :
    s.Kept pc := by
  rw [← (halone.actor_eq hpc).2]
  exact h.kept

/-- What follows `stop` needs at most that no listener is alive. -/
theorem Alone.at_afterStop (halone : s.Alone) (hthread : t.thread = s.thread) (closing : Bool) :
    t.At (.afterStop closing) := by
  cases closing with
  | false => trivial
  | true => exact halone.congr hthread

/-- **Every step of a method is such a move,** if no `join` comes back early. -/
theorem Inv.move_go (h : s.Inv) (hpc : s.pc? a = some pc) (hjoin : s.timesOut (.go a) = false) :
    s.Move pc (s.go a pc).1 (s.go a pc).2 := by
  have hat := h.at hpc
  cases pc with
  | out => exact .silent trivial rfl
  | openTest =>
      apply Move.test rfl
      · intro hdev
        exact h.alone fun i _ hlistens => hlistens.2.2.1 hdev
      · intro _
        trivial
  | init => exact .unnoticed (.attributes s true s.stopEvent) rfl rfl hat rfl
  | openDevice =>
      have hkept := h.kept_of_alone hat hpc
      have hnew : s.opened ∉ s.freed := fun hmem => Nat.lt_irrefl _ (hkept.freed _ hmem)
      refine .alone hat rfl ⟨hat, ?_⟩ ⟨?_, ?_, fun _ => ⟨?_, (hkept.usable rfl).2⟩, hkept.fresh,
        hkept.listener⟩
      · rintro d ⟨⟩
        exact hnew
      · exact fun d hd => Nat.lt_succ_of_lt (hkept.freed d hd)
      · rintro d ⟨⟩
        exact Nat.lt_succ_self _
      · rintro d ⟨⟩
        exact hnew
  | channelGet dev =>
      have hkept := h.kept_of_alone hat.1 hpc
      exact .alone hat.1 rfl trivial ⟨hkept.freed, hkept.dev,
        fun _ => ⟨(hkept.usable rfl).1, hat.2⟩, hkept.fresh, hkept.listener⟩
  | startRequire =>
      apply Move.test rfl
      · intro _
        trivial
      · intro hdev
        exact ⟨hdev, hat⟩
  | startTest =>
      apply Move.test rfl
      · intro _
        trivial
      · intro hstarted
        exact ⟨h.alone fun i _ hlistens => hstarted hlistens.2.1, hat, (h.usable hpc rfl).2⟩
  | channelStart ch => exact .silent ⟨hat.1, hat.2.1⟩ rfl
  | mark =>
      have hkept := h.kept_of_alone hat.1 hpc
      exact .alone hat.1 rfl ⟨hat.1, hat.2, rfl⟩ ((hkept.move rfl).mark true s.stopReturned)
  | clear => exact .unnoticed (.attributes s s.ctx false) rfl rfl hat rfl
  | create =>
      have hkept := h.kept_of_alone hat.1 hpc
      refine .alone hat.1 rfl hat ⟨hkept.freed, hkept.dev, fun _ => hkept.usable rfl, ?_, ?_⟩
      · exact fun i hi => hkept.fresh i (Nat.le_of_succ_le hi)
      · rintro i ⟨⟩
        exact Nat.lt_succ_self _
  | threadStart =>
      cases hlistener : s.listenerThread with
      | none =>
          simp only [go, hlistener]
          exact .silent trivial rfl
      | some i =>
          by_cases hunstarted : s.thread i = .unstarted
          · simp only [go, hlistener, if_pos hunstarted]
            exact .listener i hat.1 ⟨hlistener, hat.2.2, hat.2.1⟩ rfl
          · simp only [go, hlistener, if_neg hunstarted]
            exact .silent trivial rfl
  | stopTest closing =>
      by_cases hstarted : s.started = true
      · simp only [go, if_pos hstarted]
        exact .silent trivial rfl
      · have halone : s.Alone := h.alone fun i _ hlistens => hstarted hlistens.2.1
        have hkept := h.kept_of_alone halone hpc
        simp only [go, if_neg hstarted]
        refine .alone halone rfl ?_ ?_
        · apply halone.at_afterStop
          rfl
        · exact (hkept.move rfl).mark s.started true
  | set closing => exact .unnoticed (.attributes s s.ctx true) rfl rfl trivial rfl
  | joinTest closing =>
      cases hlistener : s.listenerThread with
      | none =>
          have halone : s.Alone := by
            apply h.alone
            intro i _ hlistens
            rw [hlistens.1] at hlistener
            cases hlistener
          simp only [go, hlistener]
          exact .silent halone rfl
      | some i =>
          simp only [go, hlistener]
          exact .silent hlistener rfl
  | join closing i =>
      apply Move.test rfl
      · intro _
        trivial
      · intro hreturns
        rw [not_or] at hreturns
        have hended : (s.thread i).live = false := by
          simpa [timesOut, hpc, hreturns.1] using hjoin
        apply h.alone
        intro j hj hlistens
        have hji : j = i := Option.some.inj (hlistens.1.symm.trans hat)
        rw [hji, hended] at hj
        cases hj
  | forget closing =>
      have hkept := h.kept_of_alone hat hpc
      exact .alone hat rfl hat ⟨hkept.freed, hkept.dev, fun _ => hkept.usable rfl, hkept.fresh,
        nofun⟩
  | channelTest closing =>
      cases hch : s.ch with
      | none =>
          simp only [go, hch]
          exact .silent hat rfl
      | some ch =>
          have husable := (h.usable hpc rfl).2
          rw [hch] at husable
          simp only [go, hch]
          exact .silent ⟨hat, husable⟩ rfl
  | channelStop closing ch => exact .silent hat.1 rfl
  | unmark closing =>
      have hkept := h.kept_of_alone hat hpc
      refine .alone hat rfl ?_ ?_
      · apply Alone.at_afterStop hat
        rfl
      · exact (hkept.move rfl).mark false true
  | closeTest =>
      cases hdev : s.dev with
      | none =>
          simp only [go, hdev]
          exact .silent hat rfl
      | some dev =>
          have husable := (h.usable hpc rfl).1
          rw [hdev] at husable
          simp only [go, hdev]
          exact .silent ⟨hat, husable, h.kept.dev dev hdev⟩ rfl
  | closeDevice dev =>
      have hkept := h.kept_of_alone hat.1 hpc
      refine .alone hat.1 rfl hat.1 ⟨?_, hkept.dev, nofun, hkept.fresh, hkept.listener⟩
      intro d hd
      rcases List.mem_cons.mp hd with rfl | hd
      · exact hat.2.2
      · exact hkept.freed d hd
  | forgetDev =>
      have hkept := h.kept_of_alone hat hpc
      exact .alone hat rfl ⟨hat, rfl⟩ ⟨hkept.freed, nofun, nofun, hkept.fresh, hkept.listener⟩
  | forgetCh =>
      have hkept := h.kept_of_alone hat.1 hpc
      refine .alone hat.1 rfl hat.1 ⟨hkept.freed, hkept.dev, fun _ => ⟨?_, nofun⟩, hkept.fresh,
        hkept.listener⟩
      intro d hd
      cases hat.2.symm.trans hd
  | exit => exact .unnoticed (.attributes s false s.stopEvent) rfl rfl trivial rfl
  | useRequire =>
      apply Move.test rfl
      · intro _
        trivial
      · intro _
        trivial
  | useLoad => exact .silent (h.usable hpc rfl).2 rfl
  | useEnter ch => exact .silent hat rfl
  | use ch => exact .silent trivial rfl

/-- The steps after an error are such moves too. -/
theorem Move.of_fail {next : BusPc × Bus} (hfail : s.fail pc = some next) :
    s.Move pc next.1 next.2 := by
  cases pc with
  | init | channelGet | channelStart | threadStart =>
      cases hfail
      exact .silent trivial rfl
  | openDevice =>
      cases hfail
      exact .unnoticed (.attributes s false s.stopEvent) rfl rfl trivial rfl
  | _ => cases hfail

/-- And so is a call. -/
theorem Move.of_call (s : Bus) (m : Method) :
    s.Move .out m.entry
      { s with stopReturned := if m = .start then false else s.stopReturned } := by
  refine .unnoticed ⟨fun _ h => h, fun _ h => h, rfl, rfl, rfl, rfl, rfl, rfl, rfl, ?_⟩ rfl rfl
    ?_ rfl
  · intro hstopped
    cases m with
    | start => cases hstopped
    | _ => exact hstopped
  · cases m with
    | start => rfl
    | _ => trivial

/-! ## Every run -/

/-- **Step.** The invariant is kept as long as no `join` comes back early. -/
theorem Inv.step (h : s.Inv) {e : BusEvent} (hjoin : s.timesOut e = false)
    (hstep : s.step e = some t) : t.Inv := by
  cases e with
  | call a m =>
      simp only [Bus.step] at hstep
      split at hstep
      · rename_i hpc
        cases hstep
        exact h.move hpc (.of_call s m)
      · cases hstep
  | go a =>
      obtain ⟨pc, hpc, rfl⟩ := Option.map_eq_some_iff.mp hstep
      exact h.move hpc (h.move_go hpc hjoin)
  | fail a =>
      obtain ⟨next, hnext, rfl⟩ := Option.map_eq_some_iff.mp hstep
      obtain ⟨pc, hpc, hfail⟩ := Option.bind_eq_some_iff.mp hnext
      exact h.move hpc (.of_fail hfail)
  | test i =>
      simp only [Bus.step] at hstep
      split at hstep
      · rename_i hthread
        cases hstep
        apply h.moveThread hthread rfl
        split <;> trivial
      · cases hstep
  | load i =>
      simp only [Bus.step] at hstep
      split at hstep
      · rename_i hthread
        cases hstep
        have hlive : (s.thread i).live = true := by
          rw [hthread]
          rfl
        exact h.moveThread hthread rfl (h.usable_of_live hlive).2
      · cases hstep
  | enter i =>
      simp only [Bus.step] at hstep
      split at hstep
      · rename_i ch hthread
        cases hstep
        have hphase := h.phase i
        rw [hthread] at hphase
        exact h.moveThread hthread rfl hphase
      · cases hstep
  | received i rc =>
      simp only [Bus.step] at hstep
      split at hstep
      · rename_i ch hthread
        cases hstep
        apply h.moveThread hthread rfl
        split
        · trivial
        · split <;> trivial
      · cases hstep
  | handled i =>
      simp only [Bus.step] at hstep
      split at hstep
      · rename_i hthread
        cases hstep
        exact h.moveThread hthread rfl trivial
      · cases hstep
  | died i =>
      simp only [Bus.step] at hstep
      split at hstep
      · rename_i hthread
        cases hstep
        exact h.moveThread hthread rfl trivial
      · cases hstep

theorem inv_new : new.Inv :=
  ⟨nofun, trivial, fun _ => trivial, nofun, nofun, fun _ => ⟨nofun, nofun⟩, fun _ _ => rfl, nofun⟩

theorem inv_of_meets {events : List BusEvent}
    (hmeets : Meets step (fun s e => s.timesOut e = false) new events)
    (hrun : run step new events = some s) : s.Inv :=
  run_invariant_of_meets (P := Inv) (fun _ _ _ h hjoin hstep => h.step hjoin hstep) inv_new hmeets
    hrun

/-- **Sole consumer.** Whatever the application and its callbacks call, and however the threads
are scheduled: as long as every `join` returns with its thread ended, one thread at most reads the
channel, none after a `stop`, and none is in the library with a device that was closed. -/
theorem soleConsumer_of_meets {events : List BusEvent}
    (hmeets : Meets step (fun s e => s.timesOut e = false) new events)
    (hrun : run step new events = some s) : s.SoleConsumer :=
  (inv_of_meets hmeets hrun).soleConsumer

/-- The application calls a method and takes some steps in it. -/
def calls (m : Method) (steps : ℕ) : List BusEvent :=
  .call .application m :: List.replicate steps (.go .application)

/-- A callback is in `send` when `close` is called, and then the listener ends in time. -/
def closeInTime : List BusEvent :=
  calls .openBus 4 ++ calls .start 7 ++ [.test 0, .load 0, .enter 0, .received 0 1] ++
    [.call (.listener 0) .use] ++ calls .close 3 ++ List.replicate 4 (.go (.listener 0)) ++
    [.handled 0, .test 0] ++ List.replicate 10 (.go .application)

theorem soleConsumer_of_meets_closeInTime :
    ∃ s, run step new closeInTime = some s ∧ s.freed = [0] ∧ s.SoleConsumer := by
  have hend : (run step new closeInTime).map Bus.freed = some [0] := by decide
  obtain ⟨s, hrun, hfreed⟩ := Option.map_eq_some_iff.mp hend
  exact ⟨s, hrun, hfreed, soleConsumer_of_meets (by decide) hrun⟩

/-- A callback takes longer than the `stop` waits, and the next `start` clears the event: then the
callback returns, and both listeners call `gsusb_channel_recv`. -/
def slowCallback : List BusEvent :=
  calls .openBus 4 ++ calls .start 7 ++ [.test 0, .load 0, .enter 0, .received 0 1] ++
    calls .stop 8 ++ calls .start 7 ++
    [.handled 0, .test 0, .load 0, .enter 0, .test 1, .load 1, .enter 1]

theorem not_soleConsumer_slowCallback :
    ∃ s, run step new slowCallback = some s ∧ s.thread 0 = .recv (some 0) ∧
      s.thread 1 = .recv (some 0) ∧ ¬ s.SoleConsumer := by
  have hend : (run step new slowCallback).map (fun s => (s.thread 0, s.thread 1)) =
      some (.recv (some 0), .recv (some 0)) := by decide
  obtain ⟨s, hrun, hthreads⟩ := Option.map_eq_some_iff.mp hend
  obtain ⟨hzero, hone⟩ := Prod.mk.inj hthreads
  refine ⟨s, hrun, hzero, hone, ?_⟩
  intro hsole
  have heq := hsole.consumer 0 1 (by rw [hzero]; rfl) (by rw [hone]; rfl)
  cases heq

/-! ## After a `join` that came back early -/

/-- A listener is alive, and there can be another one. -/
structure Stray (s : Bus) (i : ℕ) : Prop where
  live : (s.thread i).live = true
  fresh : s.thread s.created = .unstarted

/-- The `stop` goes on. -/
theorem Stray.leads_afterStop (h : s.Stray i) {closing : Bool} (happ : s.app = .forget closing) :
    ∃ t, Leads step s t ∧ t.Stray i ∧ t.app = .afterStop closing ∧ t.started = false := by
  have hforget : Leads step s { s with listenerThread := none, app := .channelTest closing } :=
    ⟨[.go .application], by simp [run_cons, Bus.step, pc?, setPc, go, happ]⟩
  have hchannel : Leads step { s with listenerThread := none, app := .channelTest closing }
      { s with listenerThread := none, app := .unmark closing } := by
    cases s.ch with
    | none => exact ⟨[.go .application], rfl⟩
    | some ch => exact ⟨List.replicate 2 (.go .application), rfl⟩
  have hunmark : Leads step { s with listenerThread := none, app := .unmark closing }
      { s with
        listenerThread := none, started := false, stopReturned := true
        app := .afterStop closing } := ⟨[.go .application], rfl⟩
  exact ⟨_, (hforget.trans hchannel).trans hunmark, ⟨h.live, h.fresh⟩, rfl, rfl⟩

/-- And so does the `close` that may have called it. -/
theorem Stray.leads_out (h : s.Stray i) {closing : Bool} (happ : s.app = .afterStop closing)
    (hstarted : s.started = false) :
    ∃ t, Leads step s t ∧ t.Stray i ∧ t.app = .out ∧ t.started = false := by
  cases closing with
  | false => exact ⟨s, ⟨[], rfl⟩, h, happ, hstarted⟩
  | true =>
      change s.app = .closeTest at happ
      cases hdev : s.dev with
      | none =>
          have hexit : Leads step s { s with ctx := false, app := .out } :=
            ⟨List.replicate 2 (.go .application),
              by simp [List.replicate, run_cons, Bus.step, pc?, setPc, go, happ, hdev]⟩
          exact ⟨_, hexit, ⟨h.live, h.fresh⟩, rfl, hstarted⟩
      | some dev =>
          have htest : Leads step s { s with app := .closeDevice dev } :=
            ⟨[.go .application], by simp [run_cons, Bus.step, pc?, setPc, go, happ, hdev]⟩
          have hexit : Leads step { s with app := .closeDevice dev }
              { s with
                freed := dev :: s.freed, dev := none, ch := none, ctx := false, app := .out } :=
            ⟨List.replicate 4 (.go .application),
              by simp [List.replicate, run_cons, Bus.step, pc?, setPc, go]⟩
          exact ⟨_, htest.trans hexit, ⟨h.live, h.fresh⟩, rfl, hstarted⟩

/-- The application can open the bus again. -/
theorem Stray.leads_open (h : s.Stray i) (happ : s.app = .out) (hstarted : s.started = false) :
    ∃ t, Leads step s t ∧ t.Stray i ∧ t.app = .out ∧ t.started = false ∧ t.dev ≠ none := by
  by_cases hdev : s.dev = none
  · have htest : Leads step s { s with app := .init } :=
      ⟨calls .openBus 1, by
        simp [calls, List.replicate, run_cons, Bus.step, pc?, setPc, go, Method.entry, happ,
          hdev]⟩
    have hopen : Leads step { s with app := .init }
        { s with
          ctx := true, dev := some s.opened, opened := s.opened + 1, ch := some s.opened
          app := .out } :=
      ⟨List.replicate 3 (.go .application),
        by simp [List.replicate, run_cons, Bus.step, pc?, setPc, go]⟩
    exact ⟨_, htest.trans hopen, ⟨h.live, h.fresh⟩, rfl, hstarted, nofun⟩
  · exact ⟨s, ⟨[], rfl⟩, h, happ, hstarted, hdev⟩

/-- Its next `start` makes a second listener. -/
theorem Stray.leads_start (h : s.Stray i) (happ : s.app = .out) (hstarted : s.started = false)
    (hdev : s.dev ≠ none) : ∃ t, Leads step s t ∧ ¬ t.SoleConsumer := by
  have htest : Leads step s { s with stopReturned := false, app := .channelStart s.ch } :=
    ⟨calls .start 2, by
      simp [calls, List.replicate, run_cons, Bus.step, pc?, setPc, go, Method.entry, happ, hdev,
        hstarted]⟩
  have hcreate : Leads step { s with stopReturned := false, app := .channelStart s.ch }
      { s with
        stopReturned := false, started := true, stopEvent := false
        listenerThread := some s.created, created := s.created + 1, app := .threadStart } :=
    ⟨List.replicate 4 (.go .application),
      by simp [List.replicate, run_cons, Bus.step, pc?, setPc, go]⟩
  have hstart : Leads step
      { s with
        stopReturned := false, started := true, stopEvent := false
        listenerThread := some s.created, created := s.created + 1, app := .threadStart }
      { s with
        stopReturned := false, started := true, stopEvent := false
        listenerThread := some s.created, created := s.created + 1, app := .out
        thread := Function.update s.thread s.created .test } :=
    ⟨[.go .application], by simp [run_cons, Bus.step, pc?, setPc, go, Bus.setThread, h.fresh]⟩
  have hleads := (htest.trans hcreate).trans hstart
  refine ⟨_, hleads, ?_⟩
  intro hsole
  have hne : i ≠ s.created := by
    rintro rfl
    have hlive := h.live
    rw [h.fresh] at hlive
    cases hlive
  have hlive : (Function.update s.thread s.created .test i).live = true := by
    rw [Function.update_of_ne hne]
    exact h.live
  have hnew : (Function.update s.thread s.created .test s.created).live = true := by
    rw [Function.update_self]
    rfl
  exact hne (hsole.alone i s.created hlive hnew)

/-- A `join` that comes back early is the application's, and leaves a stray listener. -/
theorem Inv.stray_of_timesOut (h : s.Inv) {e : BusEvent} (hjoin : s.timesOut e = true)
    (hstep : s.step e = some t) : ∃ i closing, t.Stray i ∧ t.app = .forget closing := by
  cases e with
  | go a =>
      obtain ⟨pc, hpc, rfl⟩ := Option.map_eq_some_iff.mp hstep
      cases pc with
      | join closing i =>
          simp only [timesOut, hpc, Bool.and_eq_true, decide_eq_true_eq] at hjoin
          obtain ⟨hne, hlive⟩ := hjoin
          have hstarted : s.thread i ≠ .unstarted := by
            intro hunstarted
            rw [hunstarted] at hlive
            cases hlive
          have hlistener : s.listenerThread = some i := h.at hpc
          cases a with
          | application =>
              refine ⟨i, closing, ⟨hlive, h.kept.fresh _ (Nat.le_refl _)⟩, ?_⟩
              simp [go, setPc, hstarted]
          | listener j =>
              have hown := (h.live j (live_of_pc? hpc).2).1
              rw [hlistener] at hown
              cases hown
              exact absurd rfl hne
      | _ => simp [timesOut, hpc] at hjoin
  | _ => cases hjoin

/-- **The condition is no stronger than it has to be.** Where a `join` comes back early for the
first time, the application can go on so that the promise is broken. -/
theorem exists_not_soleConsumer_of_timesOut {events : List BusEvent}
    (hmeets : Meets step (fun s e => s.timesOut e = false) new events)
    (hrun : run step new events = some s) {e : BusEvent} (hjoin : s.timesOut e = true)
    (hstep : s.step e = some t) : ∃ u, Leads step t u ∧ ¬ u.SoleConsumer := by
  obtain ⟨i, closing, hstray, happ⟩ := (inv_of_meets hmeets hrun).stray_of_timesOut hjoin hstep
  obtain ⟨s₁, hstop, hstray, happ, hstarted⟩ := hstray.leads_afterStop happ
  obtain ⟨s₂, hclose, hstray, happ, hstarted⟩ := hstray.leads_out happ hstarted
  obtain ⟨s₃, hopen, hstray, happ, hstarted, hdev⟩ := hstray.leads_open happ hstarted
  obtain ⟨u, hstart, hbroken⟩ := hstray.leads_start happ hstarted hdev
  exact ⟨u, ((hstop.trans hclose).trans hopen).trans hstart, hbroken⟩

end Bus

end GsUsb.Python
