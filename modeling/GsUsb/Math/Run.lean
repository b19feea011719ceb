/-
# Runs of a partial step function

A machine is given by `step : σ → ε → Option σ`: the event list is the schedule,
and `none` says that the event is not enabled.  This module supplies the two
rules every later run argument uses.  An invariant that each step preserves holds
at the end of every run, and an invariant that only the steps meeting a side
condition preserve holds at the end of every run all of whose steps meet it.
-/

import Mathlib.Data.Option.Basic

namespace GsUsb.Math

universe u v

variable {σ : Type u} {ε : Type v}

/-- Execute a schedule from the left; a disabled event makes the run undefined. -/
def run (step : σ → ε → Option σ) : σ → List ε → Option σ
  | s, [] => some s
  | s, e :: es => (step s e).bind fun t => run step t es

@[simp]
theorem run_nil (step : σ → ε → Option σ) (s : σ) : run step s [] = some s := rfl

theorem run_cons (step : σ → ε → Option σ) (s : σ) (e : ε) (es : List ε) :
    run step s (e :: es) = (step s e).bind fun t => run step t es := rfl

/-- A nonempty run is its first step followed by the rest. -/
theorem run_cons_eq_some {step : σ → ε → Option σ} {s u : σ} {e : ε} {es : List ε} :
    run step s (e :: es) = some u ↔ ∃ t, step s e = some t ∧ run step t es = some u := by
  rw [run_cons, Option.bind_eq_some_iff]

/-- A schedule in two parts. -/
theorem run_append (step : σ → ε → Option σ) (s : σ) (es es' : List ε) :
    run step s (es ++ es') = (run step s es).bind fun t => run step t es' := by
  induction es generalizing s with
  | nil => rfl
  | cons e es ih =>
      rw [List.cons_append, run_cons, run_cons, Option.bind_assoc]
      simp only [ih]

/-- Some schedule leads from one state to the other. -/
def Leads (step : σ → ε → Option σ) (s t : σ) : Prop := ∃ es, run step s es = some t

theorem Leads.trans {step : σ → ε → Option σ} {s t u : σ} (h : Leads step s t)
    (h' : Leads step t u) : Leads step s u := by
  obtain ⟨es, hrun⟩ := h
  obtain ⟨es', hrun'⟩ := h'
  refine ⟨es ++ es', ?_⟩
  rw [run_append, hrun]
  exact hrun'

/-- Every step of the schedule that is executed meets the side condition in the
state it is executed from. -/
def Meets (step : σ → ε → Option σ) (ok : σ → ε → Prop) : σ → List ε → Prop
  | _, [] => True
  | s, e :: es => ok s e ∧ ∀ t ∈ step s e, Meets step ok t es

/-- A schedule whose first step meets the condition, and the rest after it. -/
theorem Meets.cons {step : σ → ε → Option σ} {ok : σ → ε → Prop} {s t : σ} {e : ε}
    {es : List ε} (hstep : step s e = some t) (hok : ok s e) (hrest : Meets step ok t es) :
    Meets step ok s (e :: es) := by
  refine ⟨hok, ?_⟩
  intro t' ht'
  cases hstep.symm.trans ht'
  exact hrest

instance decidableMeets (step : σ → ε → Option σ) (ok : σ → ε → Prop)
    [∀ s e, Decidable (ok s e)] :
    ∀ (s : σ) (es : List ε), Decidable (Meets step ok s es)
  | _, [] => isTrue trivial
  | s, e :: es =>
      match h : step s e with
      | none => decidable_of_iff (ok s e) (by simp [Meets, h])
      | some t =>
          letI := decidableMeets step ok t es
          decidable_of_iff (ok s e ∧ Meets step ok t es) (by simp [Meets, h])

/-- **Guarded invariant rule.** What every step meeting the condition preserves
holds at the end of every run whose steps all meet it. -/
theorem run_invariant_of_meets {step : σ → ε → Option σ} {ok : σ → ε → Prop}
    {P : σ → Prop}
    (preserved : ∀ s e t, P s → ok s e → step s e = some t → P t)
    {s t : σ} {es : List ε} (hs : P s) (hmeets : Meets step ok s es)
    (hrun : run step s es = some t) : P t := by
  induction es generalizing s with
  | nil =>
      cases hrun
      exact hs
  | cons e es ih =>
      obtain ⟨next, hstep, hrest⟩ := run_cons_eq_some.mp hrun
      exact ih (preserved s e next hs hmeets.1 hstep) (hmeets.2 next hstep) hrest

/-- **Invariant rule.** What every step preserves holds at the end of every run. -/
theorem run_invariant {step : σ → ε → Option σ} {P : σ → Prop}
    (preserved : ∀ s e t, P s → step s e = some t → P t)
    {s t : σ} {es : List ε} (hs : P s) (hrun : run step s es = some t) : P t := by
  induction es generalizing s with
  | nil =>
      cases hrun
      exact hs
  | cons e es ih =>
      obtain ⟨next, hstep, hrest⟩ := run_cons_eq_some.mp hrun
      exact ih (preserved s e next hs hstep) hrest

/-- What every event of the schedule preserves holds at its end. -/
theorem run_invariant_of_mem {step : σ → ε → Option σ} {P : σ → Prop} {s t : σ} {es : List ε}
    (preserved : ∀ s e t, e ∈ es → P s → step s e = some t → P t) (hs : P s)
    (hrun : run step s es = some t) : P t := by
  induction es generalizing s with
  | nil =>
      cases hrun
      exact hs
  | cons e es ih =>
      obtain ⟨next, hstep, hrest⟩ := run_cons_eq_some.mp hrun
      refine ih (fun s e t he => preserved s e t (List.mem_cons_of_mem _ he)) ?_ hrest
      exact preserved s e next List.mem_cons_self hs hstep

/-- In a schedule that meets the condition, so does each event in the state it is executed
from. -/
theorem Meets.ok_of_run {step : σ → ε → Option σ} {ok : σ → ε → Prop} {s t : σ}
    {es rest : List ε} {e : ε} (hrun : run step s es = some t)
    (hmeets : Meets step ok s (es ++ e :: rest)) : ok t e := by
  induction es generalizing s with
  | nil =>
      cases hrun
      exact hmeets.1
  | cons e' es ih =>
      obtain ⟨next, hstep, hrest⟩ := run_cons_eq_some.mp hrun
      exact ih hrest (hmeets.2 next hstep)

/-- Two conditions that agree wherever an invariant holds are met by the same schedules. -/
theorem meets_congr {step : σ → ε → Option σ} {ok ok' : σ → ε → Prop} {P : σ → Prop}
    (preserved : ∀ s e t, P s → step s e = some t → P t)
    (agree : ∀ s e, P s → (ok s e ↔ ok' s e)) {s : σ} {es : List ε} (hs : P s) :
    Meets step ok s es ↔ Meets step ok' s es := by
  induction es generalizing s with
  | nil => exact Iff.rfl
  | cons e es ih =>
      apply and_congr (agree s e hs)
      apply forall₂_congr
      intro t hstep
      exact ih (preserved s e t hs hstep)

/-- **Simulation rule.** Where every step of one system is the step of another one seen through
an abstraction, as long as an invariant holds that the steps preserve, so is every run. -/
theorem run_map {τ : Type*} {step : σ → ε → Option σ} {step' : τ → ε → Option τ} {abs : σ → τ}
    {P : σ → Prop} (preserved : ∀ s e t, P s → step s e = some t → P t)
    (simulates : ∀ s e, P s → (step s e).map abs = step' (abs s) e) {s : σ} (hs : P s)
    (es : List ε) : (run step s es).map abs = run step' (abs s) es := by
  induction es generalizing s with
  | nil => rfl
  | cons e es ih =>
      rw [run_cons, run_cons, ← simulates s e hs]
      cases hstep : step s e with
      | none => rfl
      | some t => exact ih (preserved s e t hs hstep)

end GsUsb.Math
