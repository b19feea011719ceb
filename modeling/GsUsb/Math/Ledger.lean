/-
# A ledger of resources

The ledger goes through a trace, oldest event first, and notes of every resource whether it is
still to be acquired, held or released.  It accepts a trace in which only what is held is used or
released, nothing is acquired a second time, and nothing is held by owners that are gone.
-/

import GsUsb.Math.Lifetime
import GsUsb.Math.Traced
import Mathlib.Data.List.FinRange
import Mathlib.Logic.Function.Basic

namespace GsUsb.Math.Lifetime

universe u

/-- Where a resource is in its life. -/
inductive Status where
  | fresh
  | held
  | released
  deriving DecidableEq

variable {R : Type u} (owners : R → List R)

/-- What an event asks of the ledger: a resource is acquired once, under owners that are held; it
is used and released while it is held; and nothing held depends on what is released. -/
def Ok (l : R → Status) : Event R → Prop
  | .acquire r os => os = owners r ∧ l r = .fresh ∧ ∀ o ∈ os, l o = .held
  | .use r => l r = .held
  | .release r => l r = .held ∧ ∀ q, r ∈ owners q → l q ≠ .held

section Ok

variable {owners} {l : R → Status} {r : R}

@[simp]
theorem ok_acquire {os : List R} : Ok owners l (.acquire r os) ↔
    os = owners r ∧ l r = .fresh ∧ ∀ o ∈ os, l o = .held := Iff.rfl

@[simp]
theorem ok_use : Ok owners l (.use r) ↔ l r = .held := Iff.rfl

end Ok

variable [DecidableEq R]

/-- Enter an event. -/
def enter (l : R → Status) : Event R → R → Status
  | .acquire r _ => Function.update l r .held
  | .use _ => l
  | .release r => Function.update l r .released

/-- Enter the events of a trace. -/
def enterAll (l : R → Status) (trace : List (Event R)) : R → Status := trace.foldl enter l

/-- Every event of the trace gets what it asks for. -/
def Accepted : (R → Status) → List (Event R) → Prop
  | _, [] => True
  | l, e :: trace => Ok owners l e ∧ Accepted (enter l e) trace

variable {owners} {l : R → Status} {trace later : List (Event R)} {r : R} {e : Event R}

@[simp]
theorem enter_acquire (os : List R) : enter l (.acquire r os) = Function.update l r .held := rfl

@[simp]
theorem enter_use : enter l (.use r) = l := rfl

@[simp]
theorem enter_release : enter l (.release r) = Function.update l r .released := rfl

@[simp]
theorem enterAll_nil : enterAll l [] = l := rfl

@[simp]
theorem enterAll_cons : enterAll l (e :: trace) = enterAll (enter l e) trace := rfl

@[simp]
theorem enterAll_append :
    enterAll l (trace ++ later) = enterAll (enterAll l trace) later :=
  List.foldl_append

@[simp]
theorem accepted_nil : Accepted owners l [] := trivial

@[simp]
theorem accepted_cons :
    Accepted owners l (e :: trace) ↔ Ok owners l e ∧ Accepted owners (enter l e) trace := Iff.rfl

theorem accepted_append : Accepted owners l (trace ++ later) ↔
    Accepted owners l trace ∧ Accepted owners (enterAll l trace) later := by
  induction trace generalizing l with
  | nil => simp
  | cons e trace ih =>
      rw [List.cons_append, accepted_cons, accepted_cons, ih, and_assoc]
      rfl

/-- A loop, given the status at the beginning of each pass. -/
theorem accepted_flatMap_finRange {n : ℕ} {body : Fin n → List (Event R)} {status : ℕ → R → Status}
    (hbody : ∀ i : Fin n, Accepted owners (status i) (body i) ∧
      enterAll (status i) (body i) = status (i + 1)) :
    Accepted owners (status 0) ((List.finRange n).flatMap body) ∧
      enterAll (status 0) ((List.finRange n).flatMap body) = status n := by
  induction n with
  | zero => exact ⟨trivial, rfl⟩
  | succ n ih =>
      have hinit (i : Fin n) : Accepted owners (status i) (body i.castSucc) ∧
          enterAll (status i) (body i.castSucc) = status (i + 1) := hbody i.castSucc
      obtain ⟨haccepted, hstatus⟩ := ih hinit
      obtain ⟨hlast, hend⟩ := hbody (Fin.last n)
      rw [List.finRange_succ_last, List.flatMap_append, List.flatMap_map, List.flatMap_singleton,
        accepted_append, enterAll_append, hstatus]
      exact ⟨⟨haccepted, hlast⟩, hend⟩

/-- The number of times a resource is acquired. -/
def acquisitions (r : R) : List (Event R) → ℕ
  | [] => 0
  | .acquire q _ :: trace => (if q = r then 1 else 0) + acquisitions r trace
  | .use _ :: trace => acquisitions r trace
  | .release _ :: trace => acquisitions r trace

/-- The number of times a resource is released. -/
def releases (r : R) : List (Event R) → ℕ
  | [] => 0
  | .acquire _ _ :: trace => releases r trace
  | .use _ :: trace => releases r trace
  | .release q :: trace => (if q = r then 1 else 0) + releases r trace

theorem acquisitions_append (r : R) (trace later : List (Event R)) :
    acquisitions r (trace ++ later) = acquisitions r trace + acquisitions r later := by
  induction trace with
  | nil => exact (Nat.zero_add _).symm
  | cons e trace ih => cases e <;> simp only [List.cons_append, acquisitions, ih, Nat.add_assoc]

theorem releases_append (r : R) (trace later : List (Event R)) :
    releases r (trace ++ later) = releases r trace + releases r later := by
  induction trace with
  | nil => exact (Nat.zero_add _).symm
  | cons e trace ih => cases e <;> simp only [List.cons_append, releases, ih, Nat.add_assoc]

/-- A resource is acquired once, and then it is no longer fresh. -/
theorem Accepted.acquisitions_add (h : Accepted owners l trace) (r : R) :
    acquisitions r trace + (if enterAll l trace r = .fresh then 1 else 0) =
      if l r = .fresh then 1 else 0 := by
  induction trace generalizing l with
  | nil => exact Nat.zero_add _
  | cons e trace ih =>
      have hrest := ih h.2
      cases e with
      | acquire q os =>
          obtain ⟨-, hfresh, -⟩ := h.1
          rw [enterAll_cons, acquisitions, Nat.add_assoc, hrest, enter]
          by_cases hq : q = r
          · subst hq
            simp [hfresh]
          · simp [hq, Function.update_of_ne (Ne.symm hq)]
      | use q => exact hrest
      | release q =>
          obtain ⟨hheld, -⟩ := h.1
          rw [enterAll_cons, acquisitions, hrest, enter]
          by_cases hq : q = r
          · subst hq
            simp [hheld]
          · simp [Function.update_of_ne (Ne.symm hq)]

/-- A resource is released once, and then it stays so. -/
theorem Accepted.releases_add (h : Accepted owners l trace) (r : R) :
    releases r trace + (if l r = .released then 1 else 0) =
      if enterAll l trace r = .released then 1 else 0 := by
  induction trace generalizing l with
  | nil => exact Nat.zero_add _
  | cons e trace ih =>
      have hrest := ih h.2
      cases e with
      | acquire q os =>
          obtain ⟨-, hfresh, -⟩ := h.1
          rw [enterAll_cons, releases, ← hrest, enter]
          by_cases hq : q = r
          · subst hq
            simp [hfresh]
          · simp [Function.update_of_ne (Ne.symm hq)]
      | use q => exact hrest
      | release q =>
          obtain ⟨hheld, -⟩ := h.1
          rw [enterAll_cons, releases, ← hrest, enter]
          by_cases hq : q = r
          · subst hq
            simp [hheld, Nat.add_comm]
          · simp [hq, Function.update_of_ne (Ne.symm hq)]

/-- What acquires nothing and leaves nothing held releases what was held, each once. -/
theorem Accepted.releases_eq (h : Accepted owners l trace) (hacquired : acquisitions r trace = 0)
    (hend : enterAll l trace r ≠ .held) : releases r trace = if l r = .held then 1 else 0 := by
  have hfresh := h.acquisitions_add r
  have hreleased := h.releases_add r
  rw [hacquired] at hfresh
  rcases hfirst : l r with _ | _ | _ <;>
    rcases hlast : enterAll l trace r with _ | _ | _ <;>
      simp_all

/-- The status of the resources after a trace. -/
def statusAfter (trace : List (Event R)) : R → Status := enterAll (fun _ => .fresh) trace

/-- A trace that gets what it asks for, and that releases every resource it acquires exactly once
and no other. -/
structure Settled (owners : R → List R) (trace : List (Event R)) : Prop where
  accepted : Accepted owners (fun _ => .fresh) trace
  acquired_le : ∀ r, acquisitions r trace ≤ 1
  released_eq : ∀ r, releases r trace = acquisitions r trace

/-- An accepted trace is settled when it leaves nothing held. -/
theorem settled_of_not_held (h : Accepted owners (fun _ => .fresh) trace)
    (hnone : ∀ r, statusAfter trace r ≠ .held) : Settled owners trace := by
  have hcounts (r : R) : acquisitions r trace ≤ 1 ∧ releases r trace = acquisitions r trace := by
    have hacquired := h.acquisitions_add r
    have hreleased := h.releases_add r
    have hend := hnone r
    rw [statusAfter] at hend
    rcases hstatus : enterAll (fun _ => .fresh) trace r with _ | _ | _
    · simp [hstatus] at hacquired hreleased
      omega
    · exact absurd hstatus hend
    · simp [hstatus] at hacquired hreleased
      omega
  exact ⟨h, fun r => (hcounts r).1, fun r => (hcounts r).2⟩

section Tidy

universe v w x

variable {κ : Type v} {ε : Type w} {α β : Type x}

/-- A computation whose calls do this to the resources gets all it asks for from the given status
on.  If it fails it leaves nothing held, and if not it ends as the postcondition says. -/
structure Tidy (owners : R → List R) (events : κ → List (Event R)) (l : R → Status)
    (c : Traced κ ε α) (post : α → (R → Status) → Prop) : Prop where
  accepted : Accepted owners l (c.calls.flatMap events)
  failed : ∀ e, c.result = .error e → ∀ r, enterAll l (c.calls.flatMap events) r ≠ .held
  done : ∀ a, c.result = .ok a → post a (enterAll l (c.calls.flatMap events))

variable {events : κ → List (Event R)} {calls : List κ} {post : β → (R → Status) → Prop}

theorem tidy_pure {b : β} (hpost : post b l) :
    Tidy owners events l (pure b : Traced κ ε β) post where
  accepted := trivial
  failed := nofun
  done := by
    rintro _ ⟨⟩
    exact hpost

theorem tidy_make {post : PUnit → (R → Status) → Prop}
    (haccepted : Accepted owners l (calls.flatMap events))
    (hpost : post ⟨⟩ (enterAll l (calls.flatMap events))) :
    Tidy owners events l (Traced.make calls : Traced κ ε PUnit) post where
  accepted := haccepted
  failed := nofun
  done := fun _ _ => hpost

/-- Giving up: the last calls have to release all that is held. -/
theorem tidy_fail {e : ε} (haccepted : Accepted owners l (calls.flatMap events))
    (hnone : ∀ r, enterAll l (calls.flatMap events) r ≠ .held) :
    Tidy owners events l (Traced.fail calls e : Traced κ ε β) post where
  accepted := haccepted
  failed := fun _ _ => hnone
  done := nofun

/-- One computation after another. -/
theorem Tidy.bind {c : Traced κ ε α} {f : α → Traced κ ε β} {mid : α → (R → Status) → Prop}
    (hc : Tidy owners events l c mid)
    (hf : ∀ a l', mid a l' → Tidy owners events l' (f a) post) :
    Tidy owners events l (c >>= f) post := by
  rcases hresult : c.result with e | a
  · rw [Traced.bind_of_error hresult]
    exact ⟨hc.accepted, fun _ _ => hc.failed e hresult, nofun⟩
  · obtain ⟨haccepted, hfailed, hdone⟩ := hf a _ (hc.done a hresult)
    rw [Traced.bind_of_ok hresult]
    constructor
    · rw [List.flatMap_append, accepted_append]
      exact ⟨hc.accepted, haccepted⟩
    · intro e he
      rw [List.flatMap_append, enterAll_append]
      exact hfailed e he
    · intro b hb
      rw [List.flatMap_append, enterAll_append]
      exact hdone b hb

theorem Tidy.make_bind {f : PUnit → Traced κ ε β}
    (haccepted : Accepted owners l (calls.flatMap events))
    (hf : Tidy owners events (enterAll l (calls.flatMap events)) (f ⟨⟩) post) :
    Tidy owners events l (Traced.make calls >>= f) post := by
  let mid : PUnit → (R → Status) → Prop := fun _ l' => l' = enterAll l (calls.flatMap events)
  have hmake : Tidy owners events l (Traced.make calls : Traced κ ε PUnit) mid :=
    tidy_make haccepted rfl
  apply hmake.bind
  rintro _ _ rfl
  exact hf

end Tidy

end GsUsb.Math.Lifetime
