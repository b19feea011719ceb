/-
# Lifetimes in a trace of resources

A trace records, newest event first, which resources a program acquired, used and
released.  A resource is acquired under owners and expires when it is released or one of
them is.  Where every release is of a resource that is held, none is released twice; where
in addition owners are released last, no event ever needs a resource that has expired.
-/

import Mathlib.Data.List.Basic

namespace GsUsb.Math.Lifetime

universe u

/-- What a program does with resources. -/
inductive Event (R : Type u) where
  | acquire (r : R) (owners : List R)
  | use (r : R)
  | release (r : R)

variable {R : Type u}

/-- The resource was acquired under this owner. -/
def Owns (past : List (Event R)) (o r : R) : Prop :=
  ∃ owners, Event.acquire r owners ∈ past ∧ o ∈ owners

/-- The resource was acquired and not yet released. -/
structure Held (past : List (Event R)) (r : R) : Prop where
  acquired : ∃ owners, Event.acquire r owners ∈ past
  unreleased : Event.release r ∉ past

/-- The resource or one of its owners was released. -/
def Expired (past : List (Event R)) (r : R) : Prop :=
  Event.release r ∈ past ∨ ∃ o, Owns past o r ∧ Event.release o ∈ past

/-- Acquire new resources under owners that are held, and release what is held. -/
def Fits (past : List (Event R)) : Event R → Prop
  | .acquire r owners => (∀ os, Event.acquire r os ∉ past) ∧ ∀ o ∈ owners, Held past o
  | .use _ => True
  | .release r => Held past r

/-- Every event of the trace fits its past. -/
def Balanced : List (Event R) → Prop
  | [] => True
  | e :: past => Fits past e ∧ Balanced past

/-- The resources an event needs. -/
def Event.needs : Event R → List R
  | .acquire _ owners => owners
  | .use r => [r]
  | .release r => [r]

/-- No event of the trace needs a resource that has expired. -/
def Disciplined : List (Event R) → Prop
  | [] => True
  | e :: past => (∀ r ∈ e.needs, ¬ Expired past r) ∧ Disciplined past

/-- Owners were released after everything they own. -/
def OwnersLast (past : List (Event R)) : Prop :=
  ∀ o r, Event.release o ∈ past → Owns past o r → Event.release r ∈ past

variable {past : List (Event R)} {e : Event R} {r q : R} {owners : List R}

/-- Only what was acquired is released. -/
theorem Balanced.acquired_of_release (hbalanced : Balanced past)
    (hrelease : Event.release r ∈ past) : ∃ owners, Event.acquire r owners ∈ past := by
  induction past with
  | nil => cases hrelease
  | cons e past ih =>
      rcases List.mem_cons.mp hrelease with rfl | hold
      · obtain ⟨owners, hacquire⟩ := hbalanced.1.acquired
        exact ⟨owners, List.mem_cons_of_mem _ hacquire⟩
      · obtain ⟨owners, hacquire⟩ := ih hbalanced.2 hold
        exact ⟨owners, List.mem_cons_of_mem _ hacquire⟩

/-- A resource stays held until its release. -/
theorem Held.cons (hheld : Held past r) (hne : e ≠ .release r) : Held (e :: past) r := by
  constructor
  · obtain ⟨owners, hacquire⟩ := hheld.acquired
    exact ⟨owners, List.mem_cons_of_mem _ hacquire⟩
  · rw [List.mem_cons, not_or]
    exact ⟨hne.symm, hheld.unreleased⟩

/-- A resource is held from its acquisition. -/
theorem held_of_acquire (hbalanced : Balanced past) (hfits : Fits past (.acquire r owners)) :
    Held (.acquire r owners :: past) r := by
  refine ⟨⟨owners, List.mem_cons_self⟩, ?_⟩
  rw [List.mem_cons, not_or]
  refine ⟨nofun, ?_⟩
  intro hrelease
  obtain ⟨os, hacquire⟩ := hbalanced.acquired_of_release hrelease
  exact hfits.1 os hacquire

/-- No resource is released twice. -/
theorem Balanced.release_notMem {later : List (Event R)}
    (hbalanced : Balanced (later ++ .release r :: past)) : Event.release r ∉ past := by
  induction later with
  | nil => exact hbalanced.1.unreleased
  | cons e later ih => exact ih hbalanced.2

/-- Where owners are released last, what is held has not expired. -/
theorem OwnersLast.not_expired (hlast : OwnersLast past) (hheld : Held past r) :
    ¬ Expired past r := by
  rintro (hrelease | ⟨o, howns, hrelease⟩)
  · exact hheld.unreleased hrelease
  · exact hheld.unreleased (hlast o r hrelease howns)

theorem OwnersLast.use (hlast : OwnersLast past) : OwnersLast (.use q :: past) := by
  rintro o r hrelease ⟨owners, hacquire, hmem⟩
  have howns : Owns past o r := ⟨owners, (List.mem_cons.mp hacquire).resolve_left nofun, hmem⟩
  exact List.mem_cons_of_mem _ (hlast o r ((List.mem_cons.mp hrelease).resolve_left nofun) howns)

/-- A new resource has owners that are held. -/
theorem OwnersLast.acquire (hlast : OwnersLast past) (hfits : Fits past (.acquire q owners)) :
    OwnersLast (.acquire q owners :: past) := by
  rintro o r hrelease ⟨os, hacquire, hmem⟩
  have hrelease := (List.mem_cons.mp hrelease).resolve_left nofun
  rcases List.mem_cons.mp hacquire with hnew | hold
  · cases hnew
    exact absurd hrelease (hfits.2 o hmem).unreleased
  · exact List.mem_cons_of_mem _ (hlast o r hrelease ⟨os, hold, hmem⟩)

/-- An owner may be released once everything it owns is. -/
theorem OwnersLast.release (hlast : OwnersLast past)
    (hdone : ∀ r, Owns past q r → Event.release r ∈ past) : OwnersLast (.release q :: past) := by
  rintro o r hrelease ⟨os, hacquire, hmem⟩
  have howns : Owns past o r := ⟨os, (List.mem_cons.mp hacquire).resolve_left nofun, hmem⟩
  rcases List.mem_cons.mp hrelease with hnew | hold
  · cases hnew
    exact List.mem_cons_of_mem _ (hdone r howns)
  · exact List.mem_cons_of_mem _ (hlast o r hold howns)

/-- What an event of a disciplined trace needs had not expired. -/
theorem Disciplined.not_expired {later : List (Event R)}
    (hdisciplined : Disciplined (later ++ e :: past)) : ∀ r ∈ e.needs, ¬ Expired past r := by
  induction later with
  | nil => exact hdisciplined.1
  | cons e' later ih => exact ih hdisciplined.2

/-- Where owners are released last, an event that needs only what is held keeps the
discipline. -/
theorem Disciplined.cons (hdisciplined : Disciplined past) (hlast : OwnersLast past)
    (hheld : ∀ r ∈ e.needs, Held past r) : Disciplined (e :: past) :=
  ⟨fun r hr => hlast.not_expired (hheld r hr), hdisciplined⟩

end GsUsb.Math.Lifetime
