/-
# Computations that leave a trace

A computation makes calls on its way to a result or to an error.  The calls made before an error
stay made, so the trace of a failure is as much a part of the outcome as that of a success.
-/

import Mathlib.Data.List.Basic

namespace GsUsb.Math

universe u v w

/-- The calls of a computation, oldest first, and what it ends with. -/
structure Traced (κ : Type u) (ε : Type v) (α : Type w) where
  calls : List κ
  result : Except ε α

namespace Traced

variable {κ : Type u} {ε : Type v} {α β : Type w}

instance : Monad (Traced κ ε) where
  pure a := ⟨[], .ok a⟩
  bind x f :=
    match x.result with
    | .error e => ⟨x.calls, .error e⟩
    | .ok a => ⟨x.calls ++ (f a).calls, (f a).result⟩

/-- Make some calls. -/
def make (calls : List κ) : Traced κ ε PUnit := ⟨calls, .ok ⟨⟩⟩

/-- Make some calls and give up. -/
def fail (calls : List κ) (e : ε) : Traced κ ε α := ⟨calls, .error e⟩

@[simp]
theorem calls_pure (a : α) : (pure a : Traced κ ε α).calls = [] := rfl

@[simp]
theorem result_pure (a : α) : (pure a : Traced κ ε α).result = .ok a := rfl

@[simp]
theorem calls_fail (calls : List κ) (e : ε) : (fail calls e : Traced κ ε α).calls = calls := rfl

@[simp]
theorem result_fail (calls : List κ) (e : ε) :
    (fail calls e : Traced κ ε α).result = .error e := rfl

@[simp]
theorem make_bind (calls : List κ) (f : PUnit → Traced κ ε α) :
    (make calls >>= f) = ⟨calls ++ (f ⟨⟩).calls, (f ⟨⟩).result⟩ := rfl

/-- What has a result goes on with it. -/
@[simp]
theorem ok_bind (calls : List κ) (a : α) (f : α → Traced κ ε β) :
    ((⟨calls, .ok a⟩ : Traced κ ε α) >>= f) = ⟨calls ++ (f a).calls, (f a).result⟩ := rfl

variable {x : Traced κ ε α} {f : α → Traced κ ε β} {a : α} {e : ε}

/-- What follows an error is not done. -/
theorem bind_of_error (hx : x.result = .error e) : (x >>= f) = ⟨x.calls, .error e⟩ := by
  show (match x.result with
    | .error e => (⟨x.calls, .error e⟩ : Traced κ ε β)
    | .ok a => ⟨x.calls ++ (f a).calls, (f a).result⟩) = _
  rw [hx]

theorem bind_of_ok (hx : x.result = .ok a) :
    (x >>= f) = ⟨x.calls ++ (f a).calls, (f a).result⟩ := by
  show (match x.result with
    | .error e => (⟨x.calls, .error e⟩ : Traced κ ε β)
    | .ok a => ⟨x.calls ++ (f a).calls, (f a).result⟩) = _
  rw [hx]

/-- The result does not depend on the trace. -/
@[simp]
theorem result_bind : (x >>= f).result = x.result >>= fun a => (f a).result := by
  rcases hx : x.result with e | a
  · rw [bind_of_error hx]
    rfl
  · rw [bind_of_ok hx]
    rfl

end Traced

end GsUsb.Math
