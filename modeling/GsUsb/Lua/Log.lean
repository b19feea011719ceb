/-
# What the Lua binding asks of the library

The binding's library calls as a trace of resources: contexts own the devices opened from
them, and every other call uses a device.  A log is safe where no call works on what an
earlier one took away.
-/

import GsUsb.Lua.Binding
import GsUsb.Math.Lifetime

namespace GsUsb.Lua

open GsUsb.Math.Lifetime

/-- What the library hands out and takes back. -/
inductive Handle where
  | ctx (c : ℕ)
  | dev (d : ℕ)
  deriving DecidableEq

/-- The context or device a library call works on. -/
def Call.handle : Call → Option Handle
  | .init _ => none
  | .exit c => some (.ctx c)
  | .openDev c _ => some (.ctx c)
  | .close d => some (.dev d)
  | .channelCount d => some (.dev d)
  | .getDeviceConfig d => some (.dev d)
  | .channelGet d _ => some (.dev d)
  | .channel _ d _ => some (.dev d)

/-- A context that was exited; a device that was closed, or whose context was exited. -/
def Gone (log : List Call) : Handle → Prop
  | .ctx c => .exit c ∈ log
  | .dev d => .close d ∈ log ∨ ∃ c, .openDev c (some d) ∈ log ∧ .exit c ∈ log

/-- No call works on something that an earlier call took away. -/
def LifetimeSafe (log : List Call) : Prop :=
  ∀ later call earlier, log = later ++ call :: earlier →
    ∀ h, call.handle = some h → ¬ Gone earlier h

/-- A call as an event on resources: a device is owned by its context. -/
def Call.event : Call → Option (Event Handle)
  | .init none => none
  | .init (some c) => some (.acquire (.ctx c) [])
  | .exit c => some (.release (.ctx c))
  | .openDev c none => some (.use (.ctx c))
  | .openDev c (some d) => some (.acquire (.dev d) [.ctx c])
  | .close d => some (.release (.dev d))
  | .channelCount d => some (.use (.dev d))
  | .getDeviceConfig d => some (.use (.dev d))
  | .channelGet d _ => some (.use (.dev d))
  | .channel _ d _ => some (.use (.dev d))

/-- The trace of a log. -/
def trace (log : List Call) : List (Event Handle) := log.filterMap Call.event

section Trace

variable {log : List Call} {call : Call} {e : Event Handle} {c d : ℕ} {owners : List Handle}

theorem trace_cons (hevent : call.event = some e) : trace (call :: log) = e :: trace log :=
  List.filterMap_cons_some hevent

/-- A call in the middle of a log. -/
theorem trace_append_cons {later earlier : List Call} (hevent : call.event = some e) :
    trace (later ++ call :: earlier) = trace later ++ e :: trace earlier := by
  rw [trace, List.filterMap_append, List.filterMap_cons_some hevent]
  rfl

/-- An event of one call only. -/
theorem mem_trace_iff (hevent : ∀ call' : Call, call'.event = some e ↔ call' = call) :
    e ∈ trace log ↔ call ∈ log := by
  rw [trace, List.mem_filterMap]
  constructor
  · rintro ⟨call', hcall, hevent'⟩
    rw [← (hevent call').mp hevent']
    exact hcall
  · intro hcall
    exact ⟨call, hcall, (hevent call).mpr rfl⟩

/-- An exit is the release of a context. -/
theorem mem_trace_exit : Event.release (.ctx c) ∈ trace log ↔ .exit c ∈ log := by
  apply mem_trace_iff
  intro call
  constructor
  · intro hevent
    rcases call with (_ | _) | _ | ⟨_, _ | _⟩ | _ | _ | _ | _ | _ <;> cases hevent
    rfl
  · rintro rfl
    rfl

/-- A close is the release of a device. -/
theorem mem_trace_close : Event.release (.dev d) ∈ trace log ↔ .close d ∈ log := by
  apply mem_trace_iff
  intro call
  constructor
  · intro hevent
    rcases call with (_ | _) | _ | ⟨_, _ | _⟩ | _ | _ | _ | _ | _ <;> cases hevent
    rfl
  · rintro rfl
    rfl

/-- An open is the acquisition of a device under its context. -/
theorem mem_trace_open :
    Event.acquire (.dev d) owners ∈ trace log ↔
      ∃ c, owners = [.ctx c] ∧ .openDev c (some d) ∈ log := by
  rw [trace, List.mem_filterMap]
  constructor
  · rintro ⟨call, hcall, hevent⟩
    rcases call with (_ | _) | _ | ⟨c, _ | _⟩ | _ | _ | _ | _ | _ <;> cases hevent
    exact ⟨c, rfl, hcall⟩
  · rintro ⟨c, rfl, hcall⟩
    exact ⟨_, hcall, rfl⟩

/-- A context has no owner. -/
theorem owners_of_acquire_ctx (hacquire : Event.acquire (.ctx c) owners ∈ trace log) :
    owners = [] := by
  rw [trace, List.mem_filterMap] at hacquire
  obtain ⟨call, -, hevent⟩ := hacquire
  rcases call with (_ | _) | _ | ⟨_, _ | _⟩ | _ | _ | _ | _ | _ <;> cases hevent
  rfl

/-- Only a context owns, and only devices opened from it. -/
theorem owns_trace_iff {o h : Handle} :
    Owns (trace log) o h ↔ ∃ c d, o = .ctx c ∧ h = .dev d ∧ .openDev c (some d) ∈ log := by
  constructor
  · rintro ⟨owners, hacquire, hmem⟩
    cases h with
    | ctx c =>
        rw [owners_of_acquire_ctx hacquire] at hmem
        cases hmem
    | dev d =>
        obtain ⟨c, rfl, hcall⟩ := mem_trace_open.mp hacquire
        exact ⟨c, d, List.mem_singleton.mp hmem, rfl, hcall⟩
  · rintro ⟨c, d, rfl, rfl, hcall⟩
    exact ⟨[.ctx c], mem_trace_open.mpr ⟨c, rfl, hcall⟩, List.mem_singleton_self _⟩

/-- What is gone has expired, and conversely. -/
theorem expired_trace_iff {h : Handle} : Expired (trace log) h ↔ Gone log h := by
  cases h with
  | ctx c =>
      constructor
      · rintro (hrelease | ⟨o, howns, -⟩)
        · exact mem_trace_exit.mp hrelease
        · obtain ⟨_, _, -, hctx, -⟩ := owns_trace_iff.mp howns
          cases hctx
      · intro hexit
        exact .inl (mem_trace_exit.mpr hexit)
  | dev d =>
      constructor
      · rintro (hrelease | ⟨o, howns, hrelease⟩)
        · exact .inl (mem_trace_close.mp hrelease)
        · obtain ⟨c, _, rfl, hdev, hcall⟩ := owns_trace_iff.mp howns
          cases hdev
          exact .inr ⟨c, hcall, mem_trace_exit.mp hrelease⟩
      · rintro (hclose | ⟨c, hcall, hexit⟩)
        · exact .inl (mem_trace_close.mpr hclose)
        · exact .inr ⟨.ctx c, owns_trace_iff.mpr ⟨c, d, rfl, rfl, hcall⟩,
            mem_trace_exit.mpr hexit⟩

/-- The event of a call needs what the call works on. -/
theorem Call.exists_event {h : Handle} (hhandle : call.handle = some h) :
    ∃ e, call.event = some e ∧ h ∈ e.needs := by
  rcases call with (_ | _) | _ | ⟨_, _ | _⟩ | _ | _ | _ | _ | _ <;> cases hhandle <;>
    exact ⟨_, rfl, List.mem_singleton_self _⟩

/-- A disciplined trace is one of a safe log. -/
theorem lifetimeSafe_of_disciplined (hdisciplined : Disciplined (trace log)) :
    LifetimeSafe log := by
  rintro later call earlier rfl h hhandle hgone
  obtain ⟨e, hevent, hneeds⟩ := Call.exists_event hhandle
  rw [trace_append_cons hevent] at hdisciplined
  exact hdisciplined.not_expired h hneeds (expired_trace_iff.mpr hgone)

end Trace

end GsUsb.Lua
