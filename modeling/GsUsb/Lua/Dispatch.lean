/-
# Dispatching a frame from Lua

`Bus:poll` hands a frame to the callbacks by walking the table of registrations with `ipairs`,
while the callbacks may call `Bus:add_detector` and `Bus:remove_detector`, which change that
table.  The listener of the Python `Bus` walks a copy.  The two agree as long as every callback is
still at its place when its turn comes.
-/

import GsUsb.Math.LiveLoop

namespace GsUsb.Lua

open GsUsb.Math

universe u v w

/-- A `Bus`: its `_detectors`, and all else that callbacks may read and write. -/
structure Bus (ω : Type u) (δ : Type v) where
  world : ω
  detectors : List δ

/-- A call that a callback makes on its bus. -/
inductive Registration (δ : Type v) where
  | add (fn : δ)
  | remove (fn : δ)

/-- What a callback does with a frame: what becomes of the world, and its calls on the bus in
their order.  A callback that does not raise can do anything. -/
abbrev Behaviour (φ : Type w) (ω : Type u) (δ : Type v) : Type (max u v w) :=
  φ → δ → Bus ω δ → ω × List (Registration δ)

/-- What `Bus:recv` returns on an open bus. -/
inductive Received (φ : Type w) where
  | frame (frame : φ)
  | timeout
  | failed (err : String)

namespace Bus

variable {φ : Type w} {ω : Type u} {δ : Type v} [DecidableEq δ]

/-- `Bus:add_detector`. -/
def addDetector (bus : Bus ω δ) (fn : δ) : Bus ω δ :=
  { bus with detectors := bus.detectors ++ [fn] }

/-- `Bus:remove_detector`. -/
def removeDetector (bus : Bus ω δ) (fn : δ) : Bus ω δ :=
  match bus.detectors.findIdx? (· = fn) with
  | some i => { bus with detectors := bus.detectors.eraseIdx i }
  | none => bus

/-- One call on the bus. -/
def register (bus : Bus ω δ) : Registration δ → Bus ω δ
  | .add fn => bus.addDetector fn
  | .remove fn => bus.removeDetector fn

/-- `fn(frame, self)`. -/
def call (act : Behaviour φ ω δ) (frame : φ) (bus : Bus ω δ) (fn : δ) : Bus ω δ :=
  let (world, registrations) := act frame fn bus
  registrations.foldl register { bus with world := world }

/-- `Bus:poll`, given what `self:recv` returned: its result, the bus it leaves and the callbacks
it called, or `none` when the loop takes more turns than the fuel allows. -/
def poll (act : Behaviour φ ω δ) (received : Received φ) (fuel : ℕ) (bus : Bus ω δ) :
    Option (Except String Bool × Bus ω δ × List δ) :=
  match received with
  | .failed err => some (.error ("gsusb recv failed: " ++ err), bus, [])
  | .timeout => some (.ok false, bus, [])
  | .frame frame =>
    (LiveLoop.walk detectors (call act frame) fuel 0 bus).map fun (bus', calls) =>
      (.ok true, bus', calls)

/-- The loop of `_listen_loop` over a copy of the registrations: the bus it leaves and the
callbacks it called. -/
def dispatchSnapshot (act : Behaviour φ ω δ) (frame : φ) : List δ → Bus ω δ → Bus ω δ × List δ
  | [], bus => (bus, [])
  | fn :: rest, bus =>
    let (bus', calls) := dispatchSnapshot act frame rest (call act frame bus fn)
    (bus', fn :: calls)

/-- The poll returns `true`, having called what was registered when the frame arrived, in that
order and no others, and it leaves what a dispatch over a copy leaves. -/
def DispatchesSnapshot (act : Behaviour φ ω δ) (frame : φ) (bus : Bus ω δ) : Prop :=
  ∃ fuel bus', bus.poll act (.frame frame) fuel = some (.ok true, bus', bus.detectors) ∧
    dispatchSnapshot act frame bus.detectors bus = (bus', bus.detectors)

/-- In a dispatch over a copy, every callback is at its own place of the table when its turn
comes, and at the end nothing is behind the place of the last. -/
def KeepsPlaces (act : Behaviour φ ω δ) (frame : φ) (bus : Bus ω δ) : Prop :=
  LiveLoop.InPlace detectors (call act frame) 0 bus bus.detectors

variable {act : Behaviour φ ω δ} {frame : φ} {bus : Bus ω δ}

omit [DecidableEq δ] in
@[simp]
theorem detectors_addDetector (fn : δ) :
    (bus.addDetector fn).detectors = bus.detectors ++ [fn] := rfl

/-- The first registration of a callback is removed, if there is one. -/
@[simp]
theorem detectors_removeDetector (fn : δ) :
    (bus.removeDetector fn).detectors = bus.detectors.erase fn := by
  rw [List.erase_eq_eraseIdx, removeDetector, List.idxOf?]
  have hsame : (fun d => decide (d = fn)) = fun d => d == fn := by
    funext d
    exact (beq_eq_decide d fn).symm
  rw [hsame]
  rcases bus.detectors.findIdx? (fun d => d == fn) with _ | i
  · rfl
  · rfl

/-- A dispatch over a copy calls the callbacks of the copy. -/
theorem dispatchSnapshot_eq (fns : List δ) :
    dispatchSnapshot act frame fns bus = (fns.foldl (call act frame) bus, fns) := by
  induction fns generalizing bus with
  | nil => rfl
  | cons fn rest ih =>
      rw [dispatchSnapshot, ih]
      rfl

/-- A poll that gets a frame walks the table. -/
theorem poll_frame_eq_some {fuel : ℕ} {bus' : Bus ω δ} {calls : List δ} :
    bus.poll act (.frame frame) fuel = some (.ok true, bus', calls) ↔
      LiveLoop.walk detectors (call act frame) fuel 0 bus = some (bus', calls) := by
  rw [poll, Option.map_eq_some_iff]
  constructor
  · rintro ⟨_, hwalk, heq⟩
    cases heq
    exact hwalk
  · intro hwalk
    exact ⟨_, hwalk, rfl⟩

theorem DispatchesSnapshot.keepsPlaces (h : DispatchesSnapshot act frame bus) :
    KeepsPlaces act frame bus := by
  obtain ⟨fuel, bus', hpoll, -⟩ := h
  exact (LiveLoop.exists_walk_iff.mp ⟨fuel, poll_frame_eq_some.mp hpoll⟩).2

theorem KeepsPlaces.dispatchesSnapshot (h : KeepsPlaces act frame bus) :
    DispatchesSnapshot act frame bus := by
  obtain ⟨fuel, hwalk⟩ := LiveLoop.exists_walk_iff.mpr ⟨rfl, h⟩
  exact ⟨fuel, _, poll_frame_eq_some.mpr hwalk, dispatchSnapshot_eq bus.detectors⟩

/-- **Exactly when a poll does what a dispatch over a copy does.** Whatever the callbacks do, it
is when each of them keeps its place in the table until its turn comes. -/
theorem dispatchesSnapshot_iff :
    DispatchesSnapshot act frame bus ↔ KeepsPlaces act frame bus :=
  ⟨DispatchesSnapshot.keepsPlaces, KeepsPlaces.dispatchesSnapshot⟩

/-- Callbacks that only remove: just when none removes anything before the last call. -/
theorem keepsPlaces_iff_of_removes
    (hremoves : ∀ (bus : Bus ω δ) fn, (call act frame bus fn).detectors.Sublist bus.detectors) :
    KeepsPlaces act frame bus ↔ ∀ k < bus.detectors.length,
      (dispatchSnapshot act frame (bus.detectors.take k) bus).1.detectors = bus.detectors := by
  simp only [dispatchSnapshot_eq]
  exact LiveLoop.inPlace_iff_of_sublist hremoves

/-- A poll does not return if every callback adds another one. -/
theorem poll_eq_none_of_grows
    (hgrows : ∀ (bus : Bus ω δ) fn,
      bus.detectors.length < (call act frame bus fn).detectors.length)
    (hsome : bus.detectors ≠ []) (fuel : ℕ) : bus.poll act (.frame frame) fuel = none := by
  rw [poll, LiveLoop.walk_eq_none_of_grows hgrows fuel (List.length_pos_of_ne_nil hsome)]
  rfl

end Bus

/-- Callback 0 waits for one frame and removes itself; callback 1 does nothing. -/
def oneShot : Behaviour Unit Unit ℕ := fun _ fn _ => ((), if fn = 0 then [.remove 0] else [])

/-- Every callback registers itself once more. -/
def again : Behaviour Unit Unit ℕ := fun _ fn _ => ((), [.add fn])

/-- With the two callbacks registered, the frame reaches the first but not the second; and a
callback that registers itself once more keeps the poll from returning. -/
theorem not_dispatchesSnapshot_oneShot :
    (Bus.poll oneShot (.frame ()) 3 ⟨(), [0, 1]⟩).map (·.2.2) = some [0] ∧
      ¬ Bus.DispatchesSnapshot oneShot () ⟨(), [0, 1]⟩ ∧
      (∀ fuel, Bus.poll again (.frame ()) fuel ⟨(), [0]⟩ = none) ∧
      ¬ Bus.DispatchesSnapshot again () ⟨(), [0]⟩ := by
  have hnever (fuel : ℕ) : Bus.poll again (.frame ()) fuel ⟨(), [0]⟩ = none := by
    apply Bus.poll_eq_none_of_grows
    · intro bus fn
      show bus.detectors.length < (bus.detectors ++ [fn]).length
      simp
    · decide
  refine ⟨by decide, ?_, hnever, ?_⟩
  · intro h
    exact absurd (h.keepsPlaces 1 (by decide)) (by decide)
  · rintro ⟨fuel, bus', hpoll, -⟩
    cases (hnever fuel).symm.trans hpoll

end GsUsb.Lua
