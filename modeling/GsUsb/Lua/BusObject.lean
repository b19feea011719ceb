/-
# The `Bus` of the Lua SDK over the binding

`bus.lua` keeps a context, a device and a channel in the fields of an object and hands none of
them out.  The binding lets a program use a channel after its device was closed, and a device
after its context was exited; a program that only goes through `Bus` objects never does, whatever
the library answers, however its calls are ordered and whenever the collector runs.

A program lets go of a `Bus` only once it is closed, and sends frames without metamethods, one of
which could close the object in the middle of its `send`.  The collector runs between two methods of
`Bus`: within one, everything new is held by a local variable.
-/

import GsUsb.Driver.Open
import GsUsb.Lua.Lifetime

namespace GsUsb.Lua

open GsUsb.Driver GsUsb.Math GsUsb.Math.Lifetime

/-- The fields of a `Bus` that its methods pass on or assign to. -/
structure BusObject where
  vid : UInt16
  pid : UInt16
  channelIndex : ℤ
  ctx : Option ℕ
  dev : Option ℕ
  ch : Option ℕ

/-- The argument of `Bus.new`, as far as the fields above come from it. -/
structure BusOptions where
  vid : Option UInt16
  pid : Option UInt16
  channel : Option ℤ

/-- What a method of `Bus` does to its caller. -/
inductive BusResult where
  /-- It returns itself, nothing, or what the binding gave it. -/
  | returned (value : Outcome)
  /-- `error` was called, or an `assert` failed. -/
  | raised (message : String)
  /-- The binding raised an argument error. -/
  | rejected (error : Outcome)

namespace BusObject

/-- `Bus.new`. -/
def new (opts : BusOptions) : BusObject where
  vid := opts.vid.getD 0x1d50
  pid := opts.pid.getD 0x606f
  channelIndex := opts.channel.getD 0
  ctx := none
  dev := none
  ch := none

/-- The end of `Bus:open`: the channel. -/
def openChannel (ctx dev : ℕ) (bus : BusObject) (L : LuaState) :
    BusResult × BusObject × LuaState :=
  match lDevChannel (some bus.channelIndex) L dev with
  | (.userdata ch, L) =>
    (.returned .nothing, { bus with ctx := some ctx, dev := some dev, ch := some ch }, L)
  | (.failed chErr, L) =>
    (.raised ("channel " ++ toString bus.channelIndex ++ " does not exist on this device: " ++
        chErr),
      bus, (lCtxExit (lDevClose L dev).2 ctx).2)
  | (outcome, L) => (.rejected outcome, bus, L)

/-- `Bus:open` from the device on. -/
def openDevice (argsOk : Bool) (answer : Except String ((n : ℕ) × Dev n)) (ctx : ℕ)
    (bus : BusObject) (L : LuaState) : BusResult × BusObject × LuaState :=
  match lCtxOpen argsOk answer L ctx with
  | (.userdata dev, L) => openChannel ctx dev bus L
  | (.failed devErr, L) =>
    (.raised ("no adapter found (vid=0x" ++ hex4 bus.vid ++ " pid=0x" ++ hex4 bus.pid ++ "): " ++
        devErr),
      bus, (lCtxExit L ctx).2)
  | (outcome, L) => (.rejected outcome, bus, L)

/-- `Bus:open`, with the answers of `gsusb_init` and `gsusb_open`, and whether the binding accepts
the arguments of `ctx:open`. -/
def busOpen (rc : ℤ) (argsOk : Bool) (answer : Except String ((n : ℕ) × Dev n)) (bus : BusObject)
    (L : LuaState) : BusResult × BusObject × LuaState :=
  if bus.ch ≠ none then (.returned .nothing, bus, L)
  else
    match lGsusbInit rc L with
    | (.userdata ctx, L) => openDevice argsOk answer ctx bus L
    | (.failed ctxErr, L) => (.raised ("gsusb.init() failed: " ++ ctxErr), bus, L)
    | (outcome, L) => (.rejected outcome, bus, L)

/-- The end of `Bus:close`: the context. -/
def closeCtx (bus : BusObject) (L : LuaState) : BusResult × BusObject × LuaState :=
  match bus.ctx with
  | none => (.returned .nothing, bus, L)
  | some ctx =>
    match lCtxExit L ctx with
    | (.typeError, L) => (.rejected .typeError, bus, L)
    | (_, L) => (.returned .nothing, { bus with ctx := none }, L)

/-- `Bus:close` from the device on. -/
def closeDev (bus : BusObject) (L : LuaState) : BusResult × BusObject × LuaState :=
  match bus.dev with
  | none => closeCtx bus L
  | some dev =>
    match lDevClose L dev with
    | (.typeError, L) => (.rejected .typeError, bus, L)
    | (_, L) => closeCtx { bus with dev := none } L

/-- `Bus:close`, with the answer of `gsusb_channel_stop`. -/
def busClose (rc : ℤ) (bus : BusObject) (L : LuaState) : BusResult × BusObject × LuaState :=
  match bus.ch with
  | none => closeDev bus L
  | some ch =>
    match lChStop true rc L ch with
    | (.argError arg message, L) => (.rejected (.argError arg message), bus, L)
    | (.typeError, L) => (.rejected .typeError, bus, L)
    | (_, L) => closeDev { bus with ch := none } L

/-- What the other methods share: `_require_open`, one call of a channel function, and an `assert`
around it or not. -/
def callChannel (method : ChannelMethod) (asserts argsOk : Bool) (rc : ℤ) (bus : BusObject)
    (L : LuaState) : BusResult × LuaState :=
  match bus.ch with
  | none => (.raised "Bus is not open -- call open() first", L)
  | some ch =>
    match channelMethods method argsOk rc L ch with
    | (.failed message, L) =>
      (if asserts then .raised message else .returned (.failed message), L)
    | (.argError arg message, L) => (.rejected (.argError arg message), L)
    | (.typeError, L) => (.rejected .typeError, L)
    | (outcome, L) => (.returned outcome, L)

/-- `Bus:configure`. -/
def busConfigure : Bool → ℤ → BusObject → LuaState → BusResult × LuaState :=
  callChannel .setBitrate true

/-- `Bus:start`. -/
def busStart : Bool → ℤ → BusObject → LuaState → BusResult × LuaState := callChannel .start true

/-- `Bus:send`. -/
def busSend : Bool → ℤ → BusObject → LuaState → BusResult × LuaState := callChannel .send true

/-- `Bus:recv`. -/
def busRecv : Bool → ℤ → BusObject → LuaState → BusResult × LuaState := callChannel .recv false

/-- The references in the fields. -/
def handles (bus : BusObject) : List ℕ := bus.ctx.toList ++ bus.dev.toList ++ bus.ch.toList

end BusObject

/-- A program with `k` objects, each open or not. -/
structure Program (k : ℕ) where
  lua : LuaState
  buses : Fin k → BusObject

/-- A method of a `Bus` with what the library answers, or the collector. -/
inductive BusEvent (k : ℕ) where
  | open (b : Fin k) (rc : ℤ) (argsOk : Bool) (answer : Except String ((n : ℕ) × Dev n))
  | close (b : Fin k) (rc : ℤ)
  | configure (b : Fin k) (argsOk : Bool) (rc : ℤ)
  | start (b : Fin k) (argsOk : Bool) (rc : ℤ)
  | send (b : Fin k) (argsOk : Bool) (rc : ℤ)
  | recv (b : Fin k) (argsOk : Bool) (rc : ℤ)
  | gc (u : ℕ)

namespace Program

variable {k : ℕ}

/-- What the program holds: the fields of its objects. -/
def held (buses : Fin k → BusObject) : List ℕ :=
  (List.finRange k).flatMap fun b => (buses b).handles

/-- The module has just been loaded, and the objects made. -/
def init (opts : Fin k → BusOptions) : Program k := ⟨.loaded, fun b => .new (opts b)⟩

/-- A method returns: its local variables are gone, and what the objects hold is left. -/
def afterMethod (buses : Fin k → BusObject) (L : LuaState) : Program k :=
  ⟨{ L with roots := held buses }, buses⟩

/-- A method that assigns to the fields of its object. -/
def assign (p : Program k) (b : Fin k)
    (method : BusObject → LuaState → BusResult × BusObject × LuaState) : BusResult × Program k :=
  let (result, bus, L) := method (p.buses b) p.lua
  (result, afterMethod (Function.update p.buses b bus) L)

/-- A method that does not. -/
def use (p : Program k) (b : Fin k) (method : BusObject → LuaState → BusResult × LuaState) :
    BusResult × Program k :=
  let (result, L) := method (p.buses b) p.lua
  (result, afterMethod p.buses L)

/-- One event, with what the method does to its caller.  The collector finalizes what nothing
reaches. -/
def perform (p : Program k) : BusEvent k → Option (BusResult × Program k)
  | .open b rc argsOk answer => some (p.assign b (BusObject.busOpen rc argsOk answer))
  | .close b rc => some (p.assign b (BusObject.busClose rc))
  | .configure b argsOk rc => some (p.use b (BusObject.busConfigure argsOk rc))
  | .start b argsOk rc => some (p.use b (BusObject.busStart argsOk rc))
  | .send b argsOk rc => some (p.use b (BusObject.busSend argsOk rc))
  | .recv b argsOk rc => some (p.use b (BusObject.busRecv argsOk rc))
  | .gc u =>
    if u ∈ p.lua.marked then none
    else some (.returned .nothing, { p with lua := p.lua.finalize u })

/-- One event. -/
def step (p : Program k) (e : BusEvent k) : Option (Program k) := (p.perform e).map Prod.snd

end Program

/-! ## The invariant -/

/-- The object holds the userdata of this context and of this device. -/
def BusObject.Owns (bus : BusObject) (L : LuaState) (c d : ℕ) : Prop :=
  ∃ u v : ℕ, bus.ctx = some u ∧ L.heap[u]? = some (.ctx (some c)) ∧
    bus.dev = some v ∧ L.heap[v]? = some (.dev (some d))

/-- What the objects hold is alive: it wraps a pointer, no two objects share it, and the channel
of an object is one of its device.  A device that is not closed is held by the object that opened
it, together with its context; a context that is not exited has a userdata. -/
structure Attached {k : ℕ} (buses : Fin k → BusObject) (L : LuaState) : Prop extends Tidy L where
  ctx_alive : ∀ b (u : ℕ), (buses b).ctx = some u → ∃ c, L.heap[u]? = some (.ctx (some c))
  dev_alive : ∀ b (u : ℕ), (buses b).dev = some u → ∃ d, L.heap[u]? = some (.dev (some d))
  ch_alive : ∀ b (u : ℕ), (buses b).ch = some u → ∃ ch e,
    L.heap[u]? = some (.channel (some ch) e) ∧ (buses b).dev = some e
  ctx_inj : ∀ b b' u, (buses b).ctx = some u → (buses b').ctx = some u → b = b'
  dev_inj : ∀ b b' u, (buses b).dev = some u → (buses b').dev = some u → b = b'
  opened : ∀ c d, .openDev c (some d) ∈ L.log → .close d ∈ L.log ∨ ∃ b, (buses b).Owns L c d
  inited : ∀ c, .init (some c) ∈ L.log → .exit c ∈ L.log ∨
    ∃ u : ℕ, L.heap[u]? = some (.ctx (some c))

/-- A field that no two objects share stays so when one of them gets a value that no other has. -/
theorem unshared_update {k : ℕ} {buses : Fin k → BusObject} {b : Fin k} {bus : BusObject}
    {field : BusObject → Option ℕ}
    (hold : ∀ b b' u, field (buses b) = some u → field (buses b') = some u → b = b')
    (hnew : ∀ u, field bus = some u → ∀ b' ≠ b, field (buses b') ≠ some u) (b₁ b₂ : Fin k) (u : ℕ)
    (h₁ : field (Function.update buses b bus b₁) = some u)
    (h₂ : field (Function.update buses b bus b₂) = some u) : b₁ = b₂ := by
  have hself : Function.update buses b bus b = bus := Function.update_self b bus buses
  have hother {b' : Fin k} (hb : b' ≠ b) : Function.update buses b bus b' = buses b' :=
    Function.update_of_ne hb bus buses
  by_cases hb₁ : b₁ = b <;> by_cases hb₂ : b₂ = b
  · rw [hb₁, hb₂]
  · rw [hb₁, hself] at h₁
    rw [hother hb₂] at h₂
    exact absurd h₂ (hnew u h₁ b₂ hb₂)
  · rw [hb₂, hself] at h₂
    rw [hother hb₁] at h₁
    exact absurd h₁ (hnew u h₂ b₁ hb₁)
  · rw [hother hb₁] at h₁
    rw [hother hb₂] at h₂
    exact hold b₁ b₂ u h₁ h₂

namespace Attached

variable {k : ℕ} {buses : Fin k → BusObject} {L L' : LuaState} {b : Fin k} {bus : BusObject}
  {u v c d : ℕ}

/-- What an object holds is one of its three fields. -/
theorem mem_handles_iff :
    u ∈ bus.handles ↔ bus.ctx = some u ∨ bus.dev = some u ∨ bus.ch = some u := by
  simp [BusObject.handles]

/-- An operation that leaves what the objects hold, and opens nothing. -/
theorem keep (h : Attached buses L) (htidy : Tidy L')
    (hkeep : ∀ b, ∀ u ∈ (buses b).handles, L'.heap[u]? = L.heap[u]?)
    (hclose : ∀ d, .close d ∈ L.log → .close d ∈ L'.log)
    (hopen : ∀ c d, .openDev c (some d) ∈ L'.log → .openDev c (some d) ∈ L.log)
    (hinited : ∀ c, .init (some c) ∈ L'.log → .exit c ∈ L'.log ∨
      ∃ u : ℕ, L'.heap[u]? = some (.ctx (some c))) : Attached buses L' where
  toTidy := htidy
  ctx_alive b u hu := by
    rw [hkeep b u (mem_handles_iff.mpr (.inl hu))]
    exact h.ctx_alive b u hu
  dev_alive b u hu := by
    rw [hkeep b u (mem_handles_iff.mpr (.inr (.inl hu)))]
    exact h.dev_alive b u hu
  ch_alive b u hu := by
    rw [hkeep b u (mem_handles_iff.mpr (.inr (.inr hu)))]
    exact h.ch_alive b u hu
  ctx_inj := h.ctx_inj
  dev_inj := h.dev_inj
  opened c d hcall := by
    rcases h.opened c d (hopen c d hcall) with hclosed | ⟨b, u, v, hu, huc, hv, hvd⟩
    · exact .inl (hclose d hclosed)
    · refine .inr ⟨b, u, v, hu, ?_, hv, ?_⟩
      · rwa [hkeep b u (mem_handles_iff.mpr (.inl hu))]
      · rwa [hkeep b v (mem_handles_iff.mpr (.inr (.inl hv)))]
  inited := hinited

/-- References do not matter. -/
theorem roots (h : Attached buses L) (roots : List ℕ) :
    Attached buses { L with roots := roots } :=
  h.keep ⟨h.toConsistent.roots roots, h.disciplined, h.ownersLast⟩ (fun _ _ _ => rfl)
    (fun _ => id) (fun _ _ => id) h.inited

/-- Nor does a call that hands out nothing. -/
theorem call {call : Call} (h : Attached buses L) (htidy : Tidy (L.call call))
    (hopen : ∀ c d, call ≠ .openDev c (some d)) (hinit : ∀ c, call ≠ .init (some c)) :
    Attached buses (L.call call) := by
  refine h.keep htidy (fun _ _ _ => rfl) (fun _ => List.mem_cons_of_mem _) ?_ ?_
  · intro c d hcall
    exact (List.mem_cons.mp hcall).resolve_left (hopen c d).symm
  · intro c hcall
    have hold := (List.mem_cons.mp hcall).resolve_left (hinit c).symm
    exact (h.inited c hold).imp_left (List.mem_cons_of_mem _)

/-- An operation after which one object holds something else.  What the other objects hold is
left, and the new fields are alive and shared with none of them. -/
theorem update (h : Attached buses L) (htidy : Tidy L')
    (hkeep : ∀ b' ≠ b, ∀ u ∈ (buses b').handles, L'.heap[u]? = L.heap[u]?)
    (hctx : ∀ u, bus.ctx = some u → (∃ c, L'.heap[u]? = some (.ctx (some c))) ∧
      ∀ b' ≠ b, (buses b').ctx ≠ some u)
    (hdev : ∀ u, bus.dev = some u → (∃ d, L'.heap[u]? = some (.dev (some d))) ∧
      ∀ b' ≠ b, (buses b').dev ≠ some u)
    (hch : ∀ u, bus.ch = some u → ∃ ch e,
      L'.heap[u]? = some (.channel (some ch) e) ∧ bus.dev = some e)
    (hclose : ∀ d, .close d ∈ L.log → .close d ∈ L'.log)
    (hopened : ∀ c d, .openDev c (some d) ∈ L'.log →
      .openDev c (some d) ∉ L.log ∨ (buses b).Owns L c d → .close d ∈ L'.log ∨ bus.Owns L' c d)
    (hinited : ∀ c, .init (some c) ∈ L'.log → .exit c ∈ L'.log ∨
      ∃ u : ℕ, L'.heap[u]? = some (.ctx (some c))) :
    Attached (Function.update buses b bus) L' := by
  have hself : Function.update buses b bus b = bus := Function.update_self b bus buses
  have hother {b' : Fin k} (hb : b' ≠ b) : Function.update buses b bus b' = buses b' :=
    Function.update_of_ne hb bus buses
  have hkeepCtx {b' : Fin k} (hb : b' ≠ b) {u : ℕ} (hu : (buses b').ctx = some u) :
      L'.heap[u]? = L.heap[u]? := hkeep b' hb u (mem_handles_iff.mpr (.inl hu))
  have hkeepDev {b' : Fin k} (hb : b' ≠ b) {u : ℕ} (hu : (buses b').dev = some u) :
      L'.heap[u]? = L.heap[u]? := hkeep b' hb u (mem_handles_iff.mpr (.inr (.inl hu)))
  have hkeepCh {b' : Fin k} (hb : b' ≠ b) {u : ℕ} (hu : (buses b').ch = some u) :
      L'.heap[u]? = L.heap[u]? := hkeep b' hb u (mem_handles_iff.mpr (.inr (.inr hu)))
  refine ⟨htidy, ?_, ?_, ?_, ?_, ?_, ?_, hinited⟩
  · intro b' u hu
    by_cases hb : b' = b
    · rw [hb, hself] at hu
      exact (hctx u hu).1
    · rw [hother hb] at hu
      rw [hkeepCtx hb hu]
      exact h.ctx_alive b' u hu
  · intro b' u hu
    by_cases hb : b' = b
    · rw [hb, hself] at hu
      exact (hdev u hu).1
    · rw [hother hb] at hu
      rw [hkeepDev hb hu]
      exact h.dev_alive b' u hu
  · intro b' u hu
    by_cases hb : b' = b
    · rw [hb, hself] at hu ⊢
      exact hch u hu
    · rw [hother hb] at hu ⊢
      rw [hkeepCh hb hu]
      exact h.ch_alive b' u hu
  · exact unshared_update h.ctx_inj fun u hu => (hctx u hu).2
  · exact unshared_update h.dev_inj fun u hu => (hdev u hu).2
  · intro c d hcall
    have hown (hwhy : .openDev c (some d) ∉ L.log ∨ (buses b).Owns L c d) :
        .close d ∈ L'.log ∨ ∃ b', (Function.update buses b bus b').Owns L' c d :=
      (hopened c d hcall hwhy).imp_right fun howns => ⟨b, hself.symm ▸ howns⟩
    by_cases hold : .openDev c (some d) ∈ L.log
    · rcases h.opened c d hold with hclosed | ⟨b', howns⟩
      · exact .inl (hclose d hclosed)
      · by_cases hb : b' = b
        · exact hown (.inr (hb ▸ howns))
        · obtain ⟨u, v, hu, huc, hv, hvd⟩ := howns
          rw [← hkeepCtx hb hu] at huc
          rw [← hkeepDev hb hv] at hvd
          refine .inr ⟨b', ?_⟩
          rw [hother hb]
          exact ⟨u, v, hu, huc, hv, hvd⟩
    · exact hown (.inl hold)

/-- What an object holds is a context, a device or a channel. -/
theorem mem_handles_cases (h : Attached buses L) (hu : u ∈ (buses b).handles) :
    ((buses b).ctx = some u ∧ ∃ c, L.heap[u]? = some (.ctx (some c))) ∨
      ((buses b).dev = some u ∧ ∃ d, L.heap[u]? = some (.dev (some d))) ∨
      ∃ ch e, L.heap[u]? = some (.channel (some ch) e) := by
  rcases mem_handles_iff.mp hu with hctx | hdev | hch
  · exact .inl ⟨hctx, h.ctx_alive b u hctx⟩
  · exact .inr (.inl ⟨hdev, h.dev_alive b u hdev⟩)
  · obtain ⟨ch, e, hchannel, -⟩ := h.ch_alive b u hch
    exact .inr (.inr ⟨ch, e, hchannel⟩)

/-- What an object holds is left when the heap grows. -/
theorem getElem?_concat (h : Attached buses L) (hu : u ∈ (buses b).handles) (ud : Userdata) :
    (L.heap ++ [ud])[u]? = L.heap[u]? := by
  have hlt : u < L.heap.length := by
    rcases h.mem_handles_cases hu with ⟨-, c, hud⟩ | ⟨-, d, hud⟩ | ⟨ch, e, hud⟩ <;>
      exact (List.getElem?_eq_some_iff.mp hud).1
  exact List.getElem?_append_left hlt

/-- `gsusb_init` succeeds. -/
theorem attachCtx (h : Attached buses L) (hdev : (buses b).dev = none)
    (hch : (buses b).ch = none) (rc : ℤ) :
    Attached (Function.update buses b { buses b with ctx := some L.heap.length })
      { (L.call (.init (some L.ctxCount))).newuserdata (.ctx (some L.ctxCount)) with
        ctxCount := L.ctxCount + 1 } := by
  have hnew : (L.heap ++ [.ctx (some L.ctxCount)])[L.heap.length]? =
      some (.ctx (some L.ctxCount)) := List.getElem?_concat_length
  refine h.update ((Effect.init rc).tidy h.toTidy trivial) ?_ ?_ ?_ ?_ ?_ ?_ ?_
  · intro b' _ u hu
    exact h.getElem?_concat hu _
  · rintro u ⟨⟩
    refine ⟨⟨_, hnew⟩, fun b' _ hu => ?_⟩
    obtain ⟨c, hctx⟩ := h.ctx_alive b' _ hu
    exact absurd (List.getElem?_eq_some_iff.mp hctx).1 (lt_irrefl _)
  · intro u hu
    cases hdev.symm.trans hu
  · intro u hu
    cases hch.symm.trans hu
  · intro d hclose
    exact List.mem_cons_of_mem _ hclose
  · rintro c d hcall (hnotMem | ⟨u, v, -, -, hv, -⟩)
    · exact absurd ((List.mem_cons.mp hcall).resolve_left nofun) hnotMem
    · cases hdev.symm.trans hv
  · intro c hcall
    rcases List.mem_cons.mp hcall with heq | hold
    · cases heq
      exact .inr ⟨_, hnew⟩
    · refine (h.inited c hold).imp (List.mem_cons_of_mem _) ?_
      rintro ⟨u, hctx⟩
      exact ⟨u, getElem?_concat_of_some hctx⟩

/-- `gsusb_open` succeeds. -/
theorem attachDev (h : Attached buses L) (hctx : (buses b).ctx = some u)
    (huc : L.heap[u]? = some (.ctx (some c))) (hch : (buses b).ch = none)
    (hdev : (buses b).dev = none) (dev : (n : ℕ) × Dev n) :
    Attached (Function.update buses b { buses b with dev := some L.heap.length })
      { (L.call (.openDev c (some L.devs.length))).newuserdata (.dev (some L.devs.length)) with
        devs := L.devs ++ [dev] } := by
  have hnew : (L.heap ++ [.dev (some L.devs.length)])[L.heap.length]? =
      some (.dev (some L.devs.length)) := List.getElem?_concat_length
  refine h.update ((Effect.opened (.ctxOpen true (.ok dev)) u c dev huc).tidy h.toTidy trivial)
    ?_ ?_ ?_ ?_ ?_ ?_ ?_
  · intro b' _ u hu
    exact h.getElem?_concat hu _
  · intro u' hu'
    obtain ⟨c', hc'⟩ := h.ctx_alive b u' hu'
    refine ⟨⟨c', getElem?_concat_of_some hc'⟩, fun b' hb hu => ?_⟩
    exact hb (h.ctx_inj b' b u' hu hu')
  · rintro v ⟨⟩
    refine ⟨⟨_, hnew⟩, fun b' _ hv => ?_⟩
    obtain ⟨d, hd⟩ := h.dev_alive b' _ hv
    exact absurd (List.getElem?_eq_some_iff.mp hd).1 (lt_irrefl _)
  · intro w hw
    cases hch.symm.trans hw
  · intro d hclose
    exact List.mem_cons_of_mem _ hclose
  · rintro c' d hcall hwhy
    rcases List.mem_cons.mp hcall with heq | hold
    · cases heq
      exact .inr ⟨u, L.heap.length, hctx, getElem?_concat_of_some huc, rfl, hnew⟩
    · rcases hwhy with hnotMem | ⟨_, v, -, -, hv, -⟩
      · exact absurd hold hnotMem
      · cases hdev.symm.trans hv
  · intro c' hcall
    refine (h.inited c' ((List.mem_cons.mp hcall).resolve_left nofun)).imp
      (List.mem_cons_of_mem _) ?_
    rintro ⟨u', hu'⟩
    exact ⟨u', getElem?_concat_of_some hu'⟩

/-- `gsusb_channel_get` finds the channel. -/
theorem attachCh (h : Attached buses L) (hdev : (buses b).dev = some v)
    (hvd : L.heap[v]? = some (.dev (some d))) (index : UInt32) (i : ℕ) :
    Attached (Function.update buses b { buses b with ch := some L.heap.length })
      ((L.call (.channelGet d index)).newuserdata (.channel (some (d, i)) v)) := by
  have hnew : (L.heap ++ [.channel (some (d, i)) v])[L.heap.length]? =
      some (.channel (some (d, i)) v) := List.getElem?_concat_length
  have heffect := Effect.channel (.devChannel (some 0)) v d i (.channelGet d index) hvd rfl
  refine h.update (heffect.tidy h.toTidy trivial) ?_ ?_ ?_ ?_ ?_ ?_ ?_
  · intro b' _ u hu
    exact h.getElem?_concat hu _
  · intro u hu
    obtain ⟨c, hc⟩ := h.ctx_alive b u hu
    exact ⟨⟨c, getElem?_concat_of_some hc⟩, fun b' hb hu' => hb (h.ctx_inj b' b u hu' hu)⟩
  · intro v' hv'
    obtain ⟨d', hd'⟩ := h.dev_alive b v' hv'
    exact ⟨⟨d', getElem?_concat_of_some hd'⟩, fun b' hb hu' => hb (h.dev_inj b' b v' hu' hv')⟩
  · rintro w ⟨⟩
    exact ⟨_, v, hnew, hdev⟩
  · intro d hclose
    exact List.mem_cons_of_mem _ hclose
  · rintro c d' hcall hwhy
    have hold := (List.mem_cons.mp hcall).resolve_left nofun
    rcases hwhy with hnotMem | ⟨u, v', hu, huc, hv', hvd'⟩
    · exact absurd hold hnotMem
    · exact .inr ⟨u, v', hu, getElem?_concat_of_some huc, hv', getElem?_concat_of_some hvd'⟩
  · intro c hcall
    refine (h.inited c ((List.mem_cons.mp hcall).resolve_left nofun)).imp
      (List.mem_cons_of_mem _) ?_
    rintro ⟨u, hu⟩
    exact ⟨u, getElem?_concat_of_some hu⟩

/-- The channel is given up. -/
theorem detachCh (h : Attached buses L) :
    Attached (Function.update buses b { buses b with ch := none }) L := by
  refine h.update h.toTidy (fun _ _ _ _ => rfl) ?_ ?_ (by rintro w ⟨⟩) (fun _ => id) ?_ h.inited
  · intro u hu
    exact ⟨h.ctx_alive b u hu, fun b' hb hu' => hb (h.ctx_inj b' b u hu' hu)⟩
  · intro v hv
    exact ⟨h.dev_alive b v hv, fun b' hb hv' => hb (h.dev_inj b' b v hv' hv)⟩
  · rintro c d hcall (hnotMem | howns)
    · exact absurd hcall hnotMem
    · exact .inr howns

/-- `gsusb_close`. -/
theorem detachDev (h : Attached buses L) (hdev : (buses b).dev = some v)
    (hvd : L.heap[v]? = some (.dev (some d))) (hch : (buses b).ch = none) :
    Attached (Function.update buses b { buses b with dev := none })
      ((L.call (.close d)).assign v (.dev none)) := by
  have hset {w : ℕ} (hw : w ≠ v) : (L.heap.set v (.dev none))[w]? = L.heap[w]? :=
    List.getElem?_set_ne hw.symm
  have hctxNe {w c : ℕ} (hw : L.heap[w]? = some (.ctx (some c))) : w ≠ v := by
    rintro rfl
    cases hw.symm.trans hvd
  have heffect := Effect.close (.method .devClose v) v d (.inl rfl) hvd
  refine h.update (heffect.tidy h.toTidy trivial) ?_ ?_ (by rintro w ⟨⟩) ?_ ?_ ?_ ?_
  · intro b' hb w hw
    rcases h.mem_handles_cases hw with ⟨-, c, hc⟩ | ⟨hw', -⟩ | ⟨ch, e, hchannel⟩
    · exact hset (hctxNe hc)
    · refine hset ?_
      rintro rfl
      exact hb (h.dev_inj b' b w hw' hdev)
    · refine hset ?_
      rintro rfl
      cases hchannel.symm.trans hvd
  · intro u hu
    obtain ⟨c, hc⟩ := h.ctx_alive b u hu
    exact ⟨⟨c, (hset (hctxNe hc)).trans hc⟩, fun b' hb hu' => hb (h.ctx_inj b' b u hu' hu)⟩
  · intro w hw
    cases hch.symm.trans hw
  · intro d hclose
    exact List.mem_cons_of_mem _ hclose
  · rintro c d' hcall hwhy
    have hold := (List.mem_cons.mp hcall).resolve_left nofun
    rcases hwhy with hnotMem | ⟨u, v', hu, huc, hv', hvd'⟩
    · exact absurd hold hnotMem
    · cases hdev.symm.trans hv'
      cases hvd.symm.trans hvd'
      exact .inl List.mem_cons_self
  · intro c hcall
    refine (h.inited c ((List.mem_cons.mp hcall).resolve_left nofun)).imp
      (List.mem_cons_of_mem _) ?_
    rintro ⟨u, hu⟩
    exact ⟨u, (hset (hctxNe hu)).trans hu⟩

/-- A context that has no device is left to the collector. -/
theorem forget (h : Attached buses L) (hdev : (buses b).dev = none) (hch : (buses b).ch = none) :
    Attached (Function.update buses b { buses b with ctx := none }) L := by
  refine h.update h.toTidy (fun _ _ _ _ => rfl) (by rintro u ⟨⟩) ?_ ?_ (fun _ => id) ?_ h.inited
  · intro v hv
    cases hdev.symm.trans hv
  · intro w hw
    cases hch.symm.trans hw
  · rintro c d hcall (hnotMem | ⟨_, v, -, -, hv, -⟩)
    · exact absurd hcall hnotMem
    · cases hdev.symm.trans hv

/-- Only an object keeps a device open. -/
theorem exists_dev (h : Attached buses L) (hvd : L.heap[v]? = some (.dev (some d))) :
    ∃ b, (buses b).dev = some v := by
  have hheld := h.held v _ (.dev d) hvd rfl
  obtain ⟨owners, hacquire⟩ := hheld.acquired
  obtain ⟨c, -, hcall⟩ := mem_trace_open.mp hacquire
  rcases h.opened c d hcall with hclose | ⟨b, u, v', -, -, hv', hvd'⟩
  · exact absurd (mem_trace_close.mpr hclose) hheld.unreleased
  · cases h.unique v v' _ _ (.dev d) hvd hvd' rfl rfl
    exact ⟨b, hv'⟩

/-- `gsusb_exit` on a context that no object holds. -/
theorem exit (h : Attached buses L) {op : Op} (hop : op = .method .ctxExit u ∨ op = .gc u)
    (huc : L.heap[u]? = some (.ctx (some c))) (hfree : ∀ b, (buses b).ctx ≠ some u) :
    Attached buses ((L.call (.exit c)).assign u (.ctx none)) := by
  have hset {w : ℕ} (hw : w ≠ u) : (L.heap.set u (.ctx none))[w]? = L.heap[w]? :=
    List.getElem?_set_ne hw.symm
  have hclosed : L.DevsClosed u := by
    intro c' hc' d hcall
    rcases h.opened c' d hcall with hclose | ⟨b, u', v, hu', hctx', -, -⟩
    · exact hclose
    · cases h.unique u u' _ _ (.ctx c') hc' hctx' rfl rfl
      exact absurd hu' (hfree b)
  have horderly : Orderly L op := by
    rcases hop with rfl | rfl <;> exact hclosed
  refine h.keep ((Effect.exit op u c hop huc).tidy h.toTidy horderly) ?_ ?_ ?_ ?_
  · intro b w hw
    refine hset ?_
    rintro rfl
    rcases h.mem_handles_cases hw with ⟨hw', -⟩ | ⟨-, d, hd⟩ | ⟨ch, e, hchannel⟩
    · exact hfree b hw'
    · cases huc.symm.trans hd
    · cases huc.symm.trans hchannel
  · intro d hclose
    exact List.mem_cons_of_mem _ hclose
  · intro c' d hcall
    exact (List.mem_cons.mp hcall).resolve_left nofun
  · intro c' hcall
    rcases h.inited c' ((List.mem_cons.mp hcall).resolve_left nofun) with hexit | ⟨w, hw⟩
    · exact .inl (List.mem_cons_of_mem _ hexit)
    · by_cases hwu : w = u
      · cases huc.symm.trans (hwu ▸ hw)
        exact .inl List.mem_cons_self
      · exact .inr ⟨w, (hset hwu).trans hw⟩

/-- `gsusb_exit` on the context of an object. -/
theorem detachCtx (h : Attached buses L) (hctx : (buses b).ctx = some u)
    (huc : L.heap[u]? = some (.ctx (some c))) (hdev : (buses b).dev = none)
    (hch : (buses b).ch = none) :
    Attached (Function.update buses b { buses b with ctx := none })
      ((L.call (.exit c)).assign u (.ctx none)) := by
  refine (h.forget hdev hch).exit (.inl rfl) huc ?_
  intro b' hu
  by_cases hb : b' = b
  · rw [hb, Function.update_self] at hu
    cases hu
  · rw [Function.update_of_ne hb] at hu
    exact hb (h.ctx_inj b' b u hu hctx)

/-- A call on the channel of an object. -/
theorem callChannel (h : Attached buses L) (hch : (buses b).ch = some u)
    (method : ChannelMethod) (argsOk : Bool) (rc : ℤ) :
    Attached buses (channelMethods method argsOk rc L u).2 ∧
      (argsOk = true → ¬ (channelMethods method argsOk rc L u).1.IsArgError) := by
  obtain ⟨ch, e, hchannel, hdev⟩ := h.ch_alive b u hch
  obtain ⟨d, hd⟩ := h.dev_alive b e hdev
  have hcheck : checkChannel L u = .ok ch := by
    rw [checkChannel, hchannel]
  have horderly : Orderly L (.method (.channel method argsOk rc) u) := by
    intro _ ptr env hptr
    cases hchannel.symm.trans hptr
    rw [hd]
    intro hclosed
    cases hclosed
  have heffect : Effect L (.method (.channel method argsOk rc) u)
      (channelMethods method argsOk rc L u).2 := effect_channelMethods method argsOk rc
  have htidy := heffect.tidy h.toTidy horderly
  obtain ⟨what, isError, heq⟩ := channelMethods_eq method
  rw [heq, channelFunction, hcheck] at htidy ⊢
  cases argsOk with
  | false => exact ⟨h, fun hargs => absurd hargs Bool.false_ne_true⟩
  | true =>
      refine ⟨h.call htidy (fun _ _ hcall => by cases hcall) (fun _ hcall => by cases hcall),
        fun _ => ?_⟩
      simp only [if_true]
      split_ifs <;> exact id

/-- The collector takes what the objects do not hold. -/
theorem gc (h : Attached buses L) (hu : ∀ b, u ∉ (buses b).handles) :
    Attached buses (L.finalize u) := by
  rw [LuaState.finalize]
  cases hud : L.heap[u]? with
  | none => exact h
  | some ud =>
      cases ud with
      | ctx ptr =>
          cases ptr with
          | none =>
              show Attached buses (lCtxExit L u).2
              rw [lCtxExit, hud]
              exact h
          | some c =>
              show Attached buses (lCtxExit L u).2
              rw [lCtxExit, hud]
              exact h.exit (.inr rfl) hud fun b hctx => hu b (mem_handles_iff.mpr (.inl hctx))
      | dev ptr =>
          cases ptr with
          | none =>
              show Attached buses (lDevClose L u).2
              rw [lDevClose, hud]
              exact h
          | some d =>
              obtain ⟨b, hdev⟩ := h.exists_dev hud
              exact absurd (mem_handles_iff.mpr (.inr (.inl hdev))) (hu b)
      | channel ptr env => exact h

end Attached

/-! ## The methods -/

/-- The binding raised an argument error. -/
def BusResult.IsRejected : BusResult → Prop
  | .rejected _ => True
  | _ => False

/-- Between two methods an object without a channel holds nothing. -/
def BusObject.AtRest (bus : BusObject) : Prop := bus.ch = none → bus.dev = none ∧ bus.ctx = none

section Methods

variable {k : ℕ} {buses : Fin k → BusObject} {L : LuaState} {b : Fin k} {bus : BusObject}
  {u v c d : ℕ}

theorem lCtxExit_of_alive (huc : L.heap[u]? = some (.ctx (some c))) :
    lCtxExit L u = (.nothing, (L.call (.exit c)).assign u (.ctx none)) := by
  rw [lCtxExit, huc]

theorem lDevClose_of_alive (hvd : L.heap[v]? = some (.dev (some d))) :
    lDevClose L v = (.nothing, (L.call (.close d)).assign v (.dev none)) := by
  rw [lDevClose, hvd]

theorem lDevChannel_cases (hvd : L.heap[v]? = some (.dev (some d))) (index : ℤ) :
    (∃ i, lDevChannel (some index) L v = (.userdata L.heap.length,
      (L.call (.channelGet d (UInt32.ofInt index))).newuserdata (.channel (some (d, i)) v))) ∨
      lDevChannel (some index) L v =
        (.failed "no such channel", L.call (.channelGet d (UInt32.ofInt index))) := by
  have hcheck : checkDev L v = .ok d := by
    rw [checkDev, hvd]
  rw [lDevChannel, hcheck]
  dsimp only
  split
  · exact .inr rfl
  · exact .inl ⟨_, rfl⟩

/-- Giving up the device and then the context. -/
theorem Attached.detach (h : Attached buses L)
    (hbus : buses b = { bus with ctx := some u, dev := some v }) (hch : bus.ch = none)
    (huc : L.heap[u]? = some (.ctx (some c))) (hvd : L.heap[v]? = some (.dev (some d))) :
    Attached (Function.update buses b { bus with ctx := none, dev := none })
      (lCtxExit (lDevClose L v).2 u).2 := by
  have hne : v ≠ u := by
    rintro rfl
    cases huc.symm.trans hvd
  have hch' : (buses b).ch = none := by rw [hbus, hch]
  have hclosed := h.detachDev (by rw [hbus]) hvd hch'
  rw [lDevClose_of_alive hvd]
  have huc' : ((L.call (.close d)).assign v (.dev none)).heap[u]? = some (.ctx (some c)) :=
    (List.getElem?_set_ne hne).trans huc
  rw [lCtxExit_of_alive huc']
  have hexited := hclosed.detachCtx (b := b) (by rw [Function.update_self, hbus]) huc'
    (by rw [Function.update_self]) (by rw [Function.update_self, hch'])
  rw [Function.update_idem, Function.update_self, hbus] at hexited
  exact hexited

/-- The end of `Bus:open`. -/
theorem Attached.openChannel (h : Attached buses L)
    (hbus : buses b = { bus with ctx := some u, dev := some v }) (hctx : bus.ctx = none)
    (hdev : bus.dev = none) (hch : bus.ch = none) :
    let (result, bus', L') := bus.openChannel u v L
    Attached (Function.update buses b bus') L' ∧ bus'.AtRest ∧ ¬ result.IsRejected := by
  obtain ⟨c, huc⟩ := h.ctx_alive b u (by rw [hbus])
  obtain ⟨d, hvd⟩ := h.dev_alive b v (by rw [hbus])
  rw [BusObject.openChannel]
  rcases lDevChannel_cases hvd bus.channelIndex with ⟨i, heq⟩ | heq
  · rw [heq]
    have hopened := h.attachCh (b := b) (by rw [hbus]) hvd (UInt32.ofInt bus.channelIndex) i
    rw [hbus] at hopened
    exact ⟨hopened, nofun, id⟩
  · rw [heq]
    have heffect := Effect.use (.devChannel (some bus.channelIndex)) v d
      (.channelGet d (UInt32.ofInt bus.channelIndex)) hvd rfl
    have hget := h.call (heffect.tidy h.toTidy trivial) nofun nofun
    have hdetached := hget.detach hbus hch huc hvd
    have hsame : { bus with ctx := none, dev := none } = bus :=
      congrArg₂ (fun ctx dev => { bus with ctx := ctx, dev := dev }) hctx.symm hdev.symm
    rw [hsame] at hdetached
    exact ⟨hdetached, fun _ => ⟨hdev, hctx⟩, id⟩

/-- `Bus:open` from the device on. -/
theorem Attached.openDevice (h : Attached buses L) (hbus : buses b = { bus with ctx := some u })
    (hctx : bus.ctx = none) (hdev : bus.dev = none) (hch : bus.ch = none) (argsOk : Bool)
    (answer : Except String ((n : ℕ) × Dev n)) :
    let (result, bus', L') := bus.openDevice argsOk answer u L
    Attached (Function.update buses b bus') L' ∧ bus'.AtRest ∧
      (argsOk = true → ¬ result.IsRejected) := by
  have hdev' : (buses b).dev = none := by rw [hbus, hdev]
  have hch' : (buses b).ch = none := by rw [hbus, hch]
  have hsame : { bus with ctx := none } = bus := by rw [← hctx]
  have hrest : bus.AtRest := fun _ => ⟨hdev, hctx⟩
  obtain ⟨c, huc⟩ := h.ctx_alive b u (by rw [hbus])
  rw [BusObject.openDevice, lCtxOpen, huc]
  cases argsOk with
  | false =>
      have hforgot := h.forget hdev' hch'
      rw [hbus] at hforgot
      exact ⟨hsame ▸ hforgot, hrest, fun hargs => absurd hargs Bool.false_ne_true⟩
  | true =>
      cases answer with
      | error errbuf =>
          have heffect := Effect.openFailed (.ctxOpen true (.error errbuf)) u c huc
          have htried := h.call (heffect.tidy h.toTidy trivial) (fun _ _ hcall => by cases hcall)
            fun _ hcall => by cases hcall
          have hexited := htried.detachCtx (b := b) (by rw [hbus]) huc hdev' hch'
          rw [hbus] at hexited
          simp only [if_true, lCtxExit_of_alive (L := L.call (.openDev c none)) huc]
          exact ⟨hsame ▸ hexited, hrest, fun _ => id⟩
      | ok dev =>
          have hopened := h.attachDev (b := b) (by rw [hbus]) huc hch' hdev' dev
          rw [hbus] at hopened
          have hbus' : Function.update buses b
              { bus with ctx := some u, dev := some L.heap.length } b =
                { bus with ctx := some u, dev := some L.heap.length } := Function.update_self _ _ _
          have hchannel := hopened.openChannel hbus' hctx hdev hch
          simp only [Function.update_idem] at hchannel
          exact ⟨hchannel.1, hchannel.2.1, fun _ => hchannel.2.2⟩

/-- **`Bus:open`.** -/
theorem Attached.busOpen (h : Attached buses L) (hrest : (buses b).AtRest) (rc : ℤ)
    (argsOk : Bool) (answer : Except String ((n : ℕ) × Dev n)) :
    let (result, bus', L') := (buses b).busOpen rc argsOk answer L
    Attached (Function.update buses b bus') L' ∧ bus'.AtRest ∧
      (argsOk = true → ¬ result.IsRejected) := by
  rw [BusObject.busOpen]
  by_cases hch : (buses b).ch = none
  · obtain ⟨hdev, hctx⟩ := hrest hch
    rw [if_neg (not_not.mpr hch), lGsusbInit]
    by_cases hrc : rc = 0
    · rw [if_neg (not_not.mpr hrc)]
      have hinit := h.attachCtx hdev hch rc
      have hdevice := hinit.openDevice (Function.update_self _ _ _) hctx hdev hch argsOk answer
      simp only [Function.update_idem] at hdevice
      exact hdevice
    · rw [if_pos hrc]
      have hfailed := h.call ((Effect.initFailed rc).tidy h.toTidy trivial)
        (fun _ _ hcall => by cases hcall) fun _ hcall => by cases hcall
      rw [← Function.update_eq_self b buses] at hfailed
      exact ⟨hfailed, hrest, fun _ => id⟩
  · rw [if_pos hch]
    rw [← Function.update_eq_self b buses] at h
    exact ⟨h, hrest, fun _ => id⟩

/-- A finalizer leaves the references of the program. -/
theorem LuaState.roots_finalize (L : LuaState) (u : ℕ) : (L.finalize u).roots = L.roots := by
  have hctx : (lCtxExit L u).2.roots = L.roots := by
    rw [lCtxExit]
    split <;> rfl
  have hdev : (lDevClose L u).2.roots = L.roots := by
    rw [lDevClose]
    split <;> rfl
  rw [finalize]
  cases L.heap[u]? with
  | none => rfl
  | some ud =>
      cases ud with
      | ctx ptr => exact hctx
      | dev ptr => exact hdev
      | channel ptr env => rfl

/-- The end of `Bus:close`. -/
theorem Attached.closeCtx (h : Attached buses L) (hbus : buses b = bus) (hdev : bus.dev = none)
    (hch : bus.ch = none) :
    let (result, bus', L') := bus.closeCtx L
    Attached (Function.update buses b bus') L' ∧ bus'.AtRest ∧ bus'.ch = none ∧
      ¬ result.IsRejected := by
  rw [BusObject.closeCtx]
  cases hctx : bus.ctx with
  | none =>
      rw [← Function.update_eq_self b buses, hbus] at h
      exact ⟨h, fun _ => ⟨hdev, hctx⟩, hch, id⟩
  | some u =>
      obtain ⟨c, huc⟩ := h.ctx_alive b u (by rw [hbus, hctx])
      have hexited := h.detachCtx (b := b) (by rw [hbus, hctx]) huc (by rw [hbus, hdev])
        (by rw [hbus, hch])
      rw [hbus] at hexited
      dsimp only
      rw [lCtxExit_of_alive huc]
      exact ⟨hexited, fun _ => ⟨hdev, rfl⟩, hch, id⟩

/-- `Bus:close` from the device on. -/
theorem Attached.closeDev (h : Attached buses L) (hbus : buses b = bus) (hch : bus.ch = none) :
    let (result, bus', L') := bus.closeDev L
    Attached (Function.update buses b bus') L' ∧ bus'.AtRest ∧ bus'.ch = none ∧
      ¬ result.IsRejected := by
  rw [BusObject.closeDev]
  cases hdev : bus.dev with
  | none => exact h.closeCtx hbus hdev hch
  | some v =>
      obtain ⟨d, hvd⟩ := h.dev_alive b v (by rw [hbus, hdev])
      have hclosed := h.detachDev (b := b) (by rw [hbus, hdev]) hvd (by rw [hbus, hch])
      rw [hbus] at hclosed
      have hrest := hclosed.closeCtx (Function.update_self _ _ _) rfl hch
      dsimp only
      rw [lDevClose_of_alive hvd]
      simp only [Function.update_idem] at hrest
      exact hrest

/-- **`Bus:close`.** -/
theorem Attached.busClose (h : Attached buses L) (rc : ℤ) :
    let (result, bus', L') := (buses b).busClose rc L
    Attached (Function.update buses b bus') L' ∧ bus'.AtRest ∧ bus'.ch = none ∧
      ¬ result.IsRejected := by
  rw [BusObject.busClose]
  cases hch : (buses b).ch with
  | none => exact h.closeDev rfl hch
  | some w =>
      obtain ⟨hstopped, hanswer⟩ := h.callChannel hch .stop true rc
      have hclosed := (hstopped.detachCh (b := b)).closeDev (Function.update_self _ _ _) rfl
      simp only [Function.update_idem] at hclosed
      dsimp only
      rcases hstop : lChStop true rc L w with ⟨outcome, L'⟩
      have houtcome : (channelMethods .stop true rc L w).1 = outcome := congrArg Prod.fst hstop
      have hstate : (channelMethods .stop true rc L w).2 = L' := congrArg Prod.snd hstop
      rw [hstate] at hclosed
      rw [houtcome] at hanswer
      cases outcome with
      | argError arg message => exact absurd trivial (hanswer rfl)
      | typeError => exact absurd trivial (hanswer rfl)
      | failed message => exact hclosed
      | userdata u => exact hclosed
      | integers values => exact hclosed
      | answered => exact hclosed
      | nothing => exact hclosed

/-- **The other methods.** -/
theorem Attached.busCall (h : Attached buses L) (method : ChannelMethod) (asserts argsOk : Bool)
    (rc : ℤ) :
    let (result, L') := (buses b).callChannel method asserts argsOk rc L
    Attached buses L' ∧ (argsOk = true → ¬ result.IsRejected) := by
  rw [BusObject.callChannel]
  cases hch : (buses b).ch with
  | none => exact ⟨h, fun _ => id⟩
  | some w =>
      obtain ⟨hcalled, hanswer⟩ := h.callChannel hch method argsOk rc
      dsimp only
      rcases hresult : channelMethods method argsOk rc L w with ⟨outcome, L'⟩
      rw [hresult] at hcalled hanswer
      cases outcome with
      | argError arg message => exact ⟨hcalled, fun hargs => absurd trivial (hanswer hargs)⟩
      | typeError => exact ⟨hcalled, fun hargs => absurd trivial (hanswer hargs)⟩
      | failed message =>
          refine ⟨hcalled, fun _ => ?_⟩
          cases asserts <;> exact id
      | userdata u => exact ⟨hcalled, fun _ => id⟩
      | integers values => exact ⟨hcalled, fun _ => id⟩
      | answered => exact ⟨hcalled, fun _ => id⟩
      | nothing => exact ⟨hcalled, fun _ => id⟩

end Methods

/-- The arguments of the method are ones that the binding accepts. -/
def BusEvent.ArgsOk {k : ℕ} : BusEvent k → Prop
  | .open _ _ argsOk _ => argsOk = true
  | .configure _ argsOk _ => argsOk = true
  | .start _ argsOk _ => argsOk = true
  | .send _ argsOk _ => argsOk = true
  | .recv _ argsOk _ => argsOk = true
  | .close _ _ => True
  | .gc _ => True

namespace Program

variable {k : ℕ}

/-- The invariant between two methods. -/
structure Sound (p : Program k) : Prop where
  attached : Attached p.buses p.lua
  atRest : ∀ b, (p.buses b).AtRest
  roots_eq : p.lua.roots = held p.buses

theorem mem_held {buses : Fin k → BusObject} {u : ℕ} :
    u ∈ held buses ↔ ∃ b, u ∈ (buses b).handles := by
  simp [held]

/-- A method that assigns to the fields of its object. -/
theorem Sound.assign {p : Program k} (h : p.Sound) {b : Fin k} {bus : BusObject} {L : LuaState}
    (hattached : Attached (Function.update p.buses b bus) L)
    (hrest : bus.AtRest) : (afterMethod (Function.update p.buses b bus) L).Sound := by
  refine ⟨hattached.roots _, ?_, rfl⟩
  intro b'
  show (Function.update p.buses b bus b').AtRest
  by_cases hb : b' = b
  · rw [hb, Function.update_self]
    exact hrest
  · rw [Function.update_of_ne hb]
    exact h.atRest b'

/-- **Step lemma.** -/
theorem Sound.perform {p q : Program k} (h : p.Sound) {e : BusEvent k} {result : BusResult}
    (hperform : p.perform e = some (result, q)) :
    q.Sound ∧ (e.ArgsOk → ¬ result.IsRejected) := by
  have huse {b : Fin k} {method : ChannelMethod} {asserts argsOk : Bool} {rc : ℤ}
      (heq : p.use b (BusObject.callChannel method asserts argsOk rc) = (result, q)) :
      q.Sound ∧ (argsOk = true → ¬ result.IsRejected) := by
    obtain ⟨hcalled, hanswer⟩ := h.attached.busCall (b := b) method asserts argsOk rc
    rw [Program.use] at heq
    cases heq
    exact ⟨⟨hcalled.roots _, h.atRest, rfl⟩, hanswer⟩
  cases e with
  | «open» b rc argsOk answer =>
      obtain ⟨hopened, hrest, hanswer⟩ := h.attached.busOpen (h.atRest b) rc argsOk answer
      cases hperform
      exact ⟨h.assign hopened hrest, hanswer⟩
  | close b rc =>
      obtain ⟨hclosed, hrest, -, hanswer⟩ := h.attached.busClose (b := b) rc
      cases hperform
      exact ⟨h.assign hclosed hrest, fun _ => hanswer⟩
  | configure b argsOk rc => exact huse (Option.some.inj hperform)
  | start b argsOk rc => exact huse (Option.some.inj hperform)
  | send b argsOk rc => exact huse (Option.some.inj hperform)
  | recv b argsOk rc => exact huse (Option.some.inj hperform)
  | gc u =>
      rw [Program.perform] at hperform
      split_ifs at hperform with hmarked
      cases hperform
      have hfree (b : Fin k) : u ∉ (p.buses b).handles := by
        intro hu
        refine hmarked (List.mem_append_left _ ?_)
        rw [h.roots_eq]
        exact mem_held.mpr ⟨b, hu⟩
      refine ⟨⟨h.attached.gc hfree, h.atRest, ?_⟩, fun _ => id⟩
      exact (p.lua.roots_finalize u).trans h.roots_eq

end Program

end GsUsb.Lua
