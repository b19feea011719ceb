/-
# What an operation of the Lua binding does

One effect for each way an operation can change the state, with what it found in the heap.
Nothing here depends on what came before the operation.
-/

import GsUsb.Lua.Log

namespace GsUsb.Lua

open GsUsb.Driver GsUsb.Math.Lifetime

/-- Everything an operation can do to the state, and to what. -/
inductive Effect (L : LuaState) : Op → LuaState → Prop where
  /-- References come and go, or nothing happens. -/
  | quiet (op : Op) (roots : List ℕ) : Effect L op { L with roots := roots }
  | initFailed (rc : ℤ) : Effect L (.init rc) (L.call (.init none))
  | init (rc : ℤ) :
      Effect L (.init rc)
        { (L.call (.init (some L.ctxCount))).newuserdata (.ctx (some L.ctxCount)) with
          ctxCount := L.ctxCount + 1 }
  | exit (op : Op) (u c : ℕ) (hop : op = .method .ctxExit u ∨ op = .gc u)
      (hctx : L.heap[u]? = some (.ctx (some c))) :
      Effect L op ((L.call (.exit c)).assign u (.ctx none))
  | openFailed (m : Method) (u c : ℕ) (hctx : L.heap[u]? = some (.ctx (some c))) :
      Effect L (.method m u) (L.call (.openDev c none))
  | opened (m : Method) (u c : ℕ) (dev : (n : ℕ) × Dev n)
      (hctx : L.heap[u]? = some (.ctx (some c))) :
      Effect L (.method m u)
        { (L.call (.openDev c (some L.devs.length))).newuserdata (.dev (some L.devs.length)) with
          devs := L.devs ++ [dev] }
  | close (op : Op) (u d : ℕ) (hop : op = .method .devClose u ∨ op = .gc u)
      (hdev : L.heap[u]? = some (.dev (some d))) :
      Effect L op ((L.call (.close d)).assign u (.dev none))
  | use (m : Method) (u d : ℕ) (c : Call) (hdev : L.heap[u]? = some (.dev (some d)))
      (hevent : c.event = some (.use (.dev d))) : Effect L (.method m u) (L.call c)
  | channel (m : Method) (u d i : ℕ) (c : Call) (hdev : L.heap[u]? = some (.dev (some d)))
      (hevent : c.event = some (.use (.dev d))) :
      Effect L (.method m u) ((L.call c).newuserdata (.channel (some (d, i)) u))
  | channelCall (method : ChannelMethod) (rc : ℤ) (u d i env : ℕ)
      (hchannel : L.heap[u]? = some (.channel (some (d, i)) env)) :
      Effect L (.method (.channel method true rc) u) (L.call (.channel method d i))

section Effect

variable {L L' : LuaState} {op : Op} {u : ℕ}

/-- Nothing happens. -/
theorem Effect.refl (L : LuaState) (op : Op) : Effect L op L := .quiet op L.roots

theorem effect_lGsusbInit (rc : ℤ) : Effect L (.init rc) (lGsusbInit rc L).2 := by
  rw [lGsusbInit]
  split_ifs
  · exact .initFailed rc
  · exact .init rc

theorem effect_lCtxExit (hop : op = .method .ctxExit u ∨ op = .gc u) :
    Effect L op (lCtxExit L u).2 := by
  rw [lCtxExit]
  split
  · exact .exit op u _ hop ‹_›
  · exact .refl L op
  · exact .refl L op

theorem effect_lDevClose (hop : op = .method .devClose u ∨ op = .gc u) :
    Effect L op (lDevClose L u).2 := by
  rw [lDevClose]
  split
  · exact .close op u _ hop ‹_›
  · exact .refl L op
  · exact .refl L op

theorem effect_lCtxOpen (argsOk : Bool) (answer : Except String ((n : ℕ) × Dev n)) (m : Method) :
    Effect L (.method m u) (lCtxOpen argsOk answer L u).2 := by
  rw [lCtxOpen]
  split
  · exact .refl L _
  · split_ifs
    · cases answer with
      | error errbuf => exact .openFailed m u _ ‹_›
      | ok dev => exact .opened m u _ dev ‹_›
    · exact .refl L _
  · exact .refl L _

/-- The check of a dev passes for an open one. -/
theorem checkDev_eq_ok {d : ℕ} (hcheck : checkDev L u = .ok d) :
    L.heap[u]? = some (.dev (some d)) := by
  rw [checkDev] at hcheck
  split at hcheck
  · cases hcheck
    assumption
  · cases hcheck
  · cases hcheck

/-- The check of a channel passes for every channel. -/
theorem checkChannel_eq_ok {ch : ℕ × ℕ} (hcheck : checkChannel L u = .ok ch) :
    ∃ env, L.heap[u]? = some (.channel (some ch) env) := by
  rw [checkChannel] at hcheck
  split at hcheck
  · cases hcheck
    exact ⟨_, ‹_›⟩
  · cases hcheck
  · cases hcheck

theorem effect_lDevChannelCount (m : Method) :
    Effect L (.method m u) (lDevChannelCount L u).2 := by
  rw [lDevChannelCount]
  cases hcheck : checkDev L u with
  | error outcome => exact .refl L _
  | ok d => exact .use m u d _ (checkDev_eq_ok hcheck) rfl

theorem effect_lDevDeviceConfig (m : Method) :
    Effect L (.method m u) (lDevDeviceConfig L u).2 := by
  rw [lDevDeviceConfig]
  cases hcheck : checkDev L u with
  | error outcome => exact .refl L _
  | ok d => exact .use m u d _ (checkDev_eq_ok hcheck) rfl

theorem effect_lDevChannel (index : Option ℤ) (m : Method) :
    Effect L (.method m u) (lDevChannel index L u).2 := by
  rw [lDevChannel]
  cases hcheck : checkDev L u with
  | error outcome => exact .refl L _
  | ok d =>
      have hdev := checkDev_eq_ok hcheck
      cases index with
      | none => exact .refl L _
      | some index =>
          dsimp only
          split
          · exact .use m u d _ hdev rfl
          · exact .channel m u d _ _ hdev rfl

/-- The functions of a channel differ in what they call. -/
theorem channelMethods_eq (method : ChannelMethod) :
    ∃ what isError, channelMethods method = channelFunction method what isError := by
  cases method <;> exact ⟨_, _, rfl⟩

theorem effect_channelMethods (method : ChannelMethod) (argsOk : Bool) (rc : ℤ) :
    Effect L (.method (.channel method argsOk rc) u)
      (channelMethods method argsOk rc L u).2 := by
  obtain ⟨what, isError, heq⟩ := channelMethods_eq method
  rw [heq, channelFunction]
  cases hcheck : checkChannel L u with
  | error outcome => exact .refl L _
  | ok ch =>
      obtain ⟨env, hchannel⟩ := checkChannel_eq_ok hcheck
      cases argsOk with
      | true => exact .channelCall method rc u ch.1 ch.2 env hchannel
      | false => exact .refl L _

theorem effect_finalize : Effect L (.gc u) (L.finalize u) := by
  rw [LuaState.finalize]
  cases hud : L.heap[u]? with
  | none => exact .refl L _
  | some ud =>
      cases ud with
      | ctx ptr => exact effect_lCtxExit (.inr rfl)
      | dev ptr => exact effect_lDevClose (.inr rfl)
      | channel ptr env => exact .refl L _

/-- **Every operation has one of these effects.** -/
theorem effect_of_step (hstep : step L op = some L') : Effect L op L' := by
  cases op with
  | init rc =>
      cases hstep
      exact effect_lGsusbInit rc
  | method m u =>
      rw [step] at hstep
      split_ifs at hstep
      cases hstep
      cases m with
      | ctxOpen argsOk answer => exact effect_lCtxOpen argsOk answer _
      | ctxExit => exact effect_lCtxExit (.inl rfl)
      | devChannel index => exact effect_lDevChannel index _
      | devChannelCount => exact effect_lDevChannelCount _
      | devDeviceConfig => exact effect_lDevDeviceConfig _
      | devClose => exact effect_lDevClose (.inl rfl)
      | channel method argsOk rc => exact effect_channelMethods method argsOk rc
  | copy u =>
      rw [step] at hstep
      split_ifs at hstep
      cases hstep
      exact .quiet _ _
  | drop u =>
      rw [step] at hstep
      split_ifs at hstep
      cases hstep
      exact .quiet _ _
  | gc u =>
      rw [step] at hstep
      split_ifs at hstep
      cases hstep
      exact effect_finalize

end Effect

end GsUsb.Lua
