/-
# Lifetimes in the Lua binding

Every run releases a context or a device at most once, and a channel in use keeps the
collector away from its device.  Two things are not caught: `check_channel` looks at a
pointer that nothing ever clears, and a dev does not hold on to its context.  Where a
program avoids both, every library call finds its device open and its context alive.
-/

import GsUsb.Driver.Lifecycle
import GsUsb.Lua.Effects
import GsUsb.Math.Run
import Mathlib.Logic.Relation

namespace GsUsb.Lua

open GsUsb.Driver GsUsb.Math GsUsb.Math.Lifetime

section Heap

variable {heap : List Userdata} {u v : ℕ} {ud vd : Userdata}

/-- A userdata of a grown heap is an old one or the new one. -/
theorem getElem?_concat_cases (hvd : (heap ++ [ud])[v]? = some vd) :
    heap[v]? = some vd ∨ (v = heap.length ∧ vd = ud) := by
  rcases Nat.lt_trichotomy v heap.length with hlt | rfl | hgt
  · rw [List.getElem?_append_left hlt] at hvd
    exact .inl hvd
  · rw [List.getElem?_concat_length] at hvd
    exact .inr ⟨rfl, (Option.some.inj hvd).symm⟩
  · rw [List.getElem?_eq_none (by rw [List.length_append]; exact hgt)] at hvd
    cases hvd

/-- An old userdata stays. -/
theorem getElem?_concat_of_some (hvd : heap[v]? = some vd) :
    (heap ++ [ud])[v]? = some vd := by
  rw [List.getElem?_append_left (List.getElem?_eq_some_iff.mp hvd).1]
  exact hvd

/-- A userdata of an updated heap is another one or the new value. -/
theorem getElem?_set_cases (hvd : (heap.set u ud)[v]? = some vd) :
    (v ≠ u ∧ heap[v]? = some vd) ∨ (v = u ∧ vd = ud) := by
  rcases eq_or_ne v u with rfl | hne
  · obtain ⟨hlt, hvd⟩ := List.getElem?_eq_some_iff.mp hvd
    rw [List.getElem_set_self] at hvd
    exact .inr ⟨rfl, hvd.symm⟩
  · rw [List.getElem?_set_ne hne.symm] at hvd
    exact .inl ⟨hne, hvd⟩

end Heap

/-- What a userdata has to give back. -/
def Userdata.owned : Userdata → Option Handle
  | .ctx ptr => ptr.map .ctx
  | .dev ptr => ptr.map .dev
  | .channel _ _ => none

/-- A userdata after it has given that back. -/
def Userdata.cleared : Userdata → Userdata
  | .ctx _ => .ctx none
  | .dev _ => .dev none
  | .channel ptr env => .channel ptr env

/-- The library has handed this out. -/
def LuaState.Numbered (L : LuaState) : Handle → Prop
  | .ctx c => c < L.ctxCount
  | .dev d => d < L.devs.length

/-- What a channel userdata looks like: its pointer is never cleared, and the dev in its
environment is the one it was got from, closed or not. -/
def LuaState.ChannelOk (L : LuaState) (ptr : Option (ℕ × ℕ)) (env : ℕ) : Prop :=
  ∃ d i, ptr = some (d, i) ∧
    (L.heap[env]? = some (.dev (some d)) ∨ L.heap[env]? = some (.dev none))

/-- The invariant of every run: a pointer is held by one userdata, and is that of something
the library has handed out and not taken back. -/
structure Consistent (L : LuaState) : Prop where
  balanced : Balanced (trace L.log)
  numbered : ∀ h owners, Event.acquire h owners ∈ trace L.log → L.Numbered h
  held : ∀ (u : ℕ) (ud : Userdata) h, L.heap[u]? = some ud → ud.owned = some h →
    Held (trace L.log) h
  unique : ∀ (u v : ℕ) (ud vd : Userdata) h, L.heap[u]? = some ud → L.heap[v]? = some vd →
    ud.owned = some h → vd.owned = some h → u = v
  channel : ∀ (u : ℕ) ptr env, L.heap[u]? = some (.channel ptr env) → L.ChannelOk ptr env

theorem consistent_loaded : Consistent .loaded where
  balanced := trivial
  numbered := nofun
  held := nofun
  unique := nofun
  channel := nofun

namespace Consistent

variable {L L' : LuaState} {c : Call} {h : Handle} {u d : ℕ} {ud : Userdata}

/-- References do not matter. -/
theorem roots (hL : Consistent L) (roots : List ℕ) : Consistent { L with roots := roots } :=
  ⟨hL.balanced, hL.numbered, hL.held, hL.unique, hL.channel⟩

/-- Nor does a call that hands out nothing. -/
theorem callNone (hL : Consistent L) (hevent : c.event = none) : Consistent (L.call c) := by
  have htrace : trace (c :: L.log) = trace L.log := List.filterMap_cons_none hevent
  refine ⟨?_, ?_, ?_, hL.unique, hL.channel⟩
  · exact htrace ▸ hL.balanced
  · exact htrace ▸ hL.numbered
  · exact htrace ▸ hL.held

/-- A use. -/
theorem use (hL : Consistent L) (hevent : c.event = some (.use h)) : Consistent (L.call c) := by
  have htrace : trace (c :: L.log) = .use h :: trace L.log := trace_cons hevent
  refine ⟨?_, ?_, ?_, hL.unique, hL.channel⟩
  · exact htrace ▸ ⟨trivial, hL.balanced⟩
  · intro h' owners hacquire
    rw [LuaState.call, htrace] at hacquire
    exact hL.numbered h' owners ((List.mem_cons.mp hacquire).resolve_left nofun)
  · intro u ud h' hud howned
    exact htrace ▸ (hL.held u ud h' hud howned).cons nofun

/-- A new userdata that owns what the library hands out. -/
theorem acquire {owners : List Handle} (hL : Consistent L) (hheap : L'.heap = L.heap ++ [ud])
    (hlog : L'.log = c :: L.log) (hevent : c.event = some (.acquire h owners))
    (howned : ud.owned = some h) (hnew : ¬ L.Numbered h)
    (howners : ∀ o ∈ owners, Held (trace L.log) o)
    (hnumbered : ∀ h', L.Numbered h' ∨ h' = h → L'.Numbered h') : Consistent L' := by
  have htrace : trace L'.log = .acquire h owners :: trace L.log := by
    rw [hlog]
    exact trace_cons hevent
  have hfits : Fits (trace L.log) (.acquire h owners) :=
    ⟨fun os hacquire => hnew (hL.numbered h os hacquire), howners⟩
  have hcases {v : ℕ} {vd : Userdata} (hvd : L'.heap[v]? = some vd) :
      L.heap[v]? = some vd ∨ (v = L.heap.length ∧ vd = ud) :=
    getElem?_concat_cases (by rw [← hheap]; exact hvd)
  have hold {v : ℕ} {vd : Userdata} (hvd : L.heap[v]? = some vd) : ¬ vd.owned = some h := by
    intro howned'
    obtain ⟨os, hacquire⟩ := (hL.held v vd h hvd howned').acquired
    exact hfits.1 os hacquire
  refine ⟨?_, ?_, ?_, ?_, ?_⟩
  · exact htrace ▸ ⟨hfits, hL.balanced⟩
  · intro h' os hacquire
    rw [htrace] at hacquire
    rcases List.mem_cons.mp hacquire with hnew' | hold'
    · cases hnew'
      exact hnumbered h (.inr rfl)
    · exact hnumbered h' (.inl (hL.numbered h' os hold'))
  · intro v vd h' hvd howned'
    rw [htrace]
    rcases hcases hvd with hvd | ⟨rfl, rfl⟩
    · exact (hL.held v vd h' hvd howned').cons nofun
    · cases howned.symm.trans howned'
      exact held_of_acquire hL.balanced hfits
  · intro v w vd wd h' hvd hwd hv hw
    rcases hcases hvd with hvd | ⟨rfl, rfl⟩
    · rcases hcases hwd with hwd | ⟨rfl, rfl⟩
      · exact hL.unique v w vd wd h' hvd hwd hv hw
      · cases howned.symm.trans hw
        exact absurd hv (hold hvd)
    · rcases hcases hwd with hwd | ⟨rfl, rfl⟩
      · cases howned.symm.trans hv
        exact absurd hw (hold hwd)
      · rfl
  · intro v ptr env hv
    rcases hcases hv with hv | ⟨-, rfl⟩
    · obtain ⟨d, i, hptr, henv⟩ := hL.channel v ptr env hv
      refine ⟨d, i, hptr, ?_⟩
      rw [hheap]
      exact henv.imp getElem?_concat_of_some getElem?_concat_of_some
    · cases howned

/-- A userdata gives back what it owns. -/
theorem release (hL : Consistent L) (hud : L.heap[u]? = some ud) (howned : ud.owned = some h)
    (hevent : c.event = some (.release h)) : Consistent ((L.call c).assign u ud.cleared) := by
  have htrace : trace (c :: L.log) = .release h :: trace L.log := trace_cons hevent
  have hcleared : ud.cleared.owned = none := by
    cases ud <;> rfl
  refine ⟨?_, ?_, ?_, ?_, ?_⟩
  · exact htrace ▸ ⟨hL.held u ud h hud howned, hL.balanced⟩
  · intro h' owners hacquire
    rw [LuaState.assign, LuaState.call, htrace] at hacquire
    exact hL.numbered h' owners ((List.mem_cons.mp hacquire).resolve_left nofun)
  · intro v vd h' hvd howned'
    rcases getElem?_set_cases hvd with ⟨hne, hvd⟩ | ⟨-, rfl⟩
    · refine htrace ▸ (hL.held v vd h' hvd howned').cons ?_
      intro heq
      cases heq
      exact hne (hL.unique v u vd ud h hvd hud howned' howned)
    · cases hcleared.symm.trans howned'
  · intro v w vd wd h' hvd hwd hv hw
    rcases getElem?_set_cases hvd with ⟨-, hvd⟩ | ⟨-, rfl⟩
    · rcases getElem?_set_cases hwd with ⟨-, hwd⟩ | ⟨-, rfl⟩
      · exact hL.unique v w vd wd h' hvd hwd hv hw
      · cases hcleared.symm.trans hw
    · cases hcleared.symm.trans hv
  · intro v ptr env hv
    rcases getElem?_set_cases hv with ⟨-, hv⟩ | ⟨-, hv⟩
    · obtain ⟨d, i, hptr, henv⟩ := hL.channel v ptr env hv
      refine ⟨d, i, hptr, ?_⟩
      show (L.heap.set u ud.cleared)[env]? = _ ∨ (L.heap.set u ud.cleared)[env]? = _
      rcases eq_or_ne env u with rfl | hne
      · -- the dev of the channel is the one that is closed
        rw [List.getElem?_set_self (List.getElem?_eq_some_iff.mp hud).1]
        rw [hud] at henv
        rcases henv with hdev | hdev <;> cases hdev <;> exact .inr rfl
      · rw [List.getElem?_set_ne hne.symm]
        exact henv
    · cases ud with
      | ctx ptr => cases hv
      | dev ptr => cases hv
      | channel ptr env => cases howned

/-- A new channel of an open dev. -/
theorem newChannel {i : ℕ} (hL : Consistent L) (hdev : L.heap[u]? = some (.dev (some d))) :
    Consistent (L.newuserdata (.channel (some (d, i)) u)) := by
  refine ⟨hL.balanced, hL.numbered, ?_, ?_, ?_⟩
  · intro v vd h hvd howned
    rcases getElem?_concat_cases hvd with hvd | ⟨-, rfl⟩
    · exact hL.held v vd h hvd howned
    · cases howned
  · intro v w vd wd h hvd hwd hv hw
    rcases getElem?_concat_cases hvd with hvd | ⟨-, rfl⟩
    · rcases getElem?_concat_cases hwd with hwd | ⟨-, rfl⟩
      · exact hL.unique v w vd wd h hvd hwd hv hw
      · cases hw
    · cases hv
  · intro v ptr env hv
    rcases getElem?_concat_cases hv with hv | ⟨-, hv⟩
    · obtain ⟨d', i', hptr, henv⟩ := hL.channel v ptr env hv
      exact ⟨d', i', hptr, henv.imp getElem?_concat_of_some getElem?_concat_of_some⟩
    · cases hv
      exact ⟨d, i, rfl, .inl (getElem?_concat_of_some hdev)⟩

end Consistent

section Run

variable {L L' : LuaState} {op : Op} {ops : List Op}

/-- **One operation.** -/
theorem Effect.consistent (heffect : Effect L op L') (hL : Consistent L) : Consistent L' := by
  cases heffect with
  | quiet op roots => exact hL.roots roots
  | initFailed rc => exact hL.callNone rfl
  | init rc =>
      apply hL.acquire rfl rfl rfl rfl (lt_irrefl _) (List.forall_mem_nil _)
      rintro h (hold | rfl)
      · cases h with
        | ctx c => exact Nat.lt_succ_of_lt hold
        | dev d => exact hold
      · exact Nat.lt_succ_self _
  | exit op u c hop hctx => exact hL.release hctx rfl rfl
  | openFailed m u c hctx => exact hL.use (h := .ctx c) rfl
  | opened m u c dev hctx =>
      apply hL.acquire rfl rfl rfl rfl (lt_irrefl _)
      · intro o ho
        rw [List.mem_singleton.mp ho]
        exact hL.held u _ _ hctx rfl
      · rintro h (hold | rfl)
        · cases h with
          | ctx c => exact hold
          | dev d =>
              show d < (L.devs ++ [dev]).length
              rw [List.length_append]
              exact Nat.lt_succ_of_lt hold
        · show L.devs.length < (L.devs ++ [dev]).length
          rw [List.length_append]
          exact Nat.lt_succ_self _
  | close op u d hop hdev => exact hL.release hdev rfl rfl
  | use m u d c hdev hevent => exact hL.use hevent
  | channel m u d i c hdev hevent => exact (hL.use hevent).newChannel hdev
  | channelCall method rc u d i env hchannel => exact hL.use (h := .dev d) rfl

/-- The invariant holds in every run. -/
theorem consistent_of_run (hrun : run step .loaded ops = some L) : Consistent L :=
  run_invariant (fun _ _ _ hL hstep => (effect_of_step hstep).consistent hL) consistent_loaded
    hrun

/-- What a channel refers to refers to nothing. -/
theorem Consistent.refsOf_eq_nil {u v : ℕ} (hL : Consistent L) (href : v ∈ L.refsOf u) :
    L.refsOf v = [] := by
  rw [LuaState.refsOf] at href
  cases hud : L.heap[u]? with
  | none =>
      rw [hud] at href
      cases href
  | some ud =>
      rw [hud] at href
      cases ud with
      | ctx ptr => cases href
      | dev ptr => cases href
      | channel ptr env =>
          rw [List.mem_singleton.mp href, LuaState.refsOf]
          obtain ⟨d, i, -, hdev | hdev⟩ := hL.channel u ptr env hud
          · rw [hdev]
            rfl
          · rw [hdev]
            rfl

/-- **The collector spares what the program can reach**, and nothing else. -/
theorem Consistent.mem_marked_iff {u : ℕ} (hL : Consistent L) :
    u ∈ L.marked ↔
      ∃ r ∈ L.roots, Relation.ReflTransGen (fun v w => w ∈ L.refsOf v) r u := by
  rw [LuaState.marked, List.mem_append, List.mem_flatMap]
  constructor
  · rintro (hroot | ⟨r, hroot, href⟩)
    · exact ⟨u, hroot, .refl⟩
    · exact ⟨r, hroot, .single href⟩
  · rintro ⟨r, hroot, hpath⟩
    rcases hpath.cases_head with rfl | ⟨v, href, hpath⟩
    · exact .inl hroot
    · rcases hpath.cases_head with rfl | ⟨w, href', -⟩
      · exact .inr ⟨r, hroot, href⟩
      · rw [hL.refsOf_eq_nil href] at href'
        cases href'

/-- **Nothing is released twice**, in any run. -/
theorem release_once_of_run (hrun : run step .loaded ops = some L) :
    ∀ later earlier,
      (∀ c, L.log = later ++ .exit c :: earlier → .exit c ∉ earlier) ∧
        ∀ d, L.log = later ++ .close d :: earlier → .close d ∉ earlier := by
  have hbalanced := (consistent_of_run hrun).balanced
  intro later earlier
  constructor
  · intro c hlog
    rw [hlog, trace_append_cons rfl] at hbalanced
    rw [← mem_trace_exit]
    exact hbalanced.release_notMem
  · intro d hlog
    rw [hlog, trace_append_cons rfl] at hbalanced
    rw [← mem_trace_close]
    exact hbalanced.release_notMem

/-- The collector never closes the device of a channel in use. -/
theorem finalize_keeps_dev {u w env : ℕ} {ptr : Option (ℕ × ℕ)} (hu : u ∉ L.marked)
    (hw : w ∈ L.roots) (hchannel : L.heap[w]? = some (.channel ptr env)) :
    (L.finalize u).heap[env]? = L.heap[env]? := by
  have henv : env ∈ L.marked := by
    apply List.mem_append_right
    apply List.mem_flatMap.mpr
    refine ⟨w, hw, ?_⟩
    rw [LuaState.refsOf, hchannel]
    exact List.mem_singleton_self _
  have hne : u ≠ env := by
    rintro rfl
    exact hu henv
  have heffect : Effect L (.gc u) (L.finalize u) := effect_finalize
  generalize L.finalize u = L' at heffect
  cases heffect with
  | quiet op roots => rfl
  | exit op v c hop hctx =>
      rcases hop with hop | hop <;> cases hop
      exact List.getElem?_set_ne hne
  | close op v d hop hdev =>
      rcases hop with hop | hop <;> cases hop
      exact List.getElem?_set_ne hne

end Run

/-! ## Orderly runs -/

/-- Every device opened from the context of this userdata has been closed. -/
def LuaState.DevsClosed (L : LuaState) (u : ℕ) : Prop :=
  ∀ c, L.heap[u]? = some (.ctx (some c)) →
    ∀ d, .openDev c (some d) ∈ L.log → .close d ∈ L.log

/-- The dev that this channel was got from has not been closed. -/
def LuaState.DevOpen (L : LuaState) (u : ℕ) : Prop :=
  ∀ ptr env, L.heap[u]? = some (.channel ptr env) → L.heap[env]? ≠ some (.dev none)

/-- The channel functions are called while the dev is open, and a context is exited, by its
finalizer or otherwise, when its devices are closed. -/
def Orderly (L : LuaState) : Op → Prop
  | .method (.channel _ argsOk _) u => argsOk = true → L.DevOpen u
  | .method .ctxExit u => L.DevsClosed u
  | .gc u => L.DevsClosed u
  | _ => True

/-- The invariant of orderly runs. -/
structure Tidy (L : LuaState) : Prop extends Consistent L where
  disciplined : Disciplined (trace L.log)
  ownersLast : OwnersLast (trace L.log)

theorem tidy_loaded : Tidy .loaded where
  toConsistent := consistent_loaded
  disciplined := trivial
  ownersLast := nofun

section Tidy

variable {L L' : LuaState} {op : Op} {ops : List Op} {u : ℕ}

/-- What a userdata owns is not gone. -/
theorem Tidy.not_gone {ud : Userdata} {h : Handle} (hL : Tidy L) (hud : L.heap[u]? = some ud)
    (howned : ud.owned = some h) : ¬ Gone L.log h := by
  rw [← expired_trace_iff]
  exact hL.ownersLast.not_expired (hL.held u ud h hud howned)

/-- The device of a channel is held as long as its dev is open. -/
theorem Consistent.held_of_devOpen {d i env : ℕ} (hL : Consistent L) (hopen : L.DevOpen u)
    (hchannel : L.heap[u]? = some (.channel (some (d, i)) env)) :
    L.heap[env]? = some (.dev (some d)) := by
  obtain ⟨d', i', hptr, henv⟩ := hL.channel u _ env hchannel
  cases hptr
  exact henv.resolve_right (hopen _ env hchannel)

/-- A call that needs what is held. -/
theorem Tidy.call {c : Call} {e : Event Handle} (hL : Tidy L) (hL' : Consistent L')
    (hlog : L'.log = c :: L.log) (hevent : c.event = some e)
    (hheld : ∀ h ∈ e.needs, Held (trace L.log) h) (hlast : OwnersLast (e :: trace L.log)) :
    Tidy L' := by
  have htrace : trace L'.log = e :: trace L.log := by
    rw [hlog]
    exact trace_cons hevent
  refine ⟨hL', ?_, ?_⟩
  · exact htrace ▸ hL.disciplined.cons hL.ownersLast hheld
  · exact htrace ▸ hlast

/-- **One orderly operation.** -/
theorem Effect.tidy (heffect : Effect L op L') (hL : Tidy L) (horderly : Orderly L op) :
    Tidy L' := by
  have hL' := heffect.consistent hL.toConsistent
  have hone {h : Handle} (hheld : Held (trace L.log) h) :
      ∀ o ∈ [h], Held (trace L.log) o := by
    intro o ho
    rw [List.mem_singleton.mp ho]
    exact hheld
  cases heffect with
  | quiet op roots => exact ⟨hL', hL.disciplined, hL.ownersLast⟩
  | initFailed rc => exact ⟨hL', hL.disciplined, hL.ownersLast⟩
  | init rc =>
      exact hL.call hL' rfl rfl (List.forall_mem_nil _) (hL.ownersLast.acquire hL'.balanced.1)
  | exit op u c hop hctx =>
      have hclosed : L.DevsClosed u := by
        rcases hop with rfl | rfl <;> exact horderly
      apply hL.call hL' rfl rfl (hone (hL.held u _ _ hctx rfl))
      apply hL.ownersLast.release
      intro h howns
      obtain ⟨_, d, hc, rfl, hcall⟩ := owns_trace_iff.mp howns
      cases hc
      exact mem_trace_close.mpr (hclosed c hctx d hcall)
  | openFailed m u c hctx =>
      exact hL.call hL' rfl rfl (hone (hL.held u _ _ hctx rfl)) hL.ownersLast.use
  | opened m u c dev hctx =>
      exact hL.call hL' rfl rfl (hone (hL.held u _ _ hctx rfl))
        (hL.ownersLast.acquire hL'.balanced.1)
  | close op u d hop hdev =>
      apply hL.call hL' rfl rfl (hone (hL.held u _ _ hdev rfl))
      apply hL.ownersLast.release
      intro h howns
      obtain ⟨_, _, hc, -, -⟩ := owns_trace_iff.mp howns
      cases hc
  | use m u d c hdev hevent =>
      exact hL.call hL' rfl hevent (hone (hL.held u _ _ hdev rfl)) hL.ownersLast.use
  | channel m u d i c hdev hevent =>
      exact hL.call hL' rfl hevent (hone (hL.held u _ _ hdev rfl)) hL.ownersLast.use
  | channelCall method rc u d i env hchannel =>
      have hdev := hL.held_of_devOpen (horderly rfl) hchannel
      exact hL.call hL' rfl rfl (hone (hL.held env _ _ hdev rfl)) hL.ownersLast.use

/-- What a userdata points to. -/
def Userdata.handle : Userdata → Option Handle
  | .ctx ptr => ptr.map .ctx
  | .dev ptr => ptr.map .dev
  | .channel ptr _ => ptr.map fun ch => .dev ch.1

/-- The pointer of this userdata is null, or what it points to is gone. -/
def LuaState.Unusable (L : LuaState) (u : ℕ) : Prop :=
  ∀ ud h, L.heap[u]? = some ud → ud.handle = some h → Gone L.log h

/-- A Lua argument error. -/
def Outcome.IsArgError : Outcome → Prop
  | .argError _ _ => True
  | .typeError => True
  | _ => False

/-- What owns something is usable. -/
theorem Tidy.not_unusable {ud : Userdata} {h : Handle} (hL : Tidy L)
    (hud : L.heap[u]? = some ud) (howned : ud.owned = some h) : ¬ L.Unusable u := by
  intro hunusable
  have hhandle : ud.handle = some h := by
    cases ud with
    | ctx ptr => exact howned
    | dev ptr => exact howned
    | channel ptr env => cases howned
  exact hL.not_gone hud howned (hunusable ud h hud hhandle)

/-- The check of an unusable dev fails. -/
theorem Tidy.checkDev_eq_error (hL : Tidy L) (hunusable : L.Unusable u) :
    ∃ outcome, checkDev L u = .error outcome ∧ outcome.IsArgError := by
  rw [checkDev]
  split
  · exact absurd hunusable (hL.not_unusable ‹_› rfl)
  · exact ⟨_, rfl, trivial⟩
  · exact ⟨_, rfl, trivial⟩

/-- The check of a channel fails with an argument error. -/
theorem isArgError_of_checkChannel {outcome : Outcome}
    (hcheck : checkChannel L u = .error outcome) : outcome.IsArgError := by
  rw [checkChannel] at hcheck
  split at hcheck
  · cases hcheck
  · cases hcheck
    trivial
  · cases hcheck
    trivial

/-- **A method of something unusable does nothing**, and raises an argument error unless it
is an exit or a close. -/
theorem Tidy.rejects (hL : Tidy L) {m : Method} (horderly : Orderly L (.method m u))
    (hunusable : L.Unusable u) :
    (m.invoke L u).2 = L ∧
      (m ≠ .ctxExit → m ≠ .devClose → (m.invoke L u).1.IsArgError) := by
  cases m with
  | ctxOpen argsOk answer =>
      show (lCtxOpen argsOk answer L u).2 = L ∧ (_ → _ → (lCtxOpen argsOk answer L u).1.IsArgError)
      rw [lCtxOpen]
      split
      · exact ⟨rfl, fun _ _ => trivial⟩
      · exact absurd hunusable (hL.not_unusable ‹_› rfl)
      · exact ⟨rfl, fun _ _ => trivial⟩
  | ctxExit =>
      refine ⟨?_, fun hexit => absurd rfl hexit⟩
      show (lCtxExit L u).2 = L
      rw [lCtxExit]
      split
      · exact absurd hunusable (hL.not_unusable ‹_› rfl)
      · rfl
      · rfl
  | devChannel index =>
      obtain ⟨outcome, hcheck, herror⟩ := hL.checkDev_eq_error hunusable
      show (lDevChannel index L u).2 = L ∧ (_ → _ → (lDevChannel index L u).1.IsArgError)
      rw [lDevChannel, hcheck]
      exact ⟨rfl, fun _ _ => herror⟩
  | devChannelCount =>
      obtain ⟨outcome, hcheck, herror⟩ := hL.checkDev_eq_error hunusable
      show (lDevChannelCount L u).2 = L ∧ (_ → _ → (lDevChannelCount L u).1.IsArgError)
      rw [lDevChannelCount, hcheck]
      exact ⟨rfl, fun _ _ => herror⟩
  | devDeviceConfig =>
      obtain ⟨outcome, hcheck, herror⟩ := hL.checkDev_eq_error hunusable
      show (lDevDeviceConfig L u).2 = L ∧ (_ → _ → (lDevDeviceConfig L u).1.IsArgError)
      rw [lDevDeviceConfig, hcheck]
      exact ⟨rfl, fun _ _ => herror⟩
  | devClose =>
      refine ⟨?_, fun _ hclose => absurd rfl hclose⟩
      show (lDevClose L u).2 = L
      rw [lDevClose]
      split
      · exact absurd hunusable (hL.not_unusable ‹_› rfl)
      · rfl
      · rfl
  | channel method argsOk rc =>
      obtain ⟨what, isError, heq⟩ := channelMethods_eq method
      show (channelMethods method argsOk rc L u).2 = L ∧
        (_ → _ → (channelMethods method argsOk rc L u).1.IsArgError)
      rw [heq, channelFunction]
      cases hcheck : checkChannel L u with
      | error outcome => exact ⟨rfl, fun _ _ => isArgError_of_checkChannel hcheck⟩
      | ok ch =>
          obtain ⟨env, hchannel⟩ := checkChannel_eq_ok hcheck
          cases argsOk with
          | false => exact ⟨rfl, fun _ _ => trivial⟩
          | true =>
              have hdev := hL.held_of_devOpen (horderly rfl) hchannel
              exact absurd (hunusable _ _ hchannel rfl) (hL.not_gone hdev rfl)

/-- **Lifetime safety of orderly runs.** No library call works on something an earlier call
took away; a method of something that is gone makes no call, and raises an argument error
unless it is an exit or a close, which do nothing the second time. -/
theorem lifetimeSafe_of_run (hrun : run step .loaded ops = some L)
    (horderly : Meets step Orderly .loaded ops) :
    LifetimeSafe L.log ∧
      ∀ m u, Orderly L (.method m u) → L.Unusable u →
        (m.invoke L u).2 = L ∧
          (m ≠ .ctxExit → m ≠ .devClose → (m.invoke L u).1.IsArgError) := by
  have hL : Tidy L := run_invariant_of_meets
    (fun _ _ _ hL horderly hstep => (effect_of_step hstep).tidy hL horderly) tidy_loaded
    horderly hrun
  exact ⟨lifetimeSafe_of_disciplined hL.disciplined,
    fun _ _ horderly hunusable => hL.rejects horderly hunusable⟩

end Tidy

/-- Open a channel, stop it, close the dev and exit the context. -/
def session : List Op :=
  [.init 0, .method (.ctxOpen true (.ok ⟨2, twoChannels⟩)) 0, .method (.devChannel (some 0)) 1,
    .method (.channel .stop true 0) 2, .method .devClose 1, .method .ctxExit 0]

/-- The session is orderly, so its calls are safe, and another open is an error. -/
theorem lifetimeSafe_of_run_session :
    ∃ L, run step .loaded session = some L ∧ LifetimeSafe L.log ∧
      ((Method.ctxOpen true (.ok ⟨2, twoChannels⟩)).invoke L 0).1.IsArgError := by
  have horderly : Meets step Orderly .loaded session := by
    refine .cons rfl trivial (.cons rfl trivial (.cons rfl trivial (.cons rfl ?_
      (.cons rfl trivial (.cons rfl ?_ trivial)))))
    · intro _ ptr env hchannel
      cases hchannel
      nofun
    · intro c hctx d hopen
      cases hctx
      have hlog : Call.openDev 0 (some d) ∈ [.close 0, .channel .stop 0 0, .channelGet 0 0,
          .openDev 0 (some 0), .init (some 0)] := hopen
      have hd : d = 0 := by simpa using hlog
      rw [hd]
      exact List.mem_cons_self
  have hsafe := lifetimeSafe_of_run rfl horderly
  refine ⟨_, rfl, hsafe.1, (hsafe.2 (.ctxOpen true (.ok ⟨2, twoChannels⟩)) 0 trivial ?_).2
    nofun nofun⟩
  intro ud h hud hhandle
  cases hud
  cases hhandle

/-- A channel is used after its dev was closed. -/
def useAfterClose : List Op :=
  [.init 0, .method (.ctxOpen true (.ok ⟨2, twoChannels⟩)) 0, .method (.devChannel (some 0)) 1,
    .method .devClose 1, .method (.channel .stop true 0) 2]

/-- A dev is used after its context, to which nothing refers any more, was collected. -/
def useAfterCollection : List Op :=
  [.init 0, .method (.ctxOpen true (.ok ⟨2, twoChannels⟩)) 0, .drop 0, .gc 0,
    .method .devChannelCount 1]

/-- **Neither is an error**: the library is called with what it has taken back. -/
theorem not_lifetimeSafe_useAfter :
    (∃ L, run step .loaded useAfterClose = some L ∧ ¬ LifetimeSafe L.log) ∧
      ∃ L, run step .loaded useAfterCollection = some L ∧ ¬ LifetimeSafe L.log := by
  constructor
  · refine ⟨_, rfl, ?_⟩
    intro hsafe
    exact hsafe [] _ _ rfl (.dev 0) rfl (.inl List.mem_cons_self)
  · refine ⟨_, rfl, ?_⟩
    intro hsafe
    exact hsafe [] _ _ rfl (.dev 0) rfl
      (.inr ⟨0, List.mem_cons_of_mem _ List.mem_cons_self, List.mem_cons_self⟩)

end GsUsb.Lua
