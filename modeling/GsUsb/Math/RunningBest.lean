/-
# A running best with a tolerance

A search that keeps one best candidate compares a primary key up to a tolerance and
breaks near ties by a secondary key.  Each near tie may lift the primary key of the best
candidate by as much as the tolerance, so a long search can drift away from the minimum.
It does not where the keys are spread: where no three distinct ones lie within twice the
tolerance.
-/

import Mathlib.Algebra.Order.Group.Defs
import Mathlib.Data.List.Induction

namespace GsUsb.Math.RunningBest

universe u v

variable {α : Type u} {K : Type v} [AddCommGroup K] [LinearOrder K] (tol : K) (key tie : α → K)

/-- Compare a candidate with the best one so far. -/
def keep : Option α → α → Option α
  | none, c => some c
  | some b, c =>
    if key c + tol < key b then some c
    else if key b + tol < key c then some b
    else if tie c < tie b then some c
    else some b

/-- The best candidate after a search through a list. -/
def runningBest (l : List α) : Option α := l.foldl (keep tol key tie) none

/-- No three distinct keys of the list lie within twice the tolerance. -/
def Spread (l : List α) : Prop :=
  ∀ x ∈ l, ∀ y ∈ l, ∀ z ∈ l, key x < key y → key y < key z → key x + (tol + tol) < key z

variable {tol key tie}

theorem runningBest_append (l : List α) (c : α) :
    runningBest tol key tie (l ++ [c]) = keep tol key tie (runningBest tol key tie l) c := by
  rw [runningBest, List.foldl_append]
  rfl

/-- A comparison keeps the best candidate or takes the new one. -/
theorem keep_eq_some {best : Option α} {c r : α} (hkeep : keep tol key tie best c = some r) :
    r = c ∨ best = some r := by
  cases best with
  | none => exact .inl (Option.some.inj hkeep).symm
  | some b =>
      rw [keep] at hkeep
      split_ifs at hkeep
      · exact .inl (Option.some.inj hkeep).symm
      · exact .inr hkeep
      · exact .inl (Option.some.inj hkeep).symm
      · exact .inr hkeep

/-- The best candidate is a candidate. -/
theorem mem_of_runningBest {l : List α} {r : α} (hbest : runningBest tol key tie l = some r) :
    r ∈ l := by
  induction l using List.reverseRecOn generalizing r with
  | nil => cases hbest
  | append_singleton l c ih =>
      rw [runningBest_append] at hbest
      rcases keep_eq_some hbest with rfl | hold
      · exact List.mem_append_right _ (List.mem_singleton_self _)
      · exact List.mem_append_left _ (ih hold)

/-- With a candidate there is a best one. -/
theorem exists_runningBest {l : List α} (hne : l ≠ []) :
    ∃ r, runningBest tol key tie l = some r := by
  induction l using List.reverseRecOn with
  | nil => exact absurd rfl hne
  | append_singleton l c ih =>
      rw [runningBest_append]
      cases runningBest tol key tie l with
      | none => exact ⟨c, rfl⟩
      | some b =>
          rw [keep]
          split_ifs
          · exact ⟨c, rfl⟩
          · exact ⟨b, rfl⟩
          · exact ⟨c, rfl⟩
          · exact ⟨b, rfl⟩

variable [IsOrderedAddMonoid K]

/-- **No drift.** Among spread keys the best candidate is within the tolerance of every
other. -/
theorem runningBest_le (htol : 0 ≤ tol) {l : List α} (hspread : Spread tol key l) {r : α}
    (hbest : runningBest tol key tie l = some r) : ∀ x ∈ l, key r ≤ key x + tol := by
  induction l using List.reverseRecOn generalizing r with
  | nil => cases hbest
  | append_singleton l c ih =>
      have hprefix : Spread tol key l := fun x hx y hy z hz =>
        hspread x (List.mem_append_left _ hx) y (List.mem_append_left _ hy) z
          (List.mem_append_left _ hz)
      rw [runningBest_append] at hbest
      rcases hold : runningBest tol key tie l with _ | b
      · rw [hold] at hbest
        obtain rfl := Option.some.inj hbest
        have hnil : l = [] := by
          by_contra hne
          obtain ⟨b, hb⟩ : ∃ b, runningBest tol key tie l = some b := exists_runningBest hne
          rw [hold] at hb
          cases hb
        intro x hx
        rw [hnil, List.nil_append, List.mem_singleton] at hx
        rw [hx]
        exact le_add_of_nonneg_right htol
      · have hb := ih hprefix hold
        have hbl := mem_of_runningBest hold
        have hle : ∀ {x y : K}, x ≤ y → x ≤ y + tol := fun h => le_add_of_le_of_nonneg h htol
        rw [hold, keep] at hbest
        intro x hx
        rw [List.mem_append, List.mem_singleton] at hx
        split_ifs at hbest with hless hmore htie
        · -- the new key is far below the old one, so it is the smallest
          obtain rfl := Option.some.inj hbest
          rcases hx with hx | rfl
          · exact hle (lt_of_add_lt_add_right (hless.trans_le (hb x hx))).le
          · exact hle le_rfl
        · obtain rfl := Option.some.inj hbest
          rcases hx with hx | rfl
          · exact hb x hx
          · exact hle (le_add_of_nonneg_right htol |>.trans hmore.le)
        · -- a near tie lifts the key only if the old one was the smallest
          obtain rfl := Option.some.inj hbest
          rcases hx with hx | rfl
          · by_contra hfar
            rw [not_le] at hfar
            rw [not_lt] at hmore
            have hxb : key x < key b := lt_of_add_lt_add_right (hfar.trans_le hmore)
            have hbc : key b < key c := (hb x hx).trans_lt hfar
            have hthree := hspread x (List.mem_append_left _ hx) b
              (List.mem_append_left _ hbl) c
              (List.mem_append_right _ (List.mem_singleton_self _)) hxb hbc
            have hwithin : key c ≤ key x + (tol + tol) := by
              calc
                key c ≤ key b + tol := hmore
                _ ≤ key x + tol + tol := add_le_add_left (hb x hx) tol
                _ = key x + (tol + tol) := add_assoc _ _ _
            exact absurd hthree (not_lt.mpr hwithin)
          · exact hle le_rfl
        · obtain rfl := Option.some.inj hbest
          rcases hx with hx | rfl
          · exact hb x hx
          · exact not_lt.mp hless

/-- **Exact candidates win.** Where every key is zero or clear of the tolerance and some
key is zero, the best candidate has key zero, and no other with key zero has a smaller
secondary key. -/
theorem runningBest_of_zero (htol : 0 ≤ tol) {l : List α}
    (hgap : ∀ x ∈ l, key x = 0 ∨ tol < key x) {r : α}
    (hbest : runningBest tol key tie l = some r) :
    ∀ x ∈ l, key x = 0 → key r = 0 ∧ tie r ≤ tie x := by
  induction l using List.reverseRecOn generalizing r with
  | nil => cases hbest
  | append_singleton l c ih =>
      have hprefix : ∀ x ∈ l, key x = 0 ∨ tol < key x := fun x hx =>
        hgap x (List.mem_append_left _ hx)
      have hc := hgap c (List.mem_append_right _ (List.mem_singleton_self _))
      intro x hx hzero
      rw [List.mem_append, List.mem_singleton] at hx
      rw [runningBest_append] at hbest
      rcases hold : runningBest tol key tie l with _ | b
      · rw [hold] at hbest
        obtain rfl := Option.some.inj hbest
        rcases hx with hx | rfl
        · obtain ⟨b, hb⟩ : ∃ b, runningBest tol key tie l = some b :=
            exists_runningBest (List.ne_nil_of_mem hx)
          cases hold.symm.trans hb
        · exact ⟨hzero, le_rfl⟩
      · have hb := hprefix b (mem_of_runningBest hold)
        have ih' := ih hprefix hold
        rw [hold, keep] at hbest
        split_ifs at hbest with hless hmore htie
        · -- the old key was not zero, so no earlier one was
          obtain rfl := Option.some.inj hbest
          rcases hx with hx | rfl
          · have hb0 := (ih' x hx hzero).1
            rcases hc with hc | hc
            · rw [hb0, hc, zero_add] at hless
              exact absurd hless (not_lt.mpr htol)
            · rw [hb0] at hless
              exact absurd hless (not_lt.mpr (add_nonneg (htol.trans hc.le) htol))
          · exact ⟨hzero, le_rfl⟩
        · obtain rfl := Option.some.inj hbest
          rcases hx with hx | rfl
          · exact ih' x hx hzero
          · rcases hb with hb | hb
            · rw [hb, hzero, zero_add] at hmore
              exact absurd hmore (not_lt.mpr htol)
            · rw [hzero] at hmore
              exact absurd hmore (not_lt.mpr (add_nonneg (htol.trans hb.le) htol))
        · obtain rfl := Option.some.inj hbest
          rcases hx with hx | rfl
          · obtain ⟨hb0, hle⟩ := ih' x hx hzero
            rw [hb0, zero_add, not_lt] at hmore
            exact ⟨hc.resolve_right (not_lt.mpr hmore), htie.le.trans hle⟩
          · exact ⟨hzero, le_rfl⟩
        · obtain rfl := Option.some.inj hbest
          rcases hx with hx | rfl
          · exact ih' x hx hzero
          · rw [hzero, zero_add, not_lt] at hless
            exact ⟨hb.resolve_right (not_lt.mpr hless), not_lt.mp htie⟩

end GsUsb.Math.RunningBest
