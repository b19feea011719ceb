/-
# Walking a list that changes on the way

A loop visits the items of a list by index, and what it does with an item may change the list.
It visits the items that were there at the start, and just these, exactly when every one of them
is found at its own index as its turn comes and nothing is found behind the last.
-/

import Mathlib.Data.List.Basic
import Mathlib.Order.Nat

namespace GsUsb.Math.LiveLoop

universe u v

variable {σ : Type u} {δ : Type v}

/-- Visit the item at index `i` and go on at the next index, until there is no item; the state at
the end and the items visited, or `none` when the fuel does not suffice. -/
def walk (items : σ → List δ) (visit : σ → δ → σ) : (fuel i : ℕ) → σ → Option (σ × List δ)
  | 0, _, _ => none
  | fuel + 1, i, s =>
    match (items s)[i]? with
    | none => some (s, [])
    | some d => (walk items visit fuel (i + 1) (visit s d)).map fun (t, ds) => (t, d :: ds)

/-- The state when the first `k` items of a list have been visited. -/
def before (visit : σ → δ → σ) (s : σ) (rest : List δ) (k : ℕ) : σ := (rest.take k).foldl visit s

/-- Each item of the rest is at its index when its turn comes, and nothing is behind the last. -/
def InPlace (items : σ → List δ) (visit : σ → δ → σ) (i : ℕ) (s : σ) (rest : List δ) : Prop :=
  ∀ k ≤ rest.length, (items (before visit s rest k))[i + k]? = rest[k]?

variable {items : σ → List δ} {visit : σ → δ → σ} {i : ℕ} {s t : σ} {d : δ} {rest : List δ}

theorem walk_of_none (hend : (items s)[i]? = none) (fuel : ℕ) :
    walk items visit (fuel + 1) i s = some (s, []) := by
  rw [walk, hend]

theorem walk_of_some (hitem : (items s)[i]? = some d) (fuel : ℕ) :
    walk items visit (fuel + 1) i s =
      (walk items visit fuel (i + 1) (visit s d)).map fun (t, ds) => (t, d :: ds) := by
  rw [walk, hitem]

theorem inPlace_nil : InPlace items visit i s [] ↔ (items s)[i]? = none := by
  constructor
  · intro h
    exact h 0 le_rfl
  · intro hend k hk
    obtain rfl := Nat.le_zero.mp hk
    exact hend

theorem inPlace_cons : InPlace items visit i s (d :: rest) ↔
    (items s)[i]? = some d ∧ InPlace items visit (i + 1) (visit s d) rest := by
  constructor
  · intro h
    refine ⟨h 0 (Nat.zero_le _), ?_⟩
    intro k hk
    rw [Nat.add_assoc, Nat.add_comm 1 k]
    exact h (k + 1) (Nat.succ_le_succ hk)
  · rintro ⟨hitem, hrest⟩ k hk
    cases k with
    | zero => exact hitem
    | succ k =>
        rw [Nat.add_comm k 1, ← Nat.add_assoc]
        have hnext := hrest k (Nat.le_of_succ_le_succ hk)
        rw [Nat.add_comm 1 k, List.getElem?_cons_succ]
        exact hnext

/-- **When the walk visits a given list.** Exactly when the items are in place, and then it leaves
what visiting them one after the other leaves. -/
theorem exists_walk_iff :
    (∃ fuel, walk items visit fuel i s = some (t, rest)) ↔
      t = rest.foldl visit s ∧ InPlace items visit i s rest := by
  induction rest generalizing i s with
  | nil =>
      rw [inPlace_nil]
      constructor
      · rintro ⟨fuel, hwalk⟩
        cases fuel with
        | zero => cases hwalk
        | succ fuel =>
            rcases hitem : (items s)[i]? with _ | d
            · rw [walk_of_none hitem] at hwalk
              cases hwalk
              exact ⟨rfl, rfl⟩
            · rw [walk_of_some hitem, Option.map_eq_some_iff] at hwalk
              obtain ⟨_, -, heq⟩ := hwalk
              cases heq
      · rintro ⟨rfl, hend⟩
        exact ⟨1, walk_of_none hend 0⟩
  | cons d rest ih =>
      rw [inPlace_cons]
      constructor
      · rintro ⟨fuel, hwalk⟩
        cases fuel with
        | zero => cases hwalk
        | succ fuel =>
            rcases hitem : (items s)[i]? with _ | d'
            · rw [walk_of_none hitem] at hwalk
              cases hwalk
            · rw [walk_of_some hitem, Option.map_eq_some_iff] at hwalk
              obtain ⟨_, hrest, heq⟩ := hwalk
              cases heq
              obtain ⟨hstate, hplace⟩ := ih.mp ⟨fuel, hrest⟩
              exact ⟨hstate, rfl, hplace⟩
      · rintro ⟨hstate, hitem, hplace⟩
        obtain ⟨fuel, hwalk⟩ := ih.mpr ⟨hstate, hplace⟩
        exact ⟨fuel + 1, by rw [walk_of_some hitem, hwalk]; rfl⟩

/-- A walk over a list that grows with every visit does not end. -/
theorem walk_eq_none_of_grows
    (hgrows : ∀ s d, (items s).length < (items (visit s d)).length) (fuel : ℕ)
    (hi : i < (items s).length) : walk items visit fuel i s = none := by
  induction fuel generalizing i s with
  | zero => rfl
  | succ fuel ih =>
      rw [walk_of_some (List.getElem?_eq_getElem hi)]
      have hnext := ih (Nat.lt_of_le_of_lt (Nat.succ_le_of_lt hi) (hgrows s (items s)[i]))
      rw [hnext]
      rfl

theorem before_succ {k : ℕ} (hk : k < rest.length) :
    before visit s rest (k + 1) = visit (before visit s rest k) rest[k] := by
  rw [before, List.take_succ_eq_append_getElem hk, List.foldl_append]
  rfl

/-- A relation that each visit keeps between the lists before and after. -/
theorem before_rel {r : List δ → List δ → Prop} (hrefl : ∀ l, r l l)
    (htrans : ∀ {l l' l''}, r l l' → r l' l'' → r l l'')
    (hvisit : ∀ s d, r (items s) (items (visit s d))) {j k : ℕ} (hjk : j ≤ k)
    (hk : k ≤ rest.length) :
    r (items (before visit s rest j)) (items (before visit s rest k)) := by
  induction k with
  | zero =>
      obtain rfl := Nat.le_zero.mp hjk
      exact hrefl _
  | succ k ih =>
      rcases Nat.le_or_eq_of_le_succ hjk with hle | rfl
      · rw [before_succ hk]
        exact htrans (ih hle (Nat.le_of_succ_le hk)) (hvisit _ _)
      · exact hrefl _

/-- Where visits take items away, the items are in place exactly when the last visit is the first
to take one. -/
theorem inPlace_iff_of_sublist (hremoves : ∀ s d, (items (visit s d)).Sublist (items s)) :
    InPlace items visit 0 s (items s) ↔
      ∀ k < (items s).length, items (before visit s (items s) k) = items s := by
  have hsublist {j k : ℕ} (hjk : j ≤ k) (hk : k ≤ (items s).length) :
      (items (before visit s (items s) k)).Sublist (items (before visit s (items s) j)) :=
    before_rel (r := fun l l' => l'.Sublist l) (fun _ => List.Sublist.refl _)
      (fun h h' => h'.trans h) hremoves hjk hk
  constructor
  · intro h k hk
    obtain ⟨m, hm⟩ : ∃ m, (items s).length = m + 1 :=
      Nat.exists_eq_succ_of_ne_zero (Nat.ne_zero_of_lt hk)
    have hm' : m < (items s).length := hm ▸ Nat.lt_succ_self m
    have hlast := h m hm'.le
    rw [Nat.zero_add, List.getElem?_eq_getElem hm', List.getElem?_eq_some_iff] at hlast
    obtain ⟨hlength, -⟩ := hlast
    -- nothing is gone before the last visit, so nothing was gone earlier
    have hfull : items (before visit s (items s) m) = items s :=
      (hsublist (Nat.zero_le m) hm'.le).eq_of_length_le (hm ▸ hlength)
    have hkm : k ≤ m := by omega
    apply (hsublist (Nat.zero_le k) hk.le).antisymm
    have hbetween := hsublist hkm hm'.le
    rw [hfull] at hbetween
    exact hbetween
  · intro hsame k hk
    rw [Nat.zero_add]
    rcases hk.lt_or_eq with hlt | rfl
    · rw [hsame k hlt]
    · rw [List.getElem?_eq_none le_rfl, List.getElem?_eq_none_iff]
      exact (hsublist (Nat.zero_le _) le_rfl).length_le

end GsUsb.Math.LiveLoop
