/-
# The scanners of the C library

`strchr`, `strtoul` in base 16 and the `%2x` conversion of `sscanf` on a string without its
terminating zero, as the C standard describes them in the "C" locale: all the scanners skip
leading white space and take a sign and a `0x`, and what follows the number is left alone.
-/

import GsUsb.Math.Hex
import Mathlib.Data.List.TakeWhile

namespace GsUsb.Tools

open GsUsb.Math

/-- `isspace`. -/
def isspace (c : Char) : Bool :=
  c = ' ' || c = '\t' || c = '\n' || c = '\x0b' || c = '\x0c' || c = '\r'

/-- `strchr(s, c)` for a character other than the terminating zero: the string from its first
occurrence on. -/
def strchr (s : List Char) (c : Char) : Option (List Char) :=
  match s with
  | [] => none
  | x :: xs => if x = c then some (x :: xs) else strchr xs c

/-- The type `unsigned long`, by its width. -/
structure Ulong where
  width : ℕ
  width_ge : 32 ≤ width

/-- An optional sign: whether it is a minus, and what follows it. -/
def skipSign : List Char → Bool × List Char
  | '-' :: t => (true, t)
  | '+' :: t => (false, t)
  | t => (false, t)

/-- An optional `0x`, which counts only before a digit. -/
def skipPrefix : List Char → List Char
  | '0' :: x :: d :: t => if (x = 'x' ∨ x = 'X') ∧ isHex d then d :: t else '0' :: x :: d :: t
  | t => t

/-- The value `strtoul` returns for the number `n` with or without a minus. -/
def ulongValue (u : Ulong) (minus : Bool) (n : ℕ) : ℕ :=
  if n ≥ 2 ^ u.width then 2 ^ u.width - 1
  else if minus then (2 ^ u.width - n) % 2 ^ u.width
  else n

/-- `strtoul(s, &end, 16)`: the value and `end`. -/
def strtoul16 (u : Ulong) (s : List Char) : ℕ × List Char :=
  let (minus, t) := skipSign (s.dropWhile isspace)
  let t := skipPrefix t
  let ds := t.takeWhile isHex
  if ds = [] then (0, s) else (ulongValue u minus (hexNumber ds), t.dropWhile isHex)

/-- The item `%2x` reads behind white space: two digits, one digit, or a sign and a digit.
A sign alone and a `0x` begin a number but are none. -/
def scanItem : List Char → Option UInt32
  | [] => none
  | c :: t =>
    match hexVal c, t.head?.bind hexVal with
    | some d, some e => some (UInt32.ofNat (16 * d + e))
    | some d, none =>
      if c = '0' ∧ (t.head? = some 'x' ∨ t.head? = some 'X') then none else some (UInt32.ofNat d)
    | none, some e =>
      if c = '-' then some (0 - UInt32.ofNat e)
      else if c = '+' then some (UInt32.ofNat e)
      else none
    | none, none => none

/-- `sscanf(s, "%2x", &n)`: the value it stores, if it returns 1. -/
def sscanf2x (s : List Char) : Option UInt32 := scanItem (s.dropWhile isspace)

/-- Behind a part without the character, its first occurrence. -/
theorem strchr_append {c : Char} {before : List Char} (hnot : c ∉ before) (after : List Char) :
    strchr (before ++ c :: after) c = some (c :: after) := by
  induction before with
  | nil => simp [strchr]
  | cons x xs ih =>
      rw [List.mem_cons, not_or] at hnot
      rw [List.cons_append, strchr, if_neg (Ne.symm hnot.1), ih hnot.2]

/-- What is found splits the string at the first occurrence. -/
theorem exists_of_strchr {s found : List Char} {c : Char} (h : strchr s c = some found) :
    ∃ before after, s = before ++ c :: after ∧ c ∉ before ∧ found = c :: after := by
  induction s with
  | nil => cases h
  | cons x xs ih =>
      rw [strchr] at h
      split at h
      · rename_i hx
        cases h
        subst hx
        exact ⟨[], xs, rfl, List.not_mem_nil, rfl⟩
      · rename_i hx
        obtain ⟨before, after, rfl, hnot, hfound⟩ := ih h
        refine ⟨x :: before, after, rfl, ?_, hfound⟩
        simp [Ne.symm hx, hnot]

/-- A sign or none, and whether it is a minus. -/
inductive Sign : List Char → Bool → Prop
  | none : Sign [] false
  | plus : Sign ['+'] false
  | minus : Sign ['-'] true

/-- White space, a sign, `0x` and digits; only the digits have to be there. -/
inductive Numeral : List Char → Bool → List Char → Prop
  | mk {ws sign pre ds : List Char} {minus : Bool} (hws : ∀ c ∈ ws, isspace c = true)
      (hsign : Sign sign minus) (hpre : pre = [] ∨ pre = ['0', 'x'] ∨ pre = ['0', 'X'])
      (hne : ds ≠ []) (hds : ∀ c ∈ ds, isHex c = true) :
      Numeral (ws ++ (sign ++ (pre ++ ds))) minus ds

/-- White space is no digit. -/
theorem isspace_of_isHex {c : Char} (h : isHex c = true) : isspace c = false := by
  by_contra hspace
  rw [Bool.not_eq_false] at hspace
  simp only [isspace, Bool.or_eq_true, decide_eq_true_eq] at hspace
  rcases hspace with ((((rfl | rfl) | rfl) | rfl) | rfl) | rfl <;> exact absurd h (by decide)

/-- A digit begins neither with a sign nor with white space. -/
theorem skipSign_of_isHex {c : Char} (h : isHex c = true) (t : List Char) :
    skipSign (c :: t) = (false, c :: t) := by
  unfold skipSign
  split
  · rename_i heq
    cases heq
    exact absurd h (by decide)
  · rename_i heq
    cases heq
    exact absurd h (by decide)
  · rfl

theorem exists_sign (t : List Char) :
    ∃ sign, t = sign ++ (skipSign t).2 ∧ Sign sign (skipSign t).1 := by
  unfold skipSign
  split
  · exact ⟨['-'], rfl, .minus⟩
  · exact ⟨['+'], rfl, .plus⟩
  · exact ⟨[], rfl, .none⟩

/-- Digits alone have no prefix. -/
theorem skipPrefix_of_isHex {ds : List Char} (h : ∀ c ∈ ds, isHex c = true) :
    skipPrefix ds = ds := by
  unfold skipPrefix
  split
  · rename_i x d t
    have hx : isHex x = true := h x (by simp)
    have hnot : ¬ ((x = 'x' ∨ x = 'X') ∧ isHex d = true) := by
      rintro ⟨rfl | rfl, -⟩ <;> exact absurd hx (by decide)
    rw [if_neg hnot]
  · rfl

theorem exists_prefix (t : List Char) :
    ∃ pre, t = pre ++ skipPrefix t ∧ (pre = [] ∨ pre = ['0', 'x'] ∨ pre = ['0', 'X']) := by
  unfold skipPrefix
  split
  · split
    · rename_i h
      rcases h.1 with rfl | rfl
      · exact ⟨['0', 'x'], rfl, .inr (.inl rfl)⟩
      · exact ⟨['0', 'X'], rfl, .inr (.inr rfl)⟩
    · exact ⟨[], rfl, .inl rfl⟩
  · exact ⟨[], rfl, .inl rfl⟩

/-- `strtoul` reads a numeral to its end. -/
theorem strtoul16_of_numeral (u : Ulong) {s ds : List Char} {minus : Bool}
    (h : Numeral s minus ds) : strtoul16 u s = (ulongValue u minus (hexNumber ds), []) := by
  obtain ⟨hws, hsign, hpre, hne, hds⟩ := h
  rename_i ws sign pre
  obtain ⟨d, ds', rfl⟩ := List.exists_cons_of_ne_nil hne
  have hd : isHex d = true := hds d (by simp)
  have hprefix : skipPrefix (pre ++ d :: ds') = d :: ds' := by
    rcases hpre with rfl | rfl | rfl
    · exact skipPrefix_of_isHex hds
    · simp [skipPrefix, hd]
    · simp [skipPrefix, hd]
  have hnosign : skipSign (pre ++ d :: ds') = (false, pre ++ d :: ds') ∧
      (pre ++ d :: ds').dropWhile isspace = pre ++ d :: ds' := by
    rcases hpre with rfl | rfl | rfl
    · exact ⟨skipSign_of_isHex hd ds',
        List.dropWhile_cons_of_neg (by simp [isspace_of_isHex hd])⟩
    · exact ⟨rfl, rfl⟩
    · exact ⟨rfl, rfl⟩
  have hskip : skipSign ((ws ++ (sign ++ (pre ++ d :: ds'))).dropWhile isspace) =
      (minus, pre ++ d :: ds') := by
    rw [List.dropWhile_append_of_pos hws]
    cases hsign with
    | none => rw [List.nil_append, hnosign.2, hnosign.1]
    | plus => rfl
    | minus => rfl
  have htake : (d :: ds').takeWhile isHex = d :: ds' := List.takeWhile_eq_self_iff.mpr hds
  have hdrop : (d :: ds').dropWhile isHex = [] := List.dropWhile_eq_nil_iff.mpr hds
  simp only [strtoul16, hskip, hprefix, htake, hdrop]
  rfl

/-- What `strtoul` reads to its end is a numeral. -/
theorem exists_numeral (u : Ulong) {s : List Char} (hs : s ≠ [])
    (hend : (strtoul16 u s).2 = []) : ∃ minus ds, Numeral s minus ds := by
  obtain ⟨sign, hsplit, hsign⟩ := exists_sign (s.dropWhile isspace)
  obtain ⟨pre, hsplit', hpre⟩ := exists_prefix (skipSign (s.dropWhile isspace)).2
  simp only [strtoul16] at hend
  split at hend
  · exact absurd hend hs
  · rename_i hne
    have hall := List.dropWhile_eq_nil_iff.mp hend
    have hself := List.takeWhile_eq_self_iff.mpr hall
    rw [hself] at hne
    have hs : s = s.takeWhile isspace ++ (sign ++ (pre ++
        skipPrefix (skipSign (s.dropWhile isspace)).2)) := by
      rw [← hsplit', ← hsplit, List.takeWhile_append_dropWhile]
    have hnumeral : Numeral _ _ _ :=
      .mk (fun c (hc : c ∈ s.takeWhile isspace) => List.mem_takeWhile_imp hc) hsign hpre hne hall
    rw [← hs] at hnumeral
    exact ⟨_, _, hnumeral⟩

/-- The texts at which `%2x` reads a number, once white space is skipped. -/
inductive Item : List Char → Prop
  | two {a b : Char} (ha : isHex a = true) (hb : isHex b = true) (t : List Char) :
      Item (a :: b :: t)
  /-- One digit and no second, unless the two begin a `0x`. -/
  | one {a : Char} (ha : isHex a = true) (t : List Char)
      (hnext : ∀ b ∈ t.head?, isHex b = false ∧ ¬ (a = '0' ∧ (b = 'x' ∨ b = 'X'))) :
      Item (a :: t)
  | signed {a b : Char} (ha : a = '+' ∨ a = '-') (hb : isHex b = true) (t : List Char) :
      Item (a :: b :: t)

theorem hexVal_eq_none {c : Char} (h : isHex c = false) : hexVal c = none :=
  Option.not_isSome_iff_eq_none.mp (by simpa [isHex] using h)

/-- Two digits are read as their number. -/
theorem scanItem_two {a b : Char} (ha : isHex a = true) (hb : isHex b = true) (t : List Char) :
    scanItem (a :: b :: t) =
      some (UInt32.ofNat (16 * (hexVal a).getD 0 + (hexVal b).getD 0)) := by
  obtain ⟨d, hd⟩ := isHex_iff.mp ha
  obtain ⟨e, he⟩ := isHex_iff.mp hb
  simp [scanItem, hd, he]

/-- A number is read exactly at an item. -/
theorem scanItem_isSome_iff (t : List Char) : (scanItem t).isSome = true ↔ Item t := by
  constructor
  · intro h
    match t with
    | [] => cases h
    | [a] =>
        cases ha : hexVal a with
        | none => simp [scanItem, ha] at h
        | some d => exact .one (isHex_iff.mpr ⟨d, ha⟩) [] (by simp)
    | a :: b :: t =>
        cases ha : hexVal a with
        | none =>
            cases hb : hexVal b with
            | none => simp [scanItem, ha, hb] at h
            | some e =>
                have hsign : a = '+' ∨ a = '-' := by
                  by_contra hnot
                  rw [not_or] at hnot
                  simp [scanItem, ha, hb, hnot.1, hnot.2] at h
                exact .signed hsign (isHex_iff.mpr ⟨e, hb⟩) t
        | some d =>
            have hdigit : isHex a = true := isHex_iff.mpr ⟨d, ha⟩
            cases hb : hexVal b with
            | some e => exact .two hdigit (isHex_iff.mpr ⟨e, hb⟩) t
            | none =>
                refine .one hdigit (b :: t) ?_
                intro c hc
                cases hc
                refine ⟨by simp [isHex, hb], ?_⟩
                intro hzero
                rw [scanItem] at h
                simp only [ha, List.head?_cons, Option.bind_some, hb, Option.some.injEq] at h
                rw [if_pos hzero] at h
                cases h
  · intro h
    cases h with
    | two ha hb t => simp [scanItem_two ha hb]
    | one ha t hnext =>
        rename_i a
        obtain ⟨d, hd⟩ := isHex_iff.mp ha
        cases t with
        | nil => simp [scanItem, hd]
        | cons b t =>
            obtain ⟨hb, hnot⟩ := hnext b rfl
            simp [scanItem, hd, hexVal_eq_none hb, hnot]
    | signed ha hb t =>
        obtain ⟨e, he⟩ := isHex_iff.mp hb
        rcases ha with rfl | rfl
        · simp [scanItem, he, hexVal_eq_none (show isHex '+' = false by decide)]
        · simp [scanItem, he, hexVal_eq_none (show isHex '-' = false by decide)]

/-- An item does not begin with white space. -/
theorem Item.dropWhile_isspace {t : List Char} (h : Item t) : t.dropWhile isspace = t := by
  cases h with
  | two ha hb t => exact List.dropWhile_cons_of_neg (by simp [isspace_of_isHex ha])
  | one ha t => exact List.dropWhile_cons_of_neg (by simp [isspace_of_isHex ha])
  | signed ha hb t => rcases ha with rfl | rfl <;> rfl

/-- `%2x` reads a number exactly where white space leads to an item. -/
theorem sscanf2x_isSome_iff (s : List Char) :
    (sscanf2x s).isSome = true ↔
      ∃ ws t, s = ws ++ t ∧ (∀ c ∈ ws, isspace c = true) ∧ Item t := by
  rw [sscanf2x, scanItem_isSome_iff]
  constructor
  · intro h
    exact ⟨s.takeWhile isspace, s.dropWhile isspace, List.takeWhile_append_dropWhile.symm,
      fun c hc => List.mem_takeWhile_imp hc, h⟩
  · rintro ⟨ws, t, rfl, hws, h⟩
    rw [List.dropWhile_append_of_pos hws, h.dropWhile_isspace]
    exact h

/-- Two digits are read as their number. -/
theorem sscanf2x_two {a b : Char} (ha : isHex a = true) (hb : isHex b = true) (t : List Char) :
    sscanf2x (a :: b :: t) =
      some (UInt32.ofNat (16 * (hexVal a).getD 0 + (hexVal b).getD 0)) := by
  rw [sscanf2x, (Item.two ha hb t).dropWhile_isspace, scanItem_two ha hb]

end GsUsb.Tools
