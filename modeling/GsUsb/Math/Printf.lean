/-
# Numbers as text

The conversions of `printf` for natural numbers, and reading them back.  A number is read up to the
first character that cannot belong to it.
-/

import Mathlib.Data.List.Basic
import GsUsb.Math.Hex

namespace GsUsb.Math

/-- `%u` -/
def decimal (n : ℕ) : List Char := Nat.toDigits 10 n

/-- `%X` -/
def upperHex (n : ℕ) : List Char := (Nat.toDigits 16 n).map Char.toUpper

/-- `%0*X` with this width. -/
def paddedHex (width n : ℕ) : List Char := (upperHex n).leftpad width '0'

/-- A number of microseconds in seconds, with six decimals. -/
def seconds (t : ℕ) : List Char :=
  decimal (t / 10 ^ 6) ++ '.' :: (decimal (t % 10 ^ 6)).leftpad 6 '0'

/-- `%*.6f` with this width. -/
def paddedSeconds (width t : ℕ) : List Char := (seconds t).leftpad width ' '

/-- The same for a number that may be negative. -/
def signedSeconds (t : ℤ) : List Char :=
  if t < 0 then '-' :: seconds t.natAbs else seconds t.natAbs

/-- `%*.6f` of such a number. -/
def paddedSignedSeconds (width : ℕ) (t : ℤ) : List Char := (signedSeconds t).leftpad width ' '

/-- Reading a part of a text that ends with the last character of a kind. -/
def readWhile {α : Type} (p : Char → Bool) (value : List Char → α) (s : List Char) :
    α × List Char :=
  (value (s.takeWhile p), s.dropWhile p)

def readDecimal : List Char → ℕ × List Char :=
  readWhile Char.isDigit fun ds => Nat.ofDigitChars 10 ds 0

/-- A hexadecimal number, and how many digits it has. -/
def readHex : List Char → (ℕ × ℕ) × List Char :=
  readWhile isHex fun ds => (hexNumber ds, ds.length)

def readSeconds (s : List Char) : ℕ × List Char :=
  let (whole, s) := readDecimal (s.dropWhile (· = ' '))
  let (decimals, s) := readDecimal (s.drop 1)
  (whole * 10 ^ 6 + decimals, s)

/-! ## What is read is what was written -/

section RoundTrip

variable {rest : List Char} {width n : ℕ}

/-- The first character, if there is one, is of another kind. -/
def EndsBefore (p : Char → Bool) (rest : List Char) : Prop := ∀ c ∈ rest.head?, p c = false

theorem endsBefore_cons {p : Char → Bool} {c : Char} (hc : p c = false) (rest : List Char) :
    EndsBefore p (c :: rest) := by
  intro d hd
  cases hd
  exact hc

theorem readWhile_append {α : Type} {p : Char → Bool} {value : List Char → α} {ds : List Char}
    (hds : ∀ c ∈ ds, p c = true) (hrest : EndsBefore p rest) :
    readWhile p value (ds ++ rest) = (value ds, rest) := by
  have hnone : rest.takeWhile p = [] ∧ rest.dropWhile p = rest := by
    cases rest with
    | nil => exact ⟨rfl, rfl⟩
    | cons c rest =>
        have hc := hrest c rfl
        simp [hc]
  rw [readWhile, List.takeWhile_append_of_pos hds, List.dropWhile_append_of_pos hds, hnone.1,
    hnone.2, List.append_nil]

theorem isDigit_of_mem_decimal {c : Char} (hc : c ∈ decimal n) : c.isDigit = true :=
  Nat.isDigit_of_mem_toDigits (by decide) (by decide) hc

theorem mem_leftpad {α : Type} {c a : α} {l : List α} (hc : c ∈ l.leftpad width a) :
    c = a ∨ c ∈ l := by
  rw [List.leftpad, List.mem_append, List.mem_replicate] at hc
  exact hc.imp_left And.right

/-- Zeros in front of a number do not change it. -/
theorem readDecimal_leftpad (hrest : EndsBefore Char.isDigit rest) :
    readDecimal ((decimal n).leftpad width '0' ++ rest) = (n, rest) := by
  have hdigits : ∀ c ∈ (decimal n).leftpad width '0', c.isDigit = true := by
    intro c hc
    rcases mem_leftpad hc with rfl | hc
    · rfl
    · exact isDigit_of_mem_decimal hc
  rw [readDecimal, readWhile_append hdigits hrest, List.leftpad, Nat.ofDigitChars_append,
    Nat.ofDigitChars_replicate_zero, Nat.mul_zero, decimal, Nat.ofDigitChars_ten_toDigits]

theorem readDecimal_decimal (hrest : EndsBefore Char.isDigit rest) :
    readDecimal (decimal n ++ rest) = (n, rest) := by
  have hpad : (decimal n).leftpad 0 '0' = decimal n := by
    rw [List.leftpad, Nat.zero_sub]
    rfl
  rw [← hpad]
  exact readDecimal_leftpad hrest

/-- A number of seconds never begins with a blank. -/
theorem readSeconds_paddedSeconds (hrest : EndsBefore Char.isDigit rest) :
    readSeconds (paddedSeconds width n ++ rest) = (n, rest) := by
  have hblank : (paddedSeconds width n ++ rest).dropWhile (· = ' ') = seconds n ++ rest := by
    have hne : decimal (n / 10 ^ 6) ≠ [] := Nat.toDigits_ne_nil
    obtain ⟨c, cs, hcs⟩ := List.exists_cons_of_ne_nil hne
    have hdigit : c.isDigit = true := isDigit_of_mem_decimal (hcs ▸ List.mem_cons_self)
    have hc : decide (c = ' ') = false := by
      rw [decide_eq_false_iff_not]
      rintro rfl
      exact absurd hdigit (by decide)
    rw [paddedSeconds, List.leftpad, List.append_assoc, List.dropWhile_append_of_pos]
    · rw [seconds, hcs, List.cons_append, List.cons_append,
        List.dropWhile_cons_of_neg (Bool.not_eq_true _ ▸ hc)]
    · intro d hd
      rw [List.mem_replicate] at hd
      exact decide_eq_true hd.2
  have hpoint : EndsBefore Char.isDigit ('.' :: ((decimal (n % 10 ^ 6)).leftpad 6 '0' ++ rest)) :=
    endsBefore_cons (by decide) _
  rw [readSeconds, hblank, seconds, List.append_assoc, List.cons_append,
    readDecimal_decimal hpoint]
  dsimp only
  rw [List.drop_one, List.tail_cons, readDecimal_leftpad hrest, Nat.div_add_mod']

/-- What a text of seconds is made of. -/
theorem mem_paddedSeconds {c : Char} {t : ℕ} (hc : c ∈ paddedSeconds width t) :
    c.isDigit = true ∨ c = '.' ∨ c = ' ' := by
  rcases mem_leftpad hc with rfl | hc
  · exact .inr (.inr rfl)
  · rcases List.mem_append.mp hc with hc | hc
    · exact .inl (isDigit_of_mem_decimal hc)
    · rcases List.mem_cons.mp hc with rfl | hc
      · exact .inr (.inl rfl)
      · rcases mem_leftpad hc with rfl | hc
        · exact .inl rfl
        · exact .inl (isDigit_of_mem_decimal hc)

/-- Characters that are none of these. -/
theorem notMem_paddedSeconds {c : Char} (hc : c.isDigit = false ∧ c ≠ '.' ∧ c ≠ ' ')
    (width t : ℕ) : c ∉ paddedSeconds width t := by
  intro h
  rcases mem_paddedSeconds h with h | h | h
  · exact absurd (hc.1.symm.trans h) (by decide)
  · exact hc.2.1 h
  · exact hc.2.2 h

theorem notMem_paddedSignedSeconds {c : Char}
    (hc : c.isDigit = false ∧ c ≠ '.' ∧ c ≠ ' ' ∧ c ≠ '-') (width : ℕ) (t : ℤ) :
    c ∉ paddedSignedSeconds width t := by
  have hseconds (n : ℕ) : c ∉ seconds n := fun h =>
    notMem_paddedSeconds ⟨hc.1, hc.2.1, hc.2.2.1⟩ 0 n (List.mem_append_right _ h)
  intro h
  rcases mem_leftpad h with h | h
  · exact hc.2.2.1 h
  · rw [signedSeconds] at h
    split_ifs at h
    · exact (List.mem_cons.mp h).elim hc.2.2.2 (hseconds _)
    · exact hseconds _ h

/-- A text that is the one of a natural number is of no other number. -/
theorem paddedSignedSeconds_eq_iff (width : ℕ) (t : ℤ) (n : ℕ) :
    paddedSignedSeconds width t = paddedSignedSeconds width n ↔ t = n := by
  constructor
  · have hnat (m : ℕ) : paddedSignedSeconds width m = paddedSeconds width m := by
      rw [paddedSignedSeconds, signedSeconds, if_neg (not_lt.mpr (Int.natCast_nonneg m))]
      rfl
    rw [hnat]
    intro heq
    by_cases hneg : t < 0
    · have hminus : '-' ∈ paddedSignedSeconds width t := by
        rw [paddedSignedSeconds, signedSeconds, if_pos hneg, List.leftpad]
        exact List.mem_append_right _ List.mem_cons_self
      exact absurd (heq ▸ hminus) (notMem_paddedSeconds (by decide) width n)
    · obtain ⟨m, rfl⟩ := Int.eq_ofNat_of_zero_le (not_lt.mp hneg)
      rw [hnat] at heq
      have hend : EndsBefore Char.isDigit [] := fun c hc => by cases hc
      have hread (k : ℕ) : readSeconds (paddedSeconds width k) = (k, []) := by
        rw [← List.append_nil (paddedSeconds width k)]
        exact readSeconds_paddedSeconds hend
      have hm := hread m
      rw [heq, hread n, Prod.mk.injEq] at hm
      rw [hm.1]
  · rintro rfl
    rfl

theorem hexVal_toUpper_digitChar : ∀ d < 16, hexVal (Nat.digitChar d).toUpper = some d := by
  decide

theorem hexNumber_concat (ds : List Char) (c : Char) :
    hexNumber (ds ++ [c]) = 16 * hexNumber ds + (hexVal c).getD 0 := by
  rw [hexNumber, List.foldl_append]
  rfl

/-- The digits have the value, and they are digits. -/
theorem upperHex_spec (n : ℕ) : hexNumber (upperHex n) = n ∧ ∀ c ∈ upperHex n, isHex c = true := by
  induction n using Nat.strong_induction_on with
  | h n ih =>
      rw [upperHex, Nat.toDigits_eq_if (by decide)]
      split_ifs with hlt
      · have hval := hexVal_toUpper_digitChar n hlt
        constructor
        · simp [hexNumber, hval]
        · intro c hc
          rw [List.map_singleton, List.mem_singleton] at hc
          rw [hc, isHex, hval]
          rfl
      · have hval := hexVal_toUpper_digitChar (n % 16) (Nat.mod_lt _ (by decide))
        obtain ⟨hvalue, hdigits⟩ := ih (n / 16) (Nat.div_lt_self (by omega) (by decide))
        rw [List.map_append, List.map_singleton, ← upperHex]
        constructor
        · rw [hexNumber_concat, hvalue, hval, Option.getD_some]
          exact Nat.div_add_mod n 16
        · intro c hc
          rcases List.mem_append.mp hc with hc | hc
          · exact hdigits c hc
          · rw [List.mem_singleton] at hc
            rw [hc, isHex, hval]
            rfl

theorem hexNumber_replicate_zero (k : ℕ) (ds : List Char) :
    hexNumber (List.replicate k '0' ++ ds) = hexNumber ds := by
  induction k with
  | zero => rfl
  | succ k ih => exact ih

/-- The digits fill the width, if the number is not too large for it. -/
theorem length_paddedHex (hwidth : 0 < width) (hn : n < 16 ^ width) :
    (paddedHex width n).length = width := by
  have hlen : (upperHex n).length ≤ width := by
    rw [upperHex, List.length_map]
    exact (Nat.length_toDigits_le_iff (by decide) hwidth).mpr hn
  rw [paddedHex, List.leftpad, List.length_append, List.length_replicate, Nat.sub_add_cancel hlen]

theorem isHex_of_mem_paddedHex {c : Char} (hc : c ∈ paddedHex width n) : isHex c = true := by
  rcases mem_leftpad hc with rfl | hc
  · rfl
  · exact (upperHex_spec n).2 c hc

theorem readHex_paddedHex (hwidth : 0 < width) (hn : n < 16 ^ width)
    (hrest : EndsBefore isHex rest) :
    readHex (paddedHex width n ++ rest) = ((n, width), rest) := by
  rw [readHex, readWhile_append (fun c hc => isHex_of_mem_paddedHex hc) hrest,
    length_paddedHex hwidth hn, paddedHex, List.leftpad, hexNumber_replicate_zero,
    (upperHex_spec n).1]

end RoundTrip

/-- Bytes with two digits each, and a blank after each. -/
def spacedHex (bs : List UInt8) : List Char := bs.flatMap fun b => paddedHex 2 b.toNat ++ [' ']

/-- Bytes with two digits each, and a blank between them. -/
def joinedHex (bs : List UInt8) : List Char :=
  [' '].intercalate (bs.map fun b => paddedHex 2 b.toNat)

def readSpacedHex : List Char → List UInt8
  | a :: b :: _ :: s =>
    UInt8.ofNat (16 * (hexVal a).getD 0 + (hexVal b).getD 0) :: readSpacedHex s
  | _ => []

theorem readSpacedHex_spacedHex (bs : List UInt8) : readSpacedHex (spacedHex bs) = bs := by
  induction bs with
  | nil => rfl
  | cons b bs ih =>
      have hlen : (paddedHex 2 b.toNat).length = 2 := length_paddedHex (by decide) b.toNat_lt
      obtain ⟨x, y, hxy⟩ := List.length_eq_two.mp hlen
      have hvalue : hexNumber (paddedHex 2 b.toNat) = b.toNat := by
        rw [paddedHex, List.leftpad, hexNumber_replicate_zero, (upperHex_spec _).1]
      rw [hxy] at hvalue
      have hbyte : 16 * (hexVal x).getD 0 + (hexVal y).getD 0 = b.toNat := by
        rw [← hvalue, hexNumber, List.foldl_cons, List.foldl_cons, List.foldl_nil, Nat.mul_zero,
          Nat.zero_add]
      have hcons : spacedHex (b :: bs) = x :: y :: ' ' :: spacedHex bs := by
        rw [spacedHex, List.flatMap_cons, hxy]
        rfl
      rw [hcons, readSpacedHex, ih, hbyte, UInt8.ofNat_toNat]

/-- What a text of bytes is made of. -/
theorem mem_joinedHex {c : Char} {bs : List UInt8} (hc : c ∈ joinedHex bs) :
    c = ' ' ∨ isHex c = true := by
  induction bs with
  | nil => cases hc
  | cons b bs ih =>
      rw [joinedHex, List.map_cons] at hc
      cases bs with
      | nil =>
          rw [List.map_nil, List.intercalate_singleton] at hc
          exact .inr (isHex_of_mem_paddedHex hc)
      | cons b' bs =>
          rw [List.map_cons, List.intercalate_cons_cons, List.mem_append, List.mem_append,
            List.mem_singleton] at hc
          rcases hc with (hc | hc) | hc
          · exact .inr (isHex_of_mem_paddedHex hc)
          · exact .inl hc
          · exact ih hc

/-- There is no newline in what a conversion writes. -/
theorem newline_notMem_decimal (n : ℕ) : '\n' ∉ decimal n := fun h =>
  absurd (isDigit_of_mem_decimal h) (by decide)

theorem newline_notMem_paddedHex (width n : ℕ) : '\n' ∉ paddedHex width n := fun h =>
  absurd (isHex_of_mem_paddedHex h) (by decide)

theorem newline_notMem_paddedSeconds (width t : ℕ) : '\n' ∉ paddedSeconds width t :=
  notMem_paddedSeconds (by decide) width t

theorem newline_notMem_spacedHex (bs : List UInt8) : '\n' ∉ spacedHex bs := by
  intro h
  obtain ⟨b, -, h⟩ := List.mem_flatMap.mp h
  rcases List.mem_append.mp h with h | h
  · exact newline_notMem_paddedHex _ _ h
  · cases List.mem_singleton.mp h

/-- The lines of a text, of which each ends with a newline. -/
def textLines : List Char → List (List Char)
  | [] => []
  | c :: s =>
    if c = '\n' then [] :: textLines s
    else
      match textLines s with
      | [] => [[c]]
      | line :: lines => (c :: line) :: lines

theorem textLines_append {line : List Char} (hline : '\n' ∉ line) (s : List Char) :
    textLines (line ++ '\n' :: s) = line :: textLines s := by
  induction line with
  | nil => rw [List.nil_append, textLines, if_pos rfl]
  | cons c line ih =>
      rw [List.mem_cons, not_or] at hline
      rw [List.cons_append, textLines, if_neg (Ne.symm hline.1), ih hline.2]

end GsUsb.Math
