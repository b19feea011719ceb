/-
# The frame syntax of `gsusb_send`

`parse_frame` and the grammar its comment gives.  The parser leaves digits to `strtoul` and
`sscanf`, which take more than digits, and stops reading after an `R`: it accepts every string
of the grammar with the frame it stands for, and other strings besides.
-/

import GsUsb.Driver.Proto
import GsUsb.Tools.Libc

namespace GsUsb.Tools

open GsUsb.Driver GsUsb.Math

/-- `gsusb_parse_hex_u32`. -/
def gsusbParseHexU32 (u : Ulong) (s : List Char) : Option UInt32 :=
  let (v, last) := strtoul16 u s
  if s = [] ∨ last ≠ [] then none else some (UInt32.ofNat v)

/-- The part of `parse_frame` that reads the text before the `#`: the `can_id` it assigns. -/
def parseId (u : Ulong) (idbuf : List Char) : Option UInt32 :=
  if idbuf.length = 0 ∨ idbuf.length > 8 then none
  else
    match gsusbParseHexU32 u idbuf with
    | none => none
    | some id =>
      if idbuf.length > 3 then
        if id > gsusbEffMask then none else some (id ||| gsusbEffFlag)
      else
        if id > gsusbSffMask then none else some id

/-- The loop over the bytes: `rest` is where the pair with index `i` begins, `nbytes` how many
are left. -/
def scanBytes : ℕ → List Char → Option Bytes
  | 0, _ => some []
  | nbytes + 1, rest =>
    match sscanf2x rest with
    | none => none
    | some byte => (scanBytes nbytes (rest.drop 2)).map (byte.toUInt8 :: ·)

/-- The data of a frame with room for `room` bytes. -/
def parseData (rest : List Char) (room : ℕ) : Option Bytes :=
  if rest.length % 2 ≠ 0 then none
  else if rest.length / 2 > room then none
  else scanBytes (rest.length / 2) rest

/-- The frame flags of a `flags` digit. -/
def digitFlags (flagsval : ℕ) : UInt8 :=
  gsusbFrameFd ||| (if flagsval &&& 1 ≠ 0 then gsusbFrameBrs else 0) |||
    (if flagsval &&& 2 ≠ 0 then gsusbFrameEsi else 0)

/-- The part of `parse_frame` that reads the text after the first `#`. -/
def parseBody (canId : UInt32) : List Char → Option GsusbFrame
  | '#' :: rest =>
    match rest with
    | [] => none
    | c :: rest =>
      match hexVal c with
      | none => none
      | some flagsval =>
        (parseData rest gsusbMaxDlen).map (filledFrame canId (digitFlags flagsval))
  | rest =>
    if rest.head? = some 'R' ∨ rest.head? = some 'r' then
      some (filledFrame (canId ||| gsusbRtrFlag) 0 [])
    else (parseData rest 8).map (filledFrame canId 0)

/-- `parse_frame`: the frame it fills in where it returns 0. -/
def parseFrame (u : Ulong) (s : List Char) : Option GsusbFrame :=
  match strchr s '#' with
  | none => none
  | some hash =>
    match parseId u (s.take (s.length - hash.length)) with
    | none => none
    | some canId => parseBody canId (hash.drop 1)

/-! ## The grammar -/

/-- The largest id that is written with so many digits. -/
def idMask (digits : ℕ) : UInt32 := if digits > 3 then gsusbEffMask else gsusbSffMask

/-- One to eight digits, with a value in the range their number allows. -/
structure IsId (id : List Char) : Prop where
  ne_nil : id ≠ []
  length_le : id.length ≤ 8
  digits : ∀ c ∈ id, isHex c = true
  value_le : hexNumber id ≤ (idMask id.length).toNat

/-- The `can_id` that an id stands for. -/
def idWord (id : List Char) : UInt32 :=
  UInt32.ofNat (hexNumber id) ||| if id.length > 3 then gsusbEffFlag else 0

/-- Pairs of digits, at most `room` of them. -/
structure IsData (ds : List Char) (room : ℕ) : Prop where
  digits : ∀ c ∈ ds, isHex c = true
  even : ds.length % 2 = 0
  length_le : ds.length / 2 ≤ room

/-- The grammar, and the frame each of its strings stands for. -/
inductive Denotes : List Char → GsusbFrame → Prop
  | remote {id : List Char} {c : Char} (hid : IsId id) (hc : c = 'R' ∨ c = 'r') :
      Denotes (id ++ '#' :: [c]) (filledFrame (idWord id ||| gsusbRtrFlag) 0 [])
  | classic {id ds : List Char} (hid : IsId id) (hds : IsData ds 8) :
      Denotes (id ++ '#' :: ds) (filledFrame (idWord id) 0 (hexBytes ds))
  | fd {id ds : List Char} {c : Char} {flags : ℕ} (hid : IsId id) (hc : hexVal c = some flags)
      (hds : IsData ds gsusbMaxDlen) :
      Denotes (id ++ '#' :: '#' :: c :: ds)
        (filledFrame (idWord id) (digitFlags flags) (hexBytes ds))

/-- An id as `strtoul` takes it: white space, a sign and `0x` count towards its length, and a
minus passes only before a zero. -/
structure ToleratedId (id : List Char) : Prop where
  hash_notMem : '#' ∉ id
  length_le : id.length ≤ 8
  numeral : ∃ minus ds, Numeral id minus ds ∧ hexNumber ds ≤ (idMask id.length).toNat ∧
    (minus = true → hexNumber ds = 0)

/-- Data as `sscanf` takes it: at each pair it finds an item, maybe behind white space. -/
structure ToleratedData (rest : List Char) (room : ℕ) : Prop where
  even : rest.length % 2 = 0
  length_le : rest.length / 2 ≤ room
  pairs : ∀ i < rest.length / 2, ∃ ws t, rest.drop (2 * i) = ws ++ t ∧
    (∀ c ∈ ws, isspace c = true) ∧ Item t

/-- The text after the first `#`; anything may follow an `R`. -/
inductive ToleratedBody : List Char → Prop
  | remote {c : Char} (hc : c = 'R' ∨ c = 'r') (rest : List Char) : ToleratedBody (c :: rest)
  | classic {rest : List Char} (hhead : ∀ c ∈ rest.head?, c ≠ '#' ∧ c ≠ 'R' ∧ c ≠ 'r')
      (hrest : ToleratedData rest 8) : ToleratedBody rest
  | fd {c : Char} {rest : List Char} (hc : isHex c = true)
      (hrest : ToleratedData rest gsusbMaxDlen) : ToleratedBody ('#' :: c :: rest)

/-- The strings that the parser tolerates. -/
def Tolerated (s : List Char) : Prop :=
  ∃ id body, s = id ++ '#' :: body ∧ ToleratedId id ∧ ToleratedBody body

/-- The strings with nothing but digits where digits belong, and nothing after an `R`. -/
def Clean (s : List Char) : Prop :=
  ∃ id body, s = id ++ '#' :: body ∧ (∀ c ∈ id, isHex c = true) ∧
    (body = ['R'] ∨ body = ['r'] ∨ (∀ c ∈ body, isHex c = true) ∨
      ∃ rest, body = '#' :: rest ∧ ∀ c ∈ rest, isHex c = true)

/-- The two parts of a string with a `#`. -/
theorem parseFrame_append (u : Ulong) {id : List Char} (hid : '#' ∉ id) (body : List Char) :
    parseFrame u (id ++ '#' :: body) = (parseId u id).bind fun canId => parseBody canId body := by
  have htake : (id ++ '#' :: body).take ((id ++ '#' :: body).length - ('#' :: body).length) =
      id := by
    rw [List.length_append, Nat.add_sub_cancel, List.take_left]
  rw [parseFrame, strchr_append hid]
  dsimp only
  rw [htake]
  cases parseId u id with
  | none => rfl
  | some canId => rfl

/-- What is left of the value of a short numeral in 32 bits. -/
theorem toNat_ofNat_ulongValue (u : Ulong) (minus : Bool) {n : ℕ} (hn : n < 2 ^ 32) :
    (UInt32.ofNat (ulongValue u minus n)).toNat =
      if minus then (2 ^ 32 - n) % 2 ^ 32 else n := by
  have hpow : 2 ^ u.width = 2 ^ 32 * 2 ^ (u.width - 32) := by
    rw [← pow_add, Nat.add_sub_cancel' u.width_ge]
  have hpos : 1 ≤ 2 ^ (u.width - 32) := Nat.one_le_two_pow
  have hsmall : ¬ n ≥ 2 ^ u.width := by
    rw [hpow]
    omega
  rw [ulongValue, if_neg hsmall, UInt32.toNat_ofNat']
  cases minus with
  | false =>
      rw [if_neg Bool.false_ne_true, if_neg Bool.false_ne_true]
      exact Nat.mod_eq_of_lt hn
  | true =>
      rw [if_pos rfl, if_pos rfl, Nat.mod_mod_of_dvd _ ⟨2 ^ (u.width - 32), hpow⟩, hpow]
      omega

/-- The value of a numeral of at most eight characters. -/
theorem gsusbParseHexU32_of_numeral (u : Ulong) {id ds : List Char} {minus : Bool}
    (h : Numeral id minus ds) :
    gsusbParseHexU32 u id = some (UInt32.ofNat (ulongValue u minus (hexNumber ds))) := by
  have hne : id ≠ [] := by
    cases h with
    | mk _ _ _ hne _ => simp [hne]
  simp [gsusbParseHexU32, strtoul16_of_numeral u h, hne]

/-- A minus takes a character from the digits of a numeral. -/
theorem Numeral.length_le {id ds : List Char} {minus : Bool} (h : Numeral id minus ds) :
    ds.length + (if minus then 1 else 0) ≤ id.length := by
  cases h with
  | mk _ hsign _ _ _ =>
      cases hsign <;> simp <;> omega

/-- `parse_frame`'s two range checks on ids, as one. -/
theorem parseId_of_hexU32 (u : Ulong) {id : List Char} {v : UInt32} (hne : id ≠ [])
    (hlen : id.length ≤ 8) (hv : gsusbParseHexU32 u id = some v) :
    parseId u id = if v.toNat ≤ (idMask id.length).toNat
      then some (v ||| if id.length > 3 then gsusbEffFlag else 0) else none := by
  have hpos := List.length_pos_iff.mpr hne
  rw [parseId, if_neg (by omega), hv, idMask]
  by_cases heff : id.length > 3
  · simp only [if_pos heff, gt_iff_lt, UInt32.lt_iff_toNat_lt]
    by_cases hle : v.toNat ≤ gsusbEffMask.toNat
    · rw [if_neg (not_lt.mpr hle), if_pos hle]
    · rw [if_pos (not_le.mp hle), if_neg hle]
  · simp only [if_neg heff, gt_iff_lt, UInt32.lt_iff_toNat_lt, UInt32.or_zero]
    by_cases hle : v.toNat ≤ gsusbSffMask.toNat
    · rw [if_neg (not_lt.mpr hle), if_pos hle]
    · rw [if_pos (not_le.mp hle), if_neg hle]

/-- The digits of a numeral of at most eight characters are a 32-bit number, and behind a minus
one of 28 bits. -/
theorem Numeral.hexNumber_lt {id ds : List Char} {minus : Bool} (h : Numeral id minus ds)
    (hlen : id.length ≤ 8) : hexNumber ds < if minus then 2 ^ 28 else 2 ^ 32 := by
  have hle := h.length_le
  have hlt := GsUsb.Math.hexNumber_lt ds
  cases minus with
  | false =>
      have hpow : 16 ^ ds.length ≤ 16 ^ 8 :=
        Nat.pow_le_pow_right (by decide) (by simpa using hle.trans hlen)
      exact hlt.trans_le hpow
  | true =>
      have hpow : 16 ^ ds.length ≤ 16 ^ 7 :=
        Nat.pow_le_pow_right (by decide) (by simp only [if_true] at hle; omega)
      exact hlt.trans_le hpow

theorem idMask_le (digits : ℕ) : (idMask digits).toNat ≤ 2 ^ 29 - 1 := by
  unfold idMask
  split <;> decide

/-- The range check on the value of a numeral: a minus leaves only the zero in range. -/
theorem Numeral.inRange_iff (u : Ulong) {id ds : List Char} {minus : Bool}
    (h : Numeral id minus ds) (hlen : id.length ≤ 8) :
    (UInt32.ofNat (ulongValue u minus (hexNumber ds))).toNat ≤ (idMask id.length).toNat ↔
      hexNumber ds ≤ (idMask id.length).toNat ∧ (minus = true → hexNumber ds = 0) := by
  have hlt := h.hexNumber_lt hlen
  have hmask := idMask_le id.length
  cases minus with
  | false =>
      rw [toNat_ofNat_ulongValue u false hlt]
      simp
  | true =>
      simp only [if_true] at hlt
      rw [toNat_ofNat_ulongValue u true (by omega)]
      simp only [if_true, true_implies]
      omega

/-- **The ids that the parser takes.** -/
theorem parseId_isSome_iff (u : Ulong) {id : List Char} (hhash : '#' ∉ id) :
    (parseId u id).isSome = true ↔ ToleratedId id := by
  constructor
  · intro h
    have hlen : id ≠ [] ∧ id.length ≤ 8 := by
      by_contra hnot
      have hout : id.length = 0 ∨ id.length > 8 := by
        rw [List.length_eq_zero_iff]
        by_contra hin
        rw [not_or, not_lt] at hin
        exact hnot hin
      rw [parseId, if_pos hout] at h
      cases h
    have hend : (strtoul16 u id).2 = [] := by
      by_contra hne
      rw [parseId] at h
      split at h
      · cases h
      · simp [gsusbParseHexU32, hne] at h
    obtain ⟨minus, ds, hnumeral⟩ := exists_numeral u hlen.1 hend
    rw [parseId_of_hexU32 u hlen.1 hlen.2 (gsusbParseHexU32_of_numeral u hnumeral)] at h
    split at h
    · rename_i hrange
      exact ⟨hhash, hlen.2, minus, ds, hnumeral, (hnumeral.inRange_iff u hlen.2).mp hrange⟩
    · cases h
  · rintro ⟨-, hlen, minus, ds, hnumeral, hrange⟩
    have hne : id ≠ [] := by
      cases hnumeral with
      | mk _ _ _ hne _ => simp [hne]
    rw [parseId_of_hexU32 u hne hlen (gsusbParseHexU32_of_numeral u hnumeral),
      if_pos ((hnumeral.inRange_iff u hlen).mpr hrange)]
    rfl

/-- An id is a numeral, of its own digits. -/
theorem IsId.numeral {id : List Char} (h : IsId id) : Numeral id false id := by
  have hnumeral : Numeral ([] ++ ([] ++ ([] ++ id))) false id :=
    .mk nofun .none (.inl rfl) h.ne_nil h.digits
  exact hnumeral

/-- An id is read as the word it stands for. -/
theorem IsId.parseId_eq (u : Ulong) {id : List Char} (h : IsId id) :
    parseId u id = some (idWord id) := by
  have hrange := (h.numeral.inRange_iff u h.length_le).mpr ⟨h.value_le, nofun⟩
  have hlt : hexNumber id < 2 ^ 32 := h.numeral.hexNumber_lt h.length_le
  have hvalue : UInt32.ofNat (ulongValue u false (hexNumber id)) = UInt32.ofNat (hexNumber id) := by
    rw [← UInt32.toNat_inj, toNat_ofNat_ulongValue u false hlt, UInt32.toNat_ofNat',
      Nat.mod_eq_of_lt hlt]
    rfl
  rw [parseId_of_hexU32 u h.ne_nil h.length_le (gsusbParseHexU32_of_numeral u h.numeral),
    if_pos hrange, hvalue, idWord]

theorem IsId.hash_notMem {id : List Char} (h : IsId id) : '#' ∉ id :=
  fun hmem => absurd (h.digits '#' hmem) (by decide)

/-- A tolerated id of digits only is an id. -/
theorem ToleratedId.isId {id : List Char} (h : ToleratedId id)
    (hdigits : ∀ c ∈ id, isHex c = true) : IsId id := by
  obtain ⟨minus, ds, hnumeral, hle, -⟩ := h.numeral
  suffices hsame : id = ds ∧ ds ≠ [] by
    exact ⟨hsame.1 ▸ hsame.2, h.length_le, hdigits, hsame.1 ▸ hle⟩
  cases hnumeral with
  | mk hws hsign hpre hne hds =>
      rename_i ws sign pre
      have hwsnil : ws = [] := by
        rw [List.eq_nil_iff_forall_not_mem]
        intro c hc
        have hspace := isspace_of_isHex (hdigits c (by simp [hc]))
        rw [hws c hc] at hspace
        cases hspace
      have hsignnil : sign = [] := by
        cases hsign with
        | none => rfl
        | plus => exact absurd (hdigits '+' (by simp)) (by decide)
        | minus => exact absurd (hdigits '-' (by simp)) (by decide)
      have hprenil : pre = [] := by
        rcases hpre with rfl | rfl | rfl
        · rfl
        · exact absurd (hdigits 'x' (by simp)) (by decide)
        · exact absurd (hdigits 'X' (by simp)) (by decide)
      subst hwsnil hsignnil hprenil
      exact ⟨rfl, hne⟩

/-- The loop goes through if there is an item at each pair. -/
theorem scanBytes_isSome_iff (nbytes : ℕ) (rest : List Char) :
    (scanBytes nbytes rest).isSome = true ↔
      ∀ i < nbytes, (sscanf2x (rest.drop (2 * i))).isSome = true := by
  induction nbytes generalizing rest with
  | zero => simp [scanBytes]
  | succ nbytes ih =>
      have hfirst : (scanBytes (nbytes + 1) rest).isSome = true ↔
          (sscanf2x rest).isSome = true ∧ (scanBytes nbytes (rest.drop 2)).isSome = true := by
        cases h : sscanf2x rest with
        | none => simp [scanBytes, h]
        | some byte => simp [scanBytes, h]
      rw [hfirst, ih]
      constructor
      · rintro ⟨hzero, hrest⟩ i hi
        cases i with
        | zero => simpa using hzero
        | succ i =>
            have hi' := hrest i (by omega)
            rwa [List.drop_drop, show 2 + 2 * i = 2 * (i + 1) by ring] at hi'
      · intro h
        refine ⟨by simpa using h 0 (by omega), ?_⟩
        intro i hi
        rw [List.drop_drop, show 2 + 2 * i = 2 * (i + 1) by ring]
        exact h (i + 1) (by omega)

/-- **The data that the parser takes.** -/
theorem parseData_isSome_iff (rest : List Char) (room : ℕ) :
    (parseData rest room).isSome = true ↔ ToleratedData rest room := by
  by_cases heven : rest.length % 2 = 0
  · by_cases hroom : rest.length / 2 ≤ room
    · rw [parseData, if_neg (not_not.mpr heven), if_neg (not_lt.mpr hroom), scanBytes_isSome_iff]
      simp only [sscanf2x_isSome_iff]
      exact ⟨fun h => ⟨heven, hroom, h⟩, fun h => h.pairs⟩
    · rw [parseData, if_neg (not_not.mpr heven), if_pos (not_le.mp hroom)]
      exact iff_of_false Bool.false_ne_true fun h => hroom h.length_le
  · rw [parseData, if_pos heven]
    exact iff_of_false Bool.false_ne_true fun h => heven h.even

/-- Pairs of digits are read as their bytes. -/
theorem scanBytes_of_digits (ds : List Char) (hdigits : ∀ c ∈ ds, isHex c = true) :
    scanBytes (ds.length / 2) ds = some (hexBytes ds) := by
  fun_induction hexBytes ds with
  | case1 a b ds ih =>
      have ha := hdigits a (by simp)
      have hb := hdigits b (by simp)
      have hrest := ih fun c hc => hdigits c (by simp [hc])
      have hcount : (a :: b :: ds).length / 2 = ds.length / 2 + 1 := by
        simp only [List.length_cons]
        omega
      rw [hcount, scanBytes, sscanf2x_two ha hb]
      simp [hrest]
  | case2 ds h =>
      have hzero : ds.length / 2 = 0 := by
        rcases ds with _ | ⟨a, _ | ⟨b, ds⟩⟩
        · rfl
        · simp
        · exact absurd rfl (h a b ds)
      rw [hzero, scanBytes]

theorem IsData.parseData_eq {ds : List Char} {room : ℕ} (h : IsData ds room) :
    parseData ds room = some (hexBytes ds) := by
  rw [parseData, if_neg (not_not.mpr h.even), if_neg (not_lt.mpr h.length_le),
    scanBytes_of_digits ds h.digits]

/-- Tolerated data of digits only is pairs of digits. -/
theorem ToleratedData.isData {ds : List Char} {room : ℕ} (h : ToleratedData ds room)
    (hdigits : ∀ c ∈ ds, isHex c = true) : IsData ds room :=
  ⟨hdigits, h.even, h.length_le⟩

/-- The text after the `#` of a string that has no second one. -/
theorem parseBody_of_ne_hash (canId : UInt32) {rest : List Char}
    (h : ∀ c ∈ rest.head?, c ≠ '#') :
    parseBody canId rest =
      if rest.head? = some 'R' ∨ rest.head? = some 'r' then
        some (filledFrame (canId ||| gsusbRtrFlag) 0 [])
      else (parseData rest 8).map (filledFrame canId 0) := by
  cases rest with
  | nil => rfl
  | cons c rest =>
      have hc : c ≠ '#' := h c rfl
      unfold parseBody
      split
      · rename_i heq
        cases heq
        exact absurd rfl hc
      · rfl

/-- **The texts after the `#` that the parser takes.** -/
theorem parseBody_isSome_iff (canId : UInt32) (body : List Char) :
    (parseBody canId body).isSome = true ↔ ToleratedBody body := by
  constructor
  · intro h
    by_cases hhash : body.head? = some '#'
    · obtain ⟨rest, rfl⟩ := List.head?_eq_some_iff.mp hhash
      match rest with
      | [] => cases h
      | c :: rest =>
          cases hc : hexVal c with
          | none => simp [parseBody, hc] at h
          | some flags =>
              simp only [parseBody, hc, Option.isSome_map] at h
              exact .fd (isHex_iff.mpr ⟨flags, hc⟩) ((parseData_isSome_iff rest _).mp h)
    · rw [parseBody_of_ne_hash canId fun c hc heq => hhash (heq ▸ hc)] at h
      by_cases hremote : body.head? = some 'R' ∨ body.head? = some 'r'
      · rcases hremote with hR | hr
        · obtain ⟨rest, rfl⟩ := List.head?_eq_some_iff.mp hR
          exact .remote (.inl rfl) rest
        · obtain ⟨rest, rfl⟩ := List.head?_eq_some_iff.mp hr
          exact .remote (.inr rfl) rest
      · rw [if_neg hremote, Option.isSome_map, parseData_isSome_iff] at h
        rw [not_or] at hremote
        refine .classic ?_ h
        intro c hc
        exact ⟨fun heq => hhash (heq ▸ hc), fun heq => hremote.1 (heq ▸ hc),
          fun heq => hremote.2 (heq ▸ hc)⟩
  · intro h
    cases h with
    | remote hc rest =>
        rename_i c
        have hne : ∀ x ∈ (c :: rest).head?, x ≠ '#' := by
          intro x hx
          cases hx
          rcases hc with rfl | rfl <;> decide
        rw [parseBody_of_ne_hash canId hne, if_pos (by simpa using hc)]
        rfl
    | classic hhead hrest =>
        have hremote : ¬ (body.head? = some 'R' ∨ body.head? = some 'r') := by
          rintro (hR | hr)
          · exact (hhead 'R' hR).2.1 rfl
          · exact (hhead 'r' hr).2.2 rfl
        rw [parseBody_of_ne_hash canId fun c hc => (hhead c hc).1, if_neg hremote,
          Option.isSome_map, parseData_isSome_iff]
        exact hrest
    | fd hc hrest =>
        obtain ⟨flags, hflags⟩ := isHex_iff.mp hc
        simp only [parseBody, hflags, Option.isSome_map]
        exact (parseData_isSome_iff _ _).mpr hrest

/-- **The strings that the parser accepts.** -/
theorem parseFrame_isSome_iff (u : Ulong) (s : List Char) :
    (parseFrame u s).isSome = true ↔ Tolerated s := by
  constructor
  · intro h
    cases hhash : strchr s '#' with
    | none => simp [parseFrame, hhash] at h
    | some found =>
        obtain ⟨id, body, rfl, hid, -⟩ := exists_of_strchr hhash
        rw [parseFrame_append u hid] at h
        cases hparse : parseId u id with
        | none => simp [hparse] at h
        | some canId =>
            rw [hparse, Option.bind_some, parseBody_isSome_iff] at h
            exact ⟨id, body, rfl, (parseId_isSome_iff u hid).mp (by simp [hparse]), h⟩
  · rintro ⟨id, body, rfl, hid, hbody⟩
    obtain ⟨canId, hcanId⟩ :=
      Option.isSome_iff_exists.mp ((parseId_isSome_iff u hid.hash_notMem).mpr hid)
    rw [parseFrame_append u hid.hash_notMem, hcanId, Option.bind_some, parseBody_isSome_iff]
    exact hbody

/-- **The grammar is accepted**, each string with the frame it stands for. -/
theorem Denotes.parseFrame_eq (u : Ulong) {s : List Char} {f : GsusbFrame} (h : Denotes s f) :
    parseFrame u s = some f := by
  cases h with
  | remote hid hc =>
      rw [parseFrame_append u hid.hash_notMem, hid.parseId_eq u, Option.bind_some,
        parseBody_of_ne_hash]
      · rw [if_pos (by simpa using hc)]
      · intro x hx
        cases hx
        rcases hc with rfl | rfl <;> decide
  | classic hid hds =>
      rename_i id ds
      have hhead : ∀ c ∈ ds.head?, isHex c = true := fun c hc =>
        hds.digits c (List.mem_of_mem_head? hc)
      rw [parseFrame_append u hid.hash_notMem, hid.parseId_eq u, Option.bind_some,
        parseBody_of_ne_hash, if_neg, hds.parseData_eq]
      · rfl
      · rintro (hR | hr)
        · exact absurd (hhead 'R' hR) (by decide)
        · exact absurd (hhead 'r' hr) (by decide)
      · rintro c hc rfl
        exact absurd (hhead '#' hc) (by decide)
  | fd hid hc hds =>
      rw [parseFrame_append u hid.hash_notMem, hid.parseId_eq u, Option.bind_some]
      simp only [parseBody, hc, hds.parseData_eq]
      rfl

/-- The grammar has only clean strings. -/
theorem Denotes.clean {s : List Char} {f : GsusbFrame} (h : Denotes s f) : Clean s := by
  cases h with
  | remote hid hc =>
      refine ⟨_, _, rfl, hid.digits, ?_⟩
      rcases hc with rfl | rfl
      · exact .inl rfl
      · exact .inr (.inl rfl)
  | classic hid hds => exact ⟨_, _, rfl, hid.digits, .inr (.inr (.inl hds.digits))⟩
  | fd hid hc hds =>
      refine ⟨_, _, rfl, hid.digits, .inr (.inr (.inr ⟨_, rfl, ?_⟩))⟩
      intro x hx
      rcases List.mem_cons.mp hx with rfl | hmem
      · exact isHex_iff.mpr ⟨_, hc⟩
      · exact hds.digits x hmem

/-- A string is cut at its first `#` in one way. -/
theorem append_hash_inj {id id' body body' : List Char} (hid : '#' ∉ id) (hid' : '#' ∉ id')
    (h : id ++ '#' :: body = id' ++ '#' :: body') : id = id' ∧ body = body' := by
  have hfound := strchr_append hid body
  rw [h, strchr_append hid' body', Option.some.injEq, List.cons.injEq] at hfound
  obtain ⟨-, rfl⟩ := hfound
  exact ⟨List.append_cancel_right h, rfl⟩

/-- A clean string that the parser tolerates is one of the grammar. -/
theorem Tolerated.exists_denotes {s : List Char} (h : Tolerated s) (hclean : Clean s) :
    ∃ f, Denotes s f := by
  obtain ⟨id, body, rfl, hid, hbody⟩ := h
  obtain ⟨id', body', heq, hdigits, hshape⟩ := hclean
  have hid' : '#' ∉ id' := fun hmem => absurd (hdigits '#' hmem) (by decide)
  obtain ⟨rfl, rfl⟩ := append_hash_inj hid.hash_notMem hid' heq
  have hisId := hid.isId hdigits
  cases hbody with
  | remote hc rest =>
      rename_i c
      have hrest : rest = [] := by
        rcases hshape with hR | hr | hhex | ⟨rest', hrest', -⟩
        · exact (List.cons.inj hR).2
        · exact (List.cons.inj hr).2
        · have hdigit := hhex c (by simp)
          rcases hc with rfl | rfl <;> exact absurd hdigit (by decide)
        · have hhash := (List.cons.inj hrest').1
          subst hhash
          rcases hc with h | h <;> exact absurd h (by decide)
      subst hrest
      exact ⟨_, .remote hisId hc⟩
  | classic hhead hrest =>
      have hdata : ∀ c ∈ body, isHex c = true := by
        rcases hshape with rfl | rfl | hhex | ⟨rest', rfl, -⟩
        · exact absurd rfl (hhead 'R' rfl).2.1
        · exact absurd rfl (hhead 'r' rfl).2.2
        · exact hhex
        · exact absurd rfl (hhead '#' rfl).1
      exact ⟨_, .classic hisId (hrest.isData hdata)⟩
  | fd hc hrest =>
      rename_i c rest
      obtain ⟨flags, hflags⟩ := isHex_iff.mp hc
      have hdata : ∀ x ∈ rest, isHex x = true := by
        rcases hshape with hR | hr | hhex | ⟨rest', hrest', hhex⟩
        · cases hR
        · cases hr
        · exact fun x hx => hhex x (by simp [hx])
        · cases hrest'
          exact fun x hx => hhex x (by simp [hx])
      exact ⟨_, .fd hisId hflags (hrest.isData hdata)⟩

/-- **Exactly when `parse_frame` keeps to its grammar.** It accepts a string as the grammar says,
and only so, if and only if the string is clean or not one that the scanners tolerate. -/
theorem parseFrame_exact_iff (u : Ulong) (s : List Char) :
    (∀ f, parseFrame u s = some f ↔ Denotes s f) ↔ (Tolerated s → Clean s) := by
  constructor
  · intro hexact htolerated
    obtain ⟨f, hf⟩ := Option.isSome_iff_exists.mp ((parseFrame_isSome_iff u s).mpr htolerated)
    exact ((hexact f).mp hf).clean
  · intro hclean f
    refine ⟨?_, fun h => h.parseFrame_eq u⟩
    intro hparse
    have htolerated := (parseFrame_isSome_iff u s).mp (by simp [hparse])
    obtain ⟨f', hdenotes⟩ := htolerated.exists_denotes (hclean htolerated)
    cases hparse.symm.trans (hdenotes.parseFrame_eq u)
    exact hdenotes

/-- The characters there are in a clean string. -/
theorem Clean.chars {s : List Char} (h : Clean s) :
    ∀ c ∈ s, isHex c = true ∨ c = '#' ∨ c = 'R' ∨ c = 'r' := by
  obtain ⟨id, body, rfl, hid, hbody⟩ := h
  intro c hc
  rcases List.mem_append.mp hc with hc | hc
  · exact .inl (hid c hc)
  · rcases List.mem_cons.mp hc with rfl | hc
    · exact .inr (.inl rfl)
    · rcases hbody with rfl | rfl | hhex | ⟨rest, rfl, hhex⟩
      · exact .inr (.inr (.inl (List.mem_singleton.mp hc)))
      · exact .inr (.inr (.inr (List.mem_singleton.mp hc)))
      · exact .inl (hhex c hc)
      · rcases List.mem_cons.mp hc with rfl | hc
        · exact .inr (.inl rfl)
        · exact .inl (hhex c hc)

/-- `123#Rxy` is accepted as a remote frame, ` 1#` as a frame with id 1 and `123#1g` as one with
the byte 1; none of them is in the grammar. -/
theorem not_parseFrame_exact :
    parseFrame ⟨64, by decide⟩ ['1', '2', '3', '#', 'R', 'x', 'y'] =
        some (filledFrame 0x40000123 0 []) ∧
      parseFrame ⟨64, by decide⟩ [' ', '1', '#'] = some (filledFrame 1 0 []) ∧
      parseFrame ⟨64, by decide⟩ ['1', '2', '3', '#', '1', 'g'] =
        some (filledFrame 0x123 0 [1]) ∧
      (∀ f, ¬ Denotes ['1', '2', '3', '#', 'R', 'x', 'y'] f) ∧
      (∀ f, ¬ Denotes [' ', '1', '#'] f) ∧ ∀ f, ¬ Denotes ['1', '2', '3', '#', '1', 'g'] f := by
  refine ⟨by decide, by decide, by decide, ?_, ?_, ?_⟩
  · intro f h
    exact absurd (h.clean.chars 'x' (by decide)) (by decide)
  · intro f h
    exact absurd (h.clean.chars ' ' (by decide)) (by decide)
  · intro f h
    exact absurd (h.clean.chars 'g' (by decide)) (by decide)

end GsUsb.Tools
