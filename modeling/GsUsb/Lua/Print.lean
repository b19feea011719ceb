/-
# Frames as text, in Lua

The lines of `dump.lua` and `capture.lua`, which are meant to be those of the programs in Python.
A timestamp is a signed number on a 32-bit target, a field is padded to a number of bytes and not of
characters, and `dump.lua` knows no FD tags; there are no other differences.
-/

import GsUsb.Lua.Bit
import GsUsb.Lua.Marshal
import GsUsb.Python.Print

namespace GsUsb.Lua

open GsUsb.Driver GsUsb.Math GsUsb.Lua.Bit
open GsUsb.Python (tagNames tagText quote asciiColumn)

/-- `%-*s`, which counts bytes. -/
def padBytes (width : ℕ) (s : List Char) : List Char :=
  s ++ List.replicate (width - (s.map Char.utf8Size).sum) ' '

/-- `format_frame` of `dump.lua`; an id is never negative. -/
def dumpFrame (frame : PushedTable) : Except Raised (List Char) := do
  let tags := tagNames
    [(frame.extended, ['E', 'F', 'F']), (frame.rtr, ['R', 'T', 'R']),
      (frame.err, ['E', 'R', 'R'])]
  let data ← frame.data.check
  let id ← frame.id.check
  return ['F', 'r', 'a', 'm', 'e', '(', 'i', 'd', '=', '0', 'x'] ++ upperHex id.toNat ++
    tagText [' ', '['] [']'] tags ++ [',', ' ', 'l', 'e', 'n', '='] ++ decimal data.length ++
    [',', ' ', 'd', 'a', 't', 'a', '='] ++ joinedHex data ++ [')']

/-- `format_frame` of `capture.lua`; an id is never negative. -/
def formatFrame (frame : PushedTable) (iface : List Char) : Except Raised (List Char) := do
  let flags ← frame.flags.check
  let tags := tagNames
    [(frame.extended, ['E', 'F', 'F']), (frame.rtr, ['R', 'T', 'R']),
      (frame.err, ['E', 'R', 'R']), (band flags 0x01 ≠ 0, ['F', 'D']),
      (band flags 0x02 ≠ 0, ['B', 'R', 'S'])]
  let data ← frame.data.check
  let timestampUs ← frame.timestampUs.check
  let id ← frame.id.check
  return '(' :: paddedSignedSeconds 16 timestampUs ++ [')', ' '] ++ padBytes 6 iface ++
    ' ' :: paddedHex 8 id.toNat ++ tagText [' '] [] tags ++ [' ', ' ', '['] ++
    decimal data.length ++ [']', ' '] ++ padBytes 23 (joinedHex data) ++
    [' ', ' ', quote] ++ asciiColumn data ++ [quote]

section Agree

variable {target : Target} {f : GsusbFrame}

/-- The fields of a table, as far as they depend on the target only in the timestamp. -/
structure Pushed (target : Target) (f : GsusbFrame) (t : PushedTable) : Prop where
  id_eq : t.id = .value (f.canId &&& idMask (isEff f.canId)).toNat
  extended_eq : t.extended = isEff f.canId
  rtr_eq : t.rtr = isRtr f.canId
  err_eq : t.err = isErr f.canId
  data_eq : t.data = .value (Python.Frame.fromCtypes f).data
  flags_eq : t.flags = .value f.flags.toNat
  timestampUs_eq : t.timestampUs = .value (luaInteger target f.timestampUs)

theorem exists_pushed (target : Target) (hlen : f.len.toNat ≤ gsusbMaxDlen) :
    ∃ t, pushFrame target f = .ok t ∧ Pushed target f t := by
  have hid : luaInteger target (f.canId &&& idMask (isEff f.canId)) =
      (f.canId &&& idMask (isEff f.canId)).toNat :=
    (luaInteger_eq_iff _).mpr (.inr (toNat_and_idMask_lt _ _))
  rw [pushFrame, if_neg (not_lt.mpr hlen)]
  exact ⟨_, rfl, congrArg Field.value hid, rfl, rfl, rfl, rfl, rfl, rfl⟩

/-- A bit of the flags that are pushed. -/
theorem band_flags_ne_zero (flags bit : UInt8) :
    decide (band flags.toNat bit.toNat ≠ 0) = decide (flags &&& bit ≠ 0) := by
  have hflags := flags.toNat_lt
  have hbit := bit.toNat_lt
  have hzero : flags &&& bit = 0 ↔ flags.toNat &&& bit.toNat = 0 := by
    rw [← UInt8.toNat_inj, UInt8.toNat_and]
    rfl
  rw [band_natCast (by omega) (by omega), decide_eq_decide, ne_eq, ne_eq, hzero, Nat.cast_eq_zero]

/-- FD tags show. -/
theorem tagText_eq_iff : ∀ eff rtr err fd brs esi : Bool,
    tagText [' ', '['] [']'] (tagNames
        [(eff, ['E', 'F', 'F']), (rtr, ['R', 'T', 'R']), (err, ['E', 'R', 'R'])]) =
      tagText [' ', '['] [']'] (tagNames
        [(eff, ['E', 'F', 'F']), (rtr, ['R', 'T', 'R']), (err, ['E', 'R', 'R']),
          (fd, ['F', 'D']), (brs, ['B', 'R', 'S']), (esi, ['E', 'S', 'I'])]) ↔
      fd = false ∧ brs = false ∧ esi = false := by
  decide

/-- **Where `dump.lua` prints what `dump.py` prints.**  On every target, exactly for the frames
without an FD flag. -/
theorem dumpFrame_eq_repr_iff (target : Target) (hlen : f.len.toNat ≤ gsusbMaxDlen) :
    ∃ t, pushFrame target f = .ok t ∧
      (dumpFrame t = .ok (Python.Frame.fromCtypes f).repr ↔
        f.flags &&& gsusbFrameFd = 0 ∧ f.flags &&& gsusbFrameBrs = 0 ∧
          f.flags &&& gsusbFrameEsi = 0) := by
  obtain ⟨t, hpush, ht⟩ := exists_pushed target hlen
  have htags := tagText_eq_iff (isEff f.canId) (isRtr f.canId) (isErr f.canId)
    (decide (f.flags &&& gsusbFrameFd ≠ 0)) (decide (f.flags &&& gsusbFrameBrs ≠ 0))
    (decide (f.flags &&& gsusbFrameEsi ≠ 0))
  simp only [decide_eq_false_iff_not, not_not] at htags
  refine ⟨t, hpush, ?_⟩
  rw [← htags, dumpFrame, Python.Frame.repr, Python.Frame.isExtended_fromCtypes,
    Python.Frame.isRtr_fromCtypes, Python.Frame.isError_fromCtypes,
    Python.Frame.isFd_fromCtypes, Python.Frame.isBrs_fromCtypes, Python.Frame.isEsi_fromCtypes,
    Python.Frame.id_fromCtypes, ht.data_eq, ht.id_eq, ht.extended_eq, ht.rtr_eq, ht.err_eq]
  simp only [Field.check, bind, Except.bind, pure, Except.pure, Int.toNat_natCast,
    Except.ok.injEq, List.append_left_inj, List.append_right_inj]

/-- A byte for each character. -/
def Ascii (s : List Char) : Prop := ∀ c ∈ s, c.utf8Size = 1

theorem length_le_sum_utf8Size (s : List Char) :
    s.length ≤ (s.map Char.utf8Size).sum ∧
      ((s.map Char.utf8Size).sum = s.length ↔ Ascii s) := by
  induction s with
  | nil => exact ⟨Nat.le_refl _, iff_of_true rfl fun c hc => by cases hc⟩
  | cons c s ih =>
      have hpos := c.utf8Size_pos
      have hcons : Ascii (c :: s) ↔ c.utf8Size = 1 ∧ Ascii s := List.forall_mem_cons
      rw [List.map_cons, List.sum_cons, List.length_cons, hcons, ← ih.2]
      omega

/-- The two ways to pad a field. -/
theorem padBytes_eq_rightpad_iff (width : ℕ) (s : List Char) :
    padBytes width s = s.rightpad width ' ' ↔ width ≤ s.length ∨ Ascii s := by
  obtain ⟨hle, hascii⟩ := length_le_sum_utf8Size s
  rw [padBytes, List.rightpad, List.append_right_inj, List.replicate_inj, ← hascii]
  simp only [or_true, and_true]
  omega

/-- The digits are one byte each. -/
theorem ascii_joinedHex (bs : Bytes) : Ascii (joinedHex bs) := by
  intro c hc
  rcases mem_joinedHex hc with rfl | hhex
  · rfl
  · rw [Char.utf8Size_eq_one_iff, UInt32.le_iff_toNat_le]
    obtain ⟨d, hd⟩ := isHex_iff.mp hhex
    simp only [hexVal, Char.le_def, UInt32.le_iff_toNat_le] at hd
    have h9 : ('9' : Char).val.toNat = 57 := rfl
    have hf : ('f' : Char).val.toNat = 102 := rfl
    have hF : ('F' : Char).val.toNat = 70 := rfl
    have hmax : (127 : UInt32).toNat = 127 := rfl
    split_ifs at hd <;> omega

/-- The stamp ends with the first bracket. -/
theorem stamped_inj (t u : ℤ) (label label' : List Char) :
    '(' :: paddedSignedSeconds 16 t ++ [')', ' '] ++ label =
        '(' :: paddedSignedSeconds 16 u ++ [')', ' '] ++ label' ↔
      paddedSignedSeconds 16 t = paddedSignedSeconds 16 u ∧ label = label' := by
  have hread (v : ℤ) (rest : List Char) :
      readWhile (· ≠ ')') id (paddedSignedSeconds 16 v ++ ')' :: rest) =
        (paddedSignedSeconds 16 v, ')' :: rest) := by
    refine readWhile_append (fun c hc => decide_eq_true ?_) (endsBefore_cons (by decide) _)
    rintro rfl
    exact notMem_paddedSignedSeconds (by decide) 16 v hc
  constructor
  · intro heq
    simp only [List.cons_append, List.append_assoc, List.nil_append, List.cons.injEq,
      true_and] at heq
    have hparts := (hread t (' ' :: label)).symm.trans
      ((congrArg _ heq).trans (hread u (' ' :: label')))
    simpa using hparts
  · rintro ⟨hstamp, rfl⟩
    rw [hstamp]

/-- **Where `capture.lua` prints what `capture.py` prints.**  Exactly if the timestamp is still a
number of the target, and the label fills its field or has a byte for each character. -/
theorem formatFrame_eq_iff (target : Target) (hlen : f.len.toNat ≤ gsusbMaxDlen)
    (iface : List Char) :
    ∃ t, pushFrame target f = .ok t ∧
      (formatFrame t iface = .ok (Python.formatFrame (.fromCtypes f) iface) ↔
        (target = .bits64 ∨ f.timestampUs.toNat < 2 ^ 31) ∧
          (6 ≤ iface.length ∨ Ascii iface)) := by
  obtain ⟨t, hpush, ht⟩ := exists_pushed target hlen
  refine ⟨t, hpush, ?_⟩
  have hfd := band_flags_ne_zero f.flags gsusbFrameFd
  have hbrs := band_flags_ne_zero f.flags gsusbFrameBrs
  have htimestamp : (Python.Frame.fromCtypes f).timestampUs = f.timestampUs.toNat := rfl
  have hhex : padBytes 23 (joinedHex (Python.Frame.fromCtypes f).data) =
      (joinedHex (Python.Frame.fromCtypes f).data).rightpad 23 ' ' :=
    (padBytes_eq_rightpad_iff _ _).mpr (.inr (ascii_joinedHex _))
  rw [← luaInteger_eq_iff, ← padBytes_eq_rightpad_iff, ← paddedSignedSeconds_eq_iff 16, formatFrame,
    Python.formatFrame, Python.Frame.isExtended_fromCtypes,
    Python.Frame.isRtr_fromCtypes, Python.Frame.isError_fromCtypes,
    Python.Frame.isFd_fromCtypes, Python.Frame.isBrs_fromCtypes,
    Python.Frame.id_fromCtypes, ht.data_eq, ht.id_eq, ht.extended_eq, ht.rtr_eq, ht.err_eq,
    ht.flags_eq, ht.timestampUs_eq, htimestamp]
  have hone : (gsusbFrameFd.toNat : ℤ) = 0x01 := rfl
  have htwo : (gsusbFrameBrs.toNat : ℤ) = 0x02 := rfl
  rw [hone] at hfd
  rw [htwo] at hbrs
  simp only [Field.check, bind, Except.bind, pure, Except.pure, Int.toNat_natCast, hfd, hbrs, hhex,
    Except.ok.injEq, List.append_left_inj]
  exact stamped_inj _ _ _ _

/-- An hour after the start. -/
theorem formatFrame_eq_iff_late :
    ∃ t, pushFrame .bits32 lateFrame = .ok t ∧
      formatFrame t ['c', 'a', 'n', '0'] ≠
        .ok (Python.formatFrame (.fromCtypes lateFrame) ['c', 'a', 'n', '0']) := by
  obtain ⟨t, hpush, hiff⟩ := formatFrame_eq_iff .bits32 (f := lateFrame) (by decide)
    ['c', 'a', 'n', '0']
  exact ⟨t, hpush, fun heq => absurd (hiff.mp heq).1 (by decide)⟩

end Agree

end GsUsb.Lua
