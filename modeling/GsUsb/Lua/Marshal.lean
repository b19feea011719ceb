/-
# Frames into Lua and back

`push_frame`, which makes a table of a received frame, and what `check_frame` makes of that
table.  Two parts of a frame get lost: a timestamp from 2 ^ 31 on turns negative where
`lua_Integer` has 32 bits, and `check_frame` has no look at `err`.
-/

import GsUsb.Driver.CanId
import GsUsb.Lua.Frame

namespace GsUsb.Lua

open GsUsb.Math GsUsb.Driver

/-- The targets of the binding, by the width of `ptrdiff_t`, which `lua_Integer` is. -/
inductive Target where
  /-- `mipsel`. -/
  | bits32
  | bits64
  deriving DecidableEq

/-- The width of `lua_Integer`. -/
def Target.bits : Target → ℕ
  | .bits32 => 32
  | .bits64 => 64

/-- `(lua_Integer)u`. -/
def luaInteger (target : Target) (u : UInt32) : ℤ := Int.bmod u.toNat (2 ^ target.bits)

/-- The table of `push_frame`: the fields that `check_frame` reads, and two more. -/
structure PushedTable extends FrameTable where
  err : Bool
  timestampUs : Field ℤ

/-- `push_frame`. -/
def pushFrame (target : Target) (f : GsusbFrame) : Except Fault PushedTable :=
  let extended := isEff f.canId
  let id := f.canId &&& idMask extended
  if f.len.toNat > gsusbMaxDlen then .error (.readByte gsusbMaxDlen)
  else
    .ok
      { id := .value (luaInteger target id)
        extended := extended
        rtr := isRtr f.canId
        err := isErr f.canId
        data := .value (f.data.toList.take f.len.toNat)
        flags := .value f.flags.toNat
        timestampUs := .value (luaInteger target f.timestampUs) }

/-- The table shows the frame as it is. -/
structure Shows (f : GsusbFrame) (t : PushedTable) : Prop where
  id_eq : t.id = .value (f.canId &&& idMask (isEff f.canId)).toNat
  extended_eq : t.extended = isEff f.canId
  rtr_eq : t.rtr = isRtr f.canId
  err_eq : t.err = isErr f.canId
  data_eq : t.data = .value (f.data.toList.take f.len.toNat)
  flags_eq : t.flags = .value f.flags.toNat
  timestampUs_eq : t.timestampUs = .value f.timestampUs.toNat

/-- A frame with the same id, length, flags and data, and nothing behind the data. -/
structure SameContent (f g : GsusbFrame) : Prop where
  canId_eq : g.canId = f.canId
  len_eq : g.len = f.len
  flags_eq : g.flags = f.flags
  data_eq : ∀ (k : ℕ) (hk : k < gsusbMaxDlen),
    g.data[k] = if k < f.len.toNat then f.data[k] else 0

/-- The way into Lua and back loses nothing. -/
def Lossless (target : Target) (f : GsusbFrame) : Prop :=
  ∃ t, pushFrame target f = .ok t ∧ Shows f t ∧
    ∃ g, checkFrame t.toFrameTable = .ok g ∧ SameContent f g

variable {target : Target}

/-- A word keeps its value as a `lua_Integer` exactly where that is wide enough. -/
theorem luaInteger_eq_iff (u : UInt32) :
    luaInteger target u = u.toNat ↔ target = .bits64 ∨ u.toNat < 2 ^ 31 := by
  have hlt := u.toNat_lt
  cases target with
  | bits32 =>
      rw [luaInteger, Target.bits, Int.bmod_def]
      constructor
      · intro heq
        right
        split at heq
        · omega
        · omega
      · rintro (h | hsmall)
        · cases h
        · rw [if_pos (by omega)]
          omega
  | bits64 =>
      rw [luaInteger, Target.bits, Int.bmod_def, if_pos (by omega)]
      simp only [true_or, iff_true]
      omega

/-- The value of a word comes back from its `lua_Integer`, negative or not. -/
theorem ofInt_luaInteger (u : UInt32) : UInt32.ofInt (luaInteger target u) = u := by
  have hdvd : (2 ^ 32 : ℤ) ∣ ((2 ^ target.bits : ℕ) : ℤ) := by
    cases target with
    | bits32 => exact ⟨1, rfl⟩
    | bits64 => exact ⟨2 ^ 32, rfl⟩
  have hmod : luaInteger target u % 2 ^ 32 = (u.toNat : ℤ) % 2 ^ 32 := by
    rw [luaInteger, ← Int.emod_emod_of_dvd _ hdvd, Int.bmod_emod, Int.emod_emod_of_dvd _ hdvd]
  rw [UInt32.ofInt, hmod, ← UInt32.ofInt, ofInt_toNat_word]

/-- The bare id of a frame has at most 29 bits. -/
theorem toNat_and_idMask_lt (canId : UInt32) (extended : Bool) :
    (canId &&& idMask extended).toNat < 2 ^ 31 := by
  rw [UInt32.toNat_and]
  apply lt_of_le_of_lt Nat.and_le_right
  cases extended <;> decide

variable {f : GsusbFrame}

/-- The id that `check_frame` puts together has no error flag. -/
theorem frameId_eq_packId (id : UInt32) (extended rtr : Bool) :
    frameId id extended rtr = packId id extended rtr false := by
  rw [packId, if_neg Bool.false_ne_true, UInt32.or_zero]
  rfl

/-- The id of the frame comes back without its error flag. -/
theorem frameId_pushed (canId : UInt32) :
    frameId (canId &&& idMask (isEff canId)) (isEff canId) (isRtr canId) =
      packId canId (isEff canId) (isRtr canId) false := by
  rw [frameId_eq_packId, packId, packId, UInt32.and_assoc, UInt32.and_self]

/-- A frame filled with the first bytes of another has them, and zeros behind them. -/
theorem sameContent_filledFrame (hlen : f.len.toNat ≤ gsusbMaxDlen) :
    SameContent f (filledFrame f.canId f.flags (f.data.toList.take f.len.toNat)) where
  canId_eq := rfl
  len_eq := by
    show UInt8.ofNat (f.data.toList.take f.len.toNat).length = f.len
    rw [List.length_take, Vector.length_toList, min_eq_left hlen, UInt8.ofNat_toNat]
  flags_eq := rfl
  data_eq := by
    intro k hk
    show (Vector.ofFn fun j : Fin gsusbMaxDlen =>
      (f.data.toList.take f.len.toNat).getD j 0)[k] = _
    rw [Vector.getElem_ofFn, List.getD_eq_getElem?_getD, List.getElem?_take]
    by_cases hk' : k < f.len.toNat
    · simp [hk', hk]
    · simp [hk']

/-- `check_frame` accepts what `push_frame` makes. -/
theorem checkFrame_pushFrame {t : PushedTable} (hlen : f.len.toNat ≤ gsusbMaxDlen)
    (hpush : pushFrame target f = .ok t) :
    checkFrame t.toFrameTable = .ok (filledFrame
      (packId f.canId (isEff f.canId) (isRtr f.canId) false) f.flags
      (f.data.toList.take f.len.toNat)) := by
  rw [pushFrame, if_neg (not_lt.mpr hlen)] at hpush
  obtain rfl := Except.ok.inj hpush
  have hdata : ¬ (f.data.toList.take f.len.toNat).length > gsusbMaxDlen := by
    rw [List.length_take, Vector.length_toList]
    omega
  simp only [checkFrame, Field.check, Field.optional, bind, Except.bind, ofInt_luaInteger,
    frameId_pushed, if_neg hdata, ofInt_toNat_byte]
  rfl

/-- **Exactly when nothing gets lost.** The timestamp has to fit `lua_Integer`, and the frame
must not be an error frame. -/
theorem lossless_iff (hid : IsCanId f.canId) (hlen : f.len.toNat ≤ gsusbMaxDlen) :
    Lossless target f ↔
      (target = .bits64 ∨ f.timestampUs.toNat < 2 ^ 31) ∧ isErr f.canId = false := by
  constructor
  · rintro ⟨t, hpush, hshows, g, hcheck, hsame⟩
    rw [checkFrame_pushFrame hlen hpush] at hcheck
    obtain rfl := Except.ok.inj hcheck
    rw [pushFrame, if_neg (not_lt.mpr hlen)] at hpush
    obtain rfl := Except.ok.inj hpush
    constructor
    · exact (luaInteger_eq_iff _).mp (Field.value.inj hshows.timestampUs_eq)
    · have hflag := packId_and_errFlag f.canId (isEff f.canId) (isRtr f.canId) false
      have hcanId : packId f.canId (isEff f.canId) (isRtr f.canId) false = f.canId :=
        hsame.canId_eq
      rw [hcanId, if_neg Bool.false_ne_true] at hflag
      rw [isErr, hflag]
      rfl
  · rintro ⟨hwide, herr⟩
    have hpush : pushFrame target f = .ok _ := if_neg (not_lt.mpr hlen)
    refine ⟨_, hpush, ?_, _, checkFrame_pushFrame hlen hpush, ?_⟩
    · constructor
      · exact congrArg Field.value ((luaInteger_eq_iff _).mpr (.inr (toNat_and_idMask_lt _ _)))
      · rfl
      · rfl
      · rfl
      · rfl
      · rfl
      · exact congrArg Field.value ((luaInteger_eq_iff _).mpr hwide)
    · rw [← herr, hid.eq_packId]
      exact sameContent_filledFrame hlen

/-- An extended FD frame of three bytes, seen half an hour after the device started. -/
def earlyFrame : GsusbFrame :=
  { filledFrame (gsusbEffFlag ||| 0x1ABCDEF0) gsusbFrameFd [0x10, 0x00, 0xff] with
    timestampUs := 1800000000 }

/-- It passes through a 32-bit Lua. -/
theorem lossless_iff_early : Lossless .bits32 earlyFrame :=
  (lossless_iff (by decide) (by decide)).mpr ⟨.inr (by decide), by decide⟩

/-- The same frame half an hour later. -/
def lateFrame : GsusbFrame := { earlyFrame with timestampUs := 3600000000 }

/-- A remote error frame; nothing about it depends on the target. -/
def errorFrame : GsusbFrame := filledFrame (gsusbRtrFlag ||| gsusbErrFlag ||| 0x123) 0 []

/-- The later frame gets a negative timestamp in a 32-bit Lua, and the error frame comes back
without its error flag from any. -/
theorem not_lossless_late :
    (IsCanId lateFrame.canId ∧ lateFrame.len.toNat ≤ gsusbMaxDlen ∧
      (∃ t, pushFrame .bits32 lateFrame = .ok t ∧ t.timestampUs = .value (-694967296)) ∧
      ¬ Lossless .bits32 lateFrame) ∧
    IsCanId errorFrame.canId ∧ errorFrame.len.toNat ≤ gsusbMaxDlen ∧
      (∃ t g, pushFrame .bits64 errorFrame = .ok t ∧ checkFrame t.toFrameTable = .ok g ∧
        g.canId = gsusbRtrFlag ||| 0x123) ∧
      ¬ Lossless .bits64 errorFrame := by
  refine ⟨⟨by decide, by decide, ⟨_, rfl, by decide⟩, ?_⟩, by decide, by decide,
    ⟨_, _, rfl, rfl, by decide⟩, ?_⟩
  · rintro ⟨t, hpush, hshows, -⟩
    obtain rfl := Except.ok.inj hpush
    exact absurd hshows.timestampUs_eq (by decide)
  · rintro ⟨t, hpush, -, g, hcheck, hsame⟩
    obtain rfl := Except.ok.inj hpush
    obtain rfl := Except.ok.inj hcheck
    exact absurd hsame.canId_eq (by decide)

end GsUsb.Lua
