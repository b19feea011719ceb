/-
# The id word of a frame

`can_id` holds the bare id together with three flag bits, and the id has 11 or 29 bits as the
first of these flags says.  Packing the parts and reading them back are inverse to each other.
-/

import GsUsb.Driver.Proto
import GsUsb.Math.Word

namespace GsUsb.Driver

open GsUsb.Math

/-- `GSUSB_EFF_MASK` or `GSUSB_SFF_MASK`: the bits of the bare id. -/
def idMask (extended : Bool) : UInt32 := if extended then gsusbEffMask else gsusbSffMask

/-- The word of an id and its flags; bits of the id outside its mask are cut off. -/
def packId (id : UInt32) (extended rtr err : Bool) : UInt32 :=
  (id &&& idMask extended) ||| (if extended then gsusbEffFlag else 0) |||
    (if rtr then gsusbRtrFlag else 0) ||| if err then gsusbErrFlag else 0

section Parts

variable (id : UInt32) (extended rtr err : Bool)

/-- What a mask finds in each part of the word. -/
theorem packId_and (mask : UInt32) : packId id extended rtr err &&& mask =
    (id &&& (idMask extended &&& mask)) ||| ((if extended then gsusbEffFlag else 0) &&& mask) |||
      ((if rtr then gsusbRtrFlag else 0) &&& mask) |||
      ((if err then gsusbErrFlag else 0) &&& mask) := by
  rw [packId, or_and_word, or_and_word, or_and_word, UInt32.and_assoc]

/-- The bare id. -/
theorem packId_and_idMask : packId id extended rtr err &&& idMask extended =
    id &&& idMask extended := by
  have heff : (if extended then gsusbEffFlag else 0) &&& idMask extended = 0 := by
    cases extended <;> rfl
  have hrtr : (if rtr then gsusbRtrFlag else 0) &&& idMask extended = 0 := by
    cases rtr <;> cases extended <;> rfl
  have herr : (if err then gsusbErrFlag else 0) &&& idMask extended = 0 := by
    cases err <;> cases extended <;> rfl
  rw [packId_and, heff, hrtr, herr, UInt32.and_self, UInt32.or_zero, UInt32.or_zero,
    UInt32.or_zero]

/-- The extended flag. -/
theorem packId_and_effFlag : packId id extended rtr err &&& gsusbEffFlag =
    if extended then gsusbEffFlag else 0 := by
  have hmask : idMask extended &&& gsusbEffFlag = 0 := by cases extended <;> rfl
  rw [packId_and, hmask, UInt32.and_zero]
  cases extended <;> cases rtr <;> cases err <;> rfl

/-- The remote flag. -/
theorem packId_and_rtrFlag : packId id extended rtr err &&& gsusbRtrFlag =
    if rtr then gsusbRtrFlag else 0 := by
  have hmask : idMask extended &&& gsusbRtrFlag = 0 := by cases extended <;> rfl
  rw [packId_and, hmask, UInt32.and_zero]
  cases extended <;> cases rtr <;> cases err <;> rfl

/-- The error flag. -/
theorem packId_and_errFlag : packId id extended rtr err &&& gsusbErrFlag =
    if err then gsusbErrFlag else 0 := by
  have hmask : idMask extended &&& gsusbErrFlag = 0 := by cases extended <;> rfl
  rw [packId_and, hmask, UInt32.and_zero]
  cases extended <;> cases rtr <;> cases err <;> rfl

end Parts

/-- The extended flag of a word. -/
def isEff (canId : UInt32) : Bool := canId &&& gsusbEffFlag ≠ 0

/-- The remote flag of a word. -/
def isRtr (canId : UInt32) : Bool := canId &&& gsusbRtrFlag ≠ 0

/-- The error flag of a word. -/
def isErr (canId : UInt32) : Bool := canId &&& gsusbErrFlag ≠ 0

/-- A word with no bit outside the three flags and the id that its kind has. -/
def IsCanId (canId : UInt32) : Prop :=
  canId &&& (idMask (isEff canId) ||| gsusbEffFlag ||| gsusbRtrFlag ||| gsusbErrFlag) = canId

instance : DecidablePred IsCanId := fun canId =>
  inferInstanceAs (Decidable
    (canId &&& (idMask (isEff canId) ||| gsusbEffFlag ||| gsusbRtrFlag ||| gsusbErrFlag) = canId))

/-- Such a word is the pack of its own parts. -/
theorem IsCanId.eq_packId {canId : UInt32} (hid : IsCanId canId) :
    packId canId (isEff canId) (isRtr canId) (isErr canId) = canId := by
  have heff : canId &&& gsusbEffFlag = if isEff canId then gsusbEffFlag else 0 := by
    simpa [isEff] using and_flag (k := 31) rfl canId
  have hrtr : canId &&& gsusbRtrFlag = if isRtr canId then gsusbRtrFlag else 0 := by
    simpa [isRtr] using and_flag (k := 30) rfl canId
  have herr : canId &&& gsusbErrFlag = if isErr canId then gsusbErrFlag else 0 := by
    simpa [isErr] using and_flag (k := 29) rfl canId
  calc
    packId canId (isEff canId) (isRtr canId) (isErr canId) =
        (canId &&& idMask (isEff canId)) ||| (canId &&& gsusbEffFlag) |||
          (canId &&& gsusbRtrFlag) ||| (canId &&& gsusbErrFlag) := by
      rw [packId, ← heff, ← hrtr, ← herr]
    _ = canId &&& (idMask (isEff canId) ||| gsusbEffFlag ||| gsusbRtrFlag ||| gsusbErrFlag) := by
      simp only [UInt32.and_comm canId, or_and_word]
    _ = canId := hid

end GsUsb.Driver
