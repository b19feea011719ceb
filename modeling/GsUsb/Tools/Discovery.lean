/-
# Finding a device

`gsusb_info --scan` lists devices without opening them, `gsusb_tool_open` opens one for every
tool, and `Bus.open` of the Python SDK does so on its own.  All three know the same ids.

An attempt to open a device may find other devices than the one before, and may fail in its own
way; so there is a library for each attempt.
-/

import GsUsb.Driver.Open

namespace GsUsb.Tools

open GsUsb.Driver

/-- A vendor and a product id with the name of what has them. -/
structure KnownId where
  vid : UInt16
  pid : UInt16
  name : String

/-- `gsusb_known_ids` -/
def gsusbKnownIds : List KnownId :=
  [⟨0x1d50, 0x606f, "gs_usb (original GS USB firmware)"⟩,
    ⟨0x1209, 0x2323, "candleLight"⟩,
    ⟨0x1cd2, 0x606f, "CES CANext FD"⟩,
    ⟨0x16d0, 0x10b8, "ABE canDebugger FD"⟩,
    ⟨0x16d0, 0x0f30, "Xylanta Saint3"⟩,
    ⟨0x1209, 0xca01, "CANnectivity"⟩]

/-- The loop of `gsusb_tool_open` over the known ids, from attempt `k` on. -/
def openKnown (usb : ℕ → Libusb) (bus addr : ℤ) : ℕ → List KnownId → Option ((n : ℕ) × Dev n)
  | _, [] => none
  | k, id :: ids =>
    match (usb k).gsusbOpen id.vid id.pid bus addr with
    | .ok dev => some dev
    | .error _ => openKnown usb bus addr (k + 1) ids

/-- `gsusb_tool_open`: the device, or the message with which the tool exits. -/
def gsusbToolOpen (usb : ℕ → Libusb) (vid pid bus addr : ℤ) : Except String ((n : ℕ) × Dev n) :=
  if vid > 0 ∧ pid > 0 then
    match (usb 0).gsusbOpen (UInt16.ofInt vid) (UInt16.ofInt pid) bus addr with
    | .ok dev => .ok dev
    | .error err => .error ("gsusb: " ++ err)
  else
    match openKnown usb bus addr 0 gsusbKnownIds with
    | some dev => .ok dev
    | none => .error ("gsusb: no supported device found " ++
        "(use --vid/--pid to target a specific device; see gsusb_info --scan)")

/-- What the mains of the tools begin with, up to `gsusb_channel_get`; `missing` ends the message
about a channel that is not there. -/
def toolChannel (tool missing : String) (init : ℤ) (usb : ℕ → Libusb) (vid pid bus addr : ℤ)
    (channel : UInt32) : Except String ((n : ℕ) × Dev n × Fin n) :=
  if init ≠ 0 then .error (tool ++ ": " ++ gsusbStrerror init)
  else
    match gsusbToolOpen usb vid pid bus addr with
    | .error err => .error err
    | .ok ⟨n, dev⟩ =>
      match dev.gsusbChannelGet channel with
      | none => .error (tool ++ ": channel " ++ toString channel ++ " does not exist" ++ missing)
      | some i => .ok ⟨n, dev, i⟩

/-- A device that was opened in the loop came out of one of the attempts. -/
theorem exists_of_openKnown {usb : ℕ → Libusb} {bus addr : ℤ} {k : ℕ} {ids : List KnownId}
    {dev : (n : ℕ) × Dev n} (h : openKnown usb bus addr k ids = some dev) :
    ∃ j vid pid, (usb j).gsusbOpen vid pid bus addr = .ok dev := by
  induction ids generalizing k with
  | nil => cases h
  | cons id ids ih =>
      rw [openKnown] at h
      cases hopen : (usb k).gsusbOpen id.vid id.pid bus addr with
      | ok dev' =>
          rw [hopen] at h
          cases h
          exact ⟨k, _, _, hopen⟩
      | error err =>
          rw [hopen] at h
          exact ih h

/-- The device that a tool works with was opened by `gsusb_open`. -/
theorem exists_of_gsusbToolOpen {usb : ℕ → Libusb} {vid pid bus addr : ℤ}
    {dev : (n : ℕ) × Dev n} (h : gsusbToolOpen usb vid pid bus addr = .ok dev) :
    ∃ k v p, (usb k).gsusbOpen v p bus addr = .ok dev := by
  rw [gsusbToolOpen] at h
  split_ifs at h
  · cases hopen : (usb 0).gsusbOpen (UInt16.ofInt vid) (UInt16.ofInt pid) bus addr with
    | ok dev' =>
        rw [hopen] at h
        cases h
        exact ⟨0, _, _, hopen⟩
    | error err =>
        rw [hopen] at h
        cases h
  · cases hknown : openKnown usb bus addr 0 gsusbKnownIds with
    | none =>
        rw [hknown] at h
        cases h
    | some dev' =>
        rw [hknown] at h
        cases h
        exact exists_of_openKnown hknown

theorem opened_of_toolChannel {tool missing : String} {init : ℤ} {usb : ℕ → Libusb}
    {vid pid bus addr : ℤ} {channel : UInt32} {n : ℕ} {dev : Dev n} {i : Fin n}
    (h : toolChannel tool missing init usb vid pid bus addr channel = .ok ⟨n, dev, i⟩) :
    dev.Opened := by
  rw [toolChannel] at h
  split_ifs at h
  cases hopen : gsusbToolOpen usb vid pid bus addr with
  | error err =>
      rw [hopen] at h
      cases h
  | ok found =>
      rw [hopen] at h
      obtain ⟨m, dev'⟩ := found
      dsimp only at h
      cases hchannel : dev'.gsusbChannelGet channel with
      | none =>
          rw [hchannel] at h
          cases h
      | some j =>
          rw [hchannel] at h
          cases h
          obtain ⟨k, v, p, hgsusb⟩ := exists_of_gsusbToolOpen hopen
          exact Libusb.opened_of_gsusbOpen hgsusb

section Scan

variable {vid pid bus addr : ℤ}

/-- The ids that `gsusb_tool_open` asks for, one after the other. -/
def candidates (vid pid : ℤ) : List (UInt16 × UInt16) :=
  if vid > 0 ∧ pid > 0 then [(UInt16.ofInt vid, UInt16.ofInt pid)]
  else gsusbKnownIds.map fun id => (id.vid, id.pid)

end Scan

end GsUsb.Tools
