/-
# `Bus.open` of the Python SDK

The SDK tries the known ids, or the one pair that was given, like the tools do.  The tools say with
a zero what `Bus` says with `None`.
-/

import GsUsb.Python.Frame
import GsUsb.Tools.Discovery

namespace GsUsb.Python

open GsUsb.Driver GsUsb.Tools

/-- `KNOWN_DEVICES` -/
def knownDevices : List KnownId :=
  [⟨0x1D50, 0x606F, "gs_usb (original GS USB firmware)"⟩,
    ⟨0x1209, 0x2323, "candleLight"⟩,
    ⟨0x1CD2, 0x606F, "CES CANext FD"⟩,
    ⟨0x16D0, 0x10B8, "ABE canDebugger FD"⟩,
    ⟨0x16D0, 0x0F30, "Xylanta Saint3"⟩,
    ⟨0x1209, 0xCA01, "CANnectivity"⟩]

/-- `candidates` in `Bus.open`, as `gsusb_open` gets them. -/
def openCandidates (vid pid : Option ℤ) : List (UInt16 × UInt16) :=
  match vid, pid with
  | some vid, some pid => [(UInt16.ofInt vid, UInt16.ofInt pid)]
  | _, _ => knownDevices.map fun d => (d.vid, d.pid)

/-- The loop over the candidates, from attempt `k` on: a device, or the last error. -/
def openFirst (usb : ℕ → Libusb) (bus addr : ℤ) (k : ℕ) (lastErr : String) :
    List (UInt16 × UInt16) → Except String ((n : ℕ) × Dev n)
  | [] => .error lastErr
  | (vid, pid) :: rest =>
    match (usb k).gsusbOpen vid pid bus addr with
    | .ok dev => .ok dev
    | .error err => openFirst usb bus addr (k + 1) err rest

/-- `Bus.open` of a bus that is not open. -/
def Bus.open (init : ℤ) (usb : ℕ → Libusb) (vid pid usbBus usbAddr : Option ℤ) (channel : ℤ) :
    Except Exn ((n : ℕ) × Dev n × Fin n) :=
  if init ≠ 0 then .error (.gsusbError init ("gsusb_init: " ++ gsusbStrerror init))
  else
    match openFirst usb (usbBus.getD (-1)) (usbAddr.getD (-1)) 0 "no candidate ids tried"
        (openCandidates vid pid) with
    | .error lastErr => .error (.gsusbError gsusbErrNotFound lastErr)
    | .ok ⟨n, dev⟩ =>
      match dev.gsusbChannelGet (UInt32.ofInt channel) with
      | none => .error (.gsusbError gsusbErrInvalid
          ("channel " ++ toString channel ++ " does not exist on this device"))
      | some i => .ok ⟨n, dev, i⟩

/-- The device of a loop that finds one was opened in one of the attempts. -/
theorem exists_of_openFirst {usb : ℕ → Libusb} {bus addr : ℤ} {k : ℕ} {lastErr : String}
    {ids : List (UInt16 × UInt16)} {dev : (n : ℕ) × Dev n}
    (h : openFirst usb bus addr k lastErr ids = .ok dev) :
    ∃ j vid pid, (usb j).gsusbOpen vid pid bus addr = .ok dev := by
  induction ids generalizing k lastErr with
  | nil => cases h
  | cons id ids ih =>
      obtain ⟨vid, pid⟩ := id
      rw [openFirst] at h
      cases hopen : (usb k).gsusbOpen vid pid bus addr with
      | ok found =>
          rw [hopen] at h
          cases h
          exact ⟨k, vid, pid, hopen⟩
      | error err =>
          rw [hopen] at h
          exact ih h

/-- The device of a bus that was opened was opened in one of the attempts. -/
theorem exists_of_open {init : ℤ} {usb : ℕ → Libusb} {vid pid usbBus usbAddr : Option ℤ}
    {channel : ℤ} {n : ℕ} {dev : Dev n} {i : Fin n}
    (h : Bus.open init usb vid pid usbBus usbAddr channel = .ok ⟨n, dev, i⟩) :
    ∃ k v p, (usb k).gsusbOpen v p (usbBus.getD (-1)) (usbAddr.getD (-1)) = .ok ⟨n, dev⟩ := by
  rw [Bus.open] at h
  split_ifs at h
  cases hopen : openFirst usb (usbBus.getD (-1)) (usbAddr.getD (-1)) 0 "no candidate ids tried"
      (openCandidates vid pid) with
  | error err =>
      rw [hopen] at h
      cases h
  | ok found =>
      rw [hopen] at h
      obtain ⟨m, dev'⟩ := found
      dsimp only at h
      cases hchannel : dev'.gsusbChannelGet (UInt32.ofInt channel) with
      | none =>
          rw [hchannel] at h
          cases h
      | some j =>
          rw [hchannel] at h
          cases h
          exact exists_of_openFirst hopen

/-- The device of a bus that was opened is new. -/
theorem opened_of_open {init : ℤ} {usb : ℕ → Libusb} {vid pid usbBus usbAddr : Option ℤ}
    {channel : ℤ} {n : ℕ} {dev : Dev n} {i : Fin n}
    (h : Bus.open init usb vid pid usbBus usbAddr channel = .ok ⟨n, dev, i⟩) : dev.Opened := by
  obtain ⟨k, v, p, hopen⟩ := exists_of_open h
  exact Libusb.opened_of_gsusbOpen hopen

/-- The loops of the SDK and of the tools over the same ids. -/
theorem openFirst_known (usb : ℕ → Libusb) (bus addr : ℤ) (k : ℕ) (lastErr : String)
    (ids : List KnownId) :
    (openFirst usb bus addr k lastErr (ids.map fun d => (d.vid, d.pid))).toOption =
      openKnown usb bus addr k ids := by
  induction ids generalizing k lastErr with
  | nil => rfl
  | cons id ids ih =>
      rw [List.map_cons, openFirst, openKnown]
      cases (usb k).gsusbOpen id.vid id.pid bus addr with
      | ok dev => rfl
      | error err => exact ih (k + 1) err

/-- The device that is opened; an id that was given is not zero. -/
theorem openFirst_eq_gsusbToolOpen (usb : ℕ → Libusb) {vid pid : Option ℤ}
    (hvid : ∀ v, vid = some v → 0 < v) (hpid : ∀ p, pid = some p → 0 < p) (bus addr : ℤ)
    (lastErr : String) :
    (openFirst usb bus addr 0 lastErr (openCandidates vid pid)).toOption =
      (gsusbToolOpen usb (vid.getD 0) (pid.getD 0) bus addr).toOption := by
  have hknown (v p : ℤ) (hzero : ¬ (v > 0 ∧ p > 0)) :
      (openFirst usb bus addr 0 lastErr (knownDevices.map fun d => (d.vid, d.pid))).toOption =
        (gsusbToolOpen usb v p bus addr).toOption := by
    rw [openFirst_known, gsusbToolOpen, if_neg hzero]
    show openKnown usb bus addr 0 gsusbKnownIds = _
    cases openKnown usb bus addr 0 gsusbKnownIds with
    | none => rfl
    | some dev => rfl
  cases vid with
  | none => exact hknown _ _ fun h => absurd h.1 (lt_irrefl 0)
  | some v =>
      cases pid with
      | none => exact hknown _ _ fun h => absurd h.2 (lt_irrefl 0)
      | some p =>
          rw [openCandidates, openFirst, gsusbToolOpen, Option.getD_some, Option.getD_some,
            if_pos ⟨hvid v rfl, hpid p rfl⟩]
          cases (usb 0).gsusbOpen (UInt16.ofInt v) (UInt16.ofInt p) bus addr with
          | ok dev => rfl
          | error err => rfl

/-- **The Python SDK opens what the tools open.**  Whatever the library finds in each attempt: with
the same ids, filters and channel, `Bus.open` succeeds exactly if the tools do, and then with the
same channel of the same device.  An id that is given is positive, since 0 is none to the tools. -/
theorem open_eq_toolChannel (init : ℤ) (usb : ℕ → Libusb) {vid pid : Option ℤ}
    (hvid : ∀ v, vid = some v → 0 < v) (hpid : ∀ p, pid = some p → 0 < p)
    (usbBus usbAddr : Option ℤ) (channel : ℤ) (tool missing : String) :
    (Bus.open init usb vid pid usbBus usbAddr channel).toOption =
      (toolChannel tool missing init usb (vid.getD 0) (pid.getD 0) (usbBus.getD (-1))
        (usbAddr.getD (-1)) (UInt32.ofInt channel)).toOption := by
  have hsame := openFirst_eq_gsusbToolOpen usb hvid hpid (usbBus.getD (-1)) (usbAddr.getD (-1))
    "no candidate ids tried"
  rw [Bus.open, toolChannel]
  by_cases hinit : init = 0
  · rw [if_neg (not_not.mpr hinit), if_neg (not_not.mpr hinit)]
    revert hsame
    cases openFirst usb (usbBus.getD (-1)) (usbAddr.getD (-1)) 0 "no candidate ids tried"
        (openCandidates vid pid) with
    | error lastErr =>
        cases gsusbToolOpen usb (vid.getD 0) (pid.getD 0) (usbBus.getD (-1))
            (usbAddr.getD (-1)) with
        | error err => exact fun _ => rfl
        | ok dev =>
            intro hsame
            cases hsame
    | ok dev =>
        cases gsusbToolOpen usb (vid.getD 0) (pid.getD 0) (usbBus.getD (-1))
            (usbAddr.getD (-1)) with
        | error err =>
            intro hsame
            cases hsame
        | ok dev' =>
            intro hsame
            cases hsame
            dsimp only
            cases dev.2.gsusbChannelGet (UInt32.ofInt channel) with
            | none => rfl
            | some i => rfl
  · rw [if_pos hinit, if_pos hinit]
    rfl

/-- Two ids and the filters left out. -/
theorem open_eq_toolChannel_candleLight :
    (Bus.open 0 (fun _ => fdAdapter) (some 0x1209) (some 0x2323) none none 0).toOption =
      (toolChannel "gsusb_dump" " on this device" 0 (fun _ => fdAdapter) 0x1209 0x2323 (-1) (-1)
        0).toOption :=
  open_eq_toolChannel 0 _ (fun _ h => by cases h; decide) (fun _ h => by cases h; decide)
    none none 0 "gsusb_dump" " on this device"

end GsUsb.Python
