/-
# Detectors, and an example that reacts

The detectors that `_listen_loop` calls for a frame, each of which may send.  `react.py` has two of
them for one id: the first answers every frame, the second counts them and sends a milestone every
fifth time.  An exception is logged, so a send that fails keeps nothing from being tried.
-/

import GsUsb.Python.SendPaths
import GsUsb.Tools.Transmit

namespace GsUsb.Python

open GsUsb.Driver GsUsb.Math GsUsb.Tools

/-- A `Detector`, of which `matches` raises nothing, over the state that `on_detect` may change. -/
structure Detector (σ : Type) where
  matchesFrame : Frame → Bool
  onDetect : Frame → σ → Except Exn Unit × σ

/-- A callback, or none. -/
def callBack {σ : Type} (callback : Option (Frame → σ → Except Exn Unit × σ)) (frame : Frame)
    (s : σ) : Except Exn Unit × σ :=
  match callback with
  | some callback => callback frame s
  | none => (.ok (), s)

/-- `IdDetector`. -/
def idDetector {σ : Type} (canId : ℕ) (callback : Option (Frame → σ → Except Exn Unit × σ)) :
    Detector σ :=
  ⟨fun frame => frame.id = canId, callBack callback⟩

/-- The `for` loop over the detectors, which logs what they raise. -/
def dispatch {σ : Type} (detectors : List (Detector σ)) (frame : Frame) (s : σ) : σ :=
  detectors.foldl (fun s d => if d.matchesFrame frame then (d.onDetect frame s).2 else s) s

/-- `Frame.standard`. -/
def Frame.standard (canId : ℤ) (data : Bytes) : Frame where
  canId := (UInt32.ofInt canId &&& gsusbSffMask).toNat
  data := data
  flags := 0
  timestampUs := 0

/-- What a reactor has counted and sent. -/
structure Reactor where
  count : ℕ
  requests : List BulkOut

/-- `KEY_ID` -/
def keyId : ℕ := 0x100

section React

variable (ch : Channel) (bulk : ℕ → BulkOut → ℤ × ℕ)

/-- `bus.send(frame)`, where `bulk` numbers the transfers. -/
def Reactor.send (s : Reactor) (frame : Frame) : Except Exn Unit × Reactor :=
  let (result, request) := Bus.send (some ch) frame 1000 (bulk s.requests.length)
  (result, { s with requests := s.requests ++ request.toList })

/-- `on_key_frame`. -/
def onKeyFrame (_frame : Frame) (s : Reactor) : Except Exn Unit × Reactor :=
  s.send ch bulk (.standard 0x200 [0x01])

/-- `CountingDetector`. -/
def countingDetector (canId : ℕ) : Detector Reactor where
  matchesFrame frame := frame.id = canId
  onDetect _ s :=
    let s := { s with count := s.count + 1 }
    if s.count % 5 = 0 then s.send ch bulk (.standard 0x201 [.ofNat (s.count &&& 0xFF)])
    else (.ok (), s)

/-- The detectors of `react.py`. -/
def reactDetectors : List (Detector Reactor) :=
  [idDetector keyId (some (onKeyFrame ch bulk)), countingDetector ch bulk keyId]

/-- What `react.py` does for the frames that the listener receives. -/
def react (frames : List GsusbFrame) (s : Reactor) : Reactor :=
  frames.foldl (fun s f => dispatch (reactDetectors ch bulk) (.fromCtypes f) s) s

end React

/-- A frame that the id of `react.py` is meant by: of any kind. -/
def isKey (f : GsusbFrame) : Bool := (f.canId &&& idMask (isEff f.canId)).toNat = keyId

/-- A classic frame with one byte. -/
def response (id : UInt32) (b : UInt8) : GsusbFrame := filledFrame id 0 [b]

/-- What is sent for the frame that is counted as this one. -/
def responsesTo (count : ℕ) : List GsusbFrame :=
  response 0x200 0x01 :: if count % 5 = 0 then [response 0x201 (.ofNat count)] else []

/-- What is sent for `k` frames after the first `count`. -/
def responses (count k : ℕ) : List GsusbFrame := (List.range' (count + 1) k).flatMap responsesTo

section Sends

variable {ch : Channel} {bulk : ℕ → BulkOut → ℤ × ℕ} {s : Reactor}

theorem sendable_response (hstarted : ch.started = true) (id : UInt32) (b : UInt8) :
    Sendable ch (response id b) :=
  sendable_classic hstarted id (Nat.le_of_ble_eq_true rfl)

/-- A classic frame with a bare id, as the library gets it. -/
theorem toCtypes_standard (canId : ℤ) {data : Bytes} (hlen : data.length ≤ 8) :
    (Frame.standard canId data).toCtypes =
      .ok (filledFrame (UInt32.ofInt canId &&& gsusbSffMask) 0 data) := by
  have hfits : ¬ (Frame.standard canId data).data.length > (Frame.standard canId data).maxLen :=
    not_lt.mpr hlen
  rw [Frame.toCtypes, if_neg hfits]
  simp only [Frame.standard, ofInt_toNat_word]
  rfl

/-- Whatever becomes of it, a response is handed over. -/
theorem requests_send (hstarted : ch.started = true) {canId : ℤ} {id : UInt32}
    (hid : UInt32.ofInt canId &&& gsusbSffMask = id) (b : UInt8) :
    (s.send ch bulk (.standard canId [b])).2 =
      { s with requests := s.requests ++ [requestOf ch (response id b)] } := by
  have hctypes : (Frame.standard canId [b]).toCtypes = .ok (response id b) := by
    rw [toCtypes_standard canId (Nat.le_of_ble_eq_true rfl), hid]
    rfl
  have hrequest := ((sendable_response hstarted id b).gsusbChannelSend_eq (by decide : 1000 ≠ 0)
    (bulk s.requests.length)).1
  rw [Reactor.send, send_of_toCtypes hctypes]
  dsimp only
  rw [show (UInt32.ofInt 1000).toNat = 1000 from rfl, hrequest]
  rfl

/-- A frame with the id is answered and counted, and another does nothing. -/
theorem dispatch_reactDetectors (hstarted : ch.started = true) (f : GsusbFrame) :
    dispatch (reactDetectors ch bulk) (.fromCtypes f) s =
      if isKey f then
        ⟨s.count + 1, s.requests ++ (responsesTo (s.count + 1)).map (requestOf ch)⟩
      else s := by
  have hid : (Frame.fromCtypes f).id = keyId ↔ isKey f = true := by
    rw [isKey, decide_eq_true_eq, Frame.id_fromCtypes]
  by_cases hkey : isKey f = true
  · have hkey' := hid.mpr hkey
    have hmask : (0xFF : ℕ) = 2 ^ 8 - 1 := rfl
    have hbyte : UInt8.ofNat (s.count + 1 &&& 0xFF) = UInt8.ofNat (s.count + 1) := by
      rw [← UInt8.toNat_inj, hmask, Nat.and_two_pow_sub_one_eq_mod, UInt8.toNat_ofNat',
        UInt8.toNat_ofNat', Nat.mod_mod]
    have h200 : UInt32.ofInt 0x200 &&& gsusbSffMask = 0x200 := by decide
    have h201 : UInt32.ofInt 0x201 &&& gsusbSffMask = 0x201 := by decide
    rw [if_pos hkey]
    simp only [dispatch, reactDetectors, idDetector, countingDetector, List.foldl_cons,
      List.foldl_nil, hkey', decide_true, if_true, callBack, onKeyFrame, hbyte,
      requests_send hstarted h200]
    by_cases hfifth : (s.count + 1) % 5 = 0
    · rw [if_pos hfifth, requests_send hstarted h201]
      simp [responsesTo, hfifth]
    · simp [responsesTo, hfifth]
  · simp [dispatch, reactDetectors, idDetector, countingDetector, mt hid.mp hkey, hkey]

theorem responses_succ (count k : ℕ) :
    responses count (k + 1) = responsesTo (count + 1) ++ responses (count + 1) k := by
  rw [responses, List.range'_succ, List.flatMap_cons]
  rfl

/-- **What `react.py` sends.**  Whatever becomes of its transfers, it tries one response to every
frame with the id and, with every fifth, the milestone. -/
theorem react_eq (hstarted : ch.started = true) (frames : List GsusbFrame) (s : Reactor) :
    react ch bulk frames s =
      ⟨s.count + frames.countP isKey,
        s.requests ++ (responses s.count (frames.countP isKey)).map (requestOf ch)⟩ := by
  induction frames generalizing s with
  | nil => simp [react, responses]
  | cons f frames ih =>
      have hcons : react ch bulk (f :: frames) s =
          react ch bulk frames (dispatch (reactDetectors ch bulk) (.fromCtypes f) s) := rfl
      rw [hcons, ih, dispatch_reactDetectors hstarted, List.countP_cons]
      by_cases hkey : isKey f = true
      · rw [if_pos hkey, if_pos hkey, responses_succ, List.map_append, List.append_assoc,
          Nat.add_right_comm, Nat.add_assoc]
      · rw [if_neg hkey, if_neg hkey, Nat.add_zero]

end Sends

end GsUsb.Python
