/-
# The example that reacts, in Lua

`react.lua` is meant to do what `react.py` does.  But nothing between a handler and the script
catches an error, so the first send that fails ends the program.
-/

import GsUsb.Lua.Marshal
import GsUsb.Python.React

namespace GsUsb.Lua

open GsUsb.Driver GsUsb.Tools GsUsb.Python

section React

variable (ch : Channel) (bulk : ℕ → BulkOut → ℤ × ℕ)

/-- `bus:send(frame)`, where `bulk` numbers the transfers: a failure is asserted not to be. -/
def sendTable (t : FrameTable) (s : Reactor) : Except Raised Unit × Reactor :=
  let (outcome, request) := chSend ch t none (bulk s.requests.length)
  let s := { s with requests := s.requests ++ request.toList }
  match outcome with
  | .error raised => (.error raised, s)
  | .ok (.failed message) => (.error (.error message), s)
  | .ok _ => (.ok (), s)

/-- `on_key_frame`. -/
def onKeyFrame (frame : PushedTable) (s : Reactor) : Except Raised Unit × Reactor :=
  if frame.id ≠ .value keyId then (.ok (), s)
  else sendTable ch bulk ⟨.value 0x200, false, false, .value [0x01], .nil⟩ s

/-- What `make_counting_detector` returns; `count` is its upvalue. -/
def countingDetector (canId : ℕ) (frame : PushedTable) (s : Reactor) :
    Except Raised Unit × Reactor :=
  if frame.id ≠ .value canId then (.ok (), s)
  else
    let s := { s with count := s.count + 1 }
    if s.count % 5 = 0 then
      sendTable ch bulk ⟨.value 0x201, false, false, .value [.ofNat (s.count % 256)], .nil⟩ s
    else (.ok (), s)

/-- The loop of `Bus:poll` over handlers that leave the list alone. -/
def callAll (frame : PushedTable) :
    List (PushedTable → Reactor → Except Raised Unit × Reactor) → Reactor →
      Except Raised Unit × Reactor
  | [], s => (.ok (), s)
  | fn :: rest, s =>
    match fn frame s with
    | (.ok (), s) => callAll frame rest s
    | (.error raised, s) => (.error raised, s)

/-- What `react.lua` does for the frames that its calls of `ch:recv` return, up to its end. -/
def react (target : Target) :
    List GsusbFrame → Reactor → Except Fault (Except Raised Unit × Reactor)
  | [], s => .ok (.ok (), s)
  | f :: frames, s => do
    let frame ← pushFrame target f
    match callAll frame [onKeyFrame ch bulk, countingDetector ch bulk keyId] s with
    | (.ok (), s) => react target frames s
    | (.error raised, s) => return (.error raised, s)

end React

section Sends

variable {ch : Channel} {bulk : ℕ → BulkOut → ℤ × ℕ} {s : Reactor} {target : Target}

/-- One response more, which went through exactly if nothing is raised. -/
theorem sendTable_response (bulk : ℕ → BulkOut → ℤ × ℕ) (hstarted : ch.started = true) {id : ℤ}
    {canId : UInt32}
    (hid : frameId (UInt32.ofInt id) false false = canId) (b : UInt8) (s : Reactor) :
    ∃ result, sendTable ch bulk ⟨.value id, false, false, .value [b], .nil⟩ s =
        (result, { s with requests := s.requests ++ [requestOf ch (response canId b)] }) ∧
      (result = .ok () ↔ Whole (bulk s.requests.length (requestOf ch (response canId b)))
        (requestOf ch (response canId b))) := by
  have hframe : checkFrame ⟨.value id, false, false, .value [b], .nil⟩ =
      .ok (response canId b) := by
    rw [← hid]
    rfl
  obtain ⟨hrequest, hwhole⟩ := (sendable_response hstarted canId b).gsusbChannelSend_eq
    (by decide : 1000 ≠ 0) (bulk s.requests.length)
  have htimeout : (UInt32.ofInt ((none : Option ℤ).getD 1000)).toNat = 1000 := rfl
  rw [sendTable, chSend_of_checkFrame hframe, htimeout]
  dsimp only
  rw [hrequest]
  by_cases hrc : (gsusbChannelSend ch (response canId b) 1000 (bulk s.requests.length)).1 = 0
  · rw [if_neg (not_not.mpr hrc)]
    exact ⟨.ok (), rfl, iff_of_true rfl (hwhole.mp hrc)⟩
  · rw [if_pos hrc]
    exact ⟨_, rfl, iff_of_false (fun h => by cases h) (mt hwhole.mpr hrc)⟩

/-- One more request, the last one if it fails. -/
theorem transfers_of_whole_iff {requests : List BulkOut} {request : BulkOut}
    {result : Except Raised Unit} (h : Transfers bulk requests requests false)
    (hwhole : result = .ok () ↔ Whole (bulk requests.length request) request) :
    Transfers bulk (requests ++ [request]) (requests ++ [request]) (decide (result ≠ .ok ())) := by
  by_cases hok : result = .ok ()
  · rw [decide_eq_false (not_not.mpr hok)]
    exact h.snoc (hwhole.mp hok)
  · rw [decide_eq_true hok]
    exact h.fail (mt hwhole.mpr hok) []

/-- The handlers try to send what is due for a frame, up to a failure. -/
theorem transfers_callAll (hstarted : ch.started = true) {frame : PushedTable}
    (hkey : frame.id = .value keyId) (h : Transfers bulk s.requests s.requests false) :
    ∃ result t, callAll frame [onKeyFrame ch bulk, countingDetector ch bulk keyId] s = (result, t) ∧
      (result = .ok () → t.count = s.count + 1) ∧
      Transfers bulk (s.requests ++ (responsesTo (s.count + 1)).map (requestOf ch)) t.requests
        (decide (result ≠ .ok ())) := by
  have h200 : frameId (UInt32.ofInt 0x200) false false = 0x200 := by decide
  have h201 : frameId (UInt32.ofInt 0x201) false false = 0x201 := by decide
  have hbyte : UInt8.ofNat ((s.count + 1) % 256) = UInt8.ofNat (s.count + 1) := by
    rw [← UInt8.toNat_inj, UInt8.toNat_ofNat', UInt8.toNat_ofNat', Nat.mod_mod]
  obtain ⟨first, hfirst, hwhole⟩ := sendTable_response bulk hstarted h200 0x01 s
  have hsent := transfers_of_whole_iff h hwhole
  have hkeyFrame : onKeyFrame ch bulk frame s =
      (first, { s with requests := s.requests ++ [requestOf ch (response 0x200 0x01)] }) := by
    rw [onKeyFrame, if_neg (not_not.mpr hkey), hfirst]
  cases first with
  | error raised =>
      refine ⟨.error raised, ⟨s.count, s.requests ++ [requestOf ch (response 0x200 0x01)]⟩, ?_,
        (fun hok => by cases hok), ?_⟩
      · rw [callAll, hkeyFrame]
      · rw [responsesTo, List.map_cons, ← List.singleton_append, ← List.append_assoc]
        exact hsent.append _
  | ok _ =>
      by_cases hfifth : (s.count + 1) % 5 = 0
      · obtain ⟨second, hsecond, hwhole'⟩ := sendTable_response bulk hstarted h201
          (.ofNat (s.count + 1))
          ⟨s.count + 1, s.requests ++ [requestOf ch (response 0x200 0x01)]⟩
        refine ⟨second, ⟨s.count + 1, s.requests ++ [requestOf ch (response 0x200 0x01)] ++
          [requestOf ch (response 0x201 (.ofNat (s.count + 1)))]⟩, ?_, fun _ => rfl, ?_⟩
        · rw [callAll, hkeyFrame]
          dsimp only
          rw [callAll, countingDetector, if_neg (not_not.mpr hkey)]
          dsimp only
          rw [if_pos hfifth, hbyte, hsecond]
          cases second <;> rfl
        · rw [responsesTo, if_pos hfifth, List.map_cons, ← List.singleton_append,
            ← List.append_assoc]
          exact transfers_of_whole_iff hsent hwhole'
      · refine ⟨.ok (), ⟨s.count + 1, s.requests ++ [requestOf ch (response 0x200 0x01)]⟩, ?_,
          fun _ => rfl, ?_⟩
        · rw [callAll, hkeyFrame]
          dsimp only
          rw [callAll, countingDetector, if_neg (not_not.mpr hkey)]
          dsimp only
          rw [if_neg hfifth]
          rfl
        · rw [responsesTo, if_neg hfifth]
          exact hsent

/-- A table shows the bare id. -/
theorem id_eq_keyId_iff {f : GsusbFrame} {frame : PushedTable}
    (hpush : pushFrame target f = .ok frame) : frame.id = .value keyId ↔ isKey f = true := by
  have hid : luaInteger target (f.canId &&& idMask (isEff f.canId)) =
      (f.canId &&& idMask (isEff f.canId)).toNat :=
    (luaInteger_eq_iff _).mpr (.inr (toNat_and_idMask_lt _ _))
  rw [pushFrame] at hpush
  split_ifs at hpush
  cases hpush
  rw [isKey, decide_eq_true_eq, Field.value.injEq, hid, Nat.cast_inj]

/-- From any point of a run without a failure. -/
theorem transfers_react (target : Target) (hstarted : ch.started = true) {frames : List GsusbFrame}
    (hlen : ∀ f ∈ frames, f.len.toNat ≤ gsusbMaxDlen)
    (h : Transfers bulk s.requests s.requests false) :
    ∃ result t, react ch bulk target frames s = .ok (result, t) ∧
      Transfers bulk (Python.react ch bulk frames s).requests t.requests
        (decide (result ≠ .ok ())) := by
  rw [react_eq hstarted]
  dsimp only
  induction frames generalizing s with
  | nil =>
      refine ⟨.ok (), s, rfl, ?_⟩
      rw [List.countP_nil, responses, List.range'_zero, List.flatMap_nil, List.map_nil,
        List.append_nil]
      exact h
  | cons f frames ih =>
      have hrest : ∀ g ∈ frames, g.len.toNat ≤ gsusbMaxDlen := fun g hg =>
        hlen g (List.mem_cons_of_mem f hg)
      obtain ⟨frame, hpush⟩ : ∃ frame, pushFrame target f = .ok frame := by
        rw [pushFrame, if_neg (not_lt.mpr (hlen f List.mem_cons_self))]
        exact ⟨_, rfl⟩
      have hreact : react ch bulk target (f :: frames) s =
          match callAll frame [onKeyFrame ch bulk, countingDetector ch bulk keyId] s with
          | (.ok (), s) => react ch bulk target frames s
          | (.error raised, s) => .ok (.error raised, s) := by
        rw [react, hpush]
        rfl
      rw [hreact, List.countP_cons]
      by_cases hkey : isKey f = true
      · rw [if_pos hkey, responses_succ, List.map_append, ← List.append_assoc]
        obtain ⟨result, t, hcall, hcount, hsent⟩ :=
          transfers_callAll hstarted ((id_eq_keyId_iff hpush).mpr hkey) h
        rw [hcall]
        cases result with
        | error raised => exact ⟨_, _, rfl, hsent.append _⟩
        | ok _ =>
            have hcomplete := hsent.complete rfl
            rw [← hcomplete, ← hcount rfl]
            rw [← hcomplete] at hsent
            exact ih hrest hsent
      · have hid : frame.id ≠ .value keyId := mt (id_eq_keyId_iff hpush).mp hkey
        have hcall : callAll frame [onKeyFrame ch bulk, countingDetector ch bulk keyId] s =
            (.ok (), s) := by
          simp only [callAll, onKeyFrame, countingDetector, if_pos hid]
        rw [hcall, if_neg hkey, Nat.add_zero]
        exact ih hrest h

/-- Only the first transfer goes through. -/
def answerOnce (k : ℕ) (request : BulkOut) : ℤ × ℕ :=
  if k = 0 then (0, request.buf.length) else (libusbErrorTimeout, 0)

/-- **`react.lua` sends what `react.py` sends, up to the first failure.**  `react.py` answers every
frame with the id and every fifth of them twice.  The requests of the Lua program on the same frames
and with the same answers are a prefix of those: all of them if every transfer goes through, else
those up to the first one that does not, with which the program ends. -/
theorem react_agrees (target : Target) (hstarted : ch.started = true)
    (bulk : ℕ → BulkOut → ℤ × ℕ) {frames : List GsusbFrame}
    (hlen : ∀ f ∈ frames, f.len.toNat ≤ gsusbMaxDlen) :
    (Python.react ch bulk frames ⟨0, []⟩).requests =
        (responses 0 (frames.countP isKey)).map (requestOf ch) ∧
      ∃ result t, react ch bulk target frames ⟨0, []⟩ = .ok (result, t) ∧
        Transfers bulk (Python.react ch bulk frames ⟨0, []⟩).requests t.requests
          (decide (result ≠ .ok ())) := by
  refine ⟨?_, transfers_react target hstarted hlen (.nil bulk)⟩
  rw [react_eq hstarted]
  rfl

/-- Three frames with the id, of which only the first can be answered. -/
theorem react_agrees_once :
    let frames := [response 0x100 7, response 0x100 8, response 0x100 9]
    (Python.react (startedFdDev.channel 0) answerOnce frames ⟨0, []⟩).requests.length = 3 ∧
      ∃ result t, react (startedFdDev.channel 0) answerOnce .bits32 frames ⟨0, []⟩ =
          .ok (result, t) ∧ t.requests.length = 2 ∧
        Transfers answerOnce
          (Python.react (startedFdDev.channel 0) answerOnce frames ⟨0, []⟩).requests t.requests
          (decide (result ≠ .ok ())) := by
  intro frames
  have hlen : ∀ f ∈ frames, f.len.toNat ≤ gsusbMaxDlen := by decide
  obtain ⟨hpython, result, t, hreact, h⟩ := react_agrees .bits32
    (rfl : (startedFdDev.channel 0).started = true) answerOnce hlen
  have htwo : (react (startedFdDev.channel 0) answerOnce .bits32 frames ⟨0, []⟩).map
      (fun p => p.2.requests.length) = .ok 2 := by decide +kernel
  rw [hreact] at htwo
  refine ⟨?_, result, t, hreact, Except.ok.inj htwo, h⟩
  rw [hpython]
  rfl

end Sends

end GsUsb.Lua
