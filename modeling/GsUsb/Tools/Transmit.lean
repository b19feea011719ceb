/-
# `gsusb_send`

The tool from its command line to the bulk transfers: frames are parsed, a channel is opened, set
up and started, and then the list of frames is sent as often as asked for, up to the first send
that fails.
-/

import GsUsb.Driver.Send
import GsUsb.Driver.Settings
import GsUsb.Tools.Discovery
import GsUsb.Tools.ParseFrame

namespace GsUsb.Tools

open GsUsb.Driver GsUsb.Math

/-- What a main does before its loop.  There is no result where a call does not return; an error is
the text with which the tool exits. -/
abbrev Main := ExceptT String Option

/-- The options that `gsusb_send` and `gsusb_dump` have in common, after `getopt_long`. -/
structure ToolOptions where
  vid : ℤ
  pid : ℤ
  bus : ℤ
  addr : ℤ
  channel : UInt32
  bitrate : UInt32
  dataBitrate : UInt32
  fdMode : Bool
  loopback : Bool

/-- What the library answers while a tool sets a channel up. -/
structure SetupAnswers where
  init : ℤ
  usb : ℕ → Libusb
  bitrate : ℤ
  dataBitrate : ℤ
  mode : ℤ
  thread : PthreadCreate

/-- Exit with a text. -/
def exitIf (c : Prop) [Decidable c] (message : String) : Main Unit :=
  if c then throw message else pure ()

/-- The data bitrate is only set in FD mode. -/
def toolDataBitrate (tool : String) (o : ToolOptions) (a : SetupAnswers) (ch : Channel)
    (fdMode : Bool) : Main Unit :=
  if fdMode then do
    let (rc, _) ← gsusbChannelSetDataBitrate ch o.dataBitrate 0 a.dataBitrate
    exitIf (rc ≠ 0)
      (tool ++ ": set_data_bitrate(" ++ toString o.dataBitrate ++ "): " ++ gsusbStrerror rc)
  else pure ()

/-- The flags that a main starts its channel with; only `gsusb_dump` has a listen-only mode. -/
def toolMode (fdMode loopback listenOnly : Bool) : UInt32 :=
  (if fdMode then gsusbModeFd else 0) ||| (if loopback then gsusbModeLoopback else 0) |||
    if listenOnly then gsusbModeListenOnly else 0

/-- What the mains do with a channel before their loops; `mode` are the flags for
`gsusb_channel_start`. -/
def toolStart (tool : String) (o : ToolOptions) (a : SetupAnswers) {n : ℕ} (dev : Dev n) (i : Fin n)
    (fdMode : Bool) (mode : UInt32) : Main (Host n) := do
  exitIf (fdMode = true ∧ (dev.channel i).hasFeature gsCanFeatureFd = false)
    (tool ++ ": channel " ++ toString o.channel ++ " does not support CAN-FD")
  let (rc, _) ← gsusbChannelSetBitrate (dev.channel i) o.bitrate 0 a.bitrate
  exitIf (rc ≠ 0) (tool ++ ": set_bitrate(" ++ toString o.bitrate ++ "): " ++ gsusbStrerror rc)
  toolDataBitrate tool o a (dev.channel i) fdMode
  let (rc, host) := (Host.init dev).gsusbChannelStart i mode a.mode a.thread
  exitIf (rc ≠ 0) (tool ++ ": start: " ++ gsusbStrerror rc)
  return host

/-- The loop over the arguments of `gsusb_send`; a frame keeps the text it was made from. -/
def parseFrames (u : Ulong) : List (List Char) → Main (List (List Char × GsusbFrame))
  | [] => pure []
  | arg :: args => do
    match parseFrame u arg with
    | none => throw ("gsusb_send: cannot parse frame '" ++ String.ofList arg ++ "'")
    | some f =>
      let rest ← parseFrames u args
      return (arg, f) :: rest

/-- FD mode is asked for, or needed for a frame. -/
def sendFdMode (o : ToolOptions) (frames : List GsusbFrame) : Bool :=
  o.fdMode || frames.any fun f => f.flags &&& gsusbFrameFd ≠ 0

/-- The inner loop of `gsusb_send`: the requests made so far, and the send that failed.  The
transfers are numbered over the whole run. -/
def sendList (ch : Channel) (bulk : ℕ → BulkOut → ℤ × ℕ) (requests : List BulkOut) :
    List (List Char × GsusbFrame) → List BulkOut × Option (List Char × ℤ)
  | [] => (requests, none)
  | (arg, frame) :: rest =>
    let (rc, request) := gsusbChannelSend ch frame 1000 (bulk requests.length)
    let requests := requests ++ request.toList
    if rc ≠ 0 then (requests, some (arg, rc)) else sendList ch bulk requests rest

/-- How the loops of `gsusb_send` end. -/
structure SendRun where
  ret : ℤ
  stderr : List String
  requests : List BulkOut
  /-- The calls of `nanosleep`. -/
  sleeps : ℕ

/-- The outer loop of `gsusb_send`, with `count` repeats to go. -/
def sendRepeats (ch : Channel) (bulk : ℕ → BulkOut → ℤ × ℕ) (intervalMs : UInt32)
    (frames : List (List Char × GsusbFrame)) : ℕ → SendRun → SendRun
  | 0, run => run
  | count + 1, run =>
    let sleeps := run.sleeps + if intervalMs ≠ 0 ∧ count ≠ 0 then 1 else 0
    match sendList ch bulk run.requests frames with
    | (requests, some (arg, rc)) =>
      { ret := 1
        stderr := run.stderr ++
          ["gsusb_send: send '" ++ String.ofList arg ++ "': " ++ gsusbStrerror rc]
        requests := requests
        sleeps := sleeps }
    | (requests, none) =>
      sendRepeats ch bulk intervalMs frames count
        { run with requests := requests, sleeps := sleeps }

/-- `main` of `gsusb_send`, up to the end of its loops; `args` are the frames. -/
def gsusbSend (u : Ulong) (callocFrames : Bool) (o : ToolOptions) (repeats intervalMs : UInt32)
    (a : SetupAnswers) (bulk : ℕ → BulkOut → ℤ × ℕ) (args : List (List Char)) : Main SendRun := do
  exitIf (args = []) "gsusb_send: no frames given, see --help"
  exitIf (callocFrames = false) "gsusb_send: out of memory"
  let frames ← parseFrames u args
  let fdMode := sendFdMode o (frames.map Prod.snd)
  match toolChannel "gsusb_send" " on this device" a.init a.usb o.vid o.pid o.bus o.addr o.channel
    with
  | .error err => throw err
  | .ok ⟨_, dev, i⟩ =>
    let host ← toolStart "gsusb_send" o a dev i fdMode (toolMode fdMode o.loopback false)
    return sendRepeats (host.dev.channel i) bulk intervalMs frames repeats.toNat ⟨0, [], [], 0⟩

section Parsed

theorem length_scanBytes {nbytes : ℕ} {rest : List Char} {bytes : Bytes}
    (h : scanBytes nbytes rest = some bytes) : bytes.length = nbytes := by
  induction nbytes generalizing rest bytes with
  | zero =>
      cases h
      rfl
  | succ nbytes ih =>
      rw [scanBytes] at h
      cases hbyte : sscanf2x rest with
      | none =>
          rw [hbyte] at h
          cases h
      | some byte =>
          rw [hbyte] at h
          obtain ⟨tail, htail, rfl⟩ := Option.map_eq_some_iff.mp h
          rw [List.length_cons, ih htail]

theorem length_parseData_le {rest : List Char} {room : ℕ} {bytes : Bytes}
    (h : parseData rest room = some bytes) : bytes.length ≤ room := by
  rw [parseData] at h
  split_ifs at h with hodd hlong
  rw [length_scanBytes h]
  exact not_lt.mp hlong

theorem toNat_len_filledFrame {bytes : Bytes} (hlen : bytes.length ≤ gsusbMaxDlen)
    (canId : UInt32) (flags : UInt8) :
    (filledFrame canId flags bytes).len.toNat = bytes.length := by
  have hlt : bytes.length < 2 ^ 8 := hlen.trans_lt (by decide)
  exact (UInt8.toNat_ofNat' (n := bytes.length)).trans (Nat.mod_eq_of_lt hlt)

/-- The digit after the second hash always makes an FD frame. -/
theorem sendIsFd_digitFlags (canId : UInt32) (flagsval : ℕ) (bytes : Bytes) :
    sendIsFd (filledFrame canId (digitFlags flagsval) bytes) = true := by
  show decide (digitFlags flagsval &&& gsusbFrameFd ≠ 0) = true
  rw [digitFlags]
  split_ifs <;> decide

theorem parseBody_fits {canId : UInt32} {body : List Char} {f : GsusbFrame}
    (h : parseBody canId body = some f) : f.len.toNat ≤ if sendIsFd f then 64 else 8 := by
  by_cases hhash : ∀ c ∈ body.head?, c ≠ '#'
  · rw [parseBody_of_ne_hash canId hhash] at h
    split_ifs at h with hremote
    · cases h
      rw [toNat_len_filledFrame (Nat.zero_le _)]
      exact Nat.zero_le _
    · obtain ⟨bytes, hbytes, rfl⟩ := Option.map_eq_some_iff.mp h
      have hlen := length_parseData_le hbytes
      rw [toNat_len_filledFrame (hlen.trans (by decide))]
      split
      · omega
      · exact hlen
  · push Not at hhash
    obtain ⟨c, hc, rfl⟩ := hhash
    obtain ⟨rest, rfl⟩ := List.head?_eq_some_iff.mp hc
    cases rest with
    | nil => cases h
    | cons c rest =>
        rw [parseBody] at h
        cases hflags : hexVal c with
        | none =>
            rw [hflags] at h
            cases h
        | some flagsval =>
            rw [hflags] at h
            obtain ⟨bytes, hbytes, rfl⟩ := Option.map_eq_some_iff.mp h
            have hlen := length_parseData_le hbytes
            rw [toNat_len_filledFrame hlen, sendIsFd_digitFlags, if_pos rfl]
            exact hlen

/-- A frame that was parsed has no more data than its kind allows. -/
theorem parseFrame_fits {u : Ulong} {s : List Char} {f : GsusbFrame}
    (h : parseFrame u s = some f) : f.len.toNat ≤ if sendIsFd f then 64 else 8 := by
  rw [parseFrame] at h
  cases hhash : strchr s '#' with
  | none =>
      rw [hhash] at h
      cases h
  | some hash =>
      rw [hhash] at h
      dsimp only at h
      cases hid : parseId u (s.take (s.length - hash.length)) with
      | none =>
          rw [hid] at h
          cases h
      | some canId =>
          rw [hid] at h
          exact parseBody_fits h

end Parsed

/-! ## The loops -/

section Loops

variable {ch : Channel} {bulk : ℕ → BulkOut → ℤ × ℕ} {requests : List BulkOut}
  {frames : List (List Char × GsusbFrame)}

/-- The request of a frame. -/
def requestOf (ch : Channel) (frame : GsusbFrame) : BulkOut := ⟨sentPacket ch frame, 1000⟩

/-- Nothing but its transfer can keep a frame from being sent. -/
structure Sendable (ch : Channel) (frame : GsusbFrame) : Prop where
  started : ch.started = true
  feature : sendIsFd frame = true → ch.hasFeature gsCanFeatureFd = true
  fits : frame.len.toNat ≤ if sendIsFd frame then 64 else 8

/-- A transfer that carries its request whole. -/
def Whole (answer : ℤ × ℕ) (request : BulkOut) : Prop := answer = (0, request.buf.length)

instance (answer : ℤ × ℕ) (request : BulkOut) : Decidable (Whole answer request) :=
  inferInstanceAs (Decidable (_ = _))

/-- A classic frame of at most eight bytes. -/
theorem sendable_classic (hstarted : ch.started = true) (canId : UInt32) {data : Bytes}
    (hlen : data.length ≤ 8) : Sendable ch (filledFrame canId 0 data) := by
  have hclassic : ¬ sendIsFd (filledFrame canId 0 data) = true := by
    show ¬ decide ((0 : UInt8) &&& gsusbFrameFd ≠ 0) = true
    decide
  refine ⟨hstarted, fun hfd => absurd hfd hclassic, ?_⟩
  rw [toNat_len_filledFrame (hlen.trans (by decide)), if_neg hclassic]
  exact hlen

theorem Sendable.sendPacket_eq {frame : GsusbFrame} (h : Sendable ch frame) :
    sendPacket ch frame = .ok (sentPacket ch frame) := by
  have hfits : frame.len.toNat ≤ sendMaxDlen frame := h.fits
  obtain ⟨request, hrequest, hbuf⟩ :=
    gsusbChannelSend_request h.started h.feature hfits 1000 fun _ => (0, 0)
  rw [gsusbChannelSend] at hrequest
  cases hpacket : sendPacket ch frame with
  | error rc =>
      rw [hpacket] at hrequest
      cases hrequest
  | ok buf =>
      rw [hpacket] at hrequest
      dsimp only at hrequest
      split_ifs at hrequest <;> (cases hrequest; rw [← hbuf])

/-- The request is the frame's, and the send succeeds exactly if all of it went through. -/
theorem Sendable.gsusbChannelSend_eq {frame : GsusbFrame} (h : Sendable ch frame) {timeoutMs : ℕ}
    (hne : timeoutMs ≠ 0) (bulk : BulkOut → ℤ × ℕ) :
    (gsusbChannelSend ch frame timeoutMs bulk).2 = some ⟨sentPacket ch frame, timeoutMs⟩ ∧
      ((gsusbChannelSend ch frame timeoutMs bulk).1 = 0 ↔
        Whole (bulk ⟨sentPacket ch frame, timeoutMs⟩) ⟨sentPacket ch frame, timeoutMs⟩) := by
  obtain ⟨rc, transferred, hanswer⟩ : ∃ rc transferred,
      bulk ⟨sentPacket ch frame, timeoutMs⟩ = (rc, transferred) := ⟨_, _, rfl⟩
  have hsend : gsusbChannelSend ch frame timeoutMs bulk =
      (if rc = libusbErrorTimeout then gsusbErrTimeout
        else if rc ≠ 0 then mapLibusbErr rc
        else if transferred ≠ (sentPacket ch frame).length then gsusbErrIo
        else 0, some ⟨sentPacket ch frame, timeoutMs⟩) := by
    rw [gsusbChannelSend, h.sendPacket_eq]
    simp only [if_pos hne, hanswer]
    split_ifs <;> rfl
  rw [hsend, hanswer, Whole, Prod.mk.injEq]
  refine ⟨rfl, ?_⟩
  dsimp only
  split_ifs with htimeout hrc hshort
  · exact ⟨fun herr => absurd herr (by decide),
      fun hwhole => by rw [hwhole.1] at htimeout; cases htimeout⟩
  · exact ⟨fun herr => absurd herr (mapLibusbErr_ne_zero hrc), fun hwhole => absurd hwhole.1 hrc⟩
  · exact ⟨fun herr => absurd herr (by decide), fun hwhole => absurd hwhole.2 hshort⟩
  · exact ⟨fun _ => ⟨not_not.mp hrc, not_not.mp hshort⟩, fun _ => rfl⟩

/-- How far requests have got with the packets to be sent, the `k`-th of them being answered by
`bulk k`: every transfer but a failed last one was whole. -/
structure Transfers (bulk : ℕ → BulkOut → ℤ × ℕ) (packets requests : List BulkOut)
    (failed : Bool) : Prop where
  isPrefix : requests <+: packets
  whole : ∀ (k : ℕ) (hk : k < requests.length), failed = false ∨ k + 1 < requests.length →
    Whole (bulk k requests[k]) requests[k]
  complete : failed = false → requests = packets
  last : failed = true → ∃ h : requests ≠ [],
    ¬ Whole (bulk (requests.length - 1) (requests.getLast h)) (requests.getLast h)

theorem Transfers.nil (bulk : ℕ → BulkOut → ℤ × ℕ) : Transfers bulk [] [] false :=
  ⟨List.prefix_rfl, fun _ hk => absurd hk (Nat.not_lt_zero _), fun _ => rfl, nofun⟩

/-- After a failure nothing is sent, whatever else there would be. -/
theorem Transfers.append {packets : List BulkOut} (h : Transfers bulk packets requests true)
    (more : List BulkOut) : Transfers bulk (packets ++ more) requests true :=
  ⟨h.isPrefix.trans (List.prefix_append _ _), h.whole, nofun, h.last⟩

/-- One more transfer, which is whole. -/
theorem Transfers.snoc (h : Transfers bulk requests requests false) {request : BulkOut}
    (hwhole : Whole (bulk requests.length request) request) :
    Transfers bulk (requests ++ [request]) (requests ++ [request]) false where
  isPrefix := List.prefix_rfl
  whole k hk _ := by
    rw [List.length_append, List.length_singleton] at hk
    rcases Nat.lt_succ_iff_lt_or_eq.mp hk with hlt | rfl
    · rw [List.getElem_append_left hlt]
      exact h.whole k hlt (.inl rfl)
    · rw [List.getElem_concat_length rfl]
      exact hwhole
  complete _ := rfl
  last := nofun

/-- One more transfer, which is not. -/
theorem Transfers.fail (h : Transfers bulk requests requests false) {request : BulkOut}
    (hnot : ¬ Whole (bulk requests.length request) request) (rest : List BulkOut) :
    Transfers bulk (requests ++ request :: rest) (requests ++ [request]) true where
  isPrefix := ⟨rest, by rw [List.append_assoc, List.singleton_append]⟩
  whole k hk hlast := by
    have hlt : k < requests.length := by
      rw [List.length_append, List.length_singleton] at hlast
      exact Nat.lt_of_add_lt_add_right (hlast.resolve_left nofun)
    rw [List.getElem_append_left hlt]
    exact h.whole k hlt (.inl rfl)
  complete := nofun
  last _ := by
    refine ⟨List.concat_ne_nil _ _, ?_⟩
    rw [List.getLast_concat, List.length_append, List.length_singleton, Nat.add_sub_cancel]
    exact hnot

/-- The inner loop sends the frames of the list, up to a failure. -/
theorem Transfers.sendList (hsend : ∀ p ∈ frames, Sendable ch p.2)
    (h : Transfers bulk requests requests false) :
    let sent := Tools.sendList ch bulk requests frames
    Transfers bulk (requests ++ frames.map fun p => requestOf ch p.2) sent.1 sent.2.isSome := by
  induction frames generalizing requests with
  | nil =>
      rw [List.map_nil, List.append_nil]
      exact h
  | cons p frames ih =>
      obtain ⟨arg, frame⟩ := p
      obtain ⟨hrequest, hrc⟩ := (hsend _ List.mem_cons_self).gsusbChannelSend_eq
        (by decide : 1000 ≠ 0) (bulk requests.length)
      rw [Tools.sendList, List.map_cons]
      dsimp only
      rw [hrequest, Option.toList_some]
      by_cases hzero : (gsusbChannelSend ch frame 1000 (bulk requests.length)).1 = 0
      · rw [if_neg (not_not.mpr hzero), ← List.singleton_append, ← List.append_assoc]
        exact ih (fun q hq => hsend q (List.mem_cons_of_mem _ hq)) (h.snoc (hrc.mp hzero))
      · rw [if_pos hzero]
        exact h.fail (fun hwhole => hzero (hrc.mpr hwhole)) _

/-- The outer loop sends the list as often as it is told to, up to a failure. -/
theorem Transfers.sendRepeats (hsend : ∀ p ∈ frames, Sendable ch p.2) (intervalMs : UInt32)
    (count : ℕ) (run : SendRun) (hret : run.ret = 0)
    (h : Transfers bulk run.requests run.requests false) :
    let sent := Tools.sendRepeats ch bulk intervalMs frames count run
    Transfers bulk (run.requests ++
        (List.replicate count frames).flatten.map fun p => requestOf ch p.2)
      sent.requests (decide (sent.ret ≠ 0)) := by
  induction count generalizing run with
  | zero =>
      rw [Tools.sendRepeats, List.replicate_zero, List.flatten_nil, List.map_nil,
        List.append_nil]
      dsimp only
      rw [hret]
      exact h
  | succ count ih =>
      have hlist := h.sendList hsend
      rw [Tools.sendRepeats, List.replicate_succ, List.flatten_cons, List.map_append,
        ← List.append_assoc]
      dsimp only at hlist ⊢
      cases hsent : Tools.sendList ch bulk run.requests frames with
      | mk sent failed =>
          rw [hsent] at hlist
          cases failed with
          | none =>
              have hcomplete := hlist.complete rfl
              rw [← hcomplete] at hlist ⊢
              exact ih ⟨run.ret, run.stderr, sent, _⟩ hret hlist
          | some failed => exact hlist.append _

end Loops

section Tool

variable {α β : Type} {u : Ulong} {callocFrames : Bool} {o : ToolOptions}
  {repeats intervalMs : UInt32} {a : SetupAnswers} {bulk : ℕ → BulkOut → ℤ × ℕ}
  {args : List (List Char)} {run : SendRun} {n : ℕ} {dev : Dev n} {i : Fin n} {tool : String}
  {fdMode : Bool} {mode : UInt32} {host : Host n}

/-- A main that gets to its end got through each of its parts. -/
theorem Main.bind_eq_ok {x : Main α} {f : α → Main β} {y : β} :
    (x >>= f).run = some (.ok y) ↔ ∃ v, x.run = some (.ok v) ∧ (f v).run = some (.ok y) := by
  rw [ExceptT.run_bind]
  cases x.run with
  | none => exact ⟨nofun, fun ⟨_, h, _⟩ => nomatch h⟩
  | some result =>
      cases result with
      | error err => exact ⟨nofun, fun ⟨_, h, _⟩ => nomatch h⟩
      | ok v =>
          constructor
          · intro h
            exact ⟨v, rfl, h⟩
          · rintro ⟨v', hv, h⟩
            cases hv
            exact h

theorem exitIf_eq_ok {c : Prop} [Decidable c] {message : String} :
    (exitIf c message).run = some (.ok ()) ↔ ¬ c := by
  rw [exitIf]
  split_ifs with hc
  · exact ⟨nofun, fun h => absurd hc h⟩
  · exact ⟨fun _ => hc, fun _ => rfl⟩

/-- The frames are those of the arguments, in their order. -/
theorem parseFrames_eq_ok {frames : List (List Char × GsusbFrame)}
    (h : (parseFrames u args).run = some (.ok frames)) :
    List.Forall₂ (fun arg f => parseFrame u arg = some f) args (frames.map Prod.snd) := by
  induction args generalizing frames with
  | nil =>
      cases h
      exact .nil
  | cons arg args ih =>
      rw [parseFrames] at h
      cases hparse : parseFrame u arg with
      | none =>
          rw [hparse] at h
          cases h
      | some f =>
          rw [hparse] at h
          obtain ⟨rest, hrest, hcons⟩ := Main.bind_eq_ok.mp h
          cases hcons
          exact .cons hparse (ih hrest)

theorem exists_parsed {frames : List GsusbFrame} {f : GsusbFrame}
    (h : List.Forall₂ (fun arg f => parseFrame u arg = some f) args frames) (hf : f ∈ frames) :
    ∃ arg, parseFrame u arg = some f := by
  induction h with
  | nil => cases hf
  | cons hparse _ ih =>
      rcases List.mem_cons.mp hf with rfl | hf
      · exact ⟨_, hparse⟩
      · exact ih hf

/-- A channel that a tool has set up is started, can do what it was asked for, and is otherwise as
it was found. -/
theorem toolStart_eq_ok (h : (toolStart tool o a dev i fdMode mode).run = some (.ok host)) :
    host = ((Host.init dev).gsusbChannelStart i mode a.mode a.thread).2 ∧
      ((Host.init dev).gsusbChannelStart i mode a.mode a.thread).1 = 0 ∧
      (fdMode = true → (dev.channel i).hasFeature gsCanFeatureFd = true) := by
  obtain ⟨rc, started, hstart⟩ : ∃ rc started,
      (Host.init dev).gsusbChannelStart i mode a.mode a.thread = (rc, started) := ⟨_, _, rfl⟩
  rw [toolStart, hstart] at h
  obtain ⟨⟨⟩, hfeature, h⟩ := Main.bind_eq_ok.mp h
  obtain ⟨⟨rc', request⟩, -, h⟩ := Main.bind_eq_ok.mp h
  obtain ⟨⟨⟩, -, h⟩ := Main.bind_eq_ok.mp h
  obtain ⟨⟨⟩, -, h⟩ := Main.bind_eq_ok.mp h
  obtain ⟨⟨⟩, hrc, h⟩ := Main.bind_eq_ok.mp h
  cases h
  rw [hstart]
  refine ⟨rfl, not_not.mp (exitIf_eq_ok.mp hrc), fun hfd => ?_⟩
  cases hfd' : (dev.channel i).hasFeature gsCanFeatureFd with
  | false => exact absurd ⟨hfd, hfd'⟩ (exitIf_eq_ok.mp hfeature)
  | true => rfl

/-- A start that succeeds leaves its channel started. -/
theorem started_of_start {rc : ℤ} {thread : PthreadCreate}
    (h : (host.gsusbChannelStart i mode rc thread).1 = 0) :
    ((host.gsusbChannelStart i mode rc thread).2.dev.channel i).started = true := by
  by_cases hcheck : Host.startCheck host.dev i mode = 0
  · have hmark : ((host.dev.markStarted i).channel i).started = true := by
      rw [Dev.started_markStarted, decide_eq_true rfl, Bool.true_or]
    obtain ⟨hrc, hreader⟩ := (Host.gsusbChannelStart_fst_eq_zero_iff hcheck rc thread).mp h
    rcases Host.gsusbChannelStart_cases hcheck rc thread with
      ⟨hne, -⟩ | ⟨-, -, heq⟩ | ⟨-, hrunning, handle, rfl, -⟩ | ⟨-, -, -, heq⟩
    · exact absurd hrc hne
    · rw [heq]
      exact hmark
    · rw [hrunning] at hreader
      rcases hreader with hreader | hreader <;> cases hreader
    · rw [heq]
      exact hmark
  · rw [Host.gsusbChannelStart_of_check hcheck] at h
    exact absurd h hcheck

/-- What an adapter loops back of a sendable frame is that frame. -/
theorem Sendable.exists_looped (hprobed : dev.Probed) {f : GsusbFrame}
    (h : Sendable (dev.channel i) f) (t : UInt32) :
    ∃ got, rxDecode dev (loopBack (dev.channel i).hwTsEnabled t
          (requestOf (dev.channel i) f).buf) = .ok (some (i, got)) ∧
        LoopedBack (dev.channel i).hwTsEnabled t f got := by
  obtain ⟨request, got, -, hsent, hdecode, -, -, hlooped⟩ :=
    gsusbChannelSend_loopBack hprobed i h.started f h.feature h.fits t 1000 fun _ => (0, 0)
  rw [(h.gsusbChannelSend_eq (by decide : 1000 ≠ 0) _).1] at hsent
  cases hsent
  exact ⟨got, hdecode, hlooped⟩

/-- What `gsusb_send` has done when it gets to its loops: the arguments are frames, the channel is
started, and nothing but their transfers can keep the frames from being sent. -/
structure Prepared (u : Ulong) (o : ToolOptions) (a : SetupAnswers) (args : List (List Char))
    (frames : List GsusbFrame) (dev : Dev n) (i : Fin n) (started : Dev n) : Prop where
  parsed : List.Forall₂ (fun arg f => parseFrame u arg = some f) args frames
  channel_eq : toolChannel "gsusb_send" " on this device" a.init a.usb o.vid o.pid o.bus o.addr
    o.channel = .ok ⟨n, dev, i⟩
  started_eq : started = ((Host.init dev).gsusbChannelStart i
    (toolMode (sendFdMode o frames) o.loopback false) a.mode a.thread).2.dev
  probed : started.Probed
  sendable : ∀ f ∈ frames, Sendable (started.channel i) f

theorem prepared_of_gsusbSend
    (h : (gsusbSend u callocFrames o repeats intervalMs a bulk args).run = some (.ok run)) :
    ∃ (frames : List (List Char × GsusbFrame)) (n : ℕ) (dev : Dev n) (i : Fin n) (started : Dev n),
      Prepared u o a args (frames.map Prod.snd) dev i started ∧
        run = sendRepeats (started.channel i) bulk intervalMs frames repeats.toNat
          ⟨0, [], [], 0⟩ := by
  rw [gsusbSend] at h
  obtain ⟨⟨⟩, -, h⟩ := Main.bind_eq_ok.mp h
  obtain ⟨⟨⟩, -, h⟩ := Main.bind_eq_ok.mp h
  obtain ⟨frames, hframes, h⟩ := Main.bind_eq_ok.mp h
  dsimp only at h
  cases hchannel : toolChannel "gsusb_send" " on this device" a.init a.usb o.vid o.pid o.bus o.addr
      o.channel with
  | error err =>
      rw [hchannel] at h
      cases h
  | ok found =>
      obtain ⟨n, dev, i⟩ := found
      rw [hchannel] at h
      obtain ⟨host, hstart, h⟩ := Main.bind_eq_ok.mp h
      cases h
      obtain ⟨hhost, hzero, hfeature⟩ := toolStart_eq_ok hstart
      have hparsed := parseFrames_eq_ok hframes
      have hsetup := (Host.init dev).sameSetup_gsusbChannelStart i
        (toolMode (sendFdMode o (frames.map Prod.snd)) o.loopback false) a.mode a.thread
      have hstarted := started_of_start hzero
      rw [← hhost] at hsetup hstarted
      have hsend (f : GsusbFrame) (hf : f ∈ frames.map Prod.snd) :
          Sendable (host.dev.channel i) f := by
        obtain ⟨arg, hparse⟩ := exists_parsed hparsed hf
        refine ⟨hstarted, fun hfd => ?_, parseFrame_fits hparse⟩
        rw [hsetup.hasFeature_eq]
        exact hfeature (Bool.or_eq_true_iff.mpr (.inr (List.any_eq_true.mpr ⟨f, hf, hfd⟩)))
      exact ⟨frames, n, dev, i, host.dev, ⟨hparsed, hchannel, congrArg Host.dev hhost,
        hsetup.probed (opened_of_toolChannel hchannel).toProbed, hsend⟩, rfl⟩

/-- The transfers of a prepared run are the frames, the whole list as often as asked for. -/
theorem Prepared.transfers {frames : List (List Char × GsusbFrame)} {n : ℕ} {dev started : Dev n}
    {i : Fin n} (h : Prepared u o a args (frames.map Prod.snd) dev i started)
    (bulk : ℕ → BulkOut → ℤ × ℕ) (repeats intervalMs : UInt32) :
    let run := sendRepeats (started.channel i) bulk intervalMs frames repeats.toNat ⟨0, [], [], 0⟩
    Transfers bulk ((List.replicate repeats.toNat (frames.map Prod.snd)).flatten.map
      (requestOf (started.channel i))) run.requests (decide (run.ret ≠ 0)) := by
  have htransfers := (Transfers.nil bulk).sendRepeats
    (fun p hp => h.sendable p.2 (List.mem_map_of_mem hp)) intervalMs repeats.toNat
    ⟨0, [], [], 0⟩ rfl
  rw [← List.map_replicate, ← List.map_flatten, List.map_map]
  exact htransfers

/-- What a run of the loops has to do with the arguments.  Every argument is a frame, and the
transfers are those frames, in their order, the whole list as often as asked for.  The exit code is
zero exactly if all of them went through; else nothing follows the one that failed.  What an adapter
loops back of a packet is the frame that was asked for. -/
def SendsArguments (u : Ulong) (o : ToolOptions) (repeats : UInt32) (a : SetupAnswers)
    (bulk : ℕ → BulkOut → ℤ × ℕ) (args : List (List Char)) (run : SendRun) : Prop :=
  ∃ (frames : List GsusbFrame) (n : ℕ) (dev : Dev n) (i : Fin n),
    List.Forall₂ (fun arg f => parseFrame u arg = some f) args frames ∧
    toolChannel "gsusb_send" " on this device" a.init a.usb o.vid o.pid o.bus o.addr o.channel =
      .ok ⟨n, dev, i⟩ ∧
    let mode := toolMode (sendFdMode o frames) o.loopback false
    let started := ((Host.init dev).gsusbChannelStart i mode a.mode a.thread).2.dev
    let ch := started.channel i
    Transfers bulk ((List.replicate repeats.toNat frames).flatten.map (requestOf ch))
        run.requests (decide (run.ret ≠ 0)) ∧
      ∀ f ∈ frames, ∀ t, ∃ got,
        rxDecode started (loopBack ch.hwTsEnabled t (requestOf ch f).buf) = .ok (some (i, got)) ∧
          LoopedBack ch.hwTsEnabled t f got

/-- **`gsusb_send` from its arguments to the wire.**  Whenever it gets to its loops, it sends the
frames of its arguments, and no send fails but for its transfer.  A packet that comes back as a
received frame is decoded as the frame that was asked for, with the payload of an FD frame filled up
to the next length there is. -/
theorem gsusbSend_sendsArguments
    (h : (gsusbSend u callocFrames o repeats intervalMs a bulk args).run = some (.ok run)) :
    SendsArguments u o repeats a bulk args run := by
  obtain ⟨frames, n, dev, i, started, hprepared, rfl⟩ := prepared_of_gsusbSend h
  refine ⟨frames.map Prod.snd, n, dev, i, hprepared.parsed, hprepared.channel_eq, ?_⟩
  dsimp only
  rw [← hprepared.started_eq]
  exact ⟨hprepared.transfers bulk repeats intervalMs,
    fun f hf t => (hprepared.sendable f hf).exists_looped hprepared.probed t⟩

/-- Two frames in loopback mode. -/
def shortOptions : ToolOptions := ⟨0, 0, -1, -1, 0, 500000, 2000000, false, true⟩

def shortAnswers : SetupAnswers := ⟨0, fun _ => clock48Adapter, 20, 20, 8, .created⟩

/-- The third transfer is cut short. -/
def shortBulk (k : ℕ) (b : BulkOut) : ℤ × ℕ := (0, if k = 2 then 0 else b.buf.length)

def shortArgs : List (List Char) := ["123#DEADBEEF".toList, "18FF0102#R".toList]

theorem exists_run_short :
    ∃ run, (gsusbSend ⟨64, by decide⟩ true shortOptions 2 10 shortAnswers shortBulk shortArgs).run =
        some (.ok run) ∧ run.ret = 1 ∧ run.requests.length = 3 := by
  have hdone : ((gsusbSend ⟨64, by decide⟩ true shortOptions 2 10 shortAnswers shortBulk
      shortArgs).run.bind Except.toOption).any
        (fun run => run.ret = 1 ∧ run.requests.length = 3) = true := by
    decide +kernel
  cases hrun : (gsusbSend ⟨64, by decide⟩ true shortOptions 2 10 shortAnswers shortBulk
      shortArgs).run with
  | none =>
      rw [hrun] at hdone
      cases hdone
  | some result =>
      rw [hrun] at hdone
      cases result with
      | error err => cases hdone
      | ok run => exact ⟨run, rfl, of_decide_eq_true hdone⟩

/-- Two frames, sent twice; the third transfer is cut short. -/
theorem gsusbSend_sendsArguments_short :
    ∃ run, run.ret = 1 ∧ run.requests.length = 3 ∧
      SendsArguments ⟨64, by decide⟩ shortOptions 2 shortAnswers shortBulk shortArgs run := by
  obtain ⟨run, hrun, hret, hlength⟩ := exists_run_short
  exact ⟨run, hret, hlength, gsusbSend_sendsArguments hrun⟩

end Tool

end GsUsb.Tools
