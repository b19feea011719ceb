/-
# From the arguments of `gsusb_send` to the lines of `gsusb_dump`

What `gsusb_send` sends for its arguments, and an adapter loops back, is shown by `gsusb_dump` as
what the arguments say: in their order, with the data filled up to the next length of an FD frame.
-/

import GsUsb.Tools.Dump
import GsUsb.Tools.Transmit

namespace GsUsb.Tools

open GsUsb.Driver

section Shown

variable {channel : UInt32} {f got : GsusbFrame} {hwTsEnabled : Bool} {t : UInt32}

/-- A line shows a frame that was sent. -/
structure ShowsSent (channel : UInt32) (f : GsusbFrame) (line : ShownFrame) : Prop where
  channel_eq : line.channel = channel.toNat
  extended_eq : line.extended = isEff f.canId
  id_eq : line.id = (f.canId &&& Driver.idMask (isEff f.canId)).toNat
  err_eq : line.err = isErr f.canId
  kind_eq : line.kind =
    if sendIsFd f then .fd (f.flags &&& gsusbFrameBrs ≠ 0) (f.flags &&& gsusbFrameEsi ≠ 0)
    else .classic (if sendIsRtr f then 0 else f.len.toNat)
  data_remote : isRtr f.canId = true → line.data = none
  data_eq : isRtr f.canId = false → ∃ k,
    line.data = some (f.data.toList.take f.len.toNat ++ List.replicate k 0) ∧
      if sendIsFd f then IsLeast {l | l ∈ fdLens ∧ f.len.toNat ≤ l} (f.len.toNat + k) else k = 0

/-- A mask that has a flag keeps it. -/
theorem and_mask_and_flag {mask flag : UInt8} (hflag : mask &&& flag = flag) (flags : UInt8) :
    flags &&& mask &&& flag = flags &&& flag := by
  rw [UInt8.and_assoc, hflag]

theorem le_of_mem_fdLens {l : ℕ} (hl : l ∈ fdLens) : l ≤ gsusbMaxDlen := by
  have hall : ∀ l ∈ fdLens, l ≤ gsusbMaxDlen := by decide
  exact hall l hl

/-- What is left of the payload of a frame that comes back. -/
theorem data_of_loopedBack (h : LoopedBack hwTsEnabled t f got) (hrtr : sendIsRtr f = false)
    (hle : f.len.toNat ≤ got.len.toNat) (hmax : got.len.toNat ≤ gsusbMaxDlen) :
    got.data.toList.take got.len.toNat =
      f.data.toList.take f.len.toNat ++ List.replicate (got.len.toNat - f.len.toNat) 0 := by
  apply List.ext_getElem
  · simp
    omega
  · intro k hk hk'
    have hkmax : k < gsusbMaxDlen := by simp at hk; omega
    have hdata := h.data_eq k hkmax
    rw [List.getElem_take, Vector.getElem_toList, hdata]
    by_cases hlt : k < f.len.toNat
    · rw [if_pos ⟨hrtr, hlt⟩, List.getElem_append_left (by simp; omega)]
      simp
    · rw [if_neg fun hcond => hlt hcond.2, List.getElem_append_right (by simp; omega)]
      simp

/-- **One frame.**  The line of a frame that comes back shows the frame that was sent. -/
theorem showsSent_of_loopedBack (h : LoopedBack hwTsEnabled t f got)
    (hfits : f.len.toNat ≤ if sendIsFd f then 64 else 8) :
    ShowsSent channel f (shown channel got) := by
  have hfdFlag : got.flags &&& gsusbFrameFd = f.flags &&& gsusbFrameFd := by
    rw [h.flags_eq, and_mask_and_flag (by decide)]
  have hbrsFlag : got.flags &&& gsusbFrameBrs = f.flags &&& gsusbFrameBrs := by
    rw [h.flags_eq, and_mask_and_flag (by decide)]
  have hesiFlag : got.flags &&& gsusbFrameEsi = f.flags &&& gsusbFrameEsi := by
    rw [h.flags_eq, and_mask_and_flag (by decide)]
  have hisFd : sendIsFd f = true ↔ f.flags &&& gsusbFrameFd ≠ 0 := decide_eq_true_iff
  refine ⟨rfl, ?_, ?_, ?_, ?_, ?_, ?_⟩
  · rw [shown, h.canId_eq]
  · rw [shown, h.canId_eq]
  · rw [shown, h.canId_eq]
  · rw [shown, hfdFlag, hbrsFlag, hesiFlag]
    by_cases hfd : sendIsFd f = true
    · rw [if_pos (hisFd.mp hfd), if_pos hfd]
    · rw [if_neg (mt hisFd.mpr hfd), if_neg hfd, h.len_classic (Bool.not_eq_true _ ▸ hfd)]
      split_ifs <;> rfl
  · intro hrtr
    rw [shown, h.canId_eq, if_pos hrtr]
  · intro hrtr
    have hsendRtr : sendIsRtr f = false := by
      have hflag : decide (f.canId &&& gsusbRtrFlag ≠ 0) = false := hrtr
      rw [sendIsRtr, hflag, Bool.and_false]
    rw [shown, h.canId_eq, if_neg (Bool.eq_false_iff.mp hrtr)]
    by_cases hfd : sendIsFd f = true
    · have hleast := h.len_fd hfd
      refine ⟨got.len.toNat - f.len.toNat, congrArg some (data_of_loopedBack h hsendRtr
        hleast.1.2 (le_of_mem_fdLens hleast.1.1)), ?_⟩
      rw [if_pos hfd, Nat.add_sub_cancel' hleast.1.2]
      exact hleast
    · have hlen := h.len_classic (Bool.not_eq_true _ ▸ hfd)
      rw [hsendRtr, if_neg Bool.false_ne_true] at hlen
      rw [if_neg hfd] at hfits
      refine ⟨0, ?_, if_neg hfd ▸ rfl⟩
      rw [data_of_loopedBack h hsendRtr (by rw [hlen])
        (by rw [hlen]; exact hfits.trans (by decide)), hlen, Nat.sub_self]

theorem len_le_of_loopedBack (h : LoopedBack hwTsEnabled t f got)
    (hfits : f.len.toNat ≤ if sendIsFd f then 64 else 8) : got.len.toNat ≤ gsusbMaxDlen := by
  by_cases hfd : sendIsFd f = true
  · exact le_of_mem_fdLens (h.len_fd hfd).1.1
  · rw [h.len_classic (Bool.not_eq_true _ ▸ hfd)]
    rw [if_neg hfd] at hfits
    split_ifs
    · exact Nat.zero_le _
    · exact hfits.trans (by decide)

end Shown

section Run

variable {u : Ulong} {o : ToolOptions} {repeats intervalMs : UInt32} {a : SetupAnswers}
  {bulk : ℕ → BulkOut → ℤ × ℕ} {args : List (List Char)} {callocFrames : Bool} {run : SendRun}

/-- A line shows what an argument says. -/
def ShowsArgument (u : Ulong) (channel : UInt32) (arg : List Char) (line : ShownFrame) : Prop :=
  ∃ f, parseFrame u arg = some f ∧ ShowsSent channel f line

/-- The received frames that an adapter makes of some requests, at these times. -/
def packetsBack (hwTsEnabled : Bool) (times : List UInt32) (requests : List BulkOut) : List Bytes :=
  List.zipWith (fun t request => loopBack hwTsEnabled t request.buf) times requests

theorem forall₂_replicate {α β : Type} {R : α → β → Prop} {as : List α} {bs : List β}
    (h : List.Forall₂ R as bs) (k : ℕ) :
    List.Forall₂ (List.Forall₂ R) (List.replicate k as) (List.replicate k bs) := by
  induction k with
  | zero => exact .nil
  | succ k ih => exact .cons h ih

/-- The frames that come back, one after the other. -/
theorem exists_cameBack {n : ℕ} {started : Dev n} {i : Fin n} (hprobed : started.Probed)
    {frames : List GsusbFrame} (hsend : ∀ f ∈ frames, Sendable (started.channel i) f)
    (hparsed : List.Forall₂ (fun arg f => parseFrame u arg = some f) args frames)
    (times : List UInt32) (hlen : times.length = frames.length) (channel : UInt32) :
    ∃ gots,
      List.Forall₂ (fun packet got => rxDecode started packet = .ok (some (i.val, got)))
        (packetsBack (started.channel i).hwTsEnabled times
          (frames.map (requestOf (started.channel i)))) gots ∧
      List.Forall₂ (ShowsArgument u channel) args (gots.map (shown channel)) ∧
      ∀ got ∈ gots, got.len.toNat ≤ gsusbMaxDlen := by
  induction hparsed generalizing times with
  | nil =>
      cases times with
      | nil => exact ⟨[], .nil, .nil, fun got hgot => by cases hgot⟩
      | cons t times => cases hlen
  | @cons arg f args frames hparse _ ih =>
      cases times with
      | nil => cases hlen
      | cons t times =>
          have hf := hsend f List.mem_cons_self
          obtain ⟨got, hdecode, hlooped⟩ := hf.exists_looped hprobed t
          obtain ⟨gots, hdecodes, hshows, hmax⟩ := ih
            (fun g hg => hsend g (List.mem_cons_of_mem f hg)) times (Nat.succ.inj hlen)
          refine ⟨got :: gots, .cons hdecode hdecodes,
            .cons ⟨f, hparse, showsSent_of_loopedBack hlooped hf.fits⟩ hshows, ?_⟩
          exact List.forall_mem_cons.mpr ⟨len_le_of_loopedBack hlooped hf.fits, hmax⟩

/-- What is asked of a run of `gsusb_send` and a dump of what comes back for its requests.  The
requests are decoded one by one, and the lines of the dump show the arguments, the whole list as
often as asked for, up to a transfer that failed. -/
def DumpsArguments (u : Ulong) (o : ToolOptions) (repeats : UInt32) (a : SetupAnswers)
    (args : List (List Char)) (run : SendRun) : Prop :=
  ∃ (frames : List GsusbFrame) (n : ℕ) (dev : Dev n) (i : Fin n),
    List.Forall₂ (fun arg f => parseFrame u arg = some f) args frames ∧
    toolChannel "gsusb_send" " on this device" a.init a.usb o.vid o.pid o.bus o.addr o.channel =
      .ok ⟨n, dev, i⟩ ∧
    let mode := toolMode (sendFdMode o frames) o.loopback false
    let started := ((Host.init dev).gsusbChannelStart i mode a.mode a.thread).2.dev
    ∀ times : List UInt32, times.length = run.requests.length → ∃ gots text,
      List.Forall₂ (fun packet got => rxDecode started packet = .ok (some (i.val, got)))
        (packetsBack (started.channel i).hwTsEnabled times run.requests) gots ∧
      dumpLoop (.ofNat i) (gots.map fun got => (1, got)) = .ok text ∧
      List.Forall₂ (ShowsArgument u (.ofNat i))
        ((List.replicate repeats.toNat args).flatten.take run.requests.length) (readDump text)

/-- **From the command line to the dump.**  The lines read back as the arguments, with the payload
of an FD frame filled up to the next length there is. -/
theorem gsusbSend_dumpsArguments
    (h : (gsusbSend u callocFrames o repeats intervalMs a bulk args).run = some (.ok run)) :
    DumpsArguments u o repeats a args run := by
  obtain ⟨frames, n, dev, i, started, hprepared, rfl⟩ := prepared_of_gsusbSend h
  refine ⟨frames.map Prod.snd, n, dev, i, hprepared.parsed, hprepared.channel_eq, ?_⟩
  dsimp only
  rw [← hprepared.started_eq]
  intro times hlen
  have htransfers := hprepared.transfers bulk repeats intervalMs
  dsimp only at htransfers
  generalize sendRepeats (started.channel i) bulk intervalMs frames repeats.toNat
    ⟨0, [], [], 0⟩ = run at hlen htransfers ⊢
  -- the requests are those of the first frames of all that are due
  have hrequests := List.prefix_iff_eq_take.mp htransfers.isPrefix
  rw [← List.map_take] at hrequests
  have hsend : ∀ f ∈ (List.replicate repeats.toNat (frames.map Prod.snd)).flatten.take
      run.requests.length, Sendable (started.channel i) f := by
    intro f hf
    obtain ⟨list, hlist, hf⟩ := List.mem_flatten.mp (List.mem_of_mem_take hf)
    exact hprepared.sendable f ((List.mem_replicate.mp hlist).2 ▸ hf)
  have hparsed := List.forall₂_take run.requests.length
    (List.rel_flatten (forall₂_replicate hprepared.parsed repeats.toNat))
  have hlength := congrArg List.length hrequests
  rw [List.length_map] at hlength
  obtain ⟨gots, hdecodes, hshows, hmax⟩ := exists_cameBack hprepared.probed hsend hparsed times
    (hlen.trans hlength) (.ofNat i)
  rw [← hrequests] at hdecodes
  have hdumped : ∀ f ∈ dumped (gots.map fun got => (1, got)), f.len.toNat ≤ gsusbMaxDlen := by
    rwa [dumped_map_one]
  obtain ⟨text, hloop, hread⟩ := exists_dumpLoop (.ofNat i) hdumped
  rw [dumped_map_one] at hread
  exact ⟨gots, text, hdecodes, hloop, hread ▸ hshows⟩

/-- Two frames, sent twice; what comes back for three transfers is dumped. -/
theorem gsusbSend_dumpsArguments_short :
    ∃ run, run.requests.length = 3 ∧
      DumpsArguments ⟨64, by decide⟩ shortOptions 2 shortAnswers shortArgs run := by
  obtain ⟨run, hrun, -, hlength⟩ := exists_run_short
  exact ⟨run, hlength, gsusbSend_dumpsArguments hrun⟩

end Run

end GsUsb.Tools
