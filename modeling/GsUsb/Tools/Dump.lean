/-
# `gsusb_dump`

`print_frame` and the loop that calls it.  A line shows a frame but for what its kind makes
meaningless, and what was shown can be read back from the output.
-/

import GsUsb.Driver.CanId
import GsUsb.Driver.Traffic
import GsUsb.Math.Printf

namespace GsUsb.Tools

open GsUsb.Driver GsUsb.Math

/-- `print_frame` up to the newline.  The quotient in seconds is taken as it is: as a `double` it
is closer to it than six decimals can tell. -/
def frameText (channel : UInt32) (f : GsusbFrame) : Except Fault (List Char) :=
  let eff := isEff f.canId
  let id := f.canId &&& idMask eff
  let rtr := isRtr f.canId
  let fd : Bool := f.flags &&& gsusbFrameFd ≠ 0
  let timestamp :=
    if f.timestampUs ≠ 0 ∨ fd then '(' :: paddedSeconds 10 f.timestampUs.toNat ++ [')', ' '] else []
  let address := ['c', 'a', 'n'] ++ decimal channel.toNat ++ [' ', ' '] ++
    paddedHex (if eff then 8 else 3) id.toNat ++ [' ', ' ']
  let tag := if isErr f.canId then ['E', 'R', 'R'] else if rtr then ['R'] else []
  let kind :=
    if fd then
      ['#', if f.flags &&& gsusbFrameBrs ≠ 0 then 'B' else '-',
        if f.flags &&& gsusbFrameEsi ≠ 0 then 'E' else '-']
    else '[' :: decimal f.len.toNat ++ [']']
  if rtr then .ok (timestamp ++ address ++ tag ++ kind)
  else if f.len.toNat > gsusbMaxDlen then .error (.readByte gsusbMaxDlen)
  else
    .ok (timestamp ++ address ++ tag ++ kind ++
      ' ' :: spacedHex (f.data.toList.take f.len.toNat))

/-- `print_frame`. -/
def printFrame (channel : UInt32) (f : GsusbFrame) : Except Fault (List Char) := do
  let text ← frameText channel f
  return text ++ ['\n']

/-- The loop of `gsusb_dump`: what it prints, if the calls of `gsusb_channel_recv` return these
codes and leave these frames, until the tool is told to stop. -/
def dumpLoop (channel : UInt32) : List (ℤ × GsusbFrame) → Except Fault (List Char)
  | [] => .ok []
  | (r, f) :: results =>
    if r > 0 then do
      let line ← printFrame channel f
      let lines ← dumpLoop channel results
      return line ++ lines
    else if r < 0 then .ok []
    else dumpLoop channel results

/-- The frames the loop gets before it is told to stop or a call fails. -/
def dumped (results : List (ℤ × GsusbFrame)) : List GsusbFrame :=
  ((results.takeWhile (0 ≤ ·.1)).filter (0 < ·.1)).map Prod.snd

section Dumped

variable (f : GsusbFrame) (results : List (ℤ × GsusbFrame)) {r : ℤ}

/-- A timeout. -/
theorem dumped_cons_of_zero : dumped ((0, f) :: results) = dumped results := by
  simp [dumped]

/-- An error. -/
theorem dumped_cons_of_neg (hr : r < 0) : dumped ((r, f) :: results) = [] := by
  simp [dumped, hr]

/-- A frame. -/
theorem dumped_cons_of_pos (hr : 0 < r) : dumped ((r, f) :: results) = f :: dumped results := by
  simp [dumped, hr, hr.le]

theorem dumped_map_one (frames : List GsusbFrame) :
    dumped (frames.map fun f => (1, f)) = frames := by
  induction frames with
  | nil => rfl
  | cons f frames ih => rw [List.map_cons, dumped_cons_of_pos f _ one_pos, ih]

end Dumped

/-- What there is between the id and the data. -/
inductive ShownKind
  | fd (brs esi : Bool)
  | classic (len : ℕ)
  deriving DecidableEq

/-- What a line of the dump says. -/
structure ShownFrame where
  timestampUs : Option ℕ
  channel : ℕ
  extended : Bool
  id : ℕ
  err : Bool
  kind : ShownKind
  /-- None for a remote frame. -/
  data : Option Bytes
  deriving DecidableEq

/-- What is shown of a frame. -/
def shown (channel : UInt32) (f : GsusbFrame) : ShownFrame where
  timestampUs :=
    if f.timestampUs ≠ 0 ∨ f.flags &&& gsusbFrameFd ≠ 0 then some f.timestampUs.toNat else none
  channel := channel.toNat
  extended := isEff f.canId
  id := (f.canId &&& idMask (isEff f.canId)).toNat
  err := isErr f.canId
  kind :=
    if f.flags &&& gsusbFrameFd ≠ 0
    then .fd (f.flags &&& gsusbFrameBrs ≠ 0) (f.flags &&& gsusbFrameEsi ≠ 0)
    else .classic f.len.toNat
  data := if isRtr f.canId then none else some (f.data.toList.take f.len.toNat)

/-! ## Reading a dump -/

def readTimestamp : List Char → Option ℕ × List Char
  | '(' :: s =>
    let (t, s) := readSeconds s
    (some t, s.drop 2)
  | s => (none, s)

def readTag : List Char → Bool × List Char
  | 'E' :: 'R' :: 'R' :: s => (true, s)
  | 'R' :: s => (false, s)
  | s => (false, s)

def readKind : List Char → ShownKind × List Char
  | '#' :: brs :: esi :: s => (.fd (brs = 'B') (esi = 'E'), s)
  | s =>
    let (len, s) := readDecimal (s.drop 1)
    (.classic len, s.drop 1)

def readData : List Char → Option Bytes
  | ' ' :: s => some (readSpacedHex s)
  | _ => none

/-- Read a line of a dump. -/
def readLine (s : List Char) : ShownFrame :=
  let (timestampUs, s) := readTimestamp s
  let (channel, s) := readDecimal (s.drop 3)
  let ((id, digits), s) := readHex (s.drop 2)
  let (err, s) := readTag (s.drop 2)
  let (kind, s) := readKind s
  ⟨timestampUs, channel, digits = 8, id, err, kind, readData s⟩

/-- Read a whole dump. -/
def readDump (text : List Char) : List ShownFrame := (textLines text).map readLine

section RoundTrip

variable {channel : UInt32} {f : GsusbFrame} {s : List Char}

theorem readTimestamp_timestamp {p : Prop} [Decidable p] (t : ℕ) (hs : ∀ c ∈ s.head?, c ≠ '(') :
    readTimestamp ((if p then '(' :: paddedSeconds 10 t ++ [')', ' '] else []) ++ s) =
      (if p then some t else none, s) := by
  split_ifs
  · have hend : EndsBefore Char.isDigit (')' :: ' ' :: s) := endsBefore_cons (by decide) _
    rw [List.cons_append, List.cons_append, List.append_assoc, readTimestamp, List.cons_append,
      List.cons_append, List.nil_append, readSeconds_paddedSeconds hend]
    rfl
  · rw [List.nil_append]
    cases s with
    | nil => rfl
    | cons c s =>
        rw [readTimestamp]
        intro s' heq
        cases heq
        exact hs _ rfl rfl

theorem readTag_tag (err rtr : Bool) (hs : ∀ c ∈ s.head?, c = '#' ∨ c = '[') :
    readTag ((if err then ['E', 'R', 'R'] else if rtr then ['R'] else []) ++ s) = (err, s) := by
  cases err with
  | true => rfl
  | false =>
      cases rtr with
      | true => rfl
      | false =>
          cases s with
          | nil => rfl
          | cons c s =>
              rcases hs c rfl with rfl | rfl <;> rfl

theorem readKind_kind (fd : Bool) (brs esi : Prop) [Decidable brs] [Decidable esi] (len : ℕ)
    (s : List Char) :
    readKind ((if fd then ['#', if brs then 'B' else '-', if esi then 'E' else '-']
        else '[' :: decimal len ++ [']']) ++ s) =
      (if fd then .fd (decide brs) (decide esi) else .classic len, s) := by
  cases fd with
  | true =>
      by_cases hbrs : brs <;> by_cases hesi : esi <;> simp [readKind, hbrs, hesi]
  | false =>
      have hend : EndsBefore Char.isDigit (']' :: s) := endsBefore_cons (by decide) _
      simp only [Bool.false_eq_true, if_false, List.cons_append, List.append_assoc,
        List.nil_append]
      rw [readKind]
      · rw [List.drop_one, List.tail_cons, readDecimal_decimal hend]
        rfl
      · intro _ _ _ heq
        cases heq

/-- The text of a frame whose data can be read, part by part. -/
theorem frameText_eq (channel : UInt32) (hlen : f.len.toNat ≤ gsusbMaxDlen) :
    frameText channel f = .ok
      ((if f.timestampUs ≠ 0 ∨ f.flags &&& gsusbFrameFd ≠ 0
          then '(' :: paddedSeconds 10 f.timestampUs.toNat ++ [')', ' '] else []) ++
        ('c' :: 'a' :: 'n' :: (decimal channel.toNat ++ (' ' :: ' ' ::
          (paddedHex (if isEff f.canId then 8 else 3) (f.canId &&& idMask (isEff f.canId)).toNat ++
            (' ' :: ' ' ::
              ((if isErr f.canId then ['E', 'R', 'R'] else if isRtr f.canId then ['R'] else []) ++
                ((if decide (f.flags &&& gsusbFrameFd ≠ 0) then
                    ['#', if f.flags &&& gsusbFrameBrs ≠ 0 then 'B' else '-',
                      if f.flags &&& gsusbFrameEsi ≠ 0 then 'E' else '-']
                  else '[' :: decimal f.len.toNat ++ [']']) ++
                  (if isRtr f.canId then []
                    else ' ' :: spacedHex (f.data.toList.take f.len.toNat)))))))))) := by
  simp only [frameText, decide_eq_true_eq, if_neg (not_lt.mpr hlen)]
  cases isRtr f.canId with
  | true => simp [List.append_assoc]
  | false => simp [List.append_assoc]

/-- The id has as many digits as its kind of frame has. -/
theorem shownId_lt (canId : UInt32) :
    (canId &&& idMask (isEff canId)).toNat < 16 ^ (if isEff canId then 8 else 3) := by
  cases isEff canId with
  | true => exact UInt32.toNat_lt _
  | false =>
      rw [UInt32.toNat_and]
      exact Nat.and_lt_two_pow _ (by decide : (idMask false).toNat < 2 ^ 12)

/-- A line is read part by part. -/
theorem readLine_eq {t : Option ℕ} {ch id digits : ℕ} {err : Bool} {kind : ShownKind}
    {s₁ s₂ s₃ s₄ s₅ : List Char} (hts : readTimestamp s = (t, s₁))
    (hch : readDecimal (s₁.drop 3) = (ch, s₂)) (hid : readHex (s₂.drop 2) = ((id, digits), s₃))
    (htag : readTag (s₃.drop 2) = (err, s₄)) (hkind : readKind s₄ = (kind, s₅))
    {line : ShownFrame} (hline : ⟨t, ch, digits = 8, id, err, kind, readData s₅⟩ = line) :
    readLine s = line := by
  simp only [readLine, hts, hch, hid, htag, hkind, hline]

/-- The line of a frame says what is shown of it. -/
theorem readLine_of_frameText (hlen : f.len.toNat ≤ gsusbMaxDlen) {text : List Char}
    (htext : frameText channel f = .ok text) : readLine text = shown channel f := by
  rw [frameText_eq channel hlen] at htext
  cases htext
  have hblank (p : Char → Bool) (hp : p ' ' = false) (s : List Char) :
      EndsBefore p (' ' :: s) := endsBefore_cons hp s
  have hstart (s : List Char) : ∀ c ∈ ('c' :: s).head?, c ≠ '(' := by
    rintro c ⟨⟩
    decide
  have hwidth : 0 < (if isEff f.canId then 8 else 3 : ℕ) := by split_ifs <;> decide
  have hdigits : (if isEff f.canId then 8 else 3 : ℕ) = 8 ↔ isEff f.canId = true := by
    cases isEff f.canId <;> decide
  have hkind (fd : Bool) (rest : List Char) : ∀ c ∈ ((if fd then
      ['#', if f.flags &&& gsusbFrameBrs ≠ 0 then 'B' else '-',
        if f.flags &&& gsusbFrameEsi ≠ 0 then 'E' else '-']
      else '[' :: decimal f.len.toNat ++ [']']) ++ rest).head?, c = '#' ∨ c = '[' := by
    intro c hc
    cases fd with
    | true => exact .inl (Option.some.inj hc).symm
    | false => exact .inr (Option.some.inj hc).symm
  have hdata : readData (if isRtr f.canId then []
      else ' ' :: spacedHex (f.data.toList.take f.len.toNat)) =
      if isRtr f.canId then none else some (f.data.toList.take f.len.toNat) := by
    cases isRtr f.canId with
    | true => rfl
    | false => exact congrArg some (readSpacedHex_spacedHex _)
  apply readLine_eq
  case hts => exact readTimestamp_timestamp _ (hstart _)
  case hch => exact readDecimal_decimal (hblank _ rfl _)
  case hid => exact readHex_paddedHex hwidth (shownId_lt _) (hblank _ rfl _)
  case htag => exact readTag_tag _ _ (hkind _ _)
  case hkind => exact readKind_kind _ _ _ _ _
  simp only [shown, hdigits, hdata, decide_eq_true_eq, Bool.decide_eq_true]

/-- A line is one line. -/
theorem newline_notMem_frameText (hlen : f.len.toNat ≤ gsusbMaxDlen) {text : List Char}
    (htext : frameText channel f = .ok text) : '\n' ∉ text := by
  rw [frameText_eq channel hlen] at htext
  cases htext
  have hts : '\n' ∉ (if f.timestampUs ≠ 0 ∨ f.flags &&& gsusbFrameFd ≠ 0
      then '(' :: paddedSeconds 10 f.timestampUs.toNat ++ [')', ' '] else []) := by
    split_ifs
    · simp [newline_notMem_paddedSeconds]
    · exact List.not_mem_nil
  have htag : '\n' ∉ (if isErr f.canId then ['E', 'R', 'R']
      else if isRtr f.canId then ['R'] else []) := by
    split_ifs <;> decide
  have hkind : '\n' ∉ (if decide (f.flags &&& gsusbFrameFd ≠ 0) then
      ['#', if f.flags &&& gsusbFrameBrs ≠ 0 then 'B' else '-',
        if f.flags &&& gsusbFrameEsi ≠ 0 then 'E' else '-']
      else '[' :: decimal f.len.toNat ++ [']']) := by
    by_cases hfd : f.flags &&& gsusbFrameFd ≠ 0
    · rw [if_pos (decide_eq_true hfd)]
      split_ifs <;> decide
    · rw [if_neg (by simpa using hfd)]
      simp [newline_notMem_decimal]
  have hdata : '\n' ∉ (if isRtr f.canId then []
      else ' ' :: spacedHex (f.data.toList.take f.len.toNat)) := by
    split_ifs
    · exact List.not_mem_nil
    · simp [newline_notMem_spacedHex]
  have hchannel := newline_notMem_decimal channel.toNat
  have hid := newline_notMem_paddedHex (if isEff f.canId then 8 else 3)
    (f.canId &&& idMask (isEff f.canId)).toNat
  have hne : '\n' ≠ 'c' ∧ '\n' ≠ 'a' ∧ '\n' ≠ 'n' ∧ '\n' ≠ ' ' := by decide
  simp only [List.mem_append, List.mem_cons, not_or]
  exact ⟨hts, hne.1, hne.2.1, hne.2.2.1, hchannel, hne.2.2.2, hne.2.2.2, hid, hne.2.2.2,
    hne.2.2.2, htag, hkind, hdata⟩

theorem readDump_printFrame (channel : UInt32) (hlen : f.len.toNat ≤ gsusbMaxDlen)
    (rest : List Char) :
    ∃ line, printFrame channel f = .ok line ∧
      readDump (line ++ rest) = shown channel f :: readDump rest := by
  have htext := frameText_eq channel hlen
  refine ⟨_, by rw [printFrame, htext]; rfl, ?_⟩
  rw [List.append_assoc, readDump, List.singleton_append,
    textLines_append (newline_notMem_frameText hlen htext), List.map_cons,
    readLine_of_frameText hlen htext]
  rfl

/-- The loop prints a line for each frame it gets, and nothing else. -/
theorem exists_dumpLoop (channel : UInt32) {results : List (ℤ × GsusbFrame)}
    (hlen : ∀ f ∈ dumped results, f.len.toNat ≤ gsusbMaxDlen) :
    ∃ text, dumpLoop channel results = .ok text ∧
      readDump text = (dumped results).map (shown channel) := by
  induction results with
  | nil => exact ⟨[], rfl, rfl⟩
  | cons result results ih =>
      obtain ⟨r, f⟩ := result
      rcases lt_trichotomy r 0 with hr | rfl | hr
      · refine ⟨[], by rw [dumpLoop, if_neg hr.not_gt, if_pos hr], ?_⟩
        rw [dumped_cons_of_neg f results hr]
        rfl
      · rw [dumped_cons_of_zero] at hlen ⊢
        obtain ⟨text, hloop, hread⟩ := ih hlen
        exact ⟨text, by rw [dumpLoop, if_neg (lt_irrefl 0), if_neg (lt_irrefl 0), hloop], hread⟩
      · rw [dumped_cons_of_pos f results hr] at hlen ⊢
        obtain ⟨text, hloop, hread⟩ := ih fun g hg => hlen g (List.mem_cons_of_mem f hg)
        obtain ⟨line, hline, hreadLine⟩ :=
          readDump_printFrame channel (hlen f List.mem_cons_self) text
        refine ⟨line ++ text, ?_, ?_⟩
        · rw [dumpLoop, if_pos hr, hline, hloop]
          rfl
        · rw [hreadLine, hread, List.map_cons]

end RoundTrip

section Dump

variable {n : ℕ}

/-- **A dump of a channel.** Whatever happens to an open device, the loop prints the frames it
receives without a read outside one, and its output says of each what is shown of it, in order: no
length of an FD frame, and no data of a remote one. -/
theorem dump_of_run {usb : Libusb} {vid pid : UInt16} {bus addr : ℤ} {dev : Dev n}
    (hopen : usb.gsusbOpen vid pid bus addr = .ok ⟨n, dev⟩) (events : List (TrafficEvent n)) :
    ∃ t, (Traffic.init dev).run events = .ok t ∧ ∀ (i : Fin n) (results : List (ℤ × GsusbFrame)),
      dumped results = t.received i →
      ∃ text, dumpLoop (.ofNat i) results = .ok text ∧
        readDump text = (t.received i).map (shown (.ofNat i)) := by
  obtain ⟨t, hrun, hdelivered⟩ := Traffic.delivered_of_run hopen events
  refine ⟨t, hrun, fun i results hresults => ?_⟩
  rw [← hresults]
  refine exists_dumpLoop (.ofNat i) fun f hf => ?_
  rw [hresults] at hf
  exact (hdelivered i).len_le hf

/-- One packet to a new device, dumped. -/
theorem dump_of_run_fdAdapter :
    ∃ dev : Dev 1, fdAdapter.gsusbOpen 0x1d50 0x606f (-1) (-1) = .ok ⟨1, dev⟩ ∧
      ∃ t, (Traffic.init dev).run
          [.packet (fullPacket 0x123 2 0 0 0 [7, 8, 0, 0, 0, 0, 0, 0] none), .recv 0] = .ok t ∧
        ∃ text, dumpLoop (.ofNat (0 : Fin 1)) ((t.received 0).map fun f => (1, f)) = .ok text ∧
          readDump text = (t.received 0).map (shown (.ofNat (0 : Fin 1))) := by
  obtain ⟨dev, hopen⟩ : ∃ dev : Dev 1,
      fdAdapter.gsusbOpen 0x1d50 0x606f (-1) (-1) = .ok ⟨1, dev⟩ := ⟨_, rfl⟩
  obtain ⟨t, hrun, hdump⟩ := dump_of_run hopen
    [.packet (fullPacket 0x123 2 0 0 0 [7, 8, 0, 0, 0, 0, 0, 0] none), .recv 0]
  exact ⟨dev, hopen, t, hrun, hdump 0 _ (dumped_map_one _)⟩

example :
    frameText 0 (rxFrame true (fullPacket 0x80000123 2 0 0 0 [7, 0xA8, 0, 0, 0, 0, 0, 0]
      (some 1500000))) = .ok "(  1.500000) can0  00000123  [2] 07 A8 ".toList := by
  decide +kernel

end Dump

end GsUsb.Tools
