/-
# The per-channel receive ring

`rxq_init`, `rxq_push` and the dequeue at the end of `gsusb_channel_recv`, with the
index arithmetic in 32-bit unsigned integers as the code has it, and the drop
counter in an `unsigned long` of either width.  Each access to the buffer is
checked, so a ring operation that returns `.ok` touched only slots of the buffer.

The ring refines the drop-oldest queue for exactly the capacities up to `2^31`; beyond
it `q_head + q_len` wraps before it is reduced, and the ring overwrites a slot that is
occupied.  The driver's own capacity is 512.
-/

import GsUsb.Driver.Proto
import GsUsb.Math.DropOldest
import GsUsb.Math.Window

namespace GsUsb.Driver

open GsUsb.Math GsUsb.Math.DropOldest

universe u

/-- The queue fields of `struct gsusb_channel`; `ulong` is the width of
`unsigned long`. -/
structure Rxq (α : Type u) (ulong : ℕ) where
  qBuf : List α
  qCap : UInt32
  qHead : UInt32
  qLen : UInt32
  qDrops : BitVec ulong

/-- `GSUSB_RXQ_CAPACITY`. -/
def gsusbRxqCapacity : UInt32 := 512

namespace Rxq

variable {α : Type u} {ulong : ℕ}

/-- What `rxq_init` sets up for a given capacity once `calloc` has succeeded. -/
def ofCapacity [Inhabited α] (qCap : UInt32) : Rxq α ulong :=
  ⟨List.replicate qCap.toNat default, qCap, 0, 0, 0⟩

/-- `rxq_init`: `none` is its `-1`, the failing `calloc`. -/
def rxqInit [Inhabited α] (calloc : Bool) : Option (Rxq α ulong) :=
  if calloc then some (ofCapacity gsusbRxqCapacity) else none

/-- `q_buf[i] = x`. -/
def store (q : Rxq α ulong) (i : UInt32) (x : α) : Except Fault (Rxq α ulong) :=
  if i.toNat < q.qBuf.length then .ok { q with qBuf := q.qBuf.set i.toNat x }
  else .error (.slot i.toNat)

/-- `q_buf[i]`. -/
def load (q : Rxq α ulong) (i : UInt32) : Except Fault α :=
  match q.qBuf[i.toNat]? with
  | some x => .ok x
  | none => .error (.slot i.toNat)

/-- The branch of `rxq_push` that drops the oldest element of a full queue. -/
def makeRoom (q : Rxq α ulong) : Rxq α ulong :=
  if q.qLen = q.qCap then
    { q with qHead := (q.qHead + 1) % q.qCap, qLen := q.qLen - 1, qDrops := q.qDrops + 1 }
  else q

/-- `rxq_push`. -/
def rxqPush (q : Rxq α ulong) (x : α) : Except Fault (Rxq α ulong) := do
  let q := q.makeRoom
  let tail := (q.qHead + q.qLen) % q.qCap
  let q ← q.store tail x
  return { q with qLen := q.qLen + 1 }

/-- The dequeue of `gsusb_channel_recv`: `none` is the wait loop's condition
`q_len == 0`, in which case nothing is touched. -/
def recvDequeue (q : Rxq α ulong) : Except Fault (Option α × Rxq α ulong) :=
  if q.qLen = 0 then .ok (none, q)
  else do
    let x ← q.load q.qHead
    return (some x, { q with qHead := (q.qHead + 1) % q.qCap, qLen := q.qLen - 1 })

/-- The logical content: `q_len` slots from `q_head` on, modulo `q_cap`. -/
def content [Inhabited α] (q : Rxq α ulong) : List α :=
  window q.qBuf q.qHead.toNat q.qLen.toNat

/-- The representation invariant. -/
structure Valid (q : Rxq α ulong) : Prop where
  /-- The buffer has the capacity `calloc` was asked for. -/
  length_buf : q.qBuf.length = q.qCap.toNat
  cap_pos : 0 < q.qCap.toNat
  /-- Twice the capacity still fits the index type. -/
  cap_le : q.qCap.toNat ≤ 2 ^ 31
  head_lt : q.qHead.toNat < q.qCap.toNat
  len_le : q.qLen.toNat ≤ q.qCap.toNat

theorem valid_ofCapacity [Inhabited α] {qCap : UInt32} (hpos : 1 ≤ qCap.toNat)
    (hle : qCap.toNat ≤ 2 ^ 31) : (ofCapacity qCap : Rxq α ulong).Valid where
  length_buf := by simp [ofCapacity]
  cap_pos := hpos
  cap_le := hle
  head_lt := hpos
  len_le := by simp [ofCapacity]

@[simp]
theorem length_content [Inhabited α] (q : Rxq α ulong) :
    q.content.length = q.qLen.toNat := by
  simp [content]

/-- Advancing an index of a valid ring does not wrap the index type. -/
theorem Valid.toNat_head_succ {q : Rxq α ulong} (hq : q.Valid) :
    ((q.qHead + 1) % q.qCap).toNat = (q.qHead.toNat + 1) % q.qCap.toNat := by
  have hlt := hq.head_lt
  have hle := hq.cap_le
  have hsucc : (q.qHead + 1).toNat = q.qHead.toNat + 1 := by
    rw [UInt32.toNat_add, UInt32.toNat_one]
    exact Nat.mod_eq_of_lt (by omega)
  rw [UInt32.toNat_mod, hsucc]

/-- The content after removing the front of a nonempty valid ring. -/
theorem Valid.content_advance [Inhabited α] {q : Rxq α ulong} (hq : q.Valid)
    (hne : q.qLen.toNat ≠ 0) (drops : BitVec ulong) :
    q.content = q.qBuf.getD q.qHead.toNat default ::
      content { q with
        qHead := (q.qHead + 1) % q.qCap, qLen := q.qLen - 1, qDrops := drops } := by
  obtain ⟨n, hn⟩ := Nat.exists_eq_succ_of_ne_zero hne
  have hlen : (q.qLen - 1).toNat = n := by
    rw [UInt32.toNat_sub_of_le _ _ (by rw [UInt32.le_iff_toNat_le, UInt32.toNat_one]; omega),
      UInt32.toNat_one]
    omega
  simp only [content, hn, hlen, hq.toNat_head_succ, Nat.succ_eq_add_one, window_succ,
    ← hq.length_buf, Nat.mod_eq_of_lt (hq.length_buf ▸ hq.head_lt)]

/-- Removing the front keeps the representation invariant. -/
theorem Valid.advance {q : Rxq α ulong} (hq : q.Valid) (drops : BitVec ulong)
    (hne : q.qLen.toNat ≠ 0) :
    Valid { q with
      qHead := (q.qHead + 1) % q.qCap, qLen := q.qLen - 1, qDrops := drops } where
  length_buf := hq.length_buf
  cap_pos := hq.cap_pos
  cap_le := hq.cap_le
  head_lt := by
    show ((q.qHead + 1) % q.qCap).toNat < q.qCap.toNat
    rw [hq.toNat_head_succ]
    exact Nat.mod_lt _ hq.cap_pos
  len_le := by
    have hlen := hq.len_le
    show (q.qLen - 1).toNat ≤ q.qCap.toNat
    rw [UInt32.toNat_sub_of_le _ _ (by rw [UInt32.le_iff_toNat_le, UInt32.toNat_one]; omega)]
    omega

/-- Storing in the first free slot of a valid ring that has one. -/
theorem Valid.store_tail [Inhabited α] {q : Rxq α ulong} (hq : q.Valid) (x : α)
    (hroom : q.qLen.toNat < q.qCap.toNat) :
    ∃ q', q.store ((q.qHead + q.qLen) % q.qCap) x = .ok q' ∧
      Valid { q' with qLen := q'.qLen + 1 } ∧ q'.qCap = q.qCap ∧ q'.qDrops = q.qDrops ∧
      content { q' with qLen := q'.qLen + 1 } = q.content ++ [x] := by
  have hhead := hq.head_lt
  have hcap := hq.cap_le
  have hsum : (q.qHead + q.qLen).toNat = q.qHead.toNat + q.qLen.toNat := by
    rw [UInt32.toNat_add]
    exact Nat.mod_eq_of_lt (by omega)
  have htail : ((q.qHead + q.qLen) % q.qCap).toNat =
      (q.qHead.toNat + q.qLen.toNat) % q.qBuf.length := by
    rw [UInt32.toNat_mod, hsum, hq.length_buf]
  have hin : ((q.qHead + q.qLen) % q.qCap).toNat < q.qBuf.length := by
    rw [htail]
    exact Nat.mod_lt _ (hq.length_buf ▸ hq.cap_pos)
  have hlen : (q.qLen + 1).toNat = q.qLen.toNat + 1 := by
    rw [UInt32.toNat_add, UInt32.toNat_one]
    exact Nat.mod_eq_of_lt (by omega)
  refine ⟨{ q with qBuf := q.qBuf.set ((q.qHead + q.qLen) % q.qCap).toNat x },
    by rw [store, if_pos hin], ?_, rfl, rfl, ?_⟩
  · exact
      { length_buf := by simpa using hq.length_buf
        cap_pos := hq.cap_pos
        cap_le := hq.cap_le
        head_lt := hq.head_lt
        len_le := by
          show (q.qLen + 1).toNat ≤ q.qCap.toNat
          omega }
  · simp only [content, hlen, htail]
    exact window_set x (hq.length_buf ▸ hroom)

/-! ## Refinement -/

/-- The ring represents the queue of a ledger, and its drop counter is the number of
dropped elements modulo the width of `unsigned long`. -/
structure Represents [Inhabited α] (q : Rxq α ulong) (ledger : Ledger α) : Prop where
  valid : q.Valid
  content_eq : q.content = ledger.queue
  drops_eq : q.qDrops = BitVec.ofNat ulong (ledger.left .dropped).length

theorem represents_ofCapacity [Inhabited α] {qCap : UInt32} (hpos : 1 ≤ qCap.toNat)
    (hle : qCap.toNat ≤ 2 ^ 31) : (ofCapacity qCap : Rxq α ulong).Represents .empty where
  valid := valid_ofCapacity hpos hle
  content_eq := rfl
  drops_eq := rfl

/-- Making room drops the front of a full queue and otherwise does nothing. -/
theorem Represents.makeRoom [Inhabited α] {q : Rxq α ulong} {ledger : Ledger α}
    (h : q.Represents ledger) :
    q.makeRoom.Represents (if ledger.queue.length = q.qCap.toNat
      then ledger.takeFront .dropped else ledger) ∧
      q.makeRoom.qCap = q.qCap ∧ q.makeRoom.qLen.toNat < q.qCap.toNat := by
  have hlength : ledger.queue.length = q.qLen.toNat := by
    rw [← h.content_eq, length_content]
  have hpos := h.valid.cap_pos
  have hle := h.valid.len_le
  rw [hlength]
  by_cases hfull : q.qLen = q.qCap
  · have hne : q.qLen.toNat ≠ 0 := by rw [hfull]; omega
    have hcontent := h.valid.content_advance hne (q.qDrops + 1)
    rw [h.content_eq] at hcontent
    have hroom : q.makeRoom = { q with
        qHead := (q.qHead + 1) % q.qCap, qLen := q.qLen - 1, qDrops := q.qDrops + 1 } :=
      if_pos hfull
    have hvalid := h.valid.advance (q.qDrops + 1) hne
    rw [hroom, if_pos (congrArg UInt32.toNat hfull)]
    refine ⟨⟨hvalid, ?_, ?_⟩, rfl, ?_⟩
    · simp [Ledger.takeFront, hcontent]
    · simp [Ledger.left_takeFront, hcontent, h.drops_eq, BitVec.ofNat_add]
    · show (q.qLen - 1).toNat < q.qCap.toNat
      rw [UInt32.toNat_sub_of_le _ _ (by rw [UInt32.le_iff_toNat_le, UInt32.toNat_one]; omega),
        UInt32.toNat_one]
      omega
  · have hne : q.qLen.toNat ≠ q.qCap.toNat := fun heq => hfull (UInt32.toNat_inj.mp heq)
    rw [Rxq.makeRoom, if_neg hfull, if_neg hne]
    exact ⟨h, rfl, by omega⟩

/-- **Push step.** `rxq_push` stays inside the buffer and represents the pushed
queue. -/
theorem Represents.rxqPush [Inhabited α] {q : Rxq α ulong} {ledger : Ledger α}
    (h : q.Represents ledger) (x : α) :
    ∃ q', q.rxqPush x = .ok q' ∧ q'.qCap = q.qCap ∧
      q'.Represents (ledger.push q.qCap.toNat x) := by
  obtain ⟨hroom, hcap, hlt⟩ := h.makeRoom
  obtain ⟨q', hstore, hvalid, hcap', hdrops, hcontent⟩ :=
    hroom.valid.store_tail x (by rw [hcap]; exact hlt)
  refine ⟨{ q' with qLen := q'.qLen + 1 }, ?_, hcap'.trans hcap, hvalid, ?_, ?_⟩
  · simp only [Rxq.rxqPush, hstore]
    rfl
  · rw [hcontent, hroom.content_eq, Ledger.push]
  · show q'.qDrops = _
    rw [hdrops, hroom.drops_eq]
    rfl

/-- **Dequeue step.** The dequeue stays inside the buffer, returns the front of the
represented queue and removes it. -/
theorem Represents.recvDequeue [Inhabited α] {q : Rxq α ulong} {ledger : Ledger α}
    (h : q.Represents ledger) :
    ∃ q', q.recvDequeue = .ok (ledger.queue.head?, q') ∧ q'.qCap = q.qCap ∧
      q'.Represents (ledger.takeFront .returned) := by
  have hlength : ledger.queue.length = q.qLen.toNat := by
    rw [← h.content_eq, length_content]
  by_cases hempty : q.qLen = 0
  · have hnil : ledger.queue = [] := by
      rw [← List.length_eq_zero_iff, hlength, hempty]
      rfl
    refine ⟨q, by rw [Rxq.recvDequeue, if_pos hempty, hnil]; rfl, rfl, ?_⟩
    simpa [Ledger.takeFront, hnil] using h
  · have hne : q.qLen.toNat ≠ 0 := fun heq => hempty (UInt32.toNat_inj.mp heq)
    have hcontent := h.valid.content_advance hne q.qDrops
    rw [h.content_eq] at hcontent
    have hslot : q.qHead.toNat < q.qBuf.length := h.valid.length_buf ▸ h.valid.head_lt
    refine ⟨{ q with qHead := (q.qHead + 1) % q.qCap, qLen := q.qLen - 1 }, ?_, rfl,
      h.valid.advance q.qDrops hne, ?_, ?_⟩
    · rw [Rxq.recvDequeue, if_neg hempty]
      simp only [load, List.getElem?_eq_getElem hslot, hcontent, List.head?_cons,
        List.getD_eq_getElem?_getD, Option.getD_some]
      rfl
    · simp [Ledger.takeFront, hcontent]
    · simpa [Ledger.left_takeFront] using h.drops_eq

/-- Any valid ring represents some ledger with its content. -/
theorem Valid.exists_represents [Inhabited α] {q : Rxq α ulong} (hq : q.Valid) :
    ∃ ledger : Ledger α, ledger.queue = q.content ∧ q.Represents ledger := by
  refine ⟨⟨q.content, List.replicate q.qDrops.toNat (.dropped, default)⟩, rfl, hq, rfl, ?_⟩
  simp [Ledger.left]

/-- A push into a valid ring succeeds, keeps it valid and pushes its content. -/
theorem Valid.rxqPush [Inhabited α] {q : Rxq α ulong} (hq : q.Valid) (x : α) :
    ∃ q', q.rxqPush x = .ok q' ∧ q'.Valid ∧ q'.qCap = q.qCap ∧
      q'.content = pushQueue q.qCap.toNat q.content x := by
  obtain ⟨ledger, hqueue, hrep⟩ := hq.exists_represents
  obtain ⟨q', hpush, hcap, hrep'⟩ := hrep.rxqPush x
  refine ⟨q', hpush, hrep'.valid, hcap, ?_⟩
  rw [hrep'.content_eq, Ledger.queue_push, hqueue]

/-- A dequeue from a valid ring succeeds, keeps it valid and takes the front of its
content. -/
theorem Valid.recvDequeue [Inhabited α] {q : Rxq α ulong} (hq : q.Valid) :
    ∃ q', q.recvDequeue = .ok (q.content.head?, q') ∧ q'.Valid ∧
      q'.content = q.content.tail := by
  obtain ⟨ledger, hqueue, hrep⟩ := hq.exists_represents
  obtain ⟨q', hpop, -, hrep'⟩ := hrep.recvDequeue
  refine ⟨q', by rw [hpop, hqueue], hrep'.valid, ?_⟩
  rw [hrep'.content_eq, ← hqueue, Ledger.takeFront]
  cases h : ledger.queue <;> simp [h]

/-- A ring in use, with the frames the callers of `gsusb_channel_recv` got. -/
structure InUse (α : Type u) (ulong : ℕ) where
  ring : Rxq α ulong
  received : List α

/-- One `rxq_push`, or one `gsusb_channel_recv` that finds the queue in the state it
is in. -/
def InUse.step (s : InUse α ulong) : Op α → Except Fault (InUse α ulong)
  | .push x => do
      let q ← s.ring.rxqPush x
      return { s with ring := q }
  | .pop => do
      let (x, q) ← s.ring.recvDequeue
      return ⟨q, s.received ++ x.toList⟩

/-- Any sequence of them. -/
def InUse.run (s : InUse α ulong) (ops : List (Op α)) : Except Fault (InUse α ulong) :=
  ops.foldlM InUse.step s

/-- **Run lemma.** A ring that represents a ledger and a sequence of calls on it go
through without a fault, and end representing the ledger run. -/
theorem Represents.run [Inhabited α] {s : InUse α ulong} {ledger : Ledger α}
    (h : s.ring.Represents ledger) (hreceived : s.received = ledger.left .returned)
    (ops : List (Op α)) :
    ∃ t, s.run ops = .ok t ∧ t.ring.qCap = s.ring.qCap ∧
      t.ring.Represents (ledger.run s.ring.qCap.toNat ops) ∧
      t.received = (ledger.run s.ring.qCap.toNat ops).left .returned := by
  induction ops generalizing s ledger with
  | nil => exact ⟨s, rfl, rfl, h, hreceived⟩
  | cons op ops ih =>
      have hstep : ∃ t, s.step op = .ok t ∧ t.ring.qCap = s.ring.qCap ∧
          t.ring.Represents (ledger.step s.ring.qCap.toNat op) ∧
          t.received = (ledger.step s.ring.qCap.toNat op).left .returned := by
        cases op with
        | push x =>
            obtain ⟨q', hpush, hcap, hrep⟩ := h.rxqPush x
            refine ⟨{ s with ring := q' }, by simp only [InUse.step, hpush]; rfl, hcap,
              hrep, ?_⟩
            rw [hreceived, Ledger.step, Ledger.left_push]
            simp
        | pop =>
            obtain ⟨q', hpop, hcap, hrep⟩ := h.recvDequeue
            refine ⟨⟨q', s.received ++ ledger.queue.head?.toList⟩,
              by simp only [InUse.step, hpop]; rfl, hcap, hrep, ?_⟩
            simp [hreceived, Ledger.step, Ledger.left_takeFront]
      obtain ⟨t, hs, hcap, hrep, hrec⟩ := hstep
      obtain ⟨u, hrun, hcap', hrep', hrec'⟩ := ih hrep hrec
      rw [hcap] at hcap' hrep' hrec'
      refine ⟨u, ?_, hcap', hrep', hrec'⟩
      rw [InUse.run, List.foldlM_cons, hs]
      exact hrun

/-- What a fresh ring owes after a sequence of calls: no access outside the buffer,
indices in range, the content and the received elements those of the drop-oldest
queue, every pushed element returned, dropped or queued once and in order, and a
drop counter that `counts` the dropped ones. -/
def RefinesDropOldest [Inhabited α] (qCap : UInt32) (ops : List (Op α))
    (counts : BitVec ulong → ℕ → Prop) : Prop :=
  ∃ t : InUse α ulong, InUse.run ⟨ofCapacity qCap, []⟩ ops = .ok t ∧
    t.ring.qHead < t.ring.qCap ∧ t.ring.qLen ≤ t.ring.qCap ∧
    t.ring.content = (Ledger.empty.run qCap.toNat ops).queue ∧
    t.received = (Ledger.empty.run qCap.toNat ops).left .returned ∧
    (Ledger.empty.run qCap.toNat ops).history = pushes ops ∧
    counts t.ring.qDrops ((Ledger.empty.run qCap.toNat ops).left .dropped).length

/-- **The ring is a drop-oldest queue.** From `rxq_init` on, for every capacity from
`1` to `2^31` and every sequence of pushes and dequeues, with `q_drops` counting
modulo the width of `unsigned long`. -/
theorem ofCapacity_refinesDropOldest [Inhabited α] (qCap : UInt32)
    (hpos : 1 ≤ qCap.toNat) (hle : qCap.toNat ≤ 2 ^ 31) (ops : List (Op α)) :
    RefinesDropOldest qCap ops
      fun (counter : BitVec ulong) dropped => counter.toNat = dropped % 2 ^ ulong := by
  obtain ⟨t, hrun, _, hrep, hreceived⟩ :=
    Represents.run (s := ⟨ofCapacity qCap, []⟩) (represents_ofCapacity hpos hle) rfl ops
  refine ⟨t, hrun, ?_, ?_, hrep.content_eq, hreceived, ?_, ?_⟩
  · exact UInt32.lt_iff_toNat_lt.mpr hrep.valid.head_lt
  · exact UInt32.le_iff_toNat_le.mpr hrep.valid.len_le
  · exact Ledger.history_run _ _ ops
  · show t.ring.qDrops.toNat = _
    rw [hrep.drops_eq, BitVec.toNat_ofNat]
    rfl

/-- Two frames into a ring of one slot, and one out. -/
theorem ofCapacity_refinesDropOldest_one :
    RefinesDropOldest 1 [Op.push (default : GsusbFrame), .push default, .pop]
      fun (counter : BitVec 32) dropped => counter.toNat = dropped % 2 ^ 32 :=
  ofCapacity_refinesDropOldest 1 (by decide) (by decide) _

/-- A push into a ring with room, as one assignment. -/
theorem rxqPush_of_room {q : Rxq α ulong} (x : α) (hroom : q.qLen ≠ q.qCap)
    (hin : ((q.qHead + q.qLen) % q.qCap).toNat < q.qBuf.length) :
    q.rxqPush x = .ok { q with
      qBuf := q.qBuf.set ((q.qHead + q.qLen) % q.qCap).toNat x, qLen := q.qLen + 1 } := by
  have hskip : q.makeRoom = q := if_neg hroom
  simp only [Rxq.rxqPush, hskip, store, if_pos hin]
  rfl

/-- A push into a full ring whose head does not turn around, as one assignment. -/
theorem rxqPush_of_full {buf : List α} {qCap : UInt32} {head : ℕ} {drops : BitVec ulong}
    (x : α) (hbuf : buf.length = qCap.toNat) (hhead : head + 1 < qCap.toNat) :
    rxqPush ⟨buf, qCap, UInt32.ofNat head, qCap, drops⟩ x =
      .ok ⟨buf.set ((head + qCap.toNat) % 2 ^ 32 % qCap.toNat) x, qCap, UInt32.ofNat (head + 1),
        qCap, drops + 1⟩ := by
  have hlt := qCap.toNat_lt
  have hsucc : (UInt32.ofNat head + 1) % qCap = UInt32.ofNat (head + 1) := by
    rw [← UInt32.ofNat_one, ← UInt32.ofNat_add]
    apply UInt32.toNat_inj.mp
    rw [UInt32.toNat_mod, UInt32.toNat_ofNat', Nat.mod_eq_of_lt (a := head + 1) (by omega)]
    exact Nat.mod_eq_of_lt hhead
  have htail : ((UInt32.ofNat (head + 1) + (qCap - 1)) % qCap).toNat =
      (head + qCap.toNat) % 2 ^ 32 % qCap.toNat := by
    have hone : (1 : UInt32) ≤ qCap := by
      rw [UInt32.le_iff_toNat_le, UInt32.toNat_one]
      omega
    have hsum : head + 1 + (qCap.toNat - 1) = head + qCap.toNat := by omega
    rw [UInt32.toNat_mod, UInt32.toNat_add, UInt32.toNat_sub_of_le _ _ hone, UInt32.toNat_one,
      UInt32.toNat_ofNat', Nat.mod_eq_of_lt (a := head + 1) (by omega), hsum]
  have hin : (head + qCap.toNat) % 2 ^ 32 % qCap.toNat < buf.length := by
    rw [hbuf]
    exact Nat.mod_lt _ (by omega)
  have hdrop : makeRoom ⟨buf, qCap, UInt32.ofNat head, qCap, drops⟩ =
      ⟨buf, qCap, UInt32.ofNat (head + 1), qCap - 1, drops + 1⟩ := by
    rw [makeRoom, if_pos rfl, hsucc]
  simp only [Rxq.rxqPush, hdrop, store, htail, if_pos hin, bind, Except.bind, pure, Except.pure,
    UInt32.sub_add_cancel]

/-- Pushing zero elements into a fresh ring only counts its length up. -/
theorem run_replicate_default [Inhabited α] (qCap : UInt32) {n : ℕ}
    (hn : n ≤ qCap.toNat) :
    InUse.run ⟨ofCapacity qCap, []⟩ (List.replicate n (Op.push (default : α))) =
      .ok (⟨⟨List.replicate qCap.toNat default, qCap, 0, UInt32.ofNat n, 0⟩, []⟩ :
        InUse α ulong) := by
  induction n with
  | zero => rfl
  | succ n ih =>
      have hlt := qCap.toNat_lt
      have htoNat : (UInt32.ofNat n).toNat = n := by
        rw [UInt32.toNat_ofNat']
        exact Nat.mod_eq_of_lt (by omega)
      have hroom : UInt32.ofNat n ≠ qCap := by
        intro heq
        rw [heq] at htoNat
        omega
      have htail : (((0 : UInt32) + UInt32.ofNat n) % qCap).toNat = n := by
        rw [UInt32.zero_add, UInt32.toNat_mod, htoNat, Nat.mod_eq_of_lt (by omega)]
      have hpush := rxqPush_of_room (default : α) (q :=
          ⟨List.replicate qCap.toNat default, qCap, 0, UInt32.ofNat n, (0 : BitVec ulong)⟩)
        hroom (by rw [htail, List.length_replicate]; omega)
      rw [InUse.run] at ih
      rw [List.replicate_succ', InUse.run, List.foldlM_append, ih (by omega)]
      show InUse.step _ _ >>= _ = _
      simp only [InUse.step, hpush, List.set_replicate_self, bind, Except.bind, pure,
        Except.pure, List.foldlM_nil, UInt32.ofNat_add]
      rfl

/-- Above `2^31` slots, going on with zero elements moves the head of the full ring up to
where `q_head + q_len` no longer fits the index type. -/
theorem run_replicate_default_full [Inhabited α] {qCap : UInt32} (hlarge : 2 ^ 31 < qCap.toNat)
    {k : ℕ} (hk : k + qCap.toNat ≤ 2 ^ 32) :
    InUse.run ⟨⟨List.replicate qCap.toNat default, qCap, 0, qCap, 0⟩, []⟩
        (List.replicate k (Op.push (default : α))) =
      .ok (⟨⟨List.replicate qCap.toNat default, qCap, UInt32.ofNat k, qCap,
        BitVec.ofNat ulong k⟩, []⟩ : InUse α ulong) := by
  induction k with
  | zero => rfl
  | succ k ih =>
      have hpush : rxqPush ⟨List.replicate qCap.toNat default, qCap, UInt32.ofNat k, qCap,
          BitVec.ofNat ulong k⟩ (default : α) = _ :=
        rxqPush_of_full default List.length_replicate (by omega)
      rw [InUse.run] at ih
      rw [List.replicate_succ', InUse.run, List.foldlM_append, ih (by omega)]
      show InUse.step _ _ >>= _ = _
      simp only [InUse.step, hpush, List.set_replicate_self, bind, Except.bind, pure,
        Except.pure, List.foldlM_nil, BitVec.ofNat_add]
      rfl

/-- As many zero elements as the index type has values, and one more element. -/
def wrapping [Inhabited α] (qCap : UInt32) (y : α) : List (Op α) :=
  List.replicate qCap.toNat (.push default) ++
    (List.replicate (2 ^ 32 - qCap.toNat) (.push default) ++ [.push y])

/-- Above `2^31` slots the last of these pushes computes `q_head + q_len = 2^32`, which is
`0`, and writes the first slot. -/
theorem run_wrapping [Inhabited α] {qCap : UInt32} (hlarge : 2 ^ 31 < qCap.toNat) (y : α) :
    InUse.run (⟨ofCapacity qCap, []⟩ : InUse α ulong) (wrapping qCap y) =
      .ok ⟨⟨(List.replicate qCap.toNat default).set 0 y, qCap,
        UInt32.ofNat (2 ^ 32 - qCap.toNat + 1), qCap,
        BitVec.ofNat ulong (2 ^ 32 - qCap.toNat) + 1⟩, []⟩ := by
  have hlt := qCap.toNat_lt
  have hfilled : InUse.run (⟨ofCapacity qCap, []⟩ : InUse α ulong) _ = _ :=
    run_replicate_default qCap (le_refl qCap.toNat)
  have hturned : InUse.run (⟨⟨List.replicate qCap.toNat default, qCap, 0, qCap, 0⟩, []⟩ :
      InUse α ulong) _ = _ :=
    run_replicate_default_full hlarge (k := 2 ^ 32 - qCap.toNat) (by omega)
  have hpush : rxqPush ⟨List.replicate qCap.toNat default, qCap,
      UInt32.ofNat (2 ^ 32 - qCap.toNat), qCap, BitVec.ofNat ulong (2 ^ 32 - qCap.toNat)⟩ y = _ :=
    rxqPush_of_full y List.length_replicate (by omega)
  rw [Nat.sub_add_cancel hlt.le, Nat.mod_self, Nat.zero_mod] at hpush
  rw [UInt32.ofNat_toNat, InUse.run] at hfilled
  rw [InUse.run] at hturned
  rw [wrapping, InUse.run, List.foldlM_append, hfilled]
  show List.foldlM _ _ _ = _
  rw [List.foldlM_append, hturned]
  show InUse.step _ _ >>= _ = _
  simp only [InUse.step, hpush, bind, Except.bind, pure, Except.pure, List.foldlM_nil]

/-- **The bound on the capacity is forced.** Above `2^31` slots the last element pushed is
not the last one queued. -/
theorem not_refinesDropOldest_wrapping [Inhabited α] {qCap : UInt32}
    (hlarge : 2 ^ 31 < qCap.toNat) {y : α} (hy : y ≠ default)
    (counts : BitVec ulong → ℕ → Prop) :
    ¬ RefinesDropOldest qCap (wrapping qCap y) counts := by
  have hlt := qCap.toNat_lt
  rintro ⟨t, hrun, -, -, hcontent, -⟩
  cases hrun.symm.trans (run_wrapping hlarge y)
  obtain ⟨n, hn⟩ : ∃ n, qCap.toNat = n + 1 := Nat.exists_eq_succ_of_ne_zero (by omega)
  have hqueue : (Ledger.empty.run qCap.toNat (wrapping qCap y)).queue.getLast? = some y := by
    rw [wrapping, ← List.append_assoc]
    exact Ledger.getLast?_run_push _ _ _ y
  -- the last slot of the window is not the one the last push wrote
  have hslot : (2 ^ 32 - qCap.toNat + 1 + n) % qCap.toNat = 2 ^ 32 - qCap.toNat := by
    have hsum : 2 ^ 32 - qCap.toNat + 1 + n = 2 ^ 32 - qCap.toNat + qCap.toNat := by omega
    rw [hsum, Nat.add_mod_right, Nat.mod_eq_of_lt (by omega)]
  rw [← hcontent, content, UInt32.toNat_ofNat',
    Nat.mod_eq_of_lt (a := 2 ^ 32 - qCap.toNat + 1) (by omega), hn, getLast?_window_succ, ← hn,
    List.length_set, List.length_replicate, hslot, List.getD_eq_getElem?_getD,
    List.getElem?_set_ne (by omega), List.getElem?_replicate, if_pos (by omega),
    Option.getD_some, Option.some.injEq] at hqueue
  exact hy hqueue.symm

/-- The drop counter can be exact only while it does not wrap. -/
theorem lt_of_counts_exactly [Inhabited α] (n : ℕ) (x : α)
    (h : RefinesDropOldest gsusbRxqCapacity ((List.replicate n x).map Op.push)
      fun (counter : BitVec ulong) dropped => counter.toNat = dropped) :
    n < 2 ^ ulong + gsusbRxqCapacity.toNat := by
  obtain ⟨t, -, -, -, -, -, hhistory, hcount⟩ := h
  have hlength := congrArg List.length hhistory
  rw [Ledger.length_history, Ledger.left_returned_run_pushes, pushes_map,
    List.length_replicate] at hlength
  have hqueue := Ledger.length_run_le (show 1 ≤ gsusbRxqCapacity.toNat by decide)
    (show (Ledger.empty : Ledger α).queue.length ≤ _ from Nat.zero_le _)
    ((List.replicate n x).map Op.push)
  have hsmall : t.ring.qDrops.toNat < 2 ^ ulong := t.ring.qDrops.isLt
  rw [hcount] at hsmall
  have hnone : ((Ledger.empty : Ledger α).left .returned).length = 0 := rfl
  omega

/-- **Neither unbounded part of the refinement survives fixed-width integers.** With
the largest capacity the ring stops following the drop-oldest queue, and with the
driver's own capacity `2^64` drops leave a 64-bit `q_drops` at zero. -/
theorem not_refinesDropOldest_unbounded :
    ¬ RefinesDropOldest 4294967295
        (wrapping 4294967295 (⟨1, 0, 0, Vector.replicate _ 0, 0⟩ : GsusbFrame))
        (fun (counter : BitVec 64) dropped => counter.toNat = dropped) ∧
      ¬ RefinesDropOldest gsusbRxqCapacity
        ((List.replicate (2 ^ 64 + gsusbRxqCapacity.toNat) (default : GsusbFrame)).map
          Op.push)
        (fun (counter : BitVec 64) dropped => counter.toNat = dropped) := by
  constructor
  · exact not_refinesDropOldest_wrapping (by decide) (by decide) _
  · intro h
    exact absurd (lt_of_counts_exactly _ _ h) (lt_irrefl _)

end Rxq

end GsUsb.Driver
