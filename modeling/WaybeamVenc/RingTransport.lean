import WaybeamVenc.RingRefinement
import WaybeamVenc.RtpPacketizer

namespace WaybeamVenc.RingTransport

open Runs RingGeometry RingModel RingRefinement RtpPacketizer

variable (g : Geometry)

def ofConsumer : Act → Bool
  | .write _ | .producer => false
  | .read _ | .readWait _ _ | .consumer | .timeout => true

/-- The consumer takes the turn it is given, as far as it can. -/
def consumerTurn (s : State) (turn : List Act) : State :=
  turn.foldl (fun s a => if ofConsumer a then (step g s a).getD s else s) s

/-- The rest of a call of venc_ring_write; the consumer has a turn before each
of its steps. -/
def finishWrite : Nat → State → List (List Act) → State × List (List Act)
  | 0, s, turns => (s, turns)
  | fuel + 1, s, turns =>
    match writerStep g (consumerTurn g s (turns.headD [])) with
    | none => (consumerTurn g s (turns.headD []), turns.tail)
    | some s => finishWrite fuel s turns.tail

/-- The output over a ring: the shared memory, what the consumer is going to
do, how many packets were refused for their sizes, and whether a call has
found the ring full. -/
structure RingOut where
  ring : State
  turns : List (List Act)
  refused : Nat
  full : Bool

/-- venc_ring_write; the calls that return 0 are those that end up in written. -/
def vencRingWrite (out : RingOut) (p : Packet) : Bool × RingOut :=
  match step g out.ring (.write p) with
  | none => (false, out)
  | some s =>
    let (ring, turns) := finishWrite g (p.bytes.length + 8) s out.turns
    (decide (out.ring.written.length < ring.written.length),
      { out with
        ring := ring
        turns := turns
        full := out.full || ring.producerStats.fullDrops != out.ring.producerStats.fullDrops })

/-- star6e_output_send_rtp_parts with a ring. -/
def sendRtpPartsRing : RtpPacketizerWriteFn RingOut := fun out c =>
  if c.header = [] ∨ c.payload1 = [] then (false, out)
  else if h : c.header.length ≤ 65535 ∧ c.payload.length ≤ 65535 then
    if c.payload2 ≠ [] ∧ rtpBufferMax < c.payload.length then (false, { out with refused := out.refused + 1 })
    else vencRingWrite g out ⟨c.header, c.payload, Nat.lt_succ_of_le h.1, Nat.lt_succ_of_le h.2⟩
  else (false, { out with refused := out.refused + 1 })

/-- The output over a socket: the datagrams sent, the send_errors counter, and
the answers of sendmsg still to come; it succeeds after the last of them. -/
structure SocketOut where
  sent : List (List UInt8)
  sendErrors : UInt32
  answers : List Bool

/-- star6e_output_send_rtp_parts with a socket. -/
def sendRtpPartsSocket : RtpPacketizerWriteFn SocketOut := fun out c =>
  if c.header = [] ∨ c.payload1 = [] then (false, out)
  else if out.answers.headD true then
    (true, { out with sent := out.sent ++ [c.header ++ (c.payload1 ++ c.payload2)], answers := out.answers.tail })
  else (false, { out with sendErrors := out.sendErrors + 1, answers := out.answers.tail })

/-! One call of venc_ring_write. -/

def packetOf : WritePc → Option Packet
  | .idle => none
  | .loadWriteIdx p | .loadReadIdx p _ | .storeLength p _ | .storeData p _ _ | .storeWriteIdx p _ | .bumpSeq p
  | .loadWaiting p | .wake p => some p

def left : WritePc → Nat
  | .idle => 0
  | .wake _ => 1
  | .loadWaiting _ => 2
  | .bumpSeq _ => 3
  | .storeWriteIdx _ _ => 4
  | .storeData p _ k => 5 + (p.bytes.length - k)
  | .storeLength p _ => 6 + p.bytes.length
  | .loadReadIdx p _ => 7 + p.bytes.length
  | .loadWriteIdx p => 8 + p.bytes.length

structure Calling (p : Packet) (base s : State) : Prop where
  packet : packetOf s.producer = some p
  written : s.written = base.written
  full : s.producerStats.fullDrops = base.producerStats.fullDrops
  oversize : s.producerStats.oversizeDrops = base.producerStats.oversizeDrops

/-- The call has ended, either at a full ring or with the packet in it. -/
structure Ended (p : Packet) (base s : State) : Prop where
  idle : s.producer = .idle
  oversize : s.producerStats.oversizeDrops = base.producerStats.oversizeDrops
  outcome : (s.written = base.written ∧ s.producerStats.fullDrops = base.producerStats.fullDrops + 1) ∨
    (s.written = base.written ++ [p.bytes] ∧ s.producerStats.fullDrops = base.producerStats.fullDrops)

theorem left_afterStores (p : Packet) (w : UInt64) (k : Nat) : left (afterStores p w k) ≤ 5 + (p.bytes.length - k) := by
  rw [afterStores]
  split
  · exact Nat.le_refl _
  · change 4 ≤ _
    omega

theorem packetOf_afterStores (p : Packet) (w : UInt64) (k : Nat) : packetOf (afterStores p w k) = some p := by
  rw [afterStores]
  split <;> rfl

theorem writerStep_calling {p : Packet} {base s : State} (h : Calling p base s) :
    ∃ t, writerStep g s = some t ∧
      (Ended p base t ∨ (Calling p base t ∧ left t.producer < left s.producer)) := by
  obtain ⟨hpacket, hwritten, hfull, hover⟩ := h
  rw [writerStep]
  cases hp : s.producer with
  | idle =>
      rw [hp] at hpacket
      cases hpacket
  | loadWriteIdx q =>
      rw [hp] at hpacket
      exact ⟨_, rfl, Or.inr ⟨⟨hpacket, hwritten, hfull, hover⟩, by simp only [left]; omega⟩⟩
  | loadReadIdx q w =>
      rw [hp] at hpacket
      dsimp only
      split
      · exact ⟨_, rfl, Or.inl ⟨rfl, hover, Or.inl ⟨hwritten, by dsimp only; rw [hfull]⟩⟩⟩
      · exact ⟨_, rfl, Or.inr ⟨⟨hpacket, hwritten, hfull, hover⟩, by simp only [left]; omega⟩⟩
  | storeLength q w =>
      rw [hp] at hpacket
      refine ⟨_, rfl, Or.inr ⟨⟨?_, hwritten, hfull, hover⟩, ?_⟩⟩
      · exact (packetOf_afterStores q w 0).trans hpacket
      · have hleft : left (afterStores q w 0) < 6 + q.bytes.length :=
          Nat.lt_of_le_of_lt (left_afterStores q w 0) (by omega)
        exact hleft
  | storeData q w k =>
      rw [hp] at hpacket
      refine ⟨_, rfl, Or.inr ⟨⟨?_, hwritten, hfull, hover⟩, ?_⟩⟩
      · exact (packetOf_afterStores q w (k + 1)).trans hpacket
      · have hleft : left (afterStores q w (k + 1)) < 5 + (q.bytes.length - k) := by
          rw [afterStores]
          split
          · simp only [left]
            omega
          · simp only [left]
            omega
        exact hleft
  | storeWriteIdx q w =>
      rw [hp] at hpacket
      exact ⟨_, rfl, Or.inr ⟨⟨hpacket, hwritten, hfull, hover⟩, by simp only [left]; omega⟩⟩
  | bumpSeq q =>
      rw [hp] at hpacket
      exact ⟨_, rfl, Or.inr ⟨⟨hpacket, hwritten, hfull, hover⟩, by simp only [left]; omega⟩⟩
  | loadWaiting q =>
      rw [hp] at hpacket
      cases hpacket
      dsimp only
      split
      · exact ⟨_, rfl, Or.inr ⟨⟨rfl, hwritten, hfull, hover⟩, by simp only [left]; omega⟩⟩
      · exact ⟨_, rfl, Or.inl ⟨rfl, hover, Or.inr ⟨by dsimp only; rw [hwritten], hfull⟩⟩⟩
  | wake q =>
      rw [hp] at hpacket
      cases hpacket
      exact ⟨_, rfl, Or.inl ⟨rfl, hover, Or.inr ⟨by dsimp only; rw [hwritten], hfull⟩⟩⟩

structure Untouched (s t : State) : Prop where
  producer : t.producer = s.producer
  stats : t.producerStats = s.producerStats
  written : t.written = s.written

theorem readerStep_untouched {s t : State} (h : readerStep g s = some t) : Untouched s t := by
  rw [readerStep.eq_def] at h
  split at h
  case h_1 | h_11 => cases h
  case h_4 =>
      dsimp only at h
      split at h <;> cases h <;> exact ⟨rfl, rfl, rfl⟩
  all_goals cases h; exact ⟨rfl, rfl, rfl⟩

theorem consumer_untouched {s t : State} {a : Act} (ha : ofConsumer a = true) (h : step g s a = some t) :
    Untouched s t := by
  cases a with
  | write p => cases ha
  | producer => cases ha
  | consumer => exact readerStep_untouched g h
  | read n | readWait n timeoutMs =>
      simp only [step] at h
      split at h
      · cases h
        exact ⟨rfl, rfl, rfl⟩
      · cases h
  | timeout =>
      simp only [step] at h
      split at h
      · split at h
        · cases h
          exact ⟨rfl, rfl, rfl⟩
        · cases h
      · cases h

variable {B : UInt16 → Prop}

/-- Every read of a turn brings a buffer whose size meets B. -/
def TurnBrings (B : UInt16 → Prop) (turn : List Act) : Prop := ∀ a ∈ turn, ∀ s, Brings B s a

theorem consumerTurn_spec {turn : List Act} (hturn : TurnBrings B turn) (s : State) :
    Untouched s (consumerTurn g s turn) ∧ Path (step g) (Brings B) s (consumerTurn g s turn) := by
  induction turn generalizing s with
  | nil => exact ⟨⟨rfl, rfl, rfl⟩, .refl⟩
  | cons a turn ih =>
      have hrest : TurnBrings B turn := fun b hb => hturn b (List.mem_cons_of_mem a hb)
      rw [consumerTurn, List.foldl_cons]
      by_cases ha : ofConsumer a = true
      · rw [if_pos ha]
        cases hstep : step g s a with
        | none => exact ih hrest s
        | some t =>
            obtain ⟨hsame, hpath⟩ := ih hrest t
            have hone := consumer_untouched g ha hstep
            exact ⟨⟨hsame.producer.trans hone.producer, hsame.stats.trans hone.stats, hsame.written.trans hone.written⟩,
              .head a (hturn a List.mem_cons_self s) hstep hpath⟩
      · rw [if_neg ha]
        exact ih hrest s

theorem turns_head {turns : List (List Act)} (h : ∀ turn ∈ turns, TurnBrings B turn) :
    TurnBrings B (turns.headD []) := by
  cases turns with
  | nil => exact nofun
  | cons turn turns => exact h turn List.mem_cons_self

theorem Untouched.ended {p : Packet} {base s t : State} (h : Untouched s t) (hended : Ended p base s) :
    Ended p base t :=
  ⟨by rw [h.producer]; exact hended.idle, by rw [h.stats]; exact hended.oversize,
    by rw [h.written, h.stats]; exact hended.outcome⟩

theorem Untouched.calling {p : Packet} {base s t : State} (h : Untouched s t) (hcalling : Calling p base s) :
    Calling p base t :=
  ⟨by rw [h.producer]; exact hcalling.packet, by rw [h.written]; exact hcalling.written,
    by rw [h.stats]; exact hcalling.full, by rw [h.stats]; exact hcalling.oversize⟩

theorem turns_tail {turns : List (List Act)} (h : ∀ turn ∈ turns, TurnBrings B turn) :
    ∀ turn ∈ turns.tail, TurnBrings B turn := fun turn hmem => h turn (List.mem_of_mem_tail hmem)

def Finished (B : UInt16 → Prop) (p : Packet) (base s : State) (r : State × List (List Act)) : Prop :=
  Ended p base r.1 ∧ Path (step g) (Brings B) s r.1 ∧ ∀ turn ∈ r.2, TurnBrings B turn

theorem finishWrite_ended {p : Packet} {base : State} (fuel : Nat) {s : State} {turns : List (List Act)}
    (hturns : ∀ turn ∈ turns, TurnBrings B turn) (h : Ended p base s) :
    Finished g B p base s (finishWrite g fuel s turns) := by
  cases fuel with
  | zero => exact ⟨h, .refl, hturns⟩
  | succ fuel =>
      obtain ⟨hsame, hpath⟩ := consumerTurn_spec g (turns_head hturns) s
      have hended := hsame.ended h
      have hstop : writerStep g (consumerTurn g s (turns.headD [])) = none := by
        rw [writerStep, hended.idle]
      rw [finishWrite, hstop]
      exact ⟨hended, hpath, turns_tail hturns⟩

theorem finishWrite_spec {p : Packet} {base : State} (fuel : Nat) {s : State} {turns : List (List Act)}
    (hturns : ∀ turn ∈ turns, TurnBrings B turn) (h : Calling p base s) (hfuel : left s.producer ≤ fuel) :
    Finished g B p base s (finishWrite g fuel s turns) := by
  induction fuel generalizing s turns with
  | zero =>
      cases hp : s.producer with
      | idle => exact absurd h.packet (by rw [hp]; exact nofun)
      | _ => rw [hp, left] at hfuel; omega
  | succ fuel ih =>
      obtain ⟨hsame, hpath⟩ := consumerTurn_spec g (turns_head hturns) s
      obtain ⟨t, hstep, hafter⟩ := writerStep_calling g (hsame.calling h)
      have hwhole : Path (step g) (Brings B) s t := .next .producer hpath trivial hstep
      rw [finishWrite, hstep]
      rcases hafter with hended | ⟨hmore, hless⟩
      · obtain ⟨hend, hpath', hlast⟩ := finishWrite_ended g fuel (turns_tail hturns) hended
        exact ⟨hend, hwhole.trans hpath', hlast⟩
      · rw [hsame.producer] at hless
        obtain ⟨hend, hpath', hlast⟩ := ih (turns_tail hturns) hmore (by omega)
        exact ⟨hend, hwhole.trans hpath', hlast⟩

theorem succ_ne_self (x : UInt64) : x + 1 ≠ x := by
  intro heq
  have hmod : (x.toNat + 1) % 2 ^ 64 = x.toNat := congrArg UInt64.toNat heq
  have hlt := x.toNat_lt
  omega

/-- A call of venc_ring_write on a packet that fits in a slot. -/
theorem vencRingWrite_spec {out : RingOut} {p : Packet} (hidle : out.ring.producer = .idle) (hfits : Fits g p)
    (hturns : ∀ turn ∈ out.turns, TurnBrings B turn) :
    let r := vencRingWrite g out p
    Path (step g) (Brings B) out.ring r.2.ring ∧ r.2.ring.producer = .idle ∧ (∀ turn ∈ r.2.turns, TurnBrings B turn) ∧
      r.2.refused = out.refused ∧ r.2.ring.producerStats.oversizeDrops = out.ring.producerStats.oversizeDrops ∧
      (r.2.full = true ∨
        (r.1 = true ∧ r.2.full = out.full ∧ r.2.ring.written = out.ring.written ++ [p.bytes])) := by
  have hsmall : ¬g.slotDataSize < p.total := by
    rw [UInt32.lt_iff_toNat_lt, total_toNat]
    exact Nat.not_lt.2 hfits
  have hbegin : step g out.ring (.write p) = some { out.ring with producer := .loadWriteIdx p } := by
    rw [step, hidle]
    exact if_neg hsmall
  have hcalling : Calling p out.ring { out.ring with producer := .loadWriteIdx p } := ⟨rfl, rfl, rfl, rfl⟩
  obtain ⟨hended, hpath, hrest⟩ := finishWrite_spec g (p.bytes.length + 8) hturns hcalling
    (Nat.le_of_eq (Nat.add_comm 8 _))
  rw [vencRingWrite, hbegin]
  refine ⟨.head (.write p) trivial hbegin hpath, hended.idle, hrest, rfl, hended.oversize, ?_⟩
  dsimp only
  rcases hended.outcome with ⟨-, hfull⟩ | ⟨hwritten, hfull⟩
  · refine Or.inl ?_
    rw [hfull, Bool.or_eq_true, bne_iff_ne]
    exact Or.inr (succ_ne_self _)
  · refine Or.inr ⟨?_, ?_, hwritten⟩
    · rw [hwritten, List.length_append]
      exact decide_eq_true (Nat.lt_succ_self _)
    · rw [hfull, bne_self_eq_false, Bool.or_false]

end WaybeamVenc.RingTransport
