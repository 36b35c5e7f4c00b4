import Mathlib.Data.List.Basic
import Mathlib.Tactic.NormNum
import WaybeamVenc.FrameInvariant
import WaybeamVenc.HevcRoundTrip
import WaybeamVenc.VideoSender

namespace WaybeamVenc.SidecarTiling

open RtpPacketizer HevcRtp HevcRoundTrip FrameInvariant VideoSender

variable {σ : Type}

def star6eReadBe16 : List UInt8 → UInt16
  | b1 :: b0 :: _ => (b1.toUInt16 <<< 8) ||| b0.toUInt16
  | _ => 0

def star6eReadBe32 : List UInt8 → UInt32
  | b3 :: b2 :: b1 :: b0 :: _ =>
    (b3.toUInt32 <<< 24) ||| (b2.toUInt32 <<< 16) ||| (b1.toUInt32 <<< 8) ||| b0.toUInt32
  | _ => 0

def sequence (packet : WriteCall) : UInt16 := star6eReadBe16 (packet.header.drop 2)

def timestamp (packet : WriteCall) : UInt32 := star6eReadBe32 (packet.header.drop 4)

def delivered (log : Log) : List WriteCall := (log.filter (·.2)).map (·.1)

/-- Sequence numbers that follow each other from a first one on. -/
def numbers (first : UInt16) (n : Nat) : List UInt16 := (List.range n).map fun i => first + UInt16.ofNat i

/-- A record names the packets of its frame, no more and no less. -/
structure Describes (record : FrameRecord) (packets : List WriteCall) : Prop where
  sequences : packets.map sequence = numbers record.seqFirst record.seqCount.toNat
  timestamps : ∀ packet ∈ packets, timestamp packet = record.rtpTs

/-- Every record begins where the one before it ends, the first one at seq and
ts. -/
def Chained (ticks : UInt32) : UInt16 → UInt32 → List FrameRecord → Prop
  | _, _, [] => True
  | seq, ts, record :: records =>
    record.seqFirst = seq ∧ record.rtpTs = ts ∧ Chained ticks (seq + record.seqCount) (ts + ticks) records

/-- The records of a run of calls, each with the log of its frame. -/
def videoRun (writer : RtpPacketizerWriteFn σ) : List VideoCall → Star6eVideoState → σ → List (FrameRecord × Log)
  | [], _, _ => []
  | call :: calls, state, out =>
    let r := star6eVideoSendFrame (logged writer) state (out, []) call
    (r.record.map fun record => (record, r.out.2)).toList ++ videoRun writer calls r.state r.out.1

theorem and_byte (x : Nat) : x &&& 255 = x % 2 ^ 8 := Nat.and_two_pow_sub_one_eq_mod x 8

theorem sequence_header (rtp : RtpPacketizerState) (marker : Bool) (p1 p2 : List UInt8) :
    sequence ⟨rtpHeader rtp marker, p1, p2⟩ = rtp.seq := by
  apply UInt16.toNat_inj.1
  apply Nat.eq_of_testBit_eq
  intro i
  have hhigh : 16 ≤ i → rtp.seq.toNat.testBit i = false := fun h =>
    Nat.testBit_lt_two_pow (lt_of_lt_of_le rtp.seq.toNat_lt (Nat.pow_le_pow_right (by norm_num) h))
  simp only [sequence, rtpHeader, List.drop, star6eReadBe16, UInt16.toNat_or, UInt16.toNat_shiftLeft,
    UInt8.toNat_toUInt16, UInt16.toNat_toUInt8, UInt16.toNat_and, UInt16.toNat_shiftRight, UInt16.reduceToNat,
    and_byte, Nat.testBit_or, Nat.testBit_mod_two_pow, Nat.testBit_shiftLeft, Nat.testBit_shiftRight]
  grind

theorem timestamp_header (rtp : RtpPacketizerState) (marker : Bool) (p1 p2 : List UInt8) :
    timestamp ⟨rtpHeader rtp marker, p1, p2⟩ = rtp.timestamp := by
  apply UInt32.toNat_inj.1
  apply Nat.eq_of_testBit_eq
  intro i
  have hhigh : 32 ≤ i → rtp.timestamp.toNat.testBit i = false := fun h =>
    Nat.testBit_lt_two_pow (lt_of_lt_of_le rtp.timestamp.toNat_lt (Nat.pow_le_pow_right (by norm_num) h))
  simp only [timestamp, rtpHeader, List.drop, star6eReadBe32, UInt32.toNat_or, UInt32.toNat_shiftLeft,
    UInt8.toNat_toUInt32, UInt32.toNat_toUInt8, UInt32.toNat_and, UInt32.toNat_shiftRight, UInt32.reduceToNat,
    and_byte, Nat.testBit_or, Nat.testBit_mod_two_pow, Nat.testBit_shiftLeft, Nat.testBit_shiftRight]
  grind

theorem delivered_append (log log' : Log) : delivered (log ++ log') = delivered log ++ delivered log' := by
  rw [delivered, List.filter_append, List.map_append]
  rfl

theorem numbers_succ (first : UInt16) (n : Nat) : numbers first (n + 1) = numbers first n ++ [first + UInt16.ofNat n] := by
  rw [numbers, List.range_succ, List.map_append]
  rfl

/-- The sequence number counts the packets that were taken. -/
structure Numbered (seq : UInt16) (t : Sender (σ × Log)) : Prop where
  next : t.rtp.seq = seq + UInt16.ofNat (delivered t.out.2).length
  sequences : (delivered t.out.2).map sequence = numbers seq (delivered t.out.2).length

theorem sendPacket_delivered (writer : RtpPacketizerWriteFn σ) (t : Sender (σ × Log)) (payload1 payload2 : List UInt8)
    (marker : Bool) :
    let r := rtpPacketizerSendPacket (logged writer) t payload1 payload2 marker
    (r.1 = false ∧ r.2.rtp = t.rtp ∧ delivered r.2.out.2 = delivered t.out.2) ∨
      (r.1 = true ∧ r.2.rtp = { t.rtp with seq := t.rtp.seq + 1 } ∧
        delivered r.2.out.2 = delivered t.out.2 ++ [⟨rtpHeader t.rtp marker, payload1, payload2⟩]) := by
  rw [rtpPacketizerSendPacket]
  split
  · exact Or.inl ⟨rfl, rfl, rfl⟩
  · simp only [logged]
    cases (writer t.out.1 ⟨rtpHeader t.rtp marker, payload1, payload2⟩).1 with
    | false => exact Or.inl ⟨rfl, rfl, (delivered_append _ _).trans (List.append_nil _)⟩
    | true => exact Or.inr ⟨rfl, rfl, delivered_append _ _⟩

theorem numbered_kept (writer : RtpPacketizerWriteFn σ) (seq : UInt16) :
    KeptByPackets (logged writer) (Numbered seq) := by
  intro t payload1 payload2 marker h
  rcases sendPacket_delivered writer t payload1 payload2 marker with ⟨_, hrtp, hdelivered⟩ | ⟨_, hrtp, hdelivered⟩
  · constructor
    · rw [hrtp, hdelivered]
      exact h.next
    · rw [hdelivered]
      exact h.sequences
  · constructor
    · rw [hrtp, hdelivered, List.length_append, List.length_singleton, UInt16.ofNat_add, ← UInt16.add_assoc, ← h.next]
      rfl
    · rw [hdelivered, List.map_append, List.length_append, List.length_singleton, numbers_succ, h.sequences,
        ← h.next, List.map_singleton, sequence_header]

/-- What holds between the packets of one frame: the sequence number counts
those that were taken, the timestamp and the source stand still. -/
structure Counting (rtp : RtpPacketizerState) (t : Sender (σ × Log)) : Prop where
  seq : t.rtp.seq = rtp.seq + UInt16.ofNat (delivered t.out.2).length
  sequences : (delivered t.out.2).map sequence = numbers rtp.seq (delivered t.out.2).length
  stamp : t.rtp.timestamp = rtp.timestamp
  stamps : ∀ packet ∈ delivered t.out.2, timestamp packet = rtp.timestamp

theorem counting_kept (writer : RtpPacketizerWriteFn σ) (rtp : RtpPacketizerState) :
    KeptByPackets (logged writer) (Counting rtp) := by
  intro t payload1 payload2 marker h
  obtain ⟨hseq, hsequences⟩ := numbered_kept writer rtp.seq t payload1 payload2 marker ⟨h.seq, h.sequences⟩
  refine ⟨hseq, hsequences, ?_, ?_⟩
  · rcases sendPacket_delivered writer t payload1 payload2 marker with ⟨_, hrtp, _⟩ | ⟨_, hrtp, _⟩
    · rw [hrtp]
      exact h.stamp
    · rw [hrtp]
      exact h.stamp
  · rcases sendPacket_delivered writer t payload1 payload2 marker with ⟨_, _, hdelivered⟩ | ⟨_, _, hdelivered⟩
    · rw [hdelivered]
      exact h.stamps
    · rw [hdelivered]
      intro packet hmem
      rcases List.mem_append.1 hmem with hmem | hmem
      · exact h.stamps packet hmem
      · rw [List.mem_singleton.1 hmem, timestamp_header, h.stamp]

theorem counting_start (rtp : RtpPacketizerState) (out : σ) :
    Counting rtp (⟨rtp, (out, [])⟩ : Sender (σ × Log)) :=
  ⟨(UInt16.add_zero _).symm, rfl, rfl, nofun⟩

theorem sendFrame_tiles (writer : RtpPacketizerWriteFn σ) (state : Star6eVideoState) (out : σ) {call : VideoCall}
    (henabled : call.outputEnabled = true) :
    let r := star6eVideoSendFrame (logged writer) state (out, []) call
    ∃ record, r.record = some record ∧ record.seqFirst = state.rtpState.seq ∧
      record.rtpTs = state.rtpState.timestamp ∧ r.state.rtpFrameTicks = state.rtpFrameTicks ∧
      r.state.rtpState.seq = state.rtpState.seq + record.seqCount ∧
      r.state.rtpState.timestamp = state.rtpState.timestamp + state.rtpFrameTicks ∧
      ((delivered r.out.2).length < 65536 → Describes record (delivered r.out.2)) := by
  have hstart := counting_start state.rtpState out
  obtain ⟨t, ht, hframe⟩ := sendFrame_kept (counting_kept writer state.rtpState) call.packs _ state.rtpFrameTicks
    (some state.paramSets) state.rtpPayloadSize.toNat noStats hstart
  have hcount : t.rtp.seq - state.rtpState.seq = UInt16.ofNat (delivered t.out.2).length := by
    rw [ht.seq, UInt16.add_comm, UInt16.add_sub_cancel]
  have hsent : (sendFrameOutputRtp (logged writer) { state with frameCounter := state.frameCounter + 1 } (out, [])
      call.packs).tx.sender = { t with rtp := { t.rtp with timestamp := t.rtp.timestamp + state.rtpFrameTicks } } :=
    hframe
  rw [star6eVideoSendFrame, if_pos henabled]
  refine ⟨_, rfl, rfl, rfl, rfl, ?_, ?_, ?_⟩
  · dsimp only
    rw [UInt16.add_comm, UInt16.sub_add_cancel]
  · dsimp only
    rw [hsent, ht.stamp]
  · dsimp only
    rw [hsent]
    intro hfew
    refine ⟨?_, ht.stamps⟩
    rw [hcount, UInt16.toNat_ofNat_of_lt' hfew]
    exact ht.sequences

theorem run_tiles (writer : RtpPacketizerWriteFn σ) (calls : List VideoCall) (state : Star6eVideoState) (out : σ) :
    (videoRun writer calls state out).length = (calls.filter (·.outputEnabled)).length ∧
      Chained state.rtpFrameTicks state.rtpState.seq state.rtpState.timestamp
        ((videoRun writer calls state out).map (·.1)) ∧
      ∀ e ∈ videoRun writer calls state out, (delivered e.2).length < 65536 → Describes e.1 (delivered e.2) := by
  induction calls generalizing state out with
  | nil => exact ⟨rfl, trivial, nofun⟩
  | cons call calls ih =>
      cases henabled : call.outputEnabled with
      | false =>
          have hsilent : star6eVideoSendFrame (logged writer) state (out, []) call =
              ⟨0, { state with frameCounter := state.frameCounter + 1 }, (out, []), none, none⟩ :=
            if_neg (Bool.eq_false_iff.1 henabled)
          rw [videoRun, hsilent, List.filter_cons_of_neg (Bool.eq_false_iff.1 henabled)]
          exact ih { state with frameCounter := state.frameCounter + 1 } out
      | true =>
          obtain ⟨record, hrecord, hfirst, hts, hticks, hseq, hstamp, hdescribes⟩ :=
            sendFrame_tiles writer state out henabled
          obtain ⟨hlength, hchain, hrest⟩ := ih (star6eVideoSendFrame (logged writer) state (out, []) call).state
            (star6eVideoSendFrame (logged writer) state (out, []) call).out.1
          rw [videoRun, hrecord, List.filter_cons_of_pos henabled]
          rw [hticks, hseq, hstamp] at hchain
          refine ⟨congrArg Nat.succ hlength, ⟨hfirst, hts, hchain⟩, ?_⟩
          intro e hmem
          rcases List.mem_cons.1 hmem with rfl | hmem
          · exact hdescribes
          · exact hrest e hmem

/-- The records of a run tile its packets: every frame sent has one, each begins
where the one before it ends, and describes what the writer took meanwhile. -/
theorem sidecar_tiles (writer : RtpPacketizerWriteFn σ) (calls : List VideoCall) (state : Star6eVideoState) (out : σ)
    (hfew : ∀ e ∈ videoRun writer calls state out, (delivered e.2).length < 65536) :
    (videoRun writer calls state out).length = (calls.filter (·.outputEnabled)).length ∧
      Chained state.rtpFrameTicks state.rtpState.seq state.rtpState.timestamp
        ((videoRun writer calls state out).map (·.1)) ∧
      ∀ e ∈ videoRun writer calls state out, Describes e.1 (delivered e.2) := by
  obtain ⟨hlength, hchain, hdescribes⟩ := run_tiles writer calls state out
  exact ⟨hlength, hchain, fun e hmem => hdescribes e hmem (hfew e hmem)⟩

def failsSecond : RtpPacketizerWriteFn Nat := fun n _ => (decide (n ≠ 1), n + 1)

def cornered : Star6eVideoState :=
  ⟨⟨65535, 0xFFFFFFFF, 7, 97⟩, 3000, ⟨[], [], []⟩, 5, 0, noStats, ⟨-1, 0, 0⟩⟩

def plainCall (nal : List UInt8) : VideoCall :=
  ⟨[⟨some ([0, 0, 0, 1] ++ nal), 0, 0, Vector.replicate 8 ⟨0, 0, 0⟩⟩], 40, true, false, none, 50, 60, 0⟩

/-- Two frames over a writer that fails between two fragments. -/
theorem sidecar_tiles_failing :
    let run := videoRun failsSecond [plainCall [2, 1, 10, 11, 12, 13, 14, 15], plainCall [2, 1, 9]] cornered 0
    run.map (fun e => (e.1.seqFirst, e.1.seqCount)) = [(65535, 1), (0, 1)] ∧
      ∀ e ∈ run, Describes e.1 (delivered e.2) := by
  intro run
  have h := sidecar_tiles failsSecond [plainCall [2, 1, 10, 11, 12, 13, 14, 15], plainCall [2, 1, 9]] cornered 0
    (by decide +kernel)
  exact ⟨by decide +kernel, h.2.2⟩

end WaybeamVenc.SidecarTiling
